import AgentPulse.NativeHandshake

/-!
# Requests of a native client and their answers

The worker reads a message, serves it to its end and only then looks at the socket
again. Between the sections of one request the other threads go on: they publish
events, and they may fill the queue and so end the connection.
-/
namespace AgentPulse

open Std (ExtTreeMap ExtTreeSet)

def NativeClientMessage.requestId? : NativeClientMessage → Option String
  | .hello _ _ _ _ _ _ => none
  | .discover requestId => some requestId
  | .subscribe requestId _ => some requestId
  | .unsubscribe requestId _ => some requestId
  | .submitInteractionResponse requestId _ => some requestId
  | .submitCommand requestId _ => some requestId

/-- The frames that tell a client what became of its request. -/
def NativeServerMessage.isAnswer : NativeServerMessage → Bool
  | .hello _ _ _ _ _ _ _ _ => false
  | .domain _ _ => false
  | .syncCompleted _ => false
  | _ => true

/-- The answer is of the kind of the request, and about what it asks for; any request
can be refused under its identifier. -/
inductive Answers : NativeClientMessage → NativeServerMessage → Prop
  | discovered (requestId : String) (providerCount sessionCount : Nat) :
    Answers (.discover requestId) (.syncStarted requestId providerCount sessionCount)
  | subscribed (requestId : String) (sessionId : SessionId) (status : NativeSubscriptionStatus)
      (baseline : EventSequence) (interactions events : Nat) (reset : Bool) :
    Answers (.subscribe requestId sessionId)
      (.subscriptionResult requestId sessionId status baseline interactions events reset)
  | unsubscribed (requestId : String) (sessionId : SessionId) (status : NativeUnsubscriptionStatus) :
    Answers (.unsubscribe requestId sessionId) (.unsubscriptionResult requestId sessionId status)
  | responded (requestId : String) (response : InteractionResponse) :
    Answers (.submitInteractionResponse requestId response)
      (.interactionResponseResult requestId response.sessionId response.requestId.toString)
  | commanded (requestId : String) (command : AgentCommand) :
    Answers (.submitCommand requestId command)
      (.commandResult requestId command.sessionId command.id.toString)
  | refused (request : NativeClientMessage) (requestId : String) (code : NativeErrorCode)
      (text : String) : request.requestId? = some requestId →
    Answers request (.error (some requestId) code text true)

theorem Answers.isAnswer {request : NativeClientMessage} {message : NativeServerMessage}
    (h : Answers request message) : message.isAnswer = true := by
  cases h <;> rfl

def answersOf (frames : List Frame) : List Frame := frames.filter NativeServerMessage.isAnswer

@[simp] theorem answersOf_append (xs ys : List Frame) :
    answersOf (xs ++ ys) = answersOf xs ++ answersOf ys := List.filter_append ..

theorem answersOf_eq_nil {frames : List Frame} (h : ∀ frame ∈ frames, frame.isAnswer = false) :
    answersOf frames = [] := List.filter_eq_nil_iff.mpr fun frame hframe => by simp [h frame hframe]

theorem answersOf_answer {message : NativeServerMessage} (h : message.isAnswer = true) :
    answersOf [message] = [message] := List.filter_cons_of_pos h

/-- The texts of the errors that a client is told. -/
structure NativeCodec.Speaks (codec : NativeCodec) : Prop where
  subscriptionError : ∀ e, isBlank (codec.subscriptionError e) = false
  channelActionError : ∀ e, isBlank (codec.channelActionError e) = false

/-- The section works on this request. -/
def WorkerPc.Serves (codec : NativeCodec) (request : NativeClientMessage) : WorkerPc → Prop
  | .discover requestId => request = .discover requestId
  | .discoverSnapshot requestId => request = .discover requestId
  | .discoverBatch requestId _ => request = .discover requestId
  | .subscribe requestId sessionId => request = .subscribe requestId sessionId
  | .subscribeCursor requestId sessionId => request = .subscribe requestId sessionId
  | .subscribeSync requestId sessionId _ => request = .subscribe requestId sessionId
  | .subscribeFailed requestId sessionId _ => request = .subscribe requestId sessionId
  | .subscribeCommit requestId sessionId _ => request = .subscribe requestId sessionId
  | .unsubscribe requestId sessionId => request = .unsubscribe requestId sessionId
  | .unsubscribeRecord requestId sessionId _ => request = .unsubscribe requestId sessionId
  | .respond requestId response => request = .submitInteractionResponse requestId response
  | .submitResponse requestId response => request = .submitInteractionResponse requestId response
  | .command requestId order => request = .submitCommand requestId order
  | .submitCommand requestId order => request = .submitCommand requestId order
  | .reply message => Answers request message
  | .reject message =>
    Answers request message ∧ encodeServerMessage codec message = .ok message
  | _ => False

def WorkerPc.reads : WorkerPc → Bool
  | .reading => true
  | _ => false

theorem WorkerPc.eq_reading {pc : WorkerPc} (h : pc.reads = true) : pc = .reading := by
  cases pc <;> first | rfl | cases h

/-- The section works on no request. -/
def WorkerPc.Idle : WorkerPc → Prop
  | .accepting | .checking | .draining | .reading | .hello _ _ | .disconnect _ | .unsubscribing _ _
  | .stopped => True
  | .reply message => message.isAnswer = false
  | _ => False

/-- The sections of a subscribe request after its first. -/
def WorkerPc.synchronizes : WorkerPc → Bool
  | .subscribeCursor _ _ | .subscribeSync _ _ _ | .subscribeFailed _ _ _
  | .subscribeCommit _ _ _ => true
  | _ => false

/-- The connection is being dropped, or will be at the next check of the abort reason. -/
def WorkerPc.Drops (abortReason : Option String) : WorkerPc → Prop
  | .disconnect _ | .unsubscribing _ _ => True
  | .accepting | .checking => abortReason.isSome = true
  | _ => False

theorem WorkerPc.not_idle {pc : WorkerPc} (h : pc.early = false) : ¬pc.Idle := by
  cases pc <;> simp_all [WorkerPc.early, WorkerPc.Idle]

/-- A frame that is no answer answers no request. -/
theorem WorkerPc.Idle.not_serves {codec : NativeCodec} {pc : WorkerPc} (h : pc.Idle)
    (request : NativeClientMessage) : ¬pc.Serves codec request := by
  intro hserves
  cases pc with
  | reply message => exact absurd hserves.isAnswer (Bool.eq_false_iff.mp h)
  | _ => first | exact hserves.elim | exact h.elim

theorem WorkerPc.not_drops {pc : WorkerPc} (h : pc.early = false) {abortReason : Option String} :
    ¬pc.Drops abortReason := by
  cases pc <;> simp_all [WorkerPc.early, WorkerPc.Drops]

theorem WorkerPc.Drops.mono {pc : WorkerPc} {before after : Option String} (h : pc.Drops before)
    (habort : before.isSome = true → after.isSome = true) : pc.Drops after := by
  cases pc with
  | accepting => exact habort h
  | checking => exact habort h
  | disconnect last => trivial
  | unsubscribing remaining last => trivial
  | _ => exact h.elim

/-- The frames that are collected apart from the queue. -/
def DeliveryState.Plain (self : DeliveryState) : Prop :=
  ∀ pending, self.pending? = some pending →
    ∀ frame ∈ pending.frames ++ pending.trailingFrames, frame.isAnswer = false

namespace NativeSystem

variable {Other : Type}

/-- The worker has read the request and not answered it. -/
def InService (codec : NativeCodec) (self : NativeSystem Other) :
    Option NativeClientMessage → Prop
  | none => self.pc.Idle
  | some request =>
    validateClientMessage codec request = .ok () ∧
      (self.pc.Serves codec request ∨ self.pc.Drops self.delivery.abortReason)

end NativeSystem

/-- A run together with the messages that the worker has read since the hello. -/
structure Conversation (Other : Type) where
  system : NativeSystem Other
  heard : List NativeClientMessage

namespace Conversation

variable {Other : Type} (codec : NativeCodec) (config : NativeChannelConfig)
  (otherPorts : Ports Other)

/-- The message of a client that the step takes from the socket, after its hello. -/
def hearing (self : NativeSystem Other) (input : NativeInput) : Option NativeClientMessage :=
  match self.pc, self.connection, input with
  | .reading, some connection, .worker (.message message) =>
    if connection.handshaken && (validateClientMessage codec message).isOk then some message
    else none
  | _, _, _ => none

def step (self : Conversation Other) (input : NativeInput) :
    Conversation Other × NativeSystem.Answer :=
  let (system, answer) := NativeSystem.step codec config otherPorts self.system input
  (⟨system, if system.handshaken then self.heard ++ (hearing codec self.system input).toList else []⟩,
    answer)

def start (sessionConfig : SessionAggregateConfig) (others : Other) : Conversation Other :=
  ⟨NativeSystem.start config sessionConfig others, []⟩

def run (sessionConfig : SessionAggregateConfig) (others : Other) (inputs : List NativeInput) :
    Conversation Other :=
  Trace.final (step codec config otherPorts) (start config sessionConfig others) inputs

/-- Listening changes nothing. -/
theorem run_system (sessionConfig : SessionAggregateConfig) (others : Other)
    (inputs : List NativeInput) :
    (run codec config otherPorts sessionConfig others inputs).system =
      NativeSystem.run codec config otherPorts sessionConfig others inputs := by
  have hfinal : ∀ (inputs : List NativeInput) (self : Conversation Other),
      (Trace.final (step codec config otherPorts) self inputs).system =
        Trace.final (NativeSystem.step codec config otherPorts) self.system inputs := by
    intro inputs
    induction inputs with
    | nil => exact fun self => rfl
    | cons input inputs ih => exact fun self => ih (step codec config otherPorts self input).1
  exact hfinal inputs _

end Conversation

/-- What a delivery leaves of the conversation. -/
structure Passive (before after : DeliveryState) : Prop where
  answers : answersOf after.outgoing = answersOf before.outgoing
  abort : before.abortReason.isSome = true → after.abortReason.isSome = true
  pending : after.pending?.isSome = before.pending?.isSome
  plain : before.Plain → after.Plain

namespace Passive

variable {before after : DeliveryState}

theorem refl (self : DeliveryState) : Passive self self := ⟨rfl, id, rfl, id⟩

theorem abortFull (self : DeliveryState) : Passive self self.abortFull := ⟨rfl, fun _ => rfl, rfl, id⟩

theorem append {frame : Frame} (h : frame.isAnswer = false) : Passive before (before.append [frame]) := by
  refine ⟨?_, id, rfl, id⟩
  show answersOf (before.outgoing ++ [frame]) = answersOf before.outgoing
  have hnone : answersOf [frame] = [] := answersOf_eq_nil (by simpa using h)
  rw [answersOf_append, hnone, List.append_nil]

/-- Frames are added to the synchronization in progress. -/
theorem setPending {pending pending' : PendingSubscription} (h : before.pending? = some pending)
    (hframes : ∀ frame ∈ pending'.frames ++ pending'.trailingFrames,
      frame ∈ pending.frames ++ pending.trailingFrames ∨ frame.isAnswer = false) :
    Passive before (before.setPending (some pending')) := by
  obtain ⟨client, hclient, -⟩ := DeliveryState.client_of_pending? h
  have hpending := DeliveryState.setPending_pending? hclient (some pending')
  refine ⟨rfl, id, by rw [hpending, h]; rfl, ?_⟩
  intro hplain found hfound frame hframe
  rw [hpending] at hfound
  cases hfound
  rcases hframes frame hframe with hold | hnew
  · exact hplain pending h frame hold
  · exact hnew

end Passive

section Deliveries

variable (codec : NativeCodec)

theorem passive_deliver (self : DeliveryState) (sessionId : SessionId) (message : ProtocolMessage)
    (eventRoute : Option ChannelEventRoute) :
    Passive self (NativeChannelPort.deliver codec self sessionId message eventRoute).1 := by
  rcases NativeChannelPort.deliver_cases codec self sessionId message eventRoute with
    ⟨e, he, -⟩ | ⟨e, he⟩ | ⟨client, context, hclient, -, -, he⟩
  · rw [he]
    exact .refl self
  · rw [he]
    exact .abortFull self
  · rw [he]
    unfold NativeChannelPort.push
    split
    · exact .append rfl
    · next pending hpending =>
      rw [hclient] at hpending
      have hfilter : client.pendingFor sessionId = some pending := hpending
      obtain ⟨hown, -⟩ := Option.filter_eq_some_iff.mp hfilter
      have hfound : self.pending? = some pending := by
        rw [DeliveryState.pending?, hclient]
        exact hown
      split
      · refine .setPending hfound ?_
        intro frame hframe
        simp only [List.mem_append, List.mem_singleton] at hframe ⊢
        rcases hframe with hframe | hframe | rfl
        · exact .inl (.inl hframe)
        · exact .inl (.inr hframe)
        · exact .inr rfl
      · refine .setPending hfound ?_
        intro frame hframe
        simp only [List.mem_append, List.mem_singleton] at hframe ⊢
        rcases hframe with (hframe | rfl) | hframe
        · exact .inl (.inl hframe)
        · exact .inr rfl
        · exact .inl (.inr hframe)

theorem syncFramesOf_plain (requestId : String) (sync : ChannelSessionSync) :
    ∀ frame ∈ NativeChannelPort.syncFramesOf requestId sync, frame.isAnswer = false := by
  intro frame hframe
  unfold NativeChannelPort.syncFramesOf at hframe
  rcases List.mem_append.mp hframe with hevent | hbaseline
  · obtain ⟨routed, -, rfl⟩ := List.mem_map.mp hevent
    rfl
  · split at hbaseline
    · next baseline =>
      rcases List.mem_cons.mp hbaseline with rfl | hinteraction
      · rfl
      · obtain ⟨interaction, -, rfl⟩ := List.mem_map.mp hinteraction
        rfl
    · cases hbaseline

theorem passive_deliverSessionSync (self : DeliveryState) (sync : ChannelSessionSync) :
    Passive self (NativeChannelPort.deliverSessionSync codec self sync).1 := by
  rcases NativeChannelPort.deliverSessionSync_cases codec self sync with ⟨e, he⟩ | ⟨e, he⟩ |
    ⟨pending, hpending, he⟩
  · rw [he]
    exact .refl self
  · rw [he]
    exact .abortFull self
  · rw [he]
    refine .setPending hpending ?_
    intro frame hframe
    simp only [PendingSubscription.withSync, List.mem_append] at hframe ⊢
    rcases hframe with (hframe | hframe) | hframe
    · exact .inl (.inl hframe)
    · exact .inr (syncFramesOf_plain _ _ frame hframe)
    · exact .inl (.inr hframe)

end Deliveries

namespace NativeSystem

variable {Other : Type} (codec : NativeCodec) (config : NativeChannelConfig)
  (otherPorts : Ports Other)

theorem passive_ports (world : NativeWorld Other) {call : PortCall}
    (hcall : (∃ channelId event route, call = .deliverEvent channelId event route) ∨
      (∃ channelId session, call = .deliverSession channelId session) ∨
      ∃ channelId sync, call = .deliverSessionSync channelId sync) :
    Passive world.delivery
      (nativePorts codec config.channelId otherPorts world call).1.delivery := by
  by_cases hnative : call.channelId? = some config.channelId
  · rw [nativePorts_native codec otherPorts world hnative]
    rcases hcall with ⟨channelId, event, route, rfl⟩ | ⟨channelId, session, rfl⟩ |
      ⟨channelId, sync, rfl⟩
    · exact passive_deliver codec world.delivery _ _ _
    · exact passive_deliver codec world.delivery _ _ _
    · exact passive_deliverSessionSync codec world.delivery sync
  · rw [nativePorts_delivery codec config.channelId otherPorts world hnative]
    exact .refl _

theorem passive_other (self : NativeSystem Other) {input : NativeInput}
    (hinput : ∀ i, input ≠ .worker i) :
    Passive self.delivery (step codec config otherPorts self input).1.delivery := by
  cases input with
  | worker i => exact absurd rfl (hinput i)
  | publish providerId event =>
    simp only [step]
    split
    · exact .refl _
    · unfold publish
      rcases Bridge.beginProviderEvent_cases self.bridge providerId event with ⟨e, he, -⟩ |
        ⟨old, -, -, he⟩ | ⟨provider, session, routes, aggregate, -, he⟩
      · rw [he]
        exact .refl _
      · rw [he]
        exact .refl _
      · rw [he]
        exact .refl _
  | deliver =>
    simp only [step]
    split
    · exact .refl _
    · unfold deliverNext
      split
      · exact .refl _
      · split
        · exact .refl _
        · exact passive_ports codec config otherPorts self.bridge.world (.inl ⟨_, _, _, rfl⟩)
      · exact passive_ports codec config otherPorts self.bridge.world (.inr (.inl ⟨_, _, rfl⟩))
  | foreign op =>
    simp only [step]
    split
    · exact .refl _
    · next hop =>
      have hforeign : op.isForeign config.channelId = true := by
        simp only [Bool.or_eq_true, Bool.not_eq_true'] at hop
        by_contra hno
        exact hop (.inr (by simpa using hno))
      have huntouched := untouched_foreign codec config.channelId otherPorts self.bridge hforeign
      show Passive self.bridge.world.delivery _
      rw [← huntouched.delivery]
      exact .refl _

/-- A section has set the delivery state and the next section. -/
structure Leaves (before after : NativeSystem Other) (delivery : DeliveryState) (pc : WorkerPc) :
    Prop where
  delivery : after.delivery = delivery
  pc : after.pc = pc
  drained : after.drained = before.drained
  handshaken : after.handshaken = false → before.handshaken = false

theorem leaves_of {self next : NativeSystem Other} {delivery : DeliveryState} {pc : WorkerPc}
    (hdelivery : next.delivery = delivery) (hpc : next.pc = pc)
    (hconnection : next.connection = self.connection) : Leaves self next delivery pc := by
  refine ⟨hdelivery, hpc, ?_, ?_⟩
  · unfold NativeSystem.drained
    rw [hconnection]
  · unfold handshaken
    rw [hconnection]
    exact id

/-- A served message that was answered. -/
theorem leaves_settle {self before : NativeSystem Other} (h : before.connection = self.connection) :
    Leaves self (before.settle (.ok ())) before.delivery .accepting := by
  refine ⟨rfl, rfl, ?_, ?_⟩
  · unfold NativeSystem.drained settle
    rw [h]
    cases self.connection <;> rfl
  · unfold handshaken settle
    rw [h]
    cases self.connection with
    | none => exact id
    | some connection => exact fun hf => by cases hf

/-- What a step does to the conversation. -/
inductive Exchange (self next : NativeSystem Other) (current heard : Option NativeClientMessage) :
    Prop
  | kept : heard = none → (next.handshaken = false → self.handshaken = false) →
      answersOf next.log = answersOf self.log → InService codec next current →
      Exchange self next current heard
  | asked (request : NativeClientMessage) : heard = some request → current = none →
      next.handshaken = true → answersOf next.log = answersOf self.log →
      InService codec next (some request) → Exchange self next current heard
  | answered (request : NativeClientMessage) (message : NativeServerMessage) : heard = none →
      current = some request → (next.handshaken = false → self.handshaken = false) →
      answersOf next.log = answersOf self.log ++ [message] → Answers request message →
      next.pc.Idle → Exchange self next current heard
  | closed : heard = none → next.handshaken = false → answersOf next.log = [] → next.pc.Idle →
      Exchange self next current heard

/-- The frames that wait for the end of a synchronization, and that there is one. -/
structure Collects (system : NativeSystem Other) : Prop where
  plain : system.delivery.Plain
  pending : system.pc.synchronizes = true → system.delivery.pending?.isSome = true

section

variable {self next : NativeSystem Other} {delivery : DeliveryState} {pc : WorkerPc}
  {current : Option NativeClientMessage}

theorem answersOf_log (h : Leaves self next delivery pc) :
    answersOf next.log = answersOf self.drained ++ answersOf delivery.outgoing := by
  unfold log
  rw [answersOf_append, h.drained, h.delivery]

theorem answersOf_same (h : Leaves self next delivery pc)
    (hanswers : answersOf delivery.outgoing = answersOf self.delivery.outgoing) :
    answersOf next.log = answersOf self.log := by
  rw [answersOf_log h, hanswers, log, answersOf_append]

theorem exchange_kept (h : Leaves self next delivery pc)
    (hanswers : answersOf delivery.outgoing = answersOf self.delivery.outgoing)
    (hservice : InService codec next current) : Exchange codec self next current none :=
  .kept rfl h.handshaken (answersOf_same h hanswers) hservice

theorem exchange_serves (h : Leaves self next delivery pc)
    (hanswers : answersOf delivery.outgoing = answersOf self.delivery.outgoing)
    {request : NativeClientMessage} (hvalid : validateClientMessage codec request = .ok ())
    (hserves : pc.Serves codec request ∨ pc.Drops delivery.abortReason) :
    Exchange codec self next (some request) none := by
  refine exchange_kept codec h hanswers ⟨hvalid, ?_⟩
  rw [h.pc, h.delivery]
  exact hserves

theorem exchange_answered (h : Leaves self next delivery .accepting)
    {request : NativeClientMessage} {message : NativeServerMessage}
    (hanswers : answersOf delivery.outgoing = answersOf self.delivery.outgoing ++ [message])
    (hmessage : Answers request message) : Exchange codec self next (some request) none := by
  refine .answered request message rfl rfl h.handshaken ?_ hmessage ?_
  · rw [answersOf_log h, hanswers, log, answersOf_append, List.append_assoc]
  · rw [h.pc]
    trivial

theorem collects_of (h : Leaves self next delivery pc) (hplain : delivery.Plain)
    (hpending : pc.synchronizes = true → delivery.pending?.isSome = true) : Collects next := by
  refine ⟨by rw [h.delivery]; exact hplain, ?_⟩
  rw [h.pc, h.delivery]
  exact hpending

theorem plain_congr {before after : DeliveryState} (h : before.Plain)
    (hpending : after.pending? = before.pending?) : after.Plain := by
  intro pending hfound
  rw [hpending] at hfound
  exact h pending hfound

theorem plain_none {self : DeliveryState} (h : self.pending? = none) : self.Plain := by
  intro pending hfound
  rw [h] at hfound
  cases hfound

/-- A section that is reached only after the hello works on a request. -/
theorem serving (h : InService codec self current) (hlate : self.pc.early = false) :
    ∃ request, current = some request ∧ validateClientMessage codec request = .ok () ∧
      self.pc.Serves codec request := by
  cases current with
  | none =>
    exact absurd h (WorkerPc.not_idle hlate)
  | some request =>
    obtain ⟨hvalid, hserves | hdrops⟩ := h
    · exact ⟨request, rfl, hvalid, hserves⟩
    · exact absurd hdrops (WorkerPc.not_drops hlate)

end

theorem uuid_of_valid {request : NativeClientMessage} {requestId : String}
    (h : validateClientMessage codec request = .ok ()) (hid : request.requestId? = some requestId) :
    validateUuidV7 codec "request_id" requestId = .ok () := by
  cases request <;> cases hid <;> exact h

theorem encode_refusal {requestId : String}
    (h : validateUuidV7 codec "request_id" requestId = .ok ()) (code : NativeErrorCode)
    {text : String} (htext : isBlank text = false) :
    encodeServerMessage codec (.error (some requestId) code text true) =
      .ok (.error (some requestId) code text true) := by
  simp [encodeServerMessage, validateServerMessage, encodeNested, validateNonblank, h, htext, bind,
    Except.bind]

/-- A request is refused. -/
theorem exchange_refused {self before : NativeSystem Other}
    (hconnection : before.connection = self.connection)
    (hanswers : answersOf before.delivery.outgoing = answersOf self.delivery.outgoing)
    {request : NativeClientMessage} {requestId : String}
    (hvalid : validateClientMessage codec request = .ok ())
    (hid : request.requestId? = some requestId) (code : NativeErrorCode) {text : String}
    (htext : isBlank text = false) :
    Exchange codec self (before.settle (.error (.recoverable
      (protocolError (some requestId) code text true)))) (some request) none := by
  have hleaves : Leaves self (before.settle (.error (.recoverable
      (protocolError (some requestId) code text true)))) before.delivery
      (.reject (.error (some requestId) code text true)) := leaves_of rfl rfl hconnection
  exact exchange_serves codec hleaves hanswers hvalid (.inl
    ⟨.refused request requestId code text hid,
      encode_refusal codec (uuid_of_valid codec hvalid hid) code htext⟩)

/-- A request that ends the connection. -/
theorem exchange_fatal {self before : NativeSystem Other}
    (hconnection : before.connection = self.connection)
    (hanswers : answersOf before.delivery.outgoing = answersOf self.delivery.outgoing)
    {request : NativeClientMessage} (hvalid : validateClientMessage codec request = .ok ())
    (e : NativeProtocolError) :
    Exchange codec self (before.settle (.error (.fatal e))) (some request) none := by
  have hleaves : Leaves self (before.settle (.error (.fatal e))) before.delivery
      (.disconnect false) := leaves_of rfl rfl hconnection
  exact exchange_serves codec hleaves hanswers hvalid (.inr trivial)

end NativeSystem

end AgentPulse

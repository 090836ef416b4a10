import AgentPulse.NativeReply

/-!
# Every request of a native client is answered

Section by section: the request in service goes on to another section, is answered or
refused, or goes down with its connection. The run then keeps the answers in the order
of the requests.
-/
namespace AgentPulse

open Std (ExtTreeMap ExtTreeSet)

namespace NativeSystem

variable {Other : Type} (codec : NativeCodec) (config : NativeChannelConfig)
  (otherPorts : Ports Other)

section

variable {self : NativeSystem Other} {current : Option NativeClientMessage}

/-- A section without a request is left for another one. -/
theorem inService_turn (h : InService codec self current) (hfrom : self.pc.Idle)
    {next : NativeSystem Other} (hidle : next.pc.Idle)
    (hdrops : self.pc.Drops self.delivery.abortReason → next.pc.Drops next.delivery.abortReason) :
    InService codec next current := by
  cases current with
  | none => exact hidle
  | some request =>
    obtain ⟨hvalid, hserves | hdropping⟩ := h
    · exact absurd hserves (hfrom.not_serves request)
    · exact ⟨hvalid, .inr (hdrops hdropping)⟩

theorem turn_exchange (c : Collects self) {pc : WorkerPc} (hsync : pc.synchronizes = false)
    (hservice : InService codec { self with pc := pc } current) :
    Exchange codec self { self with pc := pc } current none ∧ Collects { self with pc := pc } := by
  have hleaves : Leaves self { self with pc := pc } self.delivery pc := leaves_of rfl rfl rfl
  refine ⟨exchange_kept codec hleaves rfl hservice, collects_of hleaves c.plain ?_⟩
  rw [hsync]
  exact fun he => by cases he

theorem stay_exchange (c : Collects self) (h : InService codec self current) :
    Exchange codec self self current none ∧ Collects self :=
  ⟨.kept rfl id rfl h, c⟩

theorem accepting_exchange (c : Collects self) (h : InService codec self current)
    (hpc : self.pc = .accepting) (input : WorkerInput) :
    Exchange codec self (self.pollListener input) current none ∧
      Collects (self.pollListener input) := by
  have hfrom : self.pc.Idle := by rw [hpc]; trivial
  have hturn : ∀ pc : WorkerPc, pc.synchronizes = false → pc.Idle →
      (self.pc.Drops self.delivery.abortReason → pc.Drops self.delivery.abortReason) →
      Exchange codec self { self with pc := pc } current none ∧
        Collects { self with pc := pc } :=
    fun pc hsync hidle hdrops => turn_exchange codec c hsync
      (inService_turn codec h hfrom hidle hdrops)
  have hchecking := hturn .checking rfl trivial (by rw [hpc]; exact id)
  unfold pollListener
  split
  · exact hturn (.disconnect true) rfl trivial fun _ => trivial
  · split
    · exact hchecking
    · next connectionId authenticatedClientId hnone =>
      have hconnection : self.connection = none := by simpa using hnone
      refine ⟨.kept rfl ?_ ?_ (inService_turn codec h hfrom trivial (by rw [hpc]; exact id)), c.plain, ?_⟩
      · intro _
        simp [handshaken, hconnection]
      · simp [log, NativeSystem.drained, hconnection, delivery]
      · exact fun he => by cases he
  · split
    · exact hchecking
    · exact stay_exchange codec c h

theorem checking_exchange (c : Collects self) (h : InService codec self current)
    (hpc : self.pc = .checking) (input : WorkerInput) :
    Exchange codec self (self.localStep codec config input) current none ∧
      Collects (self.localStep codec config input) := by
  have hfrom : self.pc.Idle := by rw [hpc]; trivial
  have hdisconnect : Exchange codec self { self with pc := .disconnect false } current none ∧
      Collects { self with pc := .disconnect false } :=
    turn_exchange codec c rfl (inService_turn codec h hfrom trivial fun _ => trivial)
  simp only [localStep, hpc]
  split
  · exact hdisconnect
  · split
    · exact hdisconnect
    · next hnone =>
      refine turn_exchange codec c rfl (inService_turn codec h hfrom trivial ?_)
      rw [hpc]
      exact fun hsome => absurd hsome hnone

theorem draining_exchange (c : Collects self) (h : InService codec self current)
    (hpc : self.pc = .draining) (input : WorkerInput) :
    Exchange codec self (self.localStep codec config input) current none ∧
      Collects (self.localStep codec config input) := by
  have hfrom : self.pc.Idle := by rw [hpc]; trivial
  have hstays : ∀ {next : NativeSystem Other}, next.pc.Idle → InService codec next current :=
    fun hidle => inService_turn codec h hfrom hidle (by rw [hpc]; exact False.elim)
  simp only [localStep, hpc]
  split
  · exact turn_exchange codec c rfl (hstays trivial)
  · next connection hconnection =>
    unfold drainOne
    split
    · exact turn_exchange codec c rfl (hstays trivial)
    · next frame rest houtgoing =>
      refine ⟨.kept rfl ?_ ?_ (hstays (by cases input <;> trivial)), c.plain, ?_⟩
      · simp [handshaken, hconnection]
      · show answersOf ((connection.drained ++ [frame]) ++ rest) = answersOf self.log
        simp [log, NativeSystem.drained, hconnection, houtgoing]
      · intro hsync
        cases input <;> cases hsync

theorem hello_exchange (hgreeting : Greeting self) (h : InService codec self current)
    (c : Collects self) {sessionCursors : ExtTreeMap SessionId Nat} {resumeAccepted : Bool}
    (hpc : self.pc = .hello sessionCursors resumeAccepted) (input : WorkerInput) :
    Exchange codec self (self.localStep codec config input) current none ∧
      Collects (self.localStep codec config input) := by
  have hfrom : self.pc.Idle := by rw [hpc]; trivial
  have hfalse := hgreeting.hello sessionCursors resumeAccepted hpc
  simp only [localStep, hpc]
  split
  · exact turn_exchange codec c rfl (inService_turn codec h hfrom trivial (by rw [hpc]; exact False.elim))
  · next connection hconnection =>
    refine ⟨.closed rfl ?_ rfl rfl, ?_, fun he => by cases he⟩
    · simpa [handshaken, hconnection] using hfalse
    · exact plain_none rfl

theorem leaving_exchange (c : Collects self) (h : InService codec self current) {last : Bool}
    (hpc : self.pc = .disconnect last) (input : WorkerInput) :
    Exchange codec self (self.localStep codec config input) current none ∧
      Collects (self.localStep codec config input) := by
  have hfrom : self.pc.Idle := by rw [hpc]; trivial
  simp only [localStep, hpc]
  exact turn_exchange codec c rfl (inService_turn codec h hfrom trivial fun _ => trivial)

theorem cleared_exchange {last : Bool} (hpc : self.pc = .unsubscribing [] last)
    (input : WorkerInput) :
    Exchange codec self (self.localStep codec config input) current none ∧
      Collects (self.localStep codec config input) := by
  simp only [localStep, hpc]
  refine ⟨.closed rfl rfl rfl ?_, plain_none rfl, ?_⟩
  · cases last <;> trivial
  · cases last <;> exact fun he => by cases he

theorem readSocket_exchange (c : Collects self) (h : InService codec self current)
    (hpc : self.pc = .reading) {connection : Connection}
    (hconnection : self.connection = some connection) (input : WorkerInput) :
    Exchange codec self (self.readSocket codec config connection input) current
        (Conversation.hearing codec self (.worker input)) ∧
      Collects (self.readSocket codec config connection input) := by
  have hnone : current = none := by
    cases current with
    | none => rfl
    | some request =>
      obtain ⟨-, hserves | hdrops⟩ := h
      · rw [hpc] at hserves
        exact hserves.elim
      · rw [hpc] at hdrops
        exact hdrops.elim
  subst hnone
  have hturn : ∀ pc : WorkerPc, pc.synchronizes = false → pc.Idle →
      Exchange codec self { self with pc := pc } none none ∧ Collects { self with pc := pc } :=
    fun pc hsync hidle => turn_exchange codec c hsync hidle
  have hsilent : ∀ i, (∀ message, i ≠ .message message) →
      Conversation.hearing codec self (.worker i) = none := by
    intro i hother
    unfold Conversation.hearing
    split
    · next message _ _ hmessage => exact absurd (NativeInput.worker.inj hmessage) (hother message)
    · rfl
  cases input with
  | message message =>
    have hheard : Conversation.hearing codec self (.worker (.message message)) =
        if connection.handshaken && (validateClientMessage codec message).isOk then some message
        else none := by
      unfold Conversation.hearing
      rw [hpc, hconnection]
    rw [hheard]
    simp only [readSocket]
    cases hvalid : validateClientMessage codec message with
    | error e =>
      simp only [Except.isOk, Except.toBool, Bool.and_false, Bool.false_eq_true, if_false]
      exact hturn (.disconnect false) rfl trivial
    | ok u =>
      by_cases hready : connection.handshaken = true
      · simp only [hready, Except.isOk, Except.toBool, Bool.and_self, if_true]
        have hserved : ∀ pc : WorkerPc, pc.synchronizes = false →
            (pc.Serves codec message ∨ pc.Drops self.delivery.abortReason) →
            Exchange codec self { self with pc := pc } none (some message) ∧
              Collects { self with pc := pc } := by
          intro pc hsync hserves
          refine ⟨.asked message rfl rfl ?_ rfl ⟨hvalid, hserves⟩, c.plain, ?_⟩
          · simp [handshaken, hconnection, hready]
          · rw [hsync]
            exact fun he => by cases he
        cases message with
        | hello => exact hserved (.disconnect false) rfl (.inr trivial)
        | discover requestId => exact hserved (.discover requestId) rfl (.inl rfl)
        | subscribe requestId sessionId =>
          exact hserved (.subscribe requestId sessionId) rfl (.inl rfl)
        | unsubscribe requestId sessionId =>
          exact hserved (.unsubscribe requestId sessionId) rfl (.inl rfl)
        | submitInteractionResponse requestId response =>
          exact hserved (.respond requestId response) rfl (.inl rfl)
        | submitCommand requestId command =>
          exact hserved (.command requestId command) rfl (.inl rfl)
      · simp only [hready, Bool.false_and, Bool.false_eq_true, if_false]
        cases message with
        | hello clientId displayName version versions hostRunId sessionCursors =>
          simp only [processHello]
          split
          · exact hturn (.disconnect false) rfl trivial
          · split
            · exact hturn (.disconnect false) rfl trivial
            · exact hturn (.hello _ _) rfl trivial
        | _ => exact hturn (.disconnect false) rfl trivial
  | fail =>
    rw [hsilent .fail (by simp)]
    exact hturn (.disconnect false) rfl trivial
  | malformed =>
    rw [hsilent .malformed (by simp)]
    exact hturn (.disconnect false) rfl trivial
  | proceed =>
    rw [hsilent .proceed (by simp)]
    exact hturn .accepting rfl trivial
  | accept connectionId authenticatedClientId =>
    rw [hsilent (.accept connectionId authenticatedClientId) (by simp)]
    exact hturn .accepting rfl trivial

theorem hearing_none {input : NativeInput} (hpc : self.pc ≠ .reading) :
    Conversation.hearing codec self input = none := by
  unfold Conversation.hearing
  split
  · next hreading _ => exact absurd hreading hpc
  · rfl

theorem reading_exchange (c : Collects self) (h : InService codec self current)
    (hpc : self.pc = .reading) (input : WorkerInput) :
    Exchange codec self (self.localStep codec config input) current
        (Conversation.hearing codec self (.worker input)) ∧
      Collects (self.localStep codec config input) := by
  have hfrom : self.pc.Idle := by rw [hpc]; trivial
  simp only [localStep, hpc]
  split
  · next hnone =>
    have hsilent : Conversation.hearing codec self (.worker input) = none := by
      simp [Conversation.hearing, hpc, hnone]
    rw [hsilent]
    exact turn_exchange codec c rfl
      (inService_turn codec h hfrom trivial (by rw [hpc]; exact False.elim))
  · next connection hconnection =>
    exact readSocket_exchange codec config c h hpc hconnection input

theorem discoveryFrames_answers {requestId : String} {snapshot : ChannelDiscoverySnapshot}
    {frames : List Frame}
    (h : DeliveryState.discoveryFrames codec requestId snapshot = .ok frames) :
    answersOf frames =
      [.syncStarted requestId snapshot.providers.length snapshot.sessions.length] := by
  obtain ⟨started, hstarted, h⟩ := Fallible.bind_eq_ok.mp h
  obtain ⟨providers, hproviders, h⟩ := Fallible.bind_eq_ok.mp h
  obtain ⟨sessions, hsessions, h⟩ := Fallible.bind_eq_ok.mp h
  obtain ⟨completed, hcompleted, h⟩ := Fallible.bind_eq_ok.mp h
  cases h
  have hproviders' : ∀ frame ∈ providers, frame.isAnswer = false := by
    rw [Fallible.mapM_eq_map (fun _ _ hframe => encodeServerMessage_eq codec hframe) hproviders]
    intro frame hframe
    obtain ⟨provider, -, rfl⟩ := List.mem_map.mp hframe
    rfl
  have hsessions' : ∀ frame ∈ sessions, frame.isAnswer = false := by
    rw [Fallible.mapM_eq_map (fun _ _ hframe => encodeServerMessage_eq codec hframe) hsessions]
    intro frame hframe
    obtain ⟨entry, -, rfl⟩ := List.mem_map.mp hframe
    rfl
  rw [encodeServerMessage_eq codec hstarted, encodeServerMessage_eq codec hcompleted,
    answersOf_append, List.cons_append, answersOf, List.filter_cons_of_pos rfl]
  show _ :: answersOf (providers ++ sessions) ++ [] = _
  rw [answersOf_append, answersOf_eq_nil hproviders', answersOf_eq_nil hsessions']
  rfl

/-- The batch that ends a synchronization holds one answer. -/
theorem commitBatch_answers {requestId : String} {sessionId : SessionId}
    {outcome : SessionSyncOutcome} {baseline : EventSequence} {pending : PendingSubscription}
    (h : ∀ frame ∈ pending.frames ++ pending.trailingFrames, frame.isAnswer = false) :
    answersOf (DeliveryState.commitBatch requestId sessionId outcome baseline pending) =
      [.subscriptionResult requestId sessionId
        (if outcome.subscribed then .subscribed else .catchingUp) baseline
        outcome.pendingInteractionCount outcome.eventCount outcome.reset] := by
  have hframes := answersOf_eq_nil fun frame hframe =>
    h frame (List.mem_append_left pending.trailingFrames hframe)
  have htrailing := answersOf_eq_nil fun frame hframe =>
    h frame (List.mem_append_right pending.frames hframe)
  unfold DeliveryState.commitBatch
  rw [List.cons_append, answersOf, List.filter_cons_of_pos rfl]
  show _ :: answersOf (pending.frames ++ .syncCompleted requestId :: pending.trailingFrames) = _
  rw [answersOf_append, hframes]
  show _ :: answersOf pending.trailingFrames = _
  rw [htrailing]

/-- The request goes on in another section. -/
theorem serves_exchange (c : Collects self) {request : NativeClientMessage}
    (hvalid : validateClientMessage codec request = .ok ()) {pc : WorkerPc}
    (hserves : pc.Serves codec request)
    (hsync : pc.synchronizes = true → self.delivery.pending?.isSome = true) :
    Exchange codec self { self with pc := pc } (some request) none ∧
      Collects { self with pc := pc } := by
  have hleaves : Leaves self { self with pc := pc } self.delivery pc := leaves_of rfl rfl rfl
  exact ⟨exchange_serves codec hleaves rfl hvalid (.inl hserves),
    collects_of hleaves c.plain hsync⟩

/-- A refusal leaves the frames of a synchronization as they are, or drops them. -/
theorem refused_exchange (self before : NativeSystem Other)
    (hconnection : before.connection = self.connection)
    (hanswers : answersOf before.delivery.outgoing = answersOf self.delivery.outgoing)
    (hplain : before.delivery.Plain) {request : NativeClientMessage} {requestId : String}
    (hvalid : validateClientMessage codec request = .ok ())
    (hid : request.requestId? = some requestId) (code : NativeErrorCode) {text : String}
    (htext : isBlank text = false) :
    Exchange codec self (before.settle (.error (.recoverable
        (protocolError (some requestId) code text true)))) (some request) none ∧
      Collects (before.settle (.error (.recoverable
        (protocolError (some requestId) code text true)))) :=
  ⟨exchange_refused codec hconnection hanswers hvalid hid code htext, hplain, fun he => by cases he⟩

theorem fatal_exchange (self before : NativeSystem Other)
    (hconnection : before.connection = self.connection)
    (hanswers : answersOf before.delivery.outgoing = answersOf self.delivery.outgoing)
    (hplain : before.delivery.Plain) {request : NativeClientMessage}
    (hvalid : validateClientMessage codec request = .ok ()) (e : NativeProtocolError) :
    Exchange codec self (before.settle (.error (.fatal e))) (some request) none ∧
      Collects (before.settle (.error (.fatal e))) :=
  ⟨exchange_fatal codec hconnection hanswers hvalid e, hplain, fun he => by cases he⟩

/-- The answer goes to the end of the queue. -/
theorem answered_exchange (self before : NativeSystem Other)
    (hconnection : before.connection = self.connection) {request : NativeClientMessage}
    {message : NativeServerMessage}
    (hanswers : answersOf before.delivery.outgoing =
      answersOf self.delivery.outgoing ++ [message])
    (hplain : before.delivery.Plain) (hmessage : Answers request message) :
    Exchange codec self (before.settle (.ok ())) (some request) none ∧
      Collects (before.settle (.ok ())) :=
  ⟨exchange_answered codec (leaves_settle hconnection) hanswers hmessage, hplain,
    fun he => by cases he⟩

theorem discover_exchange (c : Collects self) (h : InService codec self current)
    {requestId : String} (hpc : self.pc = .discover requestId) (input : WorkerInput) :
    Exchange codec self (self.localStep codec config input) current none ∧
      Collects (self.localStep codec config input) := by
  obtain ⟨request, rfl, hvalid, hserves⟩ := serving codec h (by rw [hpc]; rfl)
  rw [hpc] at hserves
  obtain rfl : request = .discover requestId := hserves
  simp only [localStep, hpc]
  unfold DeliveryState.checkDiscover
  cases self.delivery.client with
  | none => exact refused_exchange codec self self rfl rfl c.plain hvalid rfl _ (isBlank_cons (by decide))
  | some client =>
    by_cases hpending : client.pending.isSome = true
    · simp only [hpending, if_true]
      exact refused_exchange codec self self rfl rfl c.plain hvalid rfl _ (isBlank_cons (by decide))
    · simp only [hpending]
      exact serves_exchange codec c hvalid rfl fun he => by cases he

theorem discoverBatch_exchange (c : Collects self) (h : InService codec self current)
    {requestId : String} {snapshot : ChannelDiscoverySnapshot}
    (hpc : self.pc = .discoverBatch requestId snapshot) (input : WorkerInput) :
    Exchange codec self (self.localStep codec config input) current none ∧
      Collects (self.localStep codec config input) := by
  obtain ⟨request, rfl, hvalid, hserves⟩ := serving codec h (by rw [hpc]; rfl)
  rw [hpc] at hserves
  obtain rfl : request = .discover requestId := hserves
  simp only [localStep, hpc]
  unfold DeliveryState.commitDiscover
  cases hframes : DeliveryState.discoveryFrames codec requestId snapshot with
  | error e => exact fatal_exchange codec self self rfl rfl c.plain hvalid e
  | ok frames =>
    by_cases hfull : self.delivery.capacity < self.delivery.queuedLen + frames.length
    · simp only [DeliveryState.enqueueBatch, if_pos hfull]
      exact fatal_exchange codec self (self.setDelivery self.delivery.abortFull) rfl rfl c.plain hvalid _
    · simp only [DeliveryState.enqueueBatch, if_neg hfull]
      refine answered_exchange codec self (self.setDelivery ((self.delivery.append frames).updateClient
        fun client => { client with
          discovered := ExtTreeSet.ofList (snapshot.sessions.map fun entry => entry.session.id) }))
        rfl ?_ ?_ (.discovered requestId snapshot.providers.length snapshot.sessions.length)
      · show answersOf (self.delivery.outgoing ++ frames) = _
        rw [answersOf_append, discoveryFrames_answers codec hframes]
      · exact plain_congr c.plain (DeliveryState.updateDiscovered_pending? _ _)

theorem subscribe_exchange (c : Collects self) (h : InService codec self current)
    {requestId : String} {sessionId : SessionId} (hpc : self.pc = .subscribe requestId sessionId)
    (input : WorkerInput) :
    Exchange codec self (self.localStep codec config input) current none ∧
      Collects (self.localStep codec config input) := by
  obtain ⟨request, rfl, hvalid, hserves⟩ := serving codec h (by rw [hpc]; rfl)
  rw [hpc] at hserves
  obtain rfl : request = .subscribe requestId sessionId := hserves
  simp only [localStep, hpc]
  unfold DeliveryState.beginSubscribe
  cases hclient : self.delivery.client with
  | none => exact refused_exchange codec self self rfl rfl c.plain hvalid rfl _ (isBlank_cons (by decide))
  | some client =>
    dsimp only
    by_cases hdiscovered : client.discovered.contains sessionId = true
    · cases hpending : client.pending with
      | some pending =>
        simp only [hdiscovered, Bool.not_true, Bool.false_eq_true, if_false, Option.isSome_some,
          if_true]
        exact refused_exchange codec self self rfl rfl c.plain hvalid rfl _ (isBlank_cons (by decide))
      | none =>
        simp only [hdiscovered, Bool.not_true, Bool.false_eq_true, if_false, Option.isSome_none]
        by_cases hsub : client.subscriptions.contains sessionId = true
        · simp only [hsub, if_true]
          cases hcursor : client.sessionCursors[sessionId]?.bind eventSequence? with
          | none => exact refused_exchange codec self self rfl rfl c.plain hvalid rfl _ (isBlank_cons (by decide))
          | some baseline =>
            dsimp only
            rw [DeliveryState.encodeServerMessage_subscriptionResult codec sessionId _ _ _ _ _ hvalid]
            dsimp only
            rcases self.delivery.enqueue_cases (.subscriptionResult requestId sessionId
              .alreadySubscribed baseline 0 0 false) with henqueue | henqueue
            · rw [henqueue]
              exact fatal_exchange codec self (self.setDelivery self.delivery.abortFull) rfl rfl c.plain
                hvalid _
            · rw [henqueue]
              refine answered_exchange codec self (self.setDelivery (self.delivery.append _)) rfl ?_ c.plain
                (.subscribed requestId sessionId .alreadySubscribed baseline 0 0 false)
              show answersOf (self.delivery.outgoing ++ [_]) = _
              rw [answersOf_append, answersOf_answer rfl]
        · simp only [hsub, Bool.false_eq_true, if_false]
          have hpending' := DeliveryState.setPending_pending? hclient
            (some ⟨requestId, sessionId, [], [], false⟩)
          have hleaves : Leaves self { self.setDelivery (self.delivery.setPending
              (some ⟨requestId, sessionId, [], [], false⟩)) with
              pc := .subscribeCursor requestId sessionId }
              (self.delivery.setPending (some ⟨requestId, sessionId, [], [], false⟩))
              (.subscribeCursor requestId sessionId) := leaves_of rfl rfl rfl
          refine ⟨exchange_serves codec hleaves rfl hvalid (.inl rfl), collects_of hleaves ?_ ?_⟩
          · intro pending hfound frame hframe
            rw [hpending'] at hfound
            cases hfound
            cases hframe
          · intro _
            rw [hpending']
            rfl
    · simp only [hdiscovered, Bool.not_false, if_true]
      exact refused_exchange codec self self rfl rfl c.plain hvalid rfl _ (isBlank_cons (by decide))

theorem subscribeFailed_exchange (hspeaks : codec.Speaks) (h : InService codec self current)
    {requestId : String} {sessionId : SessionId} {e : SubscriptionError}
    (hpc : self.pc = .subscribeFailed requestId sessionId e) (input : WorkerInput) :
    Exchange codec self (self.localStep codec config input) current none ∧
      Collects (self.localStep codec config input) := by
  obtain ⟨request, rfl, hvalid, hserves⟩ := serving codec h (by rw [hpc]; rfl)
  rw [hpc] at hserves
  obtain rfl : request = .subscribe requestId sessionId := hserves
  simp only [localStep, hpc]
  exact refused_exchange codec self (self.setDelivery (self.delivery.setPending none)) rfl rfl
    (plain_none (DeliveryState.setPending_none_pending? _)) hvalid rfl _ (hspeaks.subscriptionError e)

theorem subscribeCommit_exchange (c : Collects self) (h : InService codec self current)
    {requestId : String} {sessionId : SessionId} {outcome : SessionSyncOutcome}
    (hpc : self.pc = .subscribeCommit requestId sessionId outcome) (input : WorkerInput) :
    Exchange codec self (self.localStep codec config input) current none ∧
      Collects (self.localStep codec config input) := by
  obtain ⟨request, rfl, hvalid, hserves⟩ := serving codec h (by rw [hpc]; rfl)
  rw [hpc] at hserves
  obtain rfl : request = .subscribe requestId sessionId := hserves
  have hpending := c.pending (by rw [hpc]; rfl)
  have hdropped : (self.delivery.setPending none).Plain :=
    plain_none (DeliveryState.setPending_none_pending? _)
  simp only [localStep, hpc]
  rcases self.delivery.commitSubscribe_cases codec requestId sessionId outcome with
    ⟨baseline, pending, -, hfound, -, he⟩ | ⟨pending, e, -, -, he⟩ | hbroken | hinvalid | hnone
  · rw [he]
    refine answered_exchange codec self (self.setDelivery (((self.delivery.setPending none).append
      (DeliveryState.commitBatch requestId sessionId outcome baseline pending)).recordSync sessionId
      outcome)) rfl ?_ ?_ (.subscribed requestId sessionId
        (if outcome.subscribed then .subscribed else .catchingUp) baseline
        outcome.pendingInteractionCount outcome.eventCount outcome.reset)
    · show answersOf (self.delivery.outgoing ++ _) = _
      rw [answersOf_append, commitBatch_answers (c.plain pending hfound)]
    · refine plain_congr hdropped ?_
      exact DeliveryState.recordSync_pending? _ _ _
  · rw [he]
    exact fatal_exchange codec self (self.setDelivery (self.delivery.setPending none).abortFull) rfl rfl
      hdropped hvalid e
  · unfold DeliveryState.commitSubscribe
    simp only [hbroken]
    exact refused_exchange codec self self rfl rfl c.plain hvalid rfl _ (isBlank_cons (by decide))
  · exact absurd hvalid hinvalid
  · rw [hnone] at hpending
    cases hpending

theorem unsubscribeRecord_exchange (c : Collects self) (h : InService codec self current)
    {requestId : String} {sessionId : SessionId} {outcome : UnsubscribeOutcome}
    (hpc : self.pc = .unsubscribeRecord requestId sessionId outcome) (input : WorkerInput) :
    Exchange codec self (self.localStep codec config input) current none ∧
      Collects (self.localStep codec config input) := by
  obtain ⟨request, rfl, hvalid, hserves⟩ := serving codec h (by rw [hpc]; rfl)
  rw [hpc] at hserves
  obtain rfl : request = .unsubscribe requestId sessionId := hserves
  simp only [localStep, hpc]
  have hremoved : (self.delivery.removeSubscription sessionId).Plain :=
    plain_congr c.plain (DeliveryState.removeSubscription_pending? _ _)
  have hleaves : ∀ status, Leaves self { self.setDelivery
      (self.delivery.removeSubscription sessionId) with
      pc := .reply (.unsubscriptionResult requestId sessionId status) }
      (self.delivery.removeSubscription sessionId)
      (.reply (.unsubscriptionResult requestId sessionId status)) := fun status => leaves_of rfl rfl rfl
  exact ⟨exchange_serves codec (hleaves _) rfl hvalid (.inl (.unsubscribed requestId sessionId _)),
    collects_of (hleaves _) hremoved fun he => by cases he⟩

theorem respond_exchange (c : Collects self) (h : InService codec self current)
    {requestId : String} {response : InteractionResponse}
    (hpc : self.pc = .respond requestId response) (input : WorkerInput) :
    Exchange codec self (self.localStep codec config input) current none ∧
      Collects (self.localStep codec config input) := by
  obtain ⟨request, rfl, hvalid, hserves⟩ := serving codec h (by rw [hpc]; rfl)
  rw [hpc] at hserves
  obtain rfl : request = .submitInteractionResponse requestId response := hserves
  simp only [localStep, hpc]
  split
  · exact serves_exchange codec c hvalid rfl fun he => by cases he
  · exact refused_exchange codec self self rfl rfl c.plain hvalid rfl _ (isBlank_cons (by decide))

theorem command_exchange (c : Collects self) (h : InService codec self current)
    {requestId : String} {command : AgentCommand}
    (hpc : self.pc = .command requestId command) (input : WorkerInput) :
    Exchange codec self (self.localStep codec config input) current none ∧
      Collects (self.localStep codec config input) := by
  obtain ⟨request, rfl, hvalid, hserves⟩ := serving codec h (by rw [hpc]; rfl)
  rw [hpc] at hserves
  obtain rfl : request = .submitCommand requestId command := hserves
  simp only [localStep, hpc]
  split
  · exact serves_exchange codec c hvalid rfl fun he => by cases he
  · exact refused_exchange codec self self rfl rfl c.plain hvalid rfl _ (isBlank_cons (by decide))

theorem reply_exchange (c : Collects self) (h : InService codec self current)
    {message : NativeServerMessage} (hpc : self.pc = .reply message) (input : WorkerInput) :
    Exchange codec self (self.localStep codec config input) current none ∧
      Collects (self.localStep codec config input) := by
  simp only [localStep, hpc]
  cases current with
  | none =>
    have hidle : self.pc.Idle := h
    rw [hpc] at hidle
    have hturn : ∀ (next : NativeSystem Other) (delivery : DeliveryState) (pc : WorkerPc),
        Leaves self next delivery pc → pc.Idle → pc.synchronizes = false → delivery.Plain →
        answersOf delivery.outgoing = answersOf self.delivery.outgoing →
        Exchange codec self next none none ∧ Collects next := by
      intro next delivery pc hleaves hnext hsync hplain hanswers
      refine ⟨exchange_kept codec hleaves hanswers ?_, collects_of hleaves hplain ?_⟩
      · show next.pc.Idle
        rw [hleaves.pc]
        exact hnext
      · rw [hsync]
        exact fun he => by cases he
    rcases self.delivery.enqueueControl_cases codec message with ⟨e, he⟩ | ⟨e, he⟩ | he
    · rw [he]
      exact hturn _ self.delivery (.disconnect false) (leaves_of rfl rfl rfl) trivial rfl c.plain rfl
    · rw [he]
      exact hturn _ self.delivery.abortFull (.disconnect false) (leaves_of rfl rfl rfl) trivial rfl
        c.plain rfl
    · rw [he]
      have hleaves : Leaves self ((self.setDelivery (self.delivery.append [message])).settle (.ok ()))
          (self.delivery.append [message]) .accepting := leaves_settle rfl
      exact hturn _ _ _ hleaves trivial rfl c.plain (Passive.append hidle).answers
  | some request =>
    obtain ⟨hvalid, hserves | hdrops⟩ := h
    · rw [hpc] at hserves
      rcases self.delivery.enqueueControl_cases codec message with ⟨e, he⟩ | ⟨e, he⟩ | he
      · rw [he]
        exact fatal_exchange codec self self rfl rfl c.plain hvalid e
      · rw [he]
        exact fatal_exchange codec self (self.setDelivery self.delivery.abortFull) rfl rfl c.plain hvalid e
      · rw [he]
        refine answered_exchange codec self (self.setDelivery (self.delivery.append [message])) rfl ?_
          c.plain hserves
        show answersOf (self.delivery.outgoing ++ [message]) = _
        rw [answersOf_append, answersOf_answer hserves.isAnswer]
    · rw [hpc] at hdrops
      exact hdrops.elim

theorem reject_exchange (c : Collects self) (h : InService codec self current)
    {message : NativeServerMessage} (hpc : self.pc = .reject message) (input : WorkerInput) :
    Exchange codec self (self.localStep codec config input) current none ∧
      Collects (self.localStep codec config input) := by
  obtain ⟨request, rfl, hvalid, hserves⟩ := serving codec h (by rw [hpc]; rfl)
  rw [hpc] at hserves
  obtain ⟨hanswers, hencodes⟩ := hserves
  simp only [localStep, hpc]
  unfold DeliveryState.enqueueControl
  rw [hencodes]
  dsimp only
  rcases self.delivery.enqueue_cases message with he | he
  · rw [he]
    -- the answer is lost, and with it the connection
    have hleaves : Leaves self { self.setDelivery self.delivery.abortFull with pc := .accepting }
        self.delivery.abortFull .accepting := leaves_of rfl rfl rfl
    exact ⟨exchange_serves codec hleaves rfl hvalid (.inr rfl),
      collects_of hleaves c.plain fun he => by cases he⟩
  · rw [he]
    have hleaves : Leaves self { self.setDelivery (self.delivery.append [message]) with
        pc := .accepting } (self.delivery.append [message]) .accepting := leaves_of rfl rfl rfl
    refine ⟨exchange_answered codec hleaves ?_ hanswers, collects_of hleaves c.plain
      fun he => by cases he⟩
    show answersOf (self.delivery.outgoing ++ [message]) = _
    rw [answersOf_append, answersOf_answer hanswers.isAnswer]

theorem localStep_exchange (hspeaks : codec.Speaks) (hgreeting : Greeting self) (c : Collects self)
    (h : InService codec self current) (input : WorkerInput) :
    Exchange codec self (self.localStep codec config input) current
        (Conversation.hearing codec self (.worker input)) ∧
      Collects (self.localStep codec config input) := by
  by_cases hreading : self.pc = .reading
  · exact reading_exchange codec config c h hreading input
  rw [hearing_none codec hreading]
  cases hpc : self.pc with
  | accepting =>
    simp only [localStep, hpc]
    exact accepting_exchange codec c h hpc input
  | checking => exact checking_exchange codec config c h hpc input
  | draining => exact draining_exchange codec config c h hpc input
  | reading => exact absurd hpc hreading
  | hello sessionCursors resumeAccepted =>
    exact hello_exchange codec config hgreeting h c hpc input
  | discover requestId => exact discover_exchange codec config c h hpc input
  | discoverBatch requestId snapshot => exact discoverBatch_exchange codec config c h hpc input
  | subscribe requestId sessionId => exact subscribe_exchange codec config c h hpc input
  | subscribeCursor requestId sessionId =>
    obtain ⟨request, rfl, hvalid, hserves⟩ := serving codec h (by rw [hpc]; rfl)
    rw [hpc] at hserves
    simp only [localStep, hpc]
    exact serves_exchange codec c hvalid hserves fun _ => c.pending (by rw [hpc]; rfl)
  | subscribeFailed requestId sessionId e =>
    exact subscribeFailed_exchange codec config hspeaks h hpc input
  | subscribeCommit requestId sessionId outcome =>
    exact subscribeCommit_exchange codec config c h hpc input
  | unsubscribeRecord requestId sessionId outcome =>
    exact unsubscribeRecord_exchange codec config c h hpc input
  | respond requestId response => exact respond_exchange codec config c h hpc input
  | command requestId command => exact command_exchange codec config c h hpc input
  | reply message => exact reply_exchange codec config c h hpc input
  | reject message => exact reject_exchange codec config c h hpc input
  | disconnect last => exact leaving_exchange codec config c h hpc input
  | unsubscribing remaining last =>
    cases remaining with
    | nil => exact cleared_exchange codec config hpc input
    | cons sessionId remaining =>
      simp only [localStep, hpc]
      exact stay_exchange codec c h
  | _ =>
    simp only [localStep, hpc]
    exact stay_exchange codec c h

theorem passive_syncSession (self : NativeSystem Other) (sessionId : SessionId)
    (requestedAfter : Nat) :
    Passive self.delivery (self.bridge.syncSession (nativePorts codec config.channelId otherPorts)
      config.channelId sessionId requestedAfter sessionSyncPageEvents).1.world.delivery := by
  rcases Bridge.syncSession_cases (nativePorts codec config.channelId otherPorts) self.bridge
    config.channelId sessionId requestedAfter sessionSyncPageEvents with ⟨e, he, -⟩ |
    ⟨aggregate, -, -, -, -, he⟩ | ⟨channel, aggregate, provider, sync, world, result, -, hport, he⟩
  · rw [he]
    exact .refl _
  · rw [he]
    exact .refl _
  · have hpassive := passive_ports codec config otherPorts self.bridge.world
      (.inr (.inr ⟨config.channelId, sync, rfl⟩))
    rw [hport] at hpassive
    rw [he]
    cases result with
    | error source => exact hpassive
    | ok u =>
      dsimp only [Bridge.afterSync]
      split <;> exact hpassive

theorem bridgeStep_exchange (hspeaks : codec.Speaks) (c : Collects self)
    (h : InService codec self current) (hcalls : self.pc.callsBridge = true) :
    Exchange codec self (self.bridgeStep codec config otherPorts) current none ∧
      Collects (self.bridgeStep codec config otherPorts) := by
  cases hpc : self.pc with
  | discoverSnapshot requestId =>
    obtain ⟨request, rfl, hvalid, hserves⟩ := serving codec h (by rw [hpc]; rfl)
    rw [hpc] at hserves
    simp only [bridgeStep, hpc]
    exact serves_exchange codec c hvalid hserves fun he => by cases he
  | subscribeSync requestId sessionId afterSequence =>
    obtain ⟨request, rfl, hvalid, hserves⟩ := serving codec h (by rw [hpc]; rfl)
    rw [hpc] at hserves
    have hpending := c.pending (by rw [hpc]; rfl)
    have hpassive := passive_syncSession codec config otherPorts self sessionId afterSequence
    simp only [bridgeStep, hpc]
    split
    · next bridge outcome he =>
      rw [he] at hpassive
      have hleaves : Leaves self { self with
          bridge := bridge, pc := .subscribeCommit requestId sessionId outcome }
          bridge.world.delivery (.subscribeCommit requestId sessionId outcome) := leaves_of rfl rfl rfl
      exact ⟨exchange_serves codec hleaves hpassive.answers hvalid (.inl hserves),
        collects_of hleaves (hpassive.plain c.plain) fun _ => hpassive.pending.trans hpending⟩
    · next bridge e he =>
      rw [he] at hpassive
      have hleaves : Leaves self { self with
          bridge := bridge, pc := .subscribeFailed requestId sessionId e }
          bridge.world.delivery (.subscribeFailed requestId sessionId e) := leaves_of rfl rfl rfl
      exact ⟨exchange_serves codec hleaves hpassive.answers hvalid (.inl hserves),
        collects_of hleaves (hpassive.plain c.plain) fun _ => hpassive.pending.trans hpending⟩
  | unsubscribe requestId sessionId =>
    obtain ⟨request, rfl, hvalid, hserves⟩ := serving codec h (by rw [hpc]; rfl)
    rw [hpc] at hserves
    obtain rfl : request = .unsubscribe requestId sessionId := hserves
    have hworld := Bridge.unsubscribe_world self.bridge config.channelId sessionId
    simp only [bridgeStep, hpc]
    split
    · next bridge outcome he =>
      rw [he] at hworld
      have hdelivery : ({ self with
          bridge := bridge
          pc := .unsubscribeRecord requestId sessionId outcome } : NativeSystem Other).delivery =
          self.delivery := congrArg NativeWorld.delivery hworld
      have hleaves : Leaves self _ _ _ := leaves_of hdelivery rfl rfl
      exact ⟨exchange_serves codec hleaves rfl hvalid (.inl rfl),
        collects_of hleaves c.plain fun he => by cases he⟩
    · next bridge e he =>
      rw [he] at hworld
      have hdelivery : ({ self with bridge := bridge } : NativeSystem Other).delivery =
          self.delivery := congrArg NativeWorld.delivery hworld
      exact refused_exchange codec self { self with bridge := bridge } rfl (by rw [hdelivery])
        (by rw [hdelivery]; exact c.plain) hvalid rfl _ (hspeaks.subscriptionError e)
  | submitResponse requestId response =>
    obtain ⟨request, rfl, hvalid, hserves⟩ := serving codec h (by rw [hpc]; rfl)
    rw [hpc] at hserves
    obtain rfl : request = .submitInteractionResponse requestId response := hserves
    have huntouched := (untouched_handleInteractionResponse codec config.channelId otherPorts
      self.bridge config.channelId response).delivery
    simp only [bridgeStep, hpc]
    split
    · next bridge he =>
      rw [he] at huntouched
      have hdelivery : ({ self with
          bridge := bridge
          pc := .reply (.interactionResponseResult requestId response.sessionId
            response.requestId.toString) } : NativeSystem Other).delivery = self.delivery := huntouched
      have hleaves : Leaves self _ _ _ := leaves_of hdelivery rfl rfl
      exact ⟨exchange_serves codec hleaves rfl hvalid (.inl (.responded requestId response)),
        collects_of hleaves c.plain fun he => by cases he⟩
    · next bridge e he =>
      rw [he] at huntouched
      have hdelivery : ({ self with bridge := bridge } : NativeSystem Other).delivery =
          self.delivery := huntouched
      exact refused_exchange codec self { self with bridge := bridge } rfl (by rw [hdelivery])
        (by rw [hdelivery]; exact c.plain) hvalid rfl _ (hspeaks.channelActionError e)
  | submitCommand requestId command =>
    obtain ⟨request, rfl, hvalid, hserves⟩ := serving codec h (by rw [hpc]; rfl)
    rw [hpc] at hserves
    obtain rfl : request = .submitCommand requestId command := hserves
    have huntouched := (untouched_handleCommand codec config.channelId otherPorts self.bridge
      config.channelId command).delivery
    simp only [bridgeStep, hpc]
    split
    · next bridge he =>
      rw [he] at huntouched
      have hdelivery : ({ self with
          bridge := bridge
          pc := .reply (.commandResult requestId command.sessionId command.id.toString) } :
          NativeSystem Other).delivery = self.delivery := huntouched
      have hleaves : Leaves self _ _ _ := leaves_of hdelivery rfl rfl
      exact ⟨exchange_serves codec hleaves rfl hvalid (.inl (.commanded requestId command)),
        collects_of hleaves c.plain fun he => by cases he⟩
    · next bridge e he =>
      rw [he] at huntouched
      have hdelivery : ({ self with bridge := bridge } : NativeSystem Other).delivery =
          self.delivery := huntouched
      exact refused_exchange codec self { self with bridge := bridge } rfl (by rw [hdelivery])
        (by rw [hdelivery]; exact c.plain) hvalid rfl _ (hspeaks.channelActionError e)
  | unsubscribing remaining last =>
    cases remaining with
    | nil => simp [hpc, WorkerPc.callsBridge] at hcalls
    | cons sessionId remaining =>
      have hworld := Bridge.unsubscribe_world self.bridge config.channelId sessionId
      have hfrom : self.pc.Idle := by rw [hpc]; trivial
      simp only [bridgeStep, hpc]
      have hdelivery : ({ self with
          bridge := (self.bridge.unsubscribe config.channelId sessionId).1
          pc := .unsubscribing remaining last } : NativeSystem Other).delivery = self.delivery :=
        congrArg NativeWorld.delivery hworld
      have hleaves : Leaves self _ _ _ := leaves_of hdelivery rfl rfl
      exact ⟨exchange_kept codec hleaves rfl
        (inService_turn codec h hfrom trivial fun _ => trivial),
        collects_of hleaves c.plain fun he => by cases he⟩
  | _ => simp [hpc, WorkerPc.callsBridge] at hcalls

end

theorem step_exchange (hspeaks : codec.Speaks) {self : NativeSystem Other}
    {current : Option NativeClientMessage} (hgreeting : Greeting self) (c : Collects self)
    (h : InService codec self current) (input : NativeInput) :
    Exchange codec self (step codec config otherPorts self input).1 current
        (Conversation.hearing codec self input) ∧
      Collects (step codec config otherPorts self input).1 := by
  by_cases hinput : ∀ i, input ≠ .worker i
  · obtain ⟨hpc, hconnection⟩ := step_other codec config otherPorts self hinput
    have hpassive := passive_other codec config otherPorts self hinput
    have hsilent : Conversation.hearing codec self input = none := by
      unfold Conversation.hearing
      split
      · exact absurd rfl (hinput _)
      · rfl
    have hleaves := leaves_of rfl hpc hconnection
    rw [hsilent]
    refine ⟨exchange_kept codec hleaves hpassive.answers ?_,
      collects_of hleaves (hpassive.plain c.plain) fun hsync => hpassive.pending.trans (c.pending hsync)⟩
    cases current with
    | none =>
      show WorkerPc.Idle _
      rw [hpc]
      exact h
    | some request =>
      obtain ⟨hvalid, hserves | hdrops⟩ := h
      · exact ⟨hvalid, .inl (by rw [hpc]; exact hserves)⟩
      · refine ⟨hvalid, .inr ?_⟩
        rw [hpc]
        exact hdrops.mono hpassive.abort
  · simp only [ne_eq, not_forall, not_not] at hinput
    obtain ⟨i, rfl⟩ := hinput
    simp only [step]
    split
    · next hcalls =>
      have hreading : self.pc ≠ .reading := by
        intro he
        rw [he] at hcalls
        cases hcalls
      rw [hearing_none codec hreading]
      split
      · exact stay_exchange codec c h
      · exact bridgeStep_exchange codec config otherPorts hspeaks c h hcalls
    · exact localStep_exchange codec config hspeaks hgreeting c h i

end NativeSystem

namespace Conversation

variable {Other : Type} (codec : NativeCodec) (config : NativeChannelConfig)
  (otherPorts : Ports Other)

/-- What was read is answered, up to the request in service. -/
structure Conversing (conversation : Conversation Other) : Prop where
  greeting : NativeSystem.Greeting conversation.system
  collects : NativeSystem.Collects conversation.system
  quiet : conversation.system.handshaken = false → conversation.heard = []
  exchange : ∃ served current, conversation.heard = served ++ current.toList ∧
    List.Forall₂ Answers served (answersOf conversation.system.log) ∧
    NativeSystem.InService codec conversation.system current

theorem conversing_step (hspeaks : codec.Speaks) {self : Conversation Other}
    (h : Conversing codec self) (input : NativeInput) :
    Conversing codec (step codec config otherPorts self input).1 := by
  obtain ⟨served, current, hheard, hserved, hservice⟩ := h.exchange
  obtain ⟨hexchange, hcollects⟩ := NativeSystem.step_exchange codec config otherPorts hspeaks
    h.greeting h.collects hservice input
  have hgreeting := NativeSystem.step_greeting codec config otherPorts h.greeting input
  generalize hnext : (NativeSystem.step codec config otherPorts self.system input).1 = next
    at hexchange hcollects hgreeting
  have hstep : (step codec config otherPorts self input).1 = ⟨next, if next.handshaken then
      self.heard ++ (hearing codec self.system input).toList else []⟩ := by
    rw [← hnext]
    rfl
  rw [hstep]
  have hlost : (next.handshaken = false → self.system.handshaken = false) →
      hearing codec self.system input = none →
      (if next.handshaken then self.heard ++ (hearing codec self.system input).toList else []) =
        self.heard := by
    intro hkept hsilent
    split
    · rw [hsilent, Option.toList_none, List.append_nil]
    · next hfalse => exact (h.quiet (hkept (by simpa using hfalse))).symm
  refine ⟨hgreeting.greeting, hcollects, ?_, ?_⟩
  · intro hfalse
    exact if_neg (by rw [Bool.not_eq_true]; exact hfalse)
  cases hexchange with
  | kept hsilent hkept hanswers hservice' =>
    refine ⟨served, current, ?_, ?_, hservice'⟩
    · exact (hlost hkept hsilent).trans hheard
    · rw [hanswers]
      exact hserved
  | asked request hasked hnone hready hanswers hservice' =>
    refine ⟨served, some request, ?_, ?_, hservice'⟩
    · dsimp only
      rw [if_pos hready, hasked, hheard, hnone, Option.toList_none, List.append_nil]
    · rw [hanswers]
      exact hserved
  | answered request message hsilent hcurrent hkept hanswers hmessage hidle =>
    refine ⟨served ++ [request], none, ?_, ?_, hidle⟩
    · refine (hlost hkept hsilent).trans ?_
      rw [hheard, hcurrent]
      simp
    · rw [hanswers]
      exact List.rel_append hserved (.cons hmessage .nil)
  | closed hsilent hfalse hanswers hidle =>
    refine ⟨[], none, ?_, ?_, hidle⟩
    · dsimp only
      rw [hfalse]
      rfl
    · rw [hanswers]
      exact .nil

theorem conversing_start (sessionConfig : SessionAggregateConfig) (others : Other) :
    Conversing codec (start config sessionConfig others) := by
  have hdelivery : (NativeSystem.start config sessionConfig others).delivery =
      DeliveryState.new config.outboundCapacity := by
    simp [NativeSystem.start, NativeSystem.delivery, Bridge.registerChannel, Bridge.withSessionConfig]
  have hlog : (NativeSystem.start config sessionConfig others).log = [] := by
    unfold NativeSystem.log
    rw [hdelivery]
    rfl
  refine ⟨⟨fun _ => rfl, fun _ _ he => by cases he⟩, ⟨?_, fun he => by cases he⟩, fun _ => rfl,
    [], none, rfl, ?_, trivial⟩
  · apply NativeSystem.plain_none
    show (NativeSystem.start config sessionConfig others).delivery.pending? = none
    rw [hdelivery]
    rfl
  · show List.Forall₂ Answers [] (answersOf (NativeSystem.start config sessionConfig others).log)
    rw [hlog]
    exact .nil

/-- Whatever the other threads do: since the hello the worker has queued one answer
for each request that it has read, in order and of its kind. Missing is at most the
answer to the last one, which is in service or goes down with the connection; whenever
the worker looks for the next message, nothing is missing. -/
theorem run_answers (hspeaks : codec.Speaks) (sessionConfig : SessionAggregateConfig)
    (others : Other) (inputs : List NativeInput) :
    let system := NativeSystem.run codec config otherPorts sessionConfig others inputs
    let heard := (run codec config otherPorts sessionConfig others inputs).heard
    (∃ served current, heard = served ++ current.toList ∧
      List.Forall₂ Answers served (answersOf system.log) ∧
      NativeSystem.InService codec system current) ∧
    (system.pc = .reading → List.Forall₂ Answers heard (answersOf system.log)) := by
  intro system heard
  have hrun : Conversing codec (run codec config otherPorts sessionConfig others inputs) :=
    Trace.final_invariant _ (Conversing codec)
      (fun _ input h => conversing_step codec config otherPorts hspeaks h input) _ inputs
      (conversing_start codec config sessionConfig others)
  obtain ⟨served, current, hheard, hserved, hservice⟩ := hrun.exchange
  rw [run_system] at hserved hservice
  refine ⟨⟨served, current, hheard, hserved, hservice⟩, ?_⟩
  intro hreading
  cases current with
  | none =>
    have hsame : heard = served := hheard.trans (List.append_nil served)
    rw [hsame]
    exact hserved
  | some request =>
    obtain ⟨-, hserves | hdrops⟩ := hservice
    · rw [hreading] at hserves
      exact hserves.elim
    · rw [hreading] at hdrops
      exact hdrops.elim

theorem sample_speaks : Sample.codec.Speaks where
  subscriptionError _ := isBlank_cons (by decide)
  channelActionError _ := isBlank_cons (by decide)

/-- After it has served both requests the worker looks for the next one. -/
theorem sample_heard :
    let conversation := run Sample.codec (Sample.native 7 (by decide)) Sample.accepting .default ()
      (Sample.discovered ++ Sample.subscribing ++ Sample.proceed 9)
    conversation.heard.length = 2 ∧ conversation.system.pc.reads = true := by
  decide +kernel

/-- A client that has discovered and subscribed. -/
theorem run_answers_subscribed :
    let inputs := Sample.discovered ++ Sample.subscribing ++ Sample.proceed 9
    let native := Sample.native 7 (by decide)
    let heard := (run Sample.codec native Sample.accepting .default () inputs).heard
    heard.length = 2 ∧ List.Forall₂ Answers heard (answersOf
      (NativeSystem.run Sample.codec native Sample.accepting .default () inputs).log) := by
  have hsystem := run_system Sample.codec (Sample.native 7 (by decide)) Sample.accepting .default ()
    (Sample.discovered ++ Sample.subscribing ++ Sample.proceed 9)
  obtain ⟨hlength, hreads⟩ := sample_heard
  rw [hsystem] at hreads
  exact ⟨hlength, (run_answers Sample.codec (Sample.native 7 (by decide)) Sample.accepting
    sample_speaks .default () (Sample.discovered ++ Sample.subscribing ++ Sample.proceed 9)).2
    (WorkerPc.eq_reading hreads)⟩

end Conversation

end AgentPulse

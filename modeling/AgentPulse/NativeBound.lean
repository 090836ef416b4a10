import AgentPulse.NativeInvariant

/-!
# The bound on the frames that the native channel holds

Frames wait in the output queue and in the two lists of the pending
subscription. The port and the worker change them in short critical sections,
some of which measure the room in one section and prepared their frames in
another. `DeliveryOp` lists the sections; a run is any sequence of them. Every
section either adds all of the frames that it offers or none of them.
-/
namespace AgentPulse

open Std (ExtTreeMap ExtTreeSet)

/-- One critical section of the delivery state. -/
inductive DeliveryOp where
  | port (call : PortCall)
  /-- The last section of a baseline or of a page. Other sections may have run
  since its frames were prepared. -/
  | extend (sessionId : SessionId) (requestId : String) (frames : List Frame)
  | enqueue (frame : Frame)
  | enqueueBatch (frames : List Frame)
  | enqueueControl (message : NativeServerMessage)
  | openClient (sessionCursors : ExtTreeMap SessionId Nat)
  | commitDiscover (requestId : String) (snapshot : ChannelDiscoverySnapshot)
  | beginSubscribe (requestId : String) (sessionId : SessionId)
  | commitSubscribe (requestId : String) (sessionId : SessionId) (outcome : SessionSyncOutcome)
  | takePending
  | removeSubscription (sessionId : SessionId)
  | drain
  | clearConnection

/-- The sections that end a connection, or begin one. -/
def DeliveryOp.clears : DeliveryOp → Bool
  | .openClient _ => true
  | .clearConnection => true
  | _ => false

namespace DeliveryState

variable (codec : NativeCodec)

def apply (self : DeliveryState) : DeliveryOp → DeliveryState
  | .port call => (NativeChannelPort.call codec self call).1
  | .extend sessionId requestId frames =>
    (NativeChannelPort.extendPending self sessionId requestId frames).1
  | .enqueue frame => (self.enqueue frame).1
  | .enqueueBatch frames => (self.enqueueBatch frames).1
  | .enqueueControl message => (self.enqueueControl codec message).1
  | .openClient sessionCursors => self.openClient sessionCursors
  | .commitDiscover requestId snapshot => (self.commitDiscover codec requestId snapshot).1
  | .beginSubscribe requestId sessionId => (self.beginSubscribe codec requestId sessionId).1
  | .commitSubscribe requestId sessionId outcome =>
    (self.commitSubscribe codec requestId sessionId outcome).1
  | .takePending => self.setPending none
  | .removeSubscription sessionId => self.removeSubscription sessionId
  | .drain => { self with outgoing := self.outgoing.tail }
  | .clearConnection => self.clearConnection

/-- The state after a sequence of sections. -/
def after (self : DeliveryState) (ops : List DeliveryOp) : DeliveryState :=
  ops.foldl (apply codec) self

@[simp] theorem after_nil (self : DeliveryState) : self.after codec [] = self := rfl

@[simp] theorem after_cons (self : DeliveryState) (op : DeliveryOp) (ops : List DeliveryOp) :
    self.after codec (op :: ops) = (self.apply codec op).after codec ops := rfl

theorem after_append (self : DeliveryState) (xs ys : List DeliveryOp) :
    self.after codec (xs ++ ys) = (self.after codec xs).after codec ys :=
  List.foldl_append

/-- The frame of a live delivery, if one is made. -/
def liveOffer (self : DeliveryState) (sessionId : SessionId) (message : ProtocolMessage)
    (eventRoute : Option ChannelEventRoute) : List Frame :=
  match self.client with
  | none => []
  | some client =>
    match NativeChannelPort.deliveryContext client sessionId eventRoute with
    | .error _ => []
    | .ok context => (encodeServerMessage codec (.domain context message)).toOption.toList

/-- The answer to a client that asks for a session it has. -/
def repeatedOffer (client : ActiveClient) (requestId : String) (sessionId : SessionId) :
    List Frame :=
  if client.discovered.contains sessionId ∧ client.pending = none ∧
      client.subscriptions.contains sessionId then
    match client.sessionCursors[sessionId]?.bind eventSequence? with
    | none => []
    | some baseline =>
      (encodeServerMessage codec (.subscriptionResult requestId sessionId .alreadySubscribed
        baseline 0 0 false)).toOption.toList
  else []

/-- The two control frames around a synchronization. Its own frames are held
already. -/
def commitOffer (self : DeliveryState) (requestId : String) (sessionId : SessionId)
    (outcome : SessionSyncOutcome) : List Frame :=
  match eventSequence? outcome.throughSequence, self.pending? with
  | some baseline, some _ =>
    match encodeServerMessage codec (.subscriptionResult requestId sessionId
        (if outcome.subscribed then .subscribed else .catchingUp) baseline
        outcome.pendingInteractionCount outcome.eventCount outcome.reset),
      encodeServerMessage codec (.syncCompleted requestId) with
    | .ok result, .ok completed => [result, completed]
    | _, _ => []
  | _, _ => []

/-- The frames that a section adds to those held if there is room for all. A
section that fails before it looks at the room offers none. -/
def offers (self : DeliveryState) : DeliveryOp → List Frame
  | .port (.deliverEvent _ event route) =>
    self.liveOffer codec event.sessionId (.agentEvent event) (some route)
  | .port (.deliverSession _ session) =>
    self.liveOffer codec session.id (.agentSession session) none
  | .port (.deliverSessionBaseline _ baseline) =>
    match self.pending? with
    | none => []
    | some pending =>
      if pending.sessionId ≠ baseline.session.id then []
      else (NativeChannelPort.baselineFrames codec pending.requestId baseline).toOption.getD []
  | .port (.deliverSessionSync _ sync) =>
    match self.pending? with
    | none => []
    | some pending =>
      (NativeChannelPort.syncFrames codec pending.sessionId pending.requestId
        sync).toOption.getD []
  | .extend _ _ frames => frames
  | .enqueue frame => [frame]
  | .enqueueBatch frames => frames
  | .enqueueControl message => (encodeServerMessage codec message).toOption.toList
  | .commitDiscover requestId snapshot => (discoveryFrames codec requestId snapshot).toOption.getD []
  | .beginSubscribe requestId sessionId =>
    match self.client with
    | none => []
    | some client => repeatedOffer codec client requestId sessionId
  | .commitSubscribe requestId sessionId outcome =>
    self.commitOffer codec requestId sessionId outcome
  | _ => []

/-- There is room for everything that the section offers. -/
def Fits (self : DeliveryState) (op : DeliveryOp) : Prop :=
  self.queuedLen + (self.offers codec op).length ≤ self.capacity

instance (self : DeliveryState) (op : DeliveryOp) : Decidable (self.Fits codec op) :=
  inferInstanceAs (Decidable (_ ≤ _))

/-- Outgoing, pending and trailing frames. -/
def held (self : DeliveryState) : List Frame :=
  self.outgoing ++
    match self.pending? with
    | none => []
    | some pending => pending.frames ++ pending.trailingFrames

theorem length_held (self : DeliveryState) : self.held.length = self.queuedLen := by
  unfold held queuedLen
  cases self.pending? <;> simp

theorem held_of_none {self : DeliveryState} (h : self.pending? = none) :
    self.held = self.outgoing := by
  simp [held, h]

theorem held_of_some {self : DeliveryState} {pending : PendingSubscription}
    (h : self.pending? = some pending) :
    self.held = self.outgoing ++ (pending.frames ++ pending.trailingFrames) := by
  simp [held, h]

@[simp] theorem abortFull_held (self : DeliveryState) : self.abortFull.held = self.held := rfl

theorem append_held (self : DeliveryState) (frames : List Frame) :
    (self.append frames).held.Perm (self.held ++ frames) := by
  have hpending : (self.append frames).pending? = self.pending? := rfl
  unfold held
  rw [hpending]
  simp only [append, List.append_assoc]
  exact List.Perm.append_left _ List.perm_append_comm

theorem setPending_none_held (self : DeliveryState) : (self.setPending none).held = self.outgoing :=
  held_of_none (setPending_none_pending? self)

theorem setPending_none_sublist (self : DeliveryState) :
    (self.setPending none).held.Sublist self.held := by
  rw [setPending_none_held]
  exact List.sublist_append_left _ _

theorem setPending_some_held {self : DeliveryState} {client : ActiveClient}
    (hclient : self.client = some client) (pending : PendingSubscription) :
    (self.setPending (some pending)).held =
      self.outgoing ++ (pending.frames ++ pending.trailingFrames) := by
  refine held_of_some ?_
  simp [setPending, updateClient, pending?, hclient]

theorem updateClient_held (self : DeliveryState) {update : ActiveClient → ActiveClient}
    (h : ∀ client, (update client).pending = client.pending) :
    (self.updateClient update).held = self.held := by
  have hpending : (self.updateClient update).pending? = self.pending? := by
    unfold pending? updateClient
    cases self.client with
    | none => rfl
    | some client => exact h client
  unfold held
  rw [hpending]
  rfl

def limitReason (capacity : Nat) : String :=
  s!"Native client output queue reached its {capacity}-frame limit"

/-- A section that offers more than there is room for is refused as a whole;
otherwise its frames are added, all or none. -/
inductive Outcome (self next : DeliveryState) (offered : List Frame) : Prop where
  | refused : next.capacity = self.capacity → self.capacity < self.queuedLen + offered.length →
      next.abortReason = some (limitReason self.capacity) → next.outgoing = self.outgoing →
      next.held.Sublist self.held → Outcome self next offered
  | dropped : next.capacity = self.capacity → self.queuedLen + offered.length ≤ self.capacity →
      next.abortReason = self.abortReason → next.held.Sublist self.held →
      Outcome self next offered
  | added : next.capacity = self.capacity → self.queuedLen + offered.length ≤ self.capacity →
      next.abortReason = self.abortReason → next.held.Perm (self.held ++ offered) →
      Outcome self next offered

theorem outcome_stay {self : DeliveryState} (h : self.queuedLen ≤ self.capacity) :
    Outcome self self [] := .dropped rfl h rfl (List.Sublist.refl _)

theorem outcome_full {self : DeliveryState} {offered : List Frame}
    (h : self.capacity < self.queuedLen + offered.length) : Outcome self self.abortFull offered :=
  .refused rfl h rfl rfl (List.Sublist.refl _)

theorem outcome_append {self : DeliveryState} {offered : List Frame}
    (h : self.queuedLen + offered.length ≤ self.capacity) :
    Outcome self (self.append offered) offered := .added rfl h rfl (append_held self offered)

theorem enqueue_outcome (self : DeliveryState) (frame : Frame) :
    Outcome self (self.enqueue frame).1 [frame] := by
  unfold enqueue
  by_cases hfull : self.capacity ≤ self.queuedLen
  · rw [if_pos hfull]
    exact outcome_full (Nat.lt_succ_of_le hfull)
  · rw [if_neg hfull]
    exact outcome_append (Nat.lt_of_not_le hfull)

theorem enqueueBatch_outcome (self : DeliveryState) (frames : List Frame) :
    Outcome self (self.enqueueBatch frames).1 frames := by
  unfold enqueueBatch
  by_cases hfull : self.capacity < self.queuedLen + frames.length
  · rw [if_pos hfull]
    exact outcome_full hfull
  · rw [if_neg hfull]
    exact outcome_append (Nat.le_of_not_lt hfull)

theorem extendPending_outcome (self : DeliveryState) (sessionId : SessionId) (requestId : String)
    (frames : List Frame) :
    Outcome self (NativeChannelPort.extendPending self sessionId requestId frames).1 frames := by
  unfold NativeChannelPort.extendPending
  by_cases hfull : self.capacity < self.queuedLen + frames.length
  · rw [if_pos hfull]
    exact outcome_full hfull
  · rw [if_neg hfull]
    have hroom := Nat.le_of_not_lt hfull
    cases hfound : self.pending?.filter fun pending =>
        pending.sessionId = sessionId ∧ pending.requestId = requestId with
    | none => exact .dropped rfl hroom rfl (List.Sublist.refl _)
    | some pending =>
      have hpending : self.pending? = some pending := (Option.filter_eq_some_iff.mp hfound).1
      obtain ⟨client, hclient, -⟩ := Option.bind_eq_some_iff.mp hpending
      refine .added rfl hroom rfl ?_
      rw [setPending_some_held hclient, held_of_some hpending]
      -- the new frames lie before the trailing ones
      simp only [List.append_assoc]
      exact List.Perm.append_left _ (List.Perm.append_left _ List.perm_append_comm)

/-- Two frames around a list, seen as two frames added to it. -/
theorem around_perm (first second : Frame) (xs ys : List Frame) :
    (first :: xs ++ second :: ys).Perm (xs ++ ys ++ [first, second]) := by
  have hmiddle : (first :: xs ++ second :: ys).Perm (second :: (first :: xs ++ ys)) :=
    List.perm_middle
  have hends : (xs ++ ys ++ [first, second]).Perm ([first, second] ++ (xs ++ ys)) :=
    List.perm_append_comm
  exact (hmiddle.trans (List.Perm.swap first second (xs ++ ys))).trans hends.symm

section Offers

variable {codec} {self : DeliveryState} (hbound : self.queuedLen ≤ self.capacity)

include hbound in
theorem deliver_outcome (sessionId : SessionId) (message : ProtocolMessage)
    (eventRoute : Option ChannelEventRoute) :
    Outcome self (NativeChannelPort.deliver codec self sessionId message eventRoute).1
      (self.liveOffer codec sessionId message eventRoute) := by
  unfold NativeChannelPort.deliver liveOffer
  cases hclient : self.client with
  | none => exact outcome_stay hbound
  | some client =>
    cases hcontext : NativeChannelPort.deliveryContext client sessionId eventRoute with
    | error e =>
      simp only [hcontext]
      exact outcome_stay hbound
    | ok context =>
      cases hencode : encodeServerMessage codec (.domain context message) with
      | error e =>
        simp only [hcontext, NativeChannelPort.encodedText, hencode]
        exact outcome_stay hbound
      | ok frame =>
        simp only [hcontext, NativeChannelPort.encodedText, hencode, Except.mapError]
        change Outcome self _ [frame]
        cases hpending : client.pendingFor sessionId with
        | none => exact enqueue_outcome self frame
        | some pending =>
          simp only
          have hself : self.pending? = some pending := by
            rw [pending?, hclient]
            exact (Option.filter_eq_some_iff.mp hpending).1
          by_cases hfull : self.capacity ≤ self.queuedLen
          · rw [if_pos hfull]
            exact outcome_full (Nat.lt_succ_of_le hfull)
          · rw [if_neg hfull]
            have hroom : self.queuedLen + [frame].length ≤ self.capacity := Nat.lt_of_not_le hfull
            cases hsync : pending.syncDelivered with
            | false =>
              refine .added rfl hroom rfl ?_
              simp only [Bool.false_eq_true, if_false]
              rw [setPending_some_held hclient, held_of_some hself]
              simp only [List.append_assoc]
              exact List.Perm.append_left _ (List.Perm.append_left _ List.perm_append_comm)
            | true =>
              refine .added rfl hroom rfl ?_
              simp only [if_true]
              rw [setPending_some_held hclient, held_of_some hself]
              simp only [List.append_assoc]
              exact List.Perm.refl _

include hbound in
theorem deliverSessionBaseline_outcome (channelId : ChannelId)
    (baseline : ChannelSessionBaseline) :
    Outcome self (NativeChannelPort.deliverSessionBaseline codec self baseline).1
      (self.offers codec (.port (.deliverSessionBaseline channelId baseline))) := by
  unfold NativeChannelPort.deliverSessionBaseline offers
  cases hpending : self.pending? with
  | none => exact outcome_stay hbound
  | some pending =>
    simp only
    by_cases hother : pending.sessionId ≠ baseline.session.id
    · rw [if_pos hother, if_pos hother]
      exact outcome_stay hbound
    · rw [if_neg hother, if_neg hother]
      cases hframes : NativeChannelPort.baselineFrames codec pending.requestId baseline with
      | error e => exact outcome_stay hbound
      | ok frames => exact extendPending_outcome self _ _ frames

include hbound in
theorem deliverSessionSync_outcome (channelId : ChannelId) (sync : ChannelSessionSync) :
    Outcome self (NativeChannelPort.deliverSessionSync codec self sync).1
      (self.offers codec (.port (.deliverSessionSync channelId sync))) := by
  unfold NativeChannelPort.deliverSessionSync offers
  cases hpending : self.pending? with
  | none => exact outcome_stay hbound
  | some pending =>
    simp only
    cases hframes : NativeChannelPort.syncFrames codec pending.sessionId pending.requestId sync with
    | error e => exact outcome_stay hbound
    | ok frames => exact extendPending_outcome self _ _ frames

include hbound in
theorem call_outcome (call : PortCall) :
    Outcome self (NativeChannelPort.call codec self call).1 (self.offers codec (.port call)) := by
  cases call with
  | deliverEvent channelId event route => exact deliver_outcome hbound _ _ _
  | deliverSession channelId session => exact deliver_outcome hbound _ _ _
  | deliverSessionBaseline channelId baseline =>
    exact deliverSessionBaseline_outcome hbound channelId baseline
  | deliverSessionSync channelId sync => exact deliverSessionSync_outcome hbound channelId sync
  | acceptInteractionResponse providerId response => exact outcome_stay hbound
  | acceptCommand providerId command => exact outcome_stay hbound

include hbound in
theorem enqueueControl_outcome (message : NativeServerMessage) :
    Outcome self (self.enqueueControl codec message).1
      (self.offers codec (.enqueueControl message)) := by
  simp only [enqueueControl, offers]
  cases encodeServerMessage codec message with
  | error e => exact outcome_stay hbound
  | ok frame => exact enqueue_outcome self frame

/-- What only the client's sets and cursors change in keeps the outcome. -/
theorem outcome_updateClient {next : DeliveryState} {offered : List Frame}
    (h : Outcome self next offered) {update : ActiveClient → ActiveClient}
    (hupdate : ∀ client, (update client).pending = client.pending) :
    Outcome self (next.updateClient update) offered := by
  have hheld := updateClient_held next hupdate
  cases h with
  | refused hcapacity hfull hreason hout hsub => exact .refused hcapacity hfull hreason hout (hheld ▸ hsub)
  | dropped hcapacity hroom hreason hsub => exact .dropped hcapacity hroom hreason (hheld ▸ hsub)
  | added hcapacity hroom hreason hperm => exact .added hcapacity hroom hreason (hheld ▸ hperm)

theorem outcome_recordSync {next : DeliveryState} {offered : List Frame}
    (h : Outcome self next offered) (sessionId : SessionId) (outcome : SessionSyncOutcome) :
    Outcome self (next.recordSync sessionId outcome) offered :=
  outcome_updateClient h fun _ => rfl

include hbound in
theorem commitDiscover_outcome (requestId : String) (snapshot : ChannelDiscoverySnapshot) :
    Outcome self (self.commitDiscover codec requestId snapshot).1
      (self.offers codec (.commitDiscover requestId snapshot)) := by
  simp only [commitDiscover, offers]
  cases hframes : discoveryFrames codec requestId snapshot with
  | error e => exact outcome_stay hbound
  | ok frames =>
    have hbatch := enqueueBatch_outcome self frames
    simp only
    cases hresult : self.enqueueBatch frames with
    | mk next result =>
      rw [hresult] at hbatch
      cases result with
      | error capacity => exact hbatch
      | ok u =>
        simp only
        exact outcome_updateClient hbatch fun _ => rfl

include hbound in
theorem beginSubscribe_outcome (requestId : String) (sessionId : SessionId) :
    Outcome self (self.beginSubscribe codec requestId sessionId).1
      (self.offers codec (.beginSubscribe requestId sessionId)) := by
  simp only [beginSubscribe, offers]
  cases hclient : self.client with
  | none => exact outcome_stay hbound
  | some client =>
    simp only [repeatedOffer]
    cases hdiscovered : client.discovered.contains sessionId with
    | false => exact outcome_stay hbound
    | true =>
      cases hpending : client.pending with
      | some pending => exact outcome_stay hbound
      | none =>
        have hnone : self.pending? = none := by
          rw [pending?, hclient]
          exact hpending
        cases hsub : client.subscriptions.contains sessionId with
        | false =>
          -- the synchronization begins with empty lists
          refine .dropped rfl hbound rfl ?_
          simp only [Bool.not_true, Bool.false_eq_true, if_false, Option.isSome_none]
          rw [setPending_some_held hclient, held_of_none hnone]
          simp
        | true =>
          cases hcursor : client.sessionCursors[sessionId]?.bind eventSequence? with
          | none => exact outcome_stay hbound
          | some baseline =>
            cases hencode : encodeServerMessage codec (.subscriptionResult requestId sessionId
                .alreadySubscribed baseline 0 0 false) with
            | error e =>
              simp only [hencode]
              exact outcome_stay hbound
            | ok frame =>
              have henqueue := enqueue_outcome self frame
              simp only [hencode]
              cases hresult : self.enqueue frame with
              | mk next result =>
                rw [hresult] at henqueue
                cases result <;> exact henqueue

include hbound in
/-- The collected frames move to the output queue between the two control
frames, or are given up with the connection. -/
theorem commitSubscribe_outcome (requestId : String) (sessionId : SessionId)
    (outcome : SessionSyncOutcome) :
    Outcome self (self.commitSubscribe codec requestId sessionId outcome).1
      (self.offers codec (.commitSubscribe requestId sessionId outcome)) := by
  simp only [commitSubscribe, offers, commitOffer]
  cases hbaseline : eventSequence? outcome.throughSequence with
  | none => exact outcome_stay hbound
  | some baseline =>
    cases hpending : self.pending? with
    | none =>
      simp only
      cases hresult : encodeServerMessage codec (.subscriptionResult requestId sessionId
          (if outcome.subscribed then .subscribed else .catchingUp) baseline
          outcome.pendingInteractionCount outcome.eventCount outcome.reset) with
      | error e => exact outcome_stay hbound
      | ok result =>
        cases hclient : self.client with
        | none => exact outcome_stay hbound
        | some client =>
          have hnone : client.pending = none := by simpa [pending?, hclient] using hpending
          simp only [hnone]
          exact outcome_stay hbound
    | some pending =>
      obtain ⟨client, hclient, hclientPending⟩ := Option.bind_eq_some_iff.mp hpending
      simp only
      cases hresult : encodeServerMessage codec (.subscriptionResult requestId sessionId
          (if outcome.subscribed then .subscribed else .catchingUp) baseline
          outcome.pendingInteractionCount outcome.eventCount outcome.reset) with
      | error e => exact outcome_stay hbound
      | ok result =>
        simp only [hclient, hclientPending]
        cases hcompleted : encodeServerMessage codec (.syncCompleted requestId) with
        | error e => exact .dropped rfl hbound rfl (setPending_none_sublist self)
        | ok completed =>
          simp only
          have hheld := held_of_some hpending
          have hlength := length_held self
          rw [hheld, List.length_append, List.length_append] at hlength
          have htaken : (self.setPending none).queuedLen = self.outgoing.length := by
            rw [← length_held, setPending_none_held]
          have hbatch : (result :: pending.frames ++ completed :: pending.trailingFrames).length =
              pending.frames.length + pending.trailingFrames.length + 2 := by
            simp only [List.length_append, List.length_cons]
            omega
          unfold enqueueBatch
          by_cases hfull : (self.setPending none).capacity < (self.setPending none).queuedLen +
              (result :: pending.frames ++ completed :: pending.trailingFrames).length
          · rw [if_pos hfull]
            rw [setPending_capacity, htaken, hbatch] at hfull
            refine .refused rfl ?_ rfl rfl (setPending_none_sublist self)
            simp only [List.length_cons, List.length_nil]
            omega
          · rw [if_neg hfull]
            rw [setPending_capacity, htaken, hbatch] at hfull
            have hsent : ((self.setPending none).append
                (result :: pending.frames ++ completed :: pending.trailingFrames)).held =
                self.outgoing ++
                  (result :: pending.frames ++ completed :: pending.trailingFrames) :=
              held_of_none (setPending_none_pending? self)
            have hadded : Outcome self ((self.setPending none).append
                (result :: pending.frames ++ completed :: pending.trailingFrames))
                [result, completed] := by
              refine .added rfl ?_ rfl ?_
              · simp only [List.length_cons, List.length_nil]
                omega
              · rw [hsent, hheld, List.append_assoc]
                exact List.Perm.append_left _ (around_perm _ _ _ _)
            exact outcome_recordSync hadded sessionId outcome

variable (codec) in
include hbound in
/-- Every section within a connection offers its frames all or none. -/
theorem apply_outcome {op : DeliveryOp} (hop : op.clears = false) :
    Outcome self (self.apply codec op) (self.offers codec op) := by
  cases op with
  | port call => exact call_outcome hbound call
  | extend sessionId requestId frames => exact extendPending_outcome self sessionId requestId frames
  | enqueue frame => exact enqueue_outcome self frame
  | enqueueBatch frames => exact enqueueBatch_outcome self frames
  | enqueueControl message => exact enqueueControl_outcome hbound message
  | openClient sessionCursors => cases hop
  | commitDiscover requestId snapshot => exact commitDiscover_outcome hbound requestId snapshot
  | beginSubscribe requestId sessionId => exact beginSubscribe_outcome hbound requestId sessionId
  | commitSubscribe requestId sessionId outcome =>
    exact commitSubscribe_outcome hbound requestId sessionId outcome
  | takePending => exact .dropped rfl hbound rfl (setPending_none_sublist self)
  | removeSubscription sessionId =>
    exact outcome_updateClient (outcome_stay hbound) fun _ => rfl
  | drain => exact .dropped rfl hbound rfl (List.Sublist.append_right (List.tail_sublist _) _)
  | clearConnection => cases hop

end Offers

/-- What holds between two sections. -/
structure Bounded (state : DeliveryState) (capacity : Nat) : Prop where
  capacity_eq : state.capacity = capacity
  queuedLen_le : state.queuedLen ≤ capacity
  reason : ∀ reason, state.abortReason = some reason → reason = limitReason capacity

variable {codec}

theorem apply_bounded {self : DeliveryState} {capacity : Nat} (h : self.Bounded capacity)
    (op : DeliveryOp) : (self.apply codec op).Bounded capacity := by
  obtain ⟨rfl, hlen, hreason⟩ := h
  cases hop : op.clears with
  | true =>
    cases op with
    | openClient sessionCursors => exact ⟨rfl, Nat.zero_le _, by simp [apply, openClient,
        clearConnection]⟩
    | clearConnection => exact ⟨rfl, Nat.zero_le _, by simp [apply, clearConnection]⟩
    | _ => cases hop
  | false =>
    have hheld : self.held.length ≤ self.capacity := by rwa [length_held]
    cases apply_outcome codec hlen hop with
    | refused hcapacity hfull hset hout hsub =>
      refine ⟨hcapacity, ?_, ?_⟩
      · rw [← length_held]
        exact hsub.length_le.trans hheld
      · intro reason hnext
        rw [hset] at hnext
        exact (Option.some.inj hnext).symm
    | dropped hcapacity hroom hkept hsub =>
      refine ⟨hcapacity, ?_, ?_⟩
      · rw [← length_held]
        exact hsub.length_le.trans hheld
      · rwa [hkept]
    | added hcapacity hroom hkept hperm =>
      refine ⟨hcapacity, ?_, ?_⟩
      · rw [← length_held, hperm.length_eq, List.length_append, length_held]
        exact hroom
      · rwa [hkept]

theorem after_bounded {self : DeliveryState} {capacity : Nat} (h : self.Bounded capacity)
    (ops : List DeliveryOp) : (self.after codec ops).Bounded capacity := by
  induction ops generalizing self with
  | nil => exact h
  | cons op ops ih => exact ih (apply_bounded h op)

theorem new_bounded (capacity : Nat) : (new capacity).Bounded capacity :=
  ⟨rfl, Nat.zero_le _, by simp [new]⟩

/-- A section that ends no connection does not take the reason back. -/
theorem apply_aborted {self : DeliveryState} {capacity : Nat} (h : self.Bounded capacity)
    {op : DeliveryOp} (hop : op.clears = false) {reason : String}
    (hreason : self.abortReason = some reason) :
    (self.apply codec op).abortReason = some reason := by
  obtain ⟨rfl, hlen, hlimit⟩ := h
  cases apply_outcome codec hlen hop with
  | refused hcapacity hfull hset hout hsub => rw [hset, ← hlimit reason hreason]
  | dropped hcapacity hroom hkept hsub => rw [hkept, hreason]
  | added hcapacity hroom hkept hperm => rw [hkept, hreason]

theorem after_aborted {self : DeliveryState} {capacity : Nat} (h : self.Bounded capacity)
    {ops : List DeliveryOp} (hops : ∀ op ∈ ops, op.clears = false) {reason : String}
    (hreason : self.abortReason = some reason) :
    (self.after codec ops).abortReason = some reason := by
  induction ops generalizing self with
  | nil => exact hreason
  | cons op ops ih =>
    have hop := hops op List.mem_cons_self
    exact ih (apply_bounded h op) (fun other hother => hops other (List.mem_cons_of_mem _ hother))
      (apply_aborted h hop hreason)

theorem fits_of_clears {self : DeliveryState} {op : DeliveryOp}
    (hlen : self.queuedLen ≤ self.capacity) (hop : op.clears = true) : self.Fits codec op := by
  cases op with
  | openClient sessionCursors => exact hlen
  | clearConnection => exact hlen
  | _ => cases hop

variable (codec)

/-- In every state that the sections reach from an empty queue, the frames held
are within the capacity. A section whose frames do not fit adds none of them
and records the reason; one whose frames fit records nothing and adds all of
them or, when it finds its subscription gone, none. The reason stays until the
connection is cleared. -/
theorem run_bounded (capacity : Nat) (ops : List DeliveryOp) :
    let state := (new capacity).after codec ops
    state.queuedLen ≤ capacity ∧
      (∀ op, ¬ state.Fits codec op →
        (state.apply codec op).abortReason = some (limitReason capacity) ∧
          (state.apply codec op).outgoing = state.outgoing ∧
          (state.apply codec op).held.Sublist state.held) ∧
      (∀ op, state.Fits codec op → op.clears = false →
        (state.apply codec op).abortReason = state.abortReason ∧
          ((state.apply codec op).held.Sublist state.held ∨
            (state.apply codec op).held.Perm (state.held ++ state.offers codec op))) ∧
      ∀ reason rest, state.abortReason = some reason → (∀ op ∈ rest, op.clears = false) →
        (state.after codec rest).abortReason = some reason := by
  intro state
  have hbounded : ((new capacity).after codec ops).Bounded capacity :=
    after_bounded (new_bounded capacity) ops
  have hlen := hbounded.queuedLen_le.trans_eq hbounded.capacity_eq.symm
  refine ⟨hbounded.queuedLen_le, ?_, ?_, ?_⟩
  · intro op hfull
    have hop : op.clears = false := by
      cases hclears : op.clears with
      | true => exact absurd (fits_of_clears hlen hclears) hfull
      | false => rfl
    cases apply_outcome codec hlen hop with
    | refused hcapacity hover hset hout hsub =>
      rw [hbounded.capacity_eq] at hset
      exact ⟨hset, hout, hsub⟩
    | dropped hcapacity hroom hkept hsub => exact absurd hroom hfull
    | added hcapacity hroom hkept hperm => exact absurd hroom hfull
  · intro op hfits hop
    cases apply_outcome codec hlen hop with
    | refused hcapacity hover hset hout hsub => exact absurd hfits (Nat.not_le_of_lt hover)
    | dropped hcapacity hroom hkept hsub => exact ⟨hkept, .inl hsub⟩
    | added hcapacity hroom hkept hperm => exact ⟨hkept, .inr hperm⟩
  · intro reason rest hreason hrest
    exact after_aborted hbounded hrest hreason

end DeliveryState

namespace NativeSystem

variable {Other : Type} (codec : NativeCodec) (config : NativeChannelConfig)
  (otherPorts : Ports Other)

/-- The step runs sections of the delivery state, or leaves it alone. -/
def Sections (self next : NativeSystem Other) : Prop :=
  ∃ ops, next.delivery = self.delivery.after codec ops

theorem sections_same {self next : NativeSystem Other} (h : next.delivery = self.delivery) :
    Sections codec self next := ⟨[], h⟩

theorem sections_one {self next : NativeSystem Other} (op : DeliveryOp)
    (h : next.delivery = self.delivery.apply codec op) : Sections codec self next := ⟨[op], h⟩

@[simp] theorem settle_delivery (self : NativeSystem Other)
    (result : Except ConnectionFailure Unit) : (self.settle result).delivery = self.delivery := by
  unfold settle
  cases result with
  | ok u => rfl
  | error e => cases e <;> rfl

theorem processHello_delivery (self : NativeSystem Other) (authenticatedClientId : Option String)
    (message : NativeClientMessage) :
    (self.processHello config authenticatedClientId message).delivery = self.delivery := by
  unfold processHello
  cases message with
  | hello clientId _ _ versions _ _ =>
    simp only
    split
    · exact settle_delivery self _
    · split
      · exact settle_delivery self _
      · rfl
  | _ => exact settle_delivery self _

theorem readSocket_delivery (self : NativeSystem Other) (connection : Connection)
    (input : WorkerInput) :
    (self.readSocket codec config connection input).delivery = self.delivery := by
  unfold readSocket
  cases input with
  | message message =>
    simp only
    split
    · rfl
    · split
      · cases message <;> rfl
      · exact processHello_delivery config self _ message
  | _ => rfl

theorem localStep_sections (self : NativeSystem Other) (input : WorkerInput) :
    Sections codec self (self.localStep codec config input) := by
  cases hpc : self.pc with
  | accepting =>
    simp only [localStep, hpc, pollListener]
    refine sections_same codec ?_
    cases input <;> simp only <;> first | rfl | (split <;> rfl)
  | checking =>
    simp only [localStep, hpc]
    refine sections_same codec ?_
    cases input <;> simp only <;> first | rfl | (split <;> rfl)
  | draining =>
    simp only [localStep, hpc, drainOne]
    cases hconnection : self.connection with
    | none => exact sections_same codec rfl
    | some connection =>
      simp only
      cases hout : self.delivery.outgoing with
      | nil => exact sections_same codec rfl
      | cons frame rest =>
        refine sections_one codec .drain ?_
        simp only [DeliveryState.apply, hout, List.tail_cons]
        rfl
  | reading =>
    simp only [localStep, hpc]
    cases hconnection : self.connection with
    | none => exact sections_same codec rfl
    | some connection => exact sections_same codec (readSocket_delivery codec config self _ input)
  | hello sessionCursors resumeAccepted =>
    simp only [localStep, hpc]
    cases hconnection : self.connection with
    | none => exact sections_same codec rfl
    | some connection => exact sections_one codec (.openClient sessionCursors) rfl
  | discover requestId =>
    simp only [localStep, hpc]
    refine sections_same codec ?_
    split
    · exact settle_delivery self _
    · rfl
  | discoverBatch requestId snapshot =>
    simp only [localStep, hpc]
    exact sections_one codec (.commitDiscover requestId snapshot) (settle_delivery _ _)
  | subscribe requestId sessionId =>
    simp only [localStep, hpc]
    refine sections_one codec (.beginSubscribe requestId sessionId) ?_
    simp only [DeliveryState.apply]
    split
    · next hresult => rw [hresult]; exact settle_delivery _ _
    · next hresult => rw [hresult]; exact settle_delivery _ _
    · next hresult => rw [hresult]; rfl
  | subscribeFailed requestId sessionId e =>
    simp only [localStep, hpc]
    exact sections_one codec .takePending (settle_delivery _ _)
  | subscribeCommit requestId sessionId outcome =>
    simp only [localStep, hpc]
    exact sections_one codec (.commitSubscribe requestId sessionId outcome) (settle_delivery _ _)
  | unsubscribeRecord requestId sessionId outcome =>
    simp only [localStep, hpc]
    exact sections_one codec (.removeSubscription sessionId) rfl
  | respond requestId response =>
    simp only [localStep, hpc]
    refine sections_same codec ?_
    split
    · rfl
    · exact settle_delivery self _
  | command requestId command =>
    simp only [localStep, hpc]
    refine sections_same codec ?_
    split
    · rfl
    · exact settle_delivery self _
  | reply message =>
    simp only [localStep, hpc]
    exact sections_one codec (.enqueueControl message) (settle_delivery _ _)
  | reject message =>
    simp only [localStep, hpc]
    exact sections_one codec (.enqueueControl message) rfl
  | unsubscribing remaining last =>
    cases remaining with
    | nil =>
      simp only [localStep, hpc]
      exact sections_one codec .clearConnection rfl
    | cons sessionId remaining =>
      simp only [localStep, hpc]
      exact sections_same codec rfl
  | _ =>
    simp only [localStep, hpc]
    exact sections_same codec rfl

/-- A call that reaches the native port is a section of its state. -/
theorem nativePorts_sections (world : NativeWorld Other) (call : PortCall) :
    ∃ ops, (nativePorts codec config.channelId otherPorts world call).1.delivery =
      world.delivery.after codec ops := by
  by_cases hnative : call.channelId? = some config.channelId
  · rw [nativePorts_native codec otherPorts world hnative]
    exact ⟨[.port call], rfl⟩
  · rw [nativePorts_other codec config.channelId otherPorts world hnative]
    exact ⟨[], rfl⟩

theorem syncSession_sections (self : NativeSystem Other) (sessionId : SessionId)
    (afterSequence : Nat) :
    ∃ ops, (self.bridge.syncSession (nativePorts codec config.channelId otherPorts)
      config.channelId sessionId afterSequence sessionSyncPageEvents).1.world.delivery =
        self.delivery.after codec ops := by
  rcases Bridge.syncSession_cases (nativePorts codec config.channelId otherPorts) self.bridge
    config.channelId sessionId afterSequence sessionSyncPageEvents with ⟨e, he, -⟩ |
    ⟨aggregate, -, -, -, -, he⟩ | ⟨channel, aggregate, provider, sync, world, result, -, hport, he⟩
  · exact ⟨[], by rw [he]; rfl⟩
  · exact ⟨[], by rw [he]; rfl⟩
  · obtain ⟨ops, hops⟩ := nativePorts_sections codec config otherPorts self.bridge.world
      (.deliverSessionSync config.channelId sync)
    rw [hport] at hops
    refine ⟨ops, ?_⟩
    rw [he]
    cases result with
    | ok u =>
      simp only [Bridge.afterSync_world]
      exact hops
    | error source => exact hops

theorem bridgeStep_sections (self : NativeSystem Other) :
    Sections codec self (self.bridgeStep codec config otherPorts) := by
  cases hpc : self.pc with
  | discoverSnapshot requestId =>
    simp only [bridgeStep, hpc]
    exact sections_same codec rfl
  | subscribeSync requestId sessionId afterSequence =>
    obtain ⟨ops, hops⟩ := syncSession_sections codec config otherPorts self sessionId afterSequence
    simp only [bridgeStep, hpc]
    cases hresult : self.bridge.syncSession (nativePorts codec config.channelId otherPorts)
        config.channelId sessionId afterSequence sessionSyncPageEvents with
    | mk bridge result =>
      rw [hresult] at hops
      cases result <;> exact ⟨ops, hops⟩
  | unsubscribe requestId sessionId =>
    have hworld := Bridge.unsubscribe_world self.bridge config.channelId sessionId
    simp only [bridgeStep, hpc]
    refine sections_same codec ?_
    cases hresult : self.bridge.unsubscribe config.channelId sessionId with
    | mk bridge result =>
      rw [hresult] at hworld
      cases result with
      | ok outcome => exact congrArg NativeWorld.delivery hworld
      | error e =>
        exact (settle_delivery _ _).trans (congrArg NativeWorld.delivery hworld)
  | submitResponse requestId response =>
    have huntouched := untouched_handleInteractionResponse codec config.channelId otherPorts
      self.bridge config.channelId response
    simp only [bridgeStep, hpc]
    refine sections_same codec ?_
    cases hresult : self.bridge.handleInteractionResponse
        (nativePorts codec config.channelId otherPorts) config.channelId response with
    | mk bridge result =>
      rw [hresult] at huntouched
      cases result with
      | ok u => exact huntouched.delivery
      | error e => exact (settle_delivery _ _).trans huntouched.delivery
  | submitCommand requestId command =>
    have huntouched := untouched_handleCommand codec config.channelId otherPorts self.bridge
      config.channelId command
    simp only [bridgeStep, hpc]
    refine sections_same codec ?_
    cases hresult : self.bridge.handleCommand
        (nativePorts codec config.channelId otherPorts) config.channelId command with
    | mk bridge result =>
      rw [hresult] at huntouched
      cases result with
      | ok u => exact huntouched.delivery
      | error e => exact (settle_delivery _ _).trans huntouched.delivery
  | unsubscribing remaining last =>
    cases remaining with
    | nil =>
      simp only [bridgeStep, hpc]
      exact sections_same codec rfl
    | cons sessionId remaining =>
      simp only [bridgeStep, hpc]
      exact sections_same codec (congrArg NativeWorld.delivery
        (Bridge.unsubscribe_world self.bridge config.channelId sessionId))
  | _ =>
    simp only [bridgeStep, hpc]
    exact sections_same codec rfl

theorem publish_sections (self : NativeSystem Other) (providerId : ProviderId)
    (event : AgentEvent) : Sections codec self (self.publish providerId event).1 := by
  unfold publish
  rcases Bridge.beginProviderEvent_cases self.bridge providerId event with ⟨e, he, -⟩ |
    ⟨old, -, -, he⟩ | ⟨provider, session, routes, aggregate, -, he⟩
  · rw [he]
    exact sections_same codec rfl
  · rw [he]
    exact sections_same codec rfl
  · rw [he]
    exact sections_same codec rfl

theorem deliverNext_sections (self : NativeSystem Other) (publication : Publication) :
    Sections codec self (self.deliverNext codec config otherPorts publication).1 := by
  unfold deliverNext
  cases hroutes : publication.routes with
  | nil => exact sections_same codec rfl
  | cons route rest =>
    cases hhandoff : publication.handoff with
    | none =>
      simp only
      split
      · exact sections_same codec rfl
      · exact nativePorts_sections codec config otherPorts self.bridge.world _
    | some session => exact nativePorts_sections codec config otherPorts self.bridge.world _

/-- Whatever step is taken, the delivery state changes by its sections only. -/
theorem step_sections (self : NativeSystem Other) (input : NativeInput) :
    Sections codec self (step codec config otherPorts self input).1 := by
  cases input with
  | worker input =>
    simp only [step]
    split
    · split
      · exact sections_same codec rfl
      · exact bridgeStep_sections codec config otherPorts self
    · exact localStep_sections codec config self input
  | publish providerId event =>
    simp only [step]
    split
    · exact sections_same codec rfl
    · exact publish_sections codec self providerId event
  | deliver =>
    simp only [step]
    split
    · exact sections_same codec rfl
    · exact deliverNext_sections codec config otherPorts self _
  | foreign op =>
    simp only [step]
    split
    · exact sections_same codec rfl
    · next hop =>
      have hforeign : op.isForeign config.channelId = true := by
        simp only [Bool.or_eq_true, Bool.not_eq_true', not_or, Bool.not_eq_false] at hop
        exact hop.2
      exact sections_same codec
        (untouched_foreign codec config.channelId otherPorts self.bridge hforeign).delivery

/-- The delivery state of a running channel is one that its sections reach. -/
theorem run_sections (sessionConfig : SessionAggregateConfig) (others : Other)
    (inputs : List NativeInput) :
    ∃ ops, (run codec config otherPorts sessionConfig others inputs).delivery =
      (DeliveryState.new config.outboundCapacity).after codec ops := by
  refine Trace.final_invariant (step codec config otherPorts)
    (fun self => ∃ ops, self.delivery =
      (DeliveryState.new config.outboundCapacity).after codec ops) ?_ _ inputs ⟨[], ?_⟩
  · rintro self input ⟨ops, hops⟩
    obtain ⟨more, hmore⟩ := step_sections codec config otherPorts self input
    refine ⟨ops ++ more, ?_⟩
    rw [DeliveryState.after_append, ← hops]
    exact hmore
  · simp only [delivery, start, Bridge.registerChannel]
    split <;> rfl

/-- No run of the channel ever holds more frames than it is configured for. -/
theorem run_queuedLen (sessionConfig : SessionAggregateConfig) (others : Other)
    (inputs : List NativeInput) :
    (run codec config otherPorts sessionConfig others inputs).delivery.queuedLen ≤
      config.outboundCapacity := by
  obtain ⟨ops, hops⟩ := run_sections codec config otherPorts sessionConfig others inputs
  rw [hops]
  exact (DeliveryState.after_bounded (DeliveryState.new_bounded _) ops).queuedLen_le

end NativeSystem

end AgentPulse

import AgentPulse.NativeRuntime
import AgentPulse.BridgeSync

/-!
# The sections of the native channel, one by one

What the port, the sections of the worker and the operations of other threads
do to the delivery state and to the native subscriptions.
-/
namespace AgentPulse

open Std (ExtTreeMap ExtTreeSet)

/-- Frames at the end of the output queue. -/
def DeliveryState.append (self : DeliveryState) (frames : List Frame) : DeliveryState :=
  { self with outgoing := self.outgoing ++ frames }

namespace NativeChannelPort

variable (codec : NativeCodec)

/-- Where an accepted live frame goes. -/
def push (self : DeliveryState) (sessionId : SessionId) (frame : Frame) : DeliveryState :=
  match self.client.bind fun client => client.pendingFor sessionId with
  | none => self.append [frame]
  | some pending =>
    if pending.syncDelivered then
      self.setPending (some { pending with trailingFrames := pending.trailingFrames ++ [frame] })
    else self.setPending (some { pending with frames := pending.frames ++ [frame] })

theorem encodedText_eq_ok {message frame : NativeServerMessage} :
    encodedText codec message = .ok frame ↔ encodeServerMessage codec message = .ok frame :=
  Fallible.mapError_eq_ok

/-- A live frame is refused without a trace, refused for lack of room, or
accepted. -/
theorem deliver_cases (self : DeliveryState) (sessionId : SessionId) (message : ProtocolMessage)
    (eventRoute : Option ChannelEventRoute) :
    (∃ e, deliver codec self sessionId message eventRoute = (self, .error e) ∧
      ∀ client context, self.client = some client →
        deliveryContext client sessionId eventRoute = .ok context →
        ∃ e', encodeServerMessage codec (.domain context message) = .error e') ∨
    (∃ e, deliver codec self sessionId message eventRoute = (self.abortFull, .error e)) ∨
    (∃ client context, self.client = some client ∧
      deliveryContext client sessionId eventRoute = .ok context ∧
      encodeServerMessage codec (.domain context message) = .ok (.domain context message) ∧
      deliver codec self sessionId message eventRoute =
        (push self sessionId (.domain context message), .ok ())) := by
  unfold deliver
  cases hclient : self.client with
  | none => exact .inl ⟨_, rfl, by simp⟩
  | some client =>
    cases hcontext : deliveryContext client sessionId eventRoute with
    | error e =>
      refine .inl ⟨e, by simp [hcontext], ?_⟩
      rintro c x hc hx
      cases hc
      rw [hcontext] at hx
      cases hx
    | ok context =>
      cases hencode : encodeServerMessage codec (.domain context message) with
      | error e =>
        refine .inl ⟨.protocol e, by simp [hcontext, encodedText, hencode, Except.mapError], ?_⟩
        rintro c x hc hx
        cases hc
        rw [hcontext] at hx
        cases hx
        exact ⟨e, hencode⟩
      | ok frame =>
        have hframe : frame = .domain context message := encodeServerMessage_eq codec hencode
        subst hframe
        have htext : encodedText codec (.domain context message) = .ok (.domain context message) :=
          (encodedText_eq_ok codec).mpr hencode
        by_cases hfull : self.capacity ≤ self.queuedLen
        · refine .inr (.inl ⟨.queueFull self.capacity, ?_⟩)
          cases hpending : client.pendingFor sessionId with
          | none => simp [hcontext, htext, hpending, hfull, DeliveryState.enqueue, Except.mapError]
          | some pending => simp [hcontext, htext, hpending, hfull]
        · refine .inr (.inr ⟨client, context, rfl, hcontext, hencode, ?_⟩)
          cases hpending : client.pendingFor sessionId with
          | none =>
            simp [hcontext, htext, hpending, hfull, DeliveryState.enqueue, Except.mapError, push,
              hclient, DeliveryState.append]
          | some pending =>
            cases hsync : pending.syncDelivered <;>
              simp [hcontext, htext, hpending, hfull, hsync, push, hclient]

/-- The frame of one event of a page. -/
def eventFrame (routed : RoutedAgentEvent) : Frame :=
  .domain (.liveEvent (.fromCore routed.route)) (.agentEvent routed.event)

def interactionFrame (requestId : String) (interaction : RoutedInteractionRequest) : Frame :=
  .domain (.subscriptionInteraction requestId (.fromCore (.interaction interaction.route)))
    (.interactionRequest interaction.request)

/-- The frames of a baseline, session first. -/
def baselineFramesOf (requestId : String) (baseline : ChannelSessionBaseline) : List Frame :=
  .domain (.subscriptionSession requestId) (.agentSession baseline.session) ::
    baseline.pendingInteractions.map (interactionFrame requestId)

/-- The frames of a page with the baseline that a final page carries. -/
def syncFramesOf (requestId : String) (sync : ChannelSessionSync) : List Frame :=
  sync.events.map eventFrame ++
    match sync.baseline with
    | some baseline => baselineFramesOf requestId baseline
    | none => []

theorem baselineFrames_ok {requestId : String} {baseline : ChannelSessionBaseline}
    {frames : List Frame} (h : baselineFrames codec requestId baseline = .ok frames) :
    frames = baselineFramesOf requestId baseline := by
  unfold baselineFrames at h
  rw [Fallible.bind_eq_ok] at h
  obtain ⟨session, hsession, h⟩ := h
  rw [Fallible.bind_eq_ok] at h
  obtain ⟨interactions, hinteractions, h⟩ := h
  have hfirst := encodeServerMessage_eq codec ((encodedText_eq_ok codec).mp hsession)
  have hrest : interactions = baseline.pendingInteractions.map (interactionFrame requestId) :=
    Fallible.mapM_eq_map (fun interaction frame hframe =>
      encodeServerMessage_eq codec ((encodedText_eq_ok codec).mp hframe)) hinteractions
  cases h
  rw [hfirst, hrest]
  rfl

theorem eventFrames_ok {sessionId : SessionId} {events : List RoutedAgentEvent}
    {frames : List Frame} (h : eventFrames codec sessionId events = .ok frames) :
    frames = events.map eventFrame := by
  refine Fallible.mapM_eq_map ?_ h
  intro routed frame hframe
  split at hframe
  · cases hframe
  · exact encodeServerMessage_eq codec ((encodedText_eq_ok codec).mp hframe)

theorem syncFrames_ok {sessionId : SessionId} {requestId : String} {sync : ChannelSessionSync}
    {frames : List Frame} (h : syncFrames codec sessionId requestId sync = .ok frames) :
    frames = syncFramesOf requestId sync := by
  unfold syncFrames at h
  rw [Fallible.bind_eq_ok] at h
  obtain ⟨events, hevents, h⟩ := h
  have hpage := eventFrames_ok codec hevents
  cases hbaseline : sync.baseline with
  | none =>
    simp only [hbaseline, bind, Except.bind] at h
    cases h
    simp [syncFramesOf, hpage, hbaseline]
  | some baseline =>
    simp only [hbaseline] at h
    rw [Fallible.bind_eq_ok] at h
    obtain ⟨rest, hrest, h⟩ := h
    cases h
    simp [syncFramesOf, hpage, hbaseline, baselineFrames_ok codec hrest]

end NativeChannelPort

/-- The synchronization in progress after its page was delivered. -/
def PendingSubscription.withSync (self : PendingSubscription) (sync : ChannelSessionSync) :
    PendingSubscription :=
  { self with
    frames := self.frames ++ NativeChannelPort.syncFramesOf self.requestId sync
    syncDelivered := true }

namespace NativeChannelPort

variable (codec : NativeCodec)

/-- A page is refused without a trace, refused for lack of room, or added to the
synchronization in progress. -/
theorem deliverSessionSync_cases (self : DeliveryState) (sync : ChannelSessionSync) :
    (∃ e, deliverSessionSync codec self sync = (self, .error e)) ∨
    (∃ e, deliverSessionSync codec self sync = (self.abortFull, .error e)) ∨
    (∃ pending, self.pending? = some pending ∧
      deliverSessionSync codec self sync =
        (self.setPending (some (pending.withSync sync)), .ok ())) := by
  unfold deliverSessionSync
  cases hpending : self.pending? with
  | none => exact .inl ⟨_, rfl⟩
  | some pending =>
    cases hframes : syncFrames codec pending.sessionId pending.requestId sync with
    | error e => exact .inl ⟨e, by simp [hframes]⟩
    | ok frames =>
      have hof := syncFrames_ok codec hframes
      subst hof
      by_cases hfull : self.capacity < self.queuedLen +
          (syncFramesOf pending.requestId sync).length
      · exact .inr (.inl ⟨.queueFull self.capacity, by simp [hframes, extendPending, hfull]⟩)
      · exact .inr (.inr ⟨pending, rfl, by simp [hframes, extendPending, hfull, hpending,
          Option.filter, PendingSubscription.withSync]⟩)

end NativeChannelPort

/-- Frames that answer other requests; they carry no part of a session's stream. -/
def NativeServerMessage.isControl : NativeServerMessage → Bool
  | .domain _ _ => false
  | .subscriptionResult _ _ _ _ _ _ _ => false
  | .syncCompleted _ => false
  | _ => true

namespace DeliveryState

variable (codec : NativeCodec)

@[simp] theorem setPending_outgoing (self : DeliveryState) (pending : Option PendingSubscription) :
    (self.setPending pending).outgoing = self.outgoing := rfl

@[simp] theorem setPending_capacity (self : DeliveryState) (pending : Option PendingSubscription) :
    (self.setPending pending).capacity = self.capacity := rfl

@[simp] theorem setPending_none_pending? (self : DeliveryState) :
    (self.setPending none).pending? = none := by
  unfold setPending updateClient pending?
  cases self.client <;> rfl

theorem enqueue_cases (self : DeliveryState) (frame : Frame) :
    self.enqueue frame = (self.abortFull, .error self.capacity) ∨
    self.enqueue frame = (self.append [frame], .ok ()) := by
  unfold enqueue
  by_cases hfull : self.capacity ≤ self.queuedLen
  · exact .inl (by rw [if_pos hfull])
  · exact .inr (by rw [if_neg hfull, append])

theorem enqueueControl_cases (self : DeliveryState) (message : NativeServerMessage) :
    (∃ e, self.enqueueControl codec message = (self, .error e)) ∨
    (∃ e, self.enqueueControl codec message = (self.abortFull, .error e)) ∨
    self.enqueueControl codec message = (self.append [message], .ok ()) := by
  unfold enqueueControl
  cases hencode : encodeServerMessage codec message with
  | error e => exact .inl ⟨e, rfl⟩
  | ok frame =>
    have hframe := encodeServerMessage_eq codec hencode
    subst hframe
    rcases self.enqueue_cases frame with h | h
    · exact .inr (.inl ⟨queueError self.capacity, by simp [h, Except.mapError]⟩)
    · exact .inr (.inr (by simp [h, Except.mapError]))

theorem encodeServerMessage_subscriptionResult {requestId : String} (sessionId : SessionId)
    (status : NativeSubscriptionStatus) (baseline : EventSequence) (interactions events : Nat)
    (reset : Bool) (h : validateUuidV7 codec "request_id" requestId = .ok ()) :
    encodeServerMessage codec (.subscriptionResult requestId sessionId status baseline interactions
      events reset) = .ok (.subscriptionResult requestId sessionId status baseline interactions
      events reset) := by
  simp [encodeServerMessage, validateServerMessage, encodeNested, h, bind, Except.bind]

theorem encodeServerMessage_syncCompleted {requestId : String}
    (h : validateUuidV7 codec "request_id" requestId = .ok ()) :
    encodeServerMessage codec (.syncCompleted requestId) = .ok (.syncCompleted requestId) := by
  simp [encodeServerMessage, validateServerMessage, encodeNested, h, bind, Except.bind]

/-- The first section of a subscribe request is refused, answered at once, or
leaves the synchronization pending. -/
theorem beginSubscribe_cases (self : DeliveryState) (requestId : String) (sessionId : SessionId) :
    (∃ message, NativeServerMessage.isControl message = true ∧
      self.beginSubscribe codec requestId sessionId = (self, .error (.recoverable message))) ∨
    (∃ e, self.beginSubscribe codec requestId sessionId = (self, .error (.fatal e))) ∨
    (∃ e, self.beginSubscribe codec requestId sessionId = (self.abortFull, .error (.fatal e))) ∨
    (∃ client baseline, self.client = some client ∧ sessionId ∈ client.subscriptions ∧
      client.sessionCursors[sessionId]? = some baseline.get ∧
      self.beginSubscribe codec requestId sessionId =
        (self.append
          [.subscriptionResult requestId sessionId .alreadySubscribed baseline 0 0 false],
          .ok true)) ∨
    (∃ client, self.client = some client ∧ sessionId ∈ client.discovered ∧
      sessionId ∉ client.subscriptions ∧ client.pending = none ∧
      self.beginSubscribe codec requestId sessionId =
        (self.setPending (some ⟨requestId, sessionId, [], [], false⟩), .ok false)) := by
  unfold beginSubscribe
  cases hclient : self.client with
  | none => exact .inl ⟨_, rfl, rfl⟩
  | some client =>
    by_cases hdiscovered : client.discovered.contains sessionId = true
    · cases hpending : client.pending with
      | some pending => exact .inl ⟨_, rfl, by simp [hdiscovered, hpending]; rfl⟩
      | none =>
        by_cases hsub : client.subscriptions.contains sessionId = true
        · cases hcursor : client.sessionCursors[sessionId]?.bind eventSequence? with
          | none => exact .inl ⟨_, rfl, by simp [hdiscovered, hpending, hsub, hcursor]; rfl⟩
          | some baseline =>
            have hget : client.sessionCursors[sessionId]? = some baseline.get := by
              obtain ⟨value, hvalue, hbaseline⟩ := Option.bind_eq_some_iff.mp hcursor
              unfold eventSequence? at hbaseline
              split at hbaseline
              · cases hbaseline
                exact hvalue
              · cases hbaseline
            cases hencode : encodeServerMessage codec (.subscriptionResult requestId sessionId
                .alreadySubscribed baseline 0 0 false) with
            | error e =>
              exact .inr (.inl ⟨e, by simp [hdiscovered, hpending, hsub, hcursor, hencode]⟩)
            | ok frame =>
              have hframe := encodeServerMessage_eq codec hencode
              subst hframe
              rcases self.enqueue_cases (.subscriptionResult requestId sessionId
                .alreadySubscribed baseline 0 0 false) with h | h
              · exact .inr (.inr (.inl ⟨queueError self.capacity, by
                  simp [hdiscovered, hpending, hsub, hcursor, hencode, h]⟩))
              · exact .inr (.inr (.inr (.inl ⟨client, baseline, rfl,
                  ExtTreeSet.contains_iff_mem.mp hsub, hget, by
                  simp [hdiscovered, hpending, hsub, hcursor, hencode, h]⟩)))
        · exact .inr (.inr (.inr (.inr ⟨client, rfl, ExtTreeSet.contains_iff_mem.mp hdiscovered,
            fun hmem => hsub (ExtTreeSet.contains_iff_mem.mpr hmem), hpending, by
            simp [hdiscovered, hpending, hsub]⟩)))
    · exact .inl ⟨_, rfl, by simp [hdiscovered]; rfl⟩

/-- The batch that ends a subscribe request. -/
def commitBatch (requestId : String) (sessionId : SessionId) (outcome : SessionSyncOutcome)
    (baseline : EventSequence) (pending : PendingSubscription) : List Frame :=
  .subscriptionResult requestId sessionId
      (if outcome.subscribed then .subscribed else .catchingUp) baseline
      outcome.pendingInteractionCount outcome.eventCount outcome.reset ::
    pending.frames ++ .syncCompleted requestId :: pending.trailingFrames

/-- The batch of the collected frames and its two control frames has room. -/
def BatchFits (self : DeliveryState) (pending : PendingSubscription) : Prop :=
  self.outgoing.length + pending.frames.length + pending.trailingFrames.length + 2 ≤ self.capacity

instance (self : DeliveryState) (pending : PendingSubscription) :
    Decidable (self.BatchFits pending) :=
  inferInstanceAs (Decidable (_ ≤ _))

/-- The last section of a subscribe request: the batch goes out, the queue is
full, or one of the checks fails that a served request always passes. -/
theorem commitSubscribe_cases (self : DeliveryState) (requestId : String) (sessionId : SessionId)
    (outcome : SessionSyncOutcome) :
    (∃ baseline pending, eventSequence? outcome.throughSequence = some baseline ∧
      self.pending? = some pending ∧ self.BatchFits pending ∧
      self.commitSubscribe codec requestId sessionId outcome =
        ((((self.setPending none).append
          (commitBatch requestId sessionId outcome baseline pending)).recordSync sessionId outcome),
          .ok ())) ∨
    (∃ pending e, self.pending? = some pending ∧ ¬ self.BatchFits pending ∧
      self.commitSubscribe codec requestId sessionId outcome =
        ((self.setPending none).abortFull, .error (.fatal e))) ∨
    (eventSequence? outcome.throughSequence = none ∨
      validateUuidV7 codec "request_id" requestId ≠ .ok () ∨ self.pending? = none) := by
  cases hbaseline : eventSequence? outcome.throughSequence with
  | none => exact .inr (.inr (.inl rfl))
  | some baseline =>
    by_cases huuid : validateUuidV7 codec "request_id" requestId = .ok ()
    · cases hpending : self.pending? with
      | none => exact .inr (.inr (.inr (.inr rfl)))
      | some pending =>
        obtain ⟨client, hclient, hclientPending⟩ := Option.bind_eq_some_iff.mp hpending
        have hresult := encodeServerMessage_subscriptionResult codec sessionId
          (if outcome.subscribed then .subscribed else .catchingUp) baseline
          outcome.pendingInteractionCount outcome.eventCount outcome.reset huuid
        have hcompleted := encodeServerMessage_syncCompleted codec huuid
        have hlen : (self.setPending none).queuedLen +
            (commitBatch requestId sessionId outcome baseline pending).length =
            self.outgoing.length + pending.frames.length + pending.trailingFrames.length + 2 := by
          simp [queuedLen, commitBatch]
          omega
        unfold commitSubscribe
        simp only [hbaseline, hresult, hclient, hclientPending, hcompleted]
        by_cases hfits : self.BatchFits pending
        · refine .inl ⟨baseline, pending, rfl, rfl, hfits, ?_⟩
          have hroom : ¬ (self.setPending none).capacity < (self.setPending none).queuedLen +
              (commitBatch requestId sessionId outcome baseline pending).length := by
            rw [hlen, setPending_capacity]
            unfold BatchFits at hfits
            omega
          unfold commitBatch at hroom ⊢
          rw [enqueueBatch, if_neg hroom]
          rfl
        · refine .inr (.inl ⟨pending, queueError self.capacity, rfl, hfits, ?_⟩)
          have hfull : (self.setPending none).capacity < (self.setPending none).queuedLen +
              (commitBatch requestId sessionId outcome baseline pending).length := by
            rw [hlen, setPending_capacity]
            unfold BatchFits at hfits
            omega
          unfold commitBatch at hfull
          rw [enqueueBatch, if_pos hfull]
          rfl
    · exact .inr (.inr (.inr (.inl huuid)))

end DeliveryState

section Foreign

variable {Other : Type} (codec : NativeCodec) (channelId : ChannelId) (otherPorts : Ports Other)

theorem nativePorts_other (world : NativeWorld Other) {call : PortCall}
    (h : call.channelId? ≠ some channelId) :
    nativePorts codec channelId otherPorts world call =
      ({ world with others := (otherPorts world.others call).1 },
        (otherPorts world.others call).2) := by
  unfold nativePorts
  rw [if_neg h]
  rfl

theorem nativePorts_delivery (world : NativeWorld Other) {call : PortCall}
    (h : call.channelId? ≠ some channelId) :
    (nativePorts codec channelId otherPorts world call).1.delivery = world.delivery := by
  rw [nativePorts_other codec channelId otherPorts world h]

/-- What another thread leaves alone. -/
structure Untouched (before after : Bridge (NativeWorld Other)) : Prop where
  delivery : after.world.delivery = before.world.delivery
  subscriptions : ∀ sessionId,
    after.isSubscribed channelId sessionId = before.isSubscribed channelId sessionId

theorem untouched_refl (bridge : Bridge (NativeWorld Other)) :
    Untouched channelId bridge bridge := ⟨rfl, fun _ => rfl⟩

theorem untouched_setWorld {bridge : Bridge (NativeWorld Other)} {world : NativeWorld Other}
    (h : world.delivery = bridge.world.delivery) :
    Untouched channelId bridge (bridge.setWorld world) := ⟨h, fun _ => rfl⟩

theorem untouched_insertSubscription {before after : Bridge (NativeWorld Other)}
    (h : Untouched channelId before after) {target : ChannelId} (htarget : target ≠ channelId)
    (sessionId : SessionId) :
    Untouched channelId before (after.insertSubscription target sessionId) := by
  refine ⟨h.delivery, ?_⟩
  intro s
  rw [← h.subscriptions s, Bool.eq_iff_iff]
  constructor
  · intro hs
    rcases (MultiMap.contains_add _ _ _ _ _).mp hs with hs | ⟨-, hc⟩
    · exact hs
    · exact absurd hc.symm htarget
  · intro hs
    exact (MultiMap.contains_add _ _ _ _ _).mpr (.inl hs)

theorem untouched_handToProvider (bridge : Bridge (NativeWorld Other)) (providerId : ProviderId)
    (handoff : ProviderHandoffKind) {call : PortCall} (hcall : call.channelId? = none) :
    Untouched channelId bridge (bridge.handToProvider (nativePorts codec channelId otherPorts)
      providerId handoff call).1 := by
  have hother : call.channelId? ≠ some channelId := by simp [hcall]
  have hdelivery := nativePorts_delivery codec channelId otherPorts bridge.world hother
  unfold Bridge.handToProvider
  split
  · exact untouched_refl channelId bridge
  · split
    · next world source hport =>
      rw [hport] at hdelivery
      exact untouched_setWorld channelId hdelivery
    · next world hport =>
      rw [hport] at hdelivery
      exact untouched_setWorld channelId hdelivery

/-- An action of any channel reaches at most a provider port. -/
theorem untouched_handleInteractionResponse (bridge : Bridge (NativeWorld Other))
    (target : ChannelId) (response : InteractionResponse) :
    Untouched channelId bridge (bridge.handleInteractionResponse
      (nativePorts codec channelId otherPorts) target response).1 := by
  unfold Bridge.handleInteractionResponse
  split
  · exact untouched_refl channelId bridge
  · exact untouched_handToProvider codec channelId otherPorts bridge _ _ rfl

theorem untouched_handleCommand (bridge : Bridge (NativeWorld Other)) (target : ChannelId)
    (command : AgentCommand) :
    Untouched channelId bridge (bridge.handleCommand (nativePorts codec channelId otherPorts)
      target command).1 := by
  unfold Bridge.handleCommand
  split
  · exact untouched_refl channelId bridge
  · exact untouched_handToProvider codec channelId otherPorts bridge _ _ rfl

/-- Operations for other channels touch neither the native delivery state nor
the native subscriptions. -/
theorem untouched_foreign (bridge : Bridge (NativeWorld Other)) {op : BridgeOp}
    (hop : op.isForeign channelId = true) :
    Untouched channelId bridge (bridge.step (nativePorts codec channelId otherPorts) op).1 := by
  cases op with
  | registerProvider descriptor =>
    simp only [Bridge.step, Bridge.registerProvider]
    split <;> exact ⟨rfl, fun _ => rfl⟩
  | registerChannel descriptor =>
    simp only [Bridge.step, Bridge.registerChannel]
    split <;> exact ⟨rfl, fun _ => rfl⟩
  | subscribe target sessionId =>
    have htarget : target ≠ channelId := by simpa [BridgeOp.isForeign] using hop
    simp only [Bridge.step, Prod.map_fst, id_eq]
    rcases Bridge.subscribe_cases (nativePorts codec channelId otherPorts) bridge target sessionId
      with ⟨e, he, -⟩ | ⟨aggregate, -, -, he⟩ |
      ⟨channel, aggregate, provider, baseline, -, ⟨-, he⟩ | ⟨-, world, result, hport, he⟩⟩
    · rw [he]
      exact untouched_refl channelId bridge
    · rw [he]
      exact untouched_refl channelId bridge
    · rw [he]
      exact untouched_insertSubscription channelId (untouched_refl channelId bridge) htarget _
    · have hother : (PortCall.deliverSessionBaseline target baseline).channelId? ≠
          some channelId := by simpa [PortCall.channelId?] using htarget
      have hdelivery := nativePorts_delivery codec channelId otherPorts bridge.world
        hother
      rw [hport] at hdelivery
      rw [he]
      cases result with
      | error source => exact untouched_setWorld channelId hdelivery
      | ok u =>
        exact untouched_insertSubscription channelId (untouched_setWorld channelId hdelivery)
          htarget _
  | syncSession target sessionId requestedAfter maxEvents =>
    have htarget : target ≠ channelId := by simpa [BridgeOp.isForeign] using hop
    simp only [Bridge.step, Prod.map_fst, id_eq]
    rcases Bridge.syncSession_cases (nativePorts codec channelId otherPorts) bridge target
      sessionId requestedAfter maxEvents with ⟨e, he, -⟩ | ⟨aggregate, -, -, -, -, he⟩ |
      ⟨channel, aggregate, provider, sync, world, result, -, hport, he⟩
    · rw [he]
      exact untouched_refl channelId bridge
    · rw [he]
      exact untouched_refl channelId bridge
    · have hother : (PortCall.deliverSessionSync target sync).channelId? ≠
          some channelId := by simpa [PortCall.channelId?] using htarget
      have hdelivery := nativePorts_delivery codec channelId otherPorts bridge.world
        hother
      rw [hport] at hdelivery
      rw [he]
      cases result with
      | error source => exact untouched_setWorld channelId hdelivery
      | ok u =>
        simp only [Bridge.afterSync]
        split
        · exact untouched_insertSubscription channelId (untouched_setWorld channelId hdelivery)
            htarget _
        · exact untouched_setWorld channelId hdelivery
  | unsubscribe target sessionId =>
    have htarget : target ≠ channelId := by simpa [BridgeOp.isForeign] using hop
    simp only [Bridge.step, Bridge.unsubscribe]
    split
    · exact untouched_refl channelId bridge
    · split
      · exact untouched_refl channelId bridge
      · refine ⟨rfl, fun s => ?_⟩
        rw [Bool.eq_iff_iff]
        constructor
        · intro hs
          exact ((MultiMap.contains_remove _ _ _ _ _).mp hs).1
        · intro hs
          exact (MultiMap.contains_remove _ _ _ _ _).mpr ⟨hs, fun h => htarget h.2.symm⟩
  | unsubscribeChannel target =>
    have htarget : target ≠ channelId := by simpa [BridgeOp.isForeign] using hop
    simp only [Bridge.step, Bridge.unsubscribeChannel]
    split
    · exact untouched_refl channelId bridge
    · refine ⟨rfl, fun s => ?_⟩
      rw [Bool.eq_iff_iff]
      constructor
      · intro hs
        exact ((MultiMap.contains_removeMember _ _ _ _).mp hs).1
      · intro hs
        exact (MultiMap.contains_removeMember _ _ _ _).mpr ⟨hs, fun h => htarget h.symm⟩
  | handleProviderEvent providerId event => simp [BridgeOp.isForeign] at hop
  | handleInteractionResponse target response =>
    exact untouched_handleInteractionResponse codec channelId otherPorts bridge target response
  | handleCommand target command =>
    exact untouched_handleCommand codec channelId otherPorts bridge target command

end Foreign

end AgentPulse

import AgentPulse.NativeHandshake

/-!
# Agreement of the client's subscriptions with the bridge

Between two client frames the bridge subscriptions of the native channel are
the sessions of the connected client. A final page reaches the bridge before
the worker measures its batch against the queue; the agreement needs that the
batch then fits.
-/
namespace AgentPulse

open Std (ExtTreeMap ExtTreeSet)

namespace NativeSystem

variable {Other : Type} (codec : NativeCodec) (config : NativeChannelConfig)
  (otherPorts : Ports Other)

/-- The client's sessions are the channel's bridge subscriptions. -/
def Agrees (system : NativeSystem Other) : Prop :=
  ∀ sessionId, system.bridge.isSubscribed config.channelId sessionId =
    system.delivery.isSubscribedTo sessionId

/-- A synchronization was begun and has not reached the bridge. -/
structure Waiting (system : NativeSystem Other) (requestId : String) (sessionId : SessionId) :
    Prop where
  valid : validateUuidV7 codec "request_id" requestId = .ok ()
  pending : system.delivery.pending? = some ⟨requestId, sessionId, [], [], false⟩
  fresh : system.delivery.isSubscribedTo sessionId = false
  agrees : Agrees config system

/-- The bridge has handed over the page; a final one has made the channel a
subscriber, which the client's set does not show yet. -/
structure Committing (system : NativeSystem Other) (requestId : String) (sessionId : SessionId)
    (outcome : SessionSyncOutcome) : Prop where
  valid : validateUuidV7 codec "request_id" requestId = .ok ()
  baseline : ∃ baseline, eventSequence? outcome.throughSequence = some baseline
  pending : ∃ frames trailing,
    system.delivery.pending? = some ⟨requestId, sessionId, frames, trailing, true⟩ ∧
    (outcome.subscribed = true → frames ≠ [])
  fresh : system.delivery.isSubscribedTo sessionId = false
  subscribed : ∀ other, system.bridge.isSubscribed config.channelId other = true ↔
    system.delivery.isSubscribedTo other = true ∨ (other = sessionId ∧ outcome.subscribed = true)

/-- How far the two sets of subscriptions may differ in each section. -/
def Stage (system : NativeSystem Other) : WorkerPc → Prop
  | .subscribeCursor requestId sessionId => Waiting codec config system requestId sessionId
  | .subscribeSync requestId sessionId _ => Waiting codec config system requestId sessionId
  | .subscribeFailed requestId sessionId _ => Waiting codec config system requestId sessionId
  | .subscribeCommit requestId sessionId outcome =>
    Committing codec config system requestId sessionId outcome
  | .unsubscribeRecord _ sessionId _ => system.delivery.pending? = none ∧
    ∀ other, system.bridge.isSubscribed config.channelId other = true ↔
      system.delivery.isSubscribedTo other = true ∧ other ≠ sessionId
  | .unsubscribing remaining _ => system.delivery.pending? = none ∧
    ∀ other, system.bridge.isSubscribed config.channelId other = true →
      system.delivery.isSubscribedTo other = true ∧ other ∈ remaining
  | pc => pc.Ready codec ∧ system.delivery.pending? = none ∧ Agrees config system

theorem stage_quiet {system : NativeSystem Other} {pc : WorkerPc} (hquiet : pc.quiet = true) :
    Stage codec config system pc ↔
      pc.Ready codec ∧ system.delivery.pending? = none ∧ Agrees config system := by
  cases pc <;> first | exact Iff.rfl | simp [WorkerPc.quiet] at hquiet

theorem ready_quiet {pc : WorkerPc} (h : pc.Ready codec) : pc.quiet = true := by
  cases pc <;> first | rfl | simp [WorkerPc.Ready, WorkerPc.quiet] at h

/-- The stage reads the two sets and the synchronization in progress. Frames that
trail a delivered page do not change it. -/
theorem stage_congr {before after : NativeSystem Other} (pc : WorkerPc)
    (h : Stage codec config before pc)
    (hbridge : ∀ sessionId, after.bridge.isSubscribed config.channelId sessionId =
      before.bridge.isSubscribed config.channelId sessionId)
    (hmine : ∀ sessionId, after.delivery.isSubscribedTo sessionId =
      before.delivery.isSubscribedTo sessionId)
    (hpending : after.delivery.pending? = before.delivery.pending? ∨
      ∃ pending trailing, before.delivery.pending? = some pending ∧
        pending.syncDelivered = true ∧
        after.delivery.pending? = some { pending with trailingFrames := trailing }) :
    Stage codec config after pc := by
  have hagrees : Agrees config before → Agrees config after := by
    intro ha sessionId
    rw [hbridge, hmine]
    exact ha sessionId
  have hsame : ∀ pending, before.delivery.pending? = some pending →
      pending.syncDelivered = false → after.delivery.pending? = some pending := by
    intro pending hb hfalse
    rcases hpending with heq | ⟨p, trailing, hp, hsynced, -⟩
    · rw [heq, hb]
    · rw [hb] at hp
      cases hp
      rw [hfalse] at hsynced
      cases hsynced
  have hnone : before.delivery.pending? = none → after.delivery.pending? = none := by
    intro hb
    rcases hpending with heq | ⟨p, trailing, hp, -, -⟩
    · rw [heq, hb]
    · rw [hb] at hp
      cases hp
  have hwaiting : ∀ requestId sessionId, Waiting codec config before requestId sessionId →
      Waiting codec config after requestId sessionId := by
    intro requestId sessionId hw
    refine ⟨hw.valid, hsame _ hw.pending rfl, ?_, hagrees hw.agrees⟩
    rw [hmine]
    exact hw.fresh
  by_cases hquiet : pc.quiet = true
  · rw [stage_quiet codec config hquiet] at h ⊢
    exact ⟨h.1, hnone h.2.1, hagrees h.2.2⟩
  · cases pc with
    | subscribeCursor requestId sessionId => exact hwaiting _ _ h
    | subscribeSync requestId sessionId afterSequence => exact hwaiting _ _ h
    | subscribeFailed requestId sessionId e => exact hwaiting _ _ h
    | subscribeCommit requestId sessionId outcome =>
      have hc : Committing codec config before requestId sessionId outcome := h
      refine ⟨hc.valid, hc.baseline, ?_, ?_, ?_⟩
      · obtain ⟨frames, trailing, hb, hframes⟩ := hc.pending
        rcases hpending with heq | ⟨p, trailing', hp, -, hafter⟩
        · exact ⟨frames, trailing, by rw [heq, hb], hframes⟩
        · rw [hb] at hp
          cases hp
          exact ⟨frames, trailing', hafter, hframes⟩
      · rw [hmine]
        exact hc.fresh
      · intro other
        rw [hbridge, hmine]
        exact hc.subscribed other
    | unsubscribeRecord requestId sessionId outcome =>
      refine ⟨hnone h.1, fun other => ?_⟩
      rw [hbridge, hmine]
      exact h.2 other
    | unsubscribing remaining last =>
      refine ⟨hnone h.1, fun other => ?_⟩
      rw [hbridge, hmine]
      exact h.2 other
    | _ => simp [WorkerPc.quiet] at hquiet

/-- The context of a live frame once the page of its session was delivered. -/
def liveContext : Option ChannelEventRoute → NativeDeliveryContext
  | some route => .liveEvent (.fromCore route)
  | none => .liveSession

/-- A session that the bridge routes to the channel is one of the client's, or
the one whose final page waits to be queued. -/
theorem stage_subscribed {self : NativeSystem Other} (h : Stage codec config self self.pc)
    {sessionId : SessionId}
    (hsub : self.bridge.isSubscribed config.channelId sessionId = true) :
    (self.delivery.isSubscribedTo sessionId = true ∧
      ∀ pending ∈ self.delivery.pending?, pending.sessionId ≠ sessionId) ∨
    ∃ requestId outcome frames trailing, self.pc = .subscribeCommit requestId sessionId outcome ∧
      self.delivery.pending? = some ⟨requestId, sessionId, frames, trailing, true⟩ ∧
      frames ≠ [] := by
  have hwaiting : ∀ requestId other, Waiting codec config self requestId other →
      self.delivery.isSubscribedTo sessionId = true ∧
        ∀ pending ∈ self.delivery.pending?, pending.sessionId ≠ sessionId := by
    intro requestId other hw
    have hmine : self.delivery.isSubscribedTo sessionId = true := by
      rw [← hw.agrees sessionId]
      exact hsub
    refine ⟨hmine, ?_⟩
    rintro pending hp rfl
    rw [hw.pending] at hp
    cases hp
    rw [hw.fresh] at hmine
    cases hmine
  by_cases hquiet : self.pc.quiet = true
  · obtain ⟨-, hnone, hagrees⟩ := (stage_quiet codec config hquiet).mp h
    rw [hagrees sessionId] at hsub
    exact .inl ⟨hsub, by simp [hnone]⟩
  · cases hpc : self.pc with
    | subscribeCursor requestId other => rw [hpc] at h; exact .inl (hwaiting _ _ h)
    | subscribeSync requestId other afterSequence => rw [hpc] at h; exact .inl (hwaiting _ _ h)
    | subscribeFailed requestId other e => rw [hpc] at h; exact .inl (hwaiting _ _ h)
    | subscribeCommit requestId other outcome =>
      rw [hpc] at h
      have hc : Committing codec config self requestId other outcome := h
      obtain ⟨frames, trailing, hpending, hframes⟩ := hc.pending
      rcases (hc.subscribed sessionId).mp hsub with hmine | ⟨rfl, hfinal⟩
      · refine .inl ⟨hmine, ?_⟩
        rintro pending hp rfl
        rw [hpending] at hp
        cases hp
        rw [hc.fresh] at hmine
        cases hmine
      · exact .inr ⟨requestId, outcome, frames, trailing, rfl, hpending, hframes hfinal⟩
    | unsubscribeRecord requestId other outcome =>
      rw [hpc] at h
      exact .inl ⟨((h.2 sessionId).mp hsub).1, by simp [h.1]⟩
    | unsubscribing remaining last =>
      rw [hpc] at h
      exact .inl ⟨(h.2 sessionId hsub).1, by simp [h.1]⟩
    | _ => simp [hpc, WorkerPc.quiet] at hquiet

/-- A live frame of a routed session is refused by the encoder or for lack of
room, or it is the next frame of that session: in the queue, or behind the page
that waits to be queued. -/
theorem deliver_live {self : NativeSystem Other} (h : Stage codec config self self.pc)
    {sessionId : SessionId} (hsub : self.bridge.isSubscribed config.channelId sessionId = true)
    (message : ProtocolMessage) (route : Option ChannelEventRoute) :
    (∃ e e', NativeChannelPort.deliver codec self.delivery sessionId message route =
        (self.delivery, .error e) ∧
      encodeServerMessage codec (.domain (liveContext route) message) = .error e') ∨
    (∃ e, NativeChannelPort.deliver codec self.delivery sessionId message route =
      (self.delivery.abortFull, .error e)) ∨
    (encodeServerMessage codec (.domain (liveContext route) message) =
        .ok (.domain (liveContext route) message) ∧
      ((self.delivery.isSubscribedTo sessionId = true ∧
        (∀ pending ∈ self.delivery.pending?, pending.sessionId ≠ sessionId) ∧
        NativeChannelPort.deliver codec self.delivery sessionId message route =
          (self.delivery.append [.domain (liveContext route) message], .ok ())) ∨
      ∃ requestId outcome frames trailing,
        self.pc = .subscribeCommit requestId sessionId outcome ∧
        self.delivery.pending? = some ⟨requestId, sessionId, frames, trailing, true⟩ ∧
        NativeChannelPort.deliver codec self.delivery sessionId message route =
          (self.delivery.setPending (some ⟨requestId, sessionId, frames,
            trailing ++ [.domain (liveContext route) message], true⟩), .ok ()))) := by
  rcases stage_subscribed codec config h hsub with ⟨hmine, hother⟩ |
    ⟨requestId, outcome, frames, trailing, hpc, hpending, hframes⟩
  · obtain ⟨client, hclient, hmem⟩ := DeliveryState.isSubscribedTo_iff.mp hmine
    have hfor : client.pendingFor sessionId = none := by
      unfold ActiveClient.pendingFor
      rw [Option.filter_eq_none_iff]
      intro pending hp
      have := hother pending (by simp [DeliveryState.pending?, hclient, hp])
      simpa using this
    have hcontext : NativeChannelPort.deliveryContext client sessionId route =
        .ok (liveContext route) := by
      unfold NativeChannelPort.deliveryContext
      rw [hfor, ExtTreeSet.contains_iff_mem.mpr hmem]
      cases route <;> rfl
    rcases NativeChannelPort.deliver_cases codec self.delivery sessionId message route with
      ⟨e, he, herror⟩ | hfull | ⟨c, context, hc, hctx, hencode, he⟩
    · obtain ⟨e', he'⟩ := herror client _ hclient hcontext
      exact .inl ⟨e, e', he, he'⟩
    · exact .inr (.inl hfull)
    · rw [hclient] at hc
      cases hc
      rw [hcontext] at hctx
      cases hctx
      refine .inr (.inr ⟨hencode, .inl ⟨hmine, hother, ?_⟩⟩)
      rw [he]
      simp [NativeChannelPort.push, hclient, hfor]
  · obtain ⟨client, hclient, hclientPending⟩ := DeliveryState.client_of_pending? hpending
    have hfor : client.pendingFor sessionId =
        some ⟨requestId, sessionId, frames, trailing, true⟩ := by
      simp [ActiveClient.pendingFor, hclientPending, Option.filter]
    have hcontext : NativeChannelPort.deliveryContext client sessionId route =
        .ok (liveContext route) := by
      unfold NativeChannelPort.deliveryContext
      rw [hfor]
      cases route with
      | some route => rfl
      | none =>
        -- the baseline session of the final page is already collected
        simp [liveContext, hframes]
    rcases NativeChannelPort.deliver_cases codec self.delivery sessionId message route with
      ⟨e, he, herror⟩ | hfull | ⟨c, context, hc, hctx, hencode, he⟩
    · obtain ⟨e', he'⟩ := herror client _ hclient hcontext
      exact .inl ⟨e, e', he, he'⟩
    · exact .inr (.inl hfull)
    · rw [hclient] at hc
      cases hc
      rw [hcontext] at hctx
      cases hctx
      refine .inr (.inr ⟨hencode, .inr ⟨requestId, outcome, frames, trailing, hpc, hpending, ?_⟩⟩)
      rw [he]
      simp [NativeChannelPort.push, hclient, hfor]

/-- Live frames leave the stage as it is. -/
theorem stage_deliver {self next : NativeSystem Other} (h : Stage codec config self self.pc)
    {sessionId : SessionId} (hsub : self.bridge.isSubscribed config.channelId sessionId = true)
    {message : ProtocolMessage} {route : Option ChannelEventRoute} {delivery : DeliveryState}
    {result : Except NativeChannelPortError Unit}
    (hcall : NativeChannelPort.deliver codec self.delivery sessionId message route =
      (delivery, result))
    (hpc : next.pc = self.pc) (hdelivery : next.delivery = delivery)
    (hbridge : ∀ session, next.bridge.isSubscribed config.channelId session =
      self.bridge.isSubscribed config.channelId session) :
    Stage codec config next next.pc := by
  rw [hpc]
  rcases deliver_live codec config h hsub message route with ⟨e, e', he, -⟩ | ⟨e, he⟩ |
    ⟨-, ⟨-, -, he⟩ | ⟨requestId, outcome, frames, trailing, -, hpending, he⟩⟩
  · rw [he] at hcall
    cases hcall
    exact stage_congr codec config _ h hbridge (by simp [hdelivery]) (.inl (by rw [hdelivery]))
  · rw [he] at hcall
    cases hcall
    exact stage_congr codec config _ h hbridge (by simp [hdelivery]) (.inl (by rw [hdelivery]; rfl))
  · rw [he] at hcall
    cases hcall
    exact stage_congr codec config _ h hbridge (by simp [hdelivery]) (.inl (by rw [hdelivery]; rfl))
  · rw [he] at hcall
    cases hcall
    obtain ⟨client, hclient, -⟩ := DeliveryState.client_of_pending? hpending
    refine stage_congr codec config _ h hbridge (by simp [hdelivery]) (.inr ⟨_,
      trailing ++ [.domain (liveContext route) message], hpending, rfl, ?_⟩)
    rw [hdelivery]
    exact DeliveryState.setPending_pending? hclient _

structure Aligned (system : NativeSystem Other) : Prop where
  consistent : Consistent system.bridge
  registered : system.bridge.channels[config.channelId]? = some config.descriptor
  inFlight : ∀ publication ∈ system.publication, InFlight config system.bridge publication
  greeting : Greeting system
  unused : system.handshaken = false → ∀ sessionId,
    system.delivery.isSubscribedTo sessionId = false
  stage : Stage codec config system system.pc

/-- A page that a subscription was made with ends at a proper event sequence. -/
theorem syncs_through {bridge : Bridge (NativeWorld Other)} (hcon : Consistent bridge)
    {channelId : ChannelId} {sessionId : SessionId} {requestedAfter maxEvents : Nat}
    {channel : ChannelDescriptor} {aggregate : SessionAggregate} {provider : ProviderDescriptor}
    {sync : ChannelSessionSync}
    (h : Bridge.Syncs bridge channelId sessionId requestedAfter maxEvents channel aggregate
      provider sync) : ∃ baseline, eventSequence? sync.throughSequence = some baseline := by
  obtain ⟨history, owner, howned⟩ := hcon.sessions sessionId aggregate h.known
  obtain ⟨hpage, -⟩ := Bridge.sessionSync_ok howned.reduces h.page
  have hcursor := (SessionAggregate.reduces_anchored howned.reduces).cursor
  have hpositive := aggregate.lastSequence.positive
  have hbounded := aggregate.lastSequence.bounded
  have hmax := h.positive
  have hrange : 0 < sync.throughSequence ∧ sync.throughSequence < 2 ^ 64 := by
    rw [hpage.through]
    omega
  exact ⟨⟨sync.throughSequence, hrange.1, hrange.2⟩, dif_pos hrange⟩

theorem syncFramesOf_ne_nil {requestId : String} {sync : ChannelSessionSync}
    (h : sync.isFinal = true) : NativeChannelPort.syncFramesOf requestId sync ≠ [] := by
  unfold NativeChannelPort.syncFramesOf
  cases hbaseline : sync.baseline with
  | none => simp [ChannelSessionSync.isFinal, hbaseline] at h
  | some baseline => simp [NativeChannelPort.baselineFramesOf]

theorem becomes_delivery {self next : NativeSystem Other} {state : DeliveryState}
    {taken : List Frame} {target : WorkerPc} (h : Becomes self next state taken target) :
    next.delivery = state := by
  rw [delivery, h.bridge]
  rfl

theorem becomes_isSubscribed {self next : NativeSystem Other} {state : DeliveryState}
    {taken : List Frame} {target : WorkerPc} (h : Becomes self next state taken target)
    (channelId : ChannelId) (sessionId : SessionId) :
    next.bridge.isSubscribed channelId sessionId =
      self.bridge.isSubscribed channelId sessionId := by
  rw [h.bridge]
  rfl

/-- A section that keeps the client's sessions leaves a quiet stage quiet. -/
theorem stage_becomes {self next : NativeSystem Other} {state : DeliveryState}
    {taken : List Frame} {pc : WorkerPc} (h : Stage codec config self self.pc)
    (hquiet : self.pc.quiet = true) (hnext : Becomes self next state taken pc)
    (hready : pc.Ready codec)
    (hpending : state.pending? = self.delivery.pending?)
    (hmine : ∀ sessionId, state.isSubscribedTo sessionId = self.delivery.isSubscribedTo sessionId) :
    Stage codec config next next.pc := by
  obtain ⟨-, hnone, hagrees⟩ := (stage_quiet codec config hquiet).mp h
  have hdelivery := becomes_delivery hnext
  rw [hnext.pc, stage_quiet codec config (ready_quiet codec hready)]
  refine ⟨hready, by rw [hdelivery, hpending, hnone], ?_⟩
  intro sessionId
  rw [becomes_isSubscribed hnext, hdelivery, hmine]
  exact hagrees sessionId

/-- A view handed to a channel is about the session of its event. -/
theorem inFlight_view {bridge : Bridge (NativeWorld Other)} (hcon : Consistent bridge)
    {publication : Publication} (h : InFlight config bridge publication) {session : AgentSession}
    (hview : publication.handoff = some session) :
    session.id = publication.event.sessionId := by
  obtain ⟨aggregate, hstored, -, -, hhandoff⟩ := h.stored
  obtain ⟨history, owner, howned⟩ := hcon.sessions _ aggregate hstored
  rw [hhandoff session hview]
  exact howned.id

theorem inFlight_native {bridge : Bridge (NativeWorld Other)} {publication : Publication}
    (h : InFlight config bridge publication) {route : EventRoute}
    (hhead : publication.routes.head? = some route) (hnative : route.channelId = config.channelId) :
    bridge.isSubscribed config.channelId publication.event.sessionId = true := by
  rw [← hnative]
  exact h.subscribed route (List.mem_of_mem_head? hhead)

/-- The batch of a final page has room when the worker queues it. -/
def CommitFits (self : NativeSystem Other) : NativeInput → Prop
  | .worker _ =>
    match self.pc with
    | .subscribeCommit _ _ outcome => outcome.subscribed = true →
      ∀ pending ∈ self.delivery.pending?, self.delivery.BatchFits pending
    | _ => True
  | _ => True

instance (self : NativeSystem Other) (input : NativeInput) : Decidable (CommitFits self input) := by
  cases input with
  | worker input =>
    unfold CommitFits
    cases self.pc <;> simp only <;> infer_instance
  | _ => exact isTrue trivial

theorem foreign_stage {self next : NativeSystem Other} (ha : Aligned codec config self)
    {bridge : Bridge (NativeWorld Other)}
    (huntouched : Untouched config.channelId self.bridge bridge)
    (hnext : next = { self with bridge := bridge }) :
    Stage codec config next next.pc := by
  have h := ha.stage
  rw [hnext]
  have hdelivery : bridge.world.delivery = self.delivery := huntouched.delivery
  exact stage_congr codec config _ h huntouched.subscriptions (by simp [delivery, hdelivery])
    (.inl (by simp [delivery, hdelivery]))

theorem handedView_stage {self next : NativeSystem Other} (ha : Aligned codec config self)
    {publication : Publication} {route : EventRoute} {session : AgentSession}
    {delivery : DeliveryState} {result : Except NativeChannelPortError Unit}
    (hpublication : self.publication = some publication)
    (hhead : publication.routes.head? = some route) (hhandoff : publication.handoff = some session)
    (hnative : route.channelId = config.channelId)
    (hcall : NativeChannelPort.deliverSession codec self.delivery session = (delivery, result))
    (hnext : next = { self.setDelivery delivery with
      publication := some (publication.afterView route
        (result.mapError NativeChannelPortError.toString)) }) :
    Stage codec config next next.pc := by
  have h := ha.stage
  have hflight := ha.inFlight publication hpublication
  have hsub := inFlight_native config hflight hhead hnative
  have hid := inFlight_view config ha.consistent hflight hhandoff
  rw [← hid] at hsub
  subst hnext
  exact stage_deliver codec config h hsub hcall rfl rfl (fun _ => rfl)

theorem opened_stage {self next : NativeSystem Other} (ha : Aligned codec config self)
    {sessionCursors : ExtTreeMap SessionId Nat} {resumeAccepted : Bool}
    {message : NativeServerMessage} (hpc : self.pc = .hello sessionCursors resumeAccepted)
    (hcontrol : message.isControl = true)
    (hnext : Becomes self next (self.delivery.openClient sessionCursors) [] (.reply message)) :
    Stage codec config next next.pc := by
  have h := ha.stage
  have hquiet : self.pc.quiet = true := by rw [hpc]; rfl
  have hempty := ha.unused (ha.greeting.hello _ _ hpc)
  refine stage_becomes codec config h hquiet hnext hcontrol ?_ ?_
  · rw [((stage_quiet codec config hquiet).mp h).2.1]
    rfl
  · intro sessionId
    rw [hempty]
    rfl

theorem submitted_stage {self next : NativeSystem Other} (ha : Aligned codec config self)
    {bridge : Bridge (NativeWorld Other)} {pc : WorkerPc} (hquiet : self.pc.quiet = true)
    (hready : pc.Ready codec) (huntouched : Untouched config.channelId self.bridge bridge)
    (hnext : next = { self with bridge := bridge, pc := pc }) :
    Stage codec config next next.pc := by
  have h := ha.stage
  obtain ⟨-, hnone, hagrees⟩ := (stage_quiet codec config hquiet).mp h
  have hdelivery : bridge.world.delivery = self.delivery := huntouched.delivery
  rw [hnext, stage_quiet codec config (ready_quiet codec hready)]
  refine ⟨hready, by rw [delivery, hdelivery, hnone], ?_⟩
  intro sessionId
  rw [huntouched.subscriptions sessionId, delivery, hdelivery]
  exact hagrees sessionId

theorem began_stage {self next : NativeSystem Other} (ha : Aligned codec config self)
    {requestId : String} {sessionId : SessionId} {client : ActiveClient}
    (hpc : self.pc = .subscribe requestId sessionId) (hclient : self.delivery.client = some client)
    (hmem : sessionId ∉ client.subscriptions)
    (hnext : Becomes self next (self.delivery.setPending (some ⟨requestId, sessionId, [], [], false⟩))
      self.drained (.subscribeCursor requestId sessionId)) :
    Stage codec config next next.pc := by
  have h := ha.stage
  have hquiet : self.pc.quiet = true := by rw [hpc]; rfl
  obtain ⟨hvalid, -, hagrees⟩ := (stage_quiet codec config hquiet).mp h
  have hdelivery := becomes_delivery hnext
  rw [hpc] at hvalid
  rw [hnext.pc]
  refine ⟨hvalid, by rw [hdelivery, DeliveryState.setPending_pending? hclient], ?_, ?_⟩
  · rw [hdelivery, DeliveryState.setPending_isSubscribedTo, ← Bool.not_eq_true,
      DeliveryState.isSubscribedTo_iff]
    rintro ⟨other, hother, hsub⟩
    rw [hclient] at hother
    cases hother
    exact hmem hsub
  · intro other
    rw [becomes_isSubscribed hnext, hdelivery, DeliveryState.setPending_isSubscribedTo]
    exact hagrees other

theorem asked_stage {self next : NativeSystem Other} (ha : Aligned codec config self)
    {requestId : String} {sessionId : SessionId}
    (hpc : self.pc = .subscribeCursor requestId sessionId)
    (hnext : Becomes self next self.delivery self.drained
      (.subscribeSync requestId sessionId (self.delivery.cursor sessionId))) :
    Stage codec config next next.pc := by
  have h := ha.stage
  rw [hpc] at h
  rw [hnext.pc]
  exact stage_congr codec config (.subscribeSync requestId sessionId
    (self.delivery.cursor sessionId)) h (becomes_isSubscribed hnext _)
    (by simp [becomes_delivery hnext]) (.inl (by rw [becomes_delivery hnext]))

theorem syncRefused_stage {self next : NativeSystem Other} (ha : Aligned codec config self)
    {requestId : String} {sessionId : SessionId} {afterSequence : Nat} {e : SubscriptionError}
    {delivery : DeliveryState} (hpc : self.pc = .subscribeSync requestId sessionId afterSequence)
    (hdelivery : delivery = self.delivery ∨ delivery = self.delivery.abortFull)
    (hnext : Becomes self next delivery self.drained (.subscribeFailed requestId sessionId e)) :
    Stage codec config next next.pc := by
  have h := ha.stage
  rw [hpc] at h
  rw [hnext.pc]
  refine stage_congr codec config (.subscribeFailed requestId sessionId e) h
    (becomes_isSubscribed hnext _) ?_ (.inl ?_)
  · intro other
    rw [becomes_delivery hnext]
    rcases hdelivery with rfl | rfl <;> rfl
  · rw [becomes_delivery hnext]
    rcases hdelivery with rfl | rfl <;> rfl

theorem syncAgain_stage {self next : NativeSystem Other} (ha : Aligned codec config self)
    {requestId : String} {sessionId : SessionId} {afterSequence : Nat}
    (hpc : self.pc = .subscribeSync requestId sessionId afterSequence)
    (hsub : self.bridge.isSubscribed config.channelId sessionId = true) :
    Stage codec config next next.pc := by
  have h := ha.stage
  rw [hpc] at h
  have hw : Waiting codec config self requestId sessionId := h
  rw [hw.agrees, hw.fresh] at hsub
  cases hsub

theorem synced_stage {self next : NativeSystem Other} (ha : Aligned codec config self)
    {requestId : String} {sessionId : SessionId} {afterSequence : Nat}
    {channel : ChannelDescriptor} {aggregate : SessionAggregate} {provider : ProviderDescriptor}
    {sync : ChannelSessionSync} {pending : PendingSubscription}
    (hpc : self.pc = .subscribeSync requestId sessionId afterSequence)
    (hsyncs : Bridge.Syncs self.bridge config.channelId sessionId afterSequence sessionSyncPageEvents
      channel aggregate provider sync) (hpending : self.delivery.pending? = some pending)
    (hnext : next = { self with
      bridge := self.bridge.afterSync config.channelId sessionId sync { self.bridge.world with
        delivery := self.delivery.setPending (some (pending.withSync sync)) }
      pc := .subscribeCommit requestId sessionId (Bridge.syncOutcome sync) }) :
    Stage codec config next next.pc := by
  have h := ha.stage
  rw [hpc] at h
  have hw : Waiting codec config self requestId sessionId := h
  rw [hw.pending] at hpending
  cases hpending
  obtain ⟨client, hclient, -⟩ := DeliveryState.client_of_pending? hw.pending
  rw [hnext]
  refine ⟨hw.valid, syncs_through ha.consistent hsyncs,
    ⟨NativeChannelPort.syncFramesOf requestId sync, [], ?_, syncFramesOf_ne_nil⟩, ?_, ?_⟩
  · simp only [delivery, Bridge.afterSync_world]
    exact DeliveryState.setPending_pending? hclient _
  · simp only [delivery, Bridge.afterSync_world, DeliveryState.setPending_isSubscribedTo]
    exact hw.fresh
  · intro other
    simp only [delivery, Bridge.afterSync_world, DeliveryState.setPending_isSubscribedTo]
    rw [Bridge.afterSync_isSubscribed, hw.agrees]
    rfl

theorem syncFailed_stage {self next : NativeSystem Other} (ha : Aligned codec config self)
    {requestId : String} {sessionId : SessionId} {e : SubscriptionError}
    {message : NativeServerMessage} (hpc : self.pc = .subscribeFailed requestId sessionId e)
    (hcontrol : message.isControl = true)
    (hnext : Becomes self next (self.delivery.setPending none) self.drained (.reject message)) :
    Stage codec config next next.pc := by
  have h := ha.stage
  rw [hpc] at h
  have hw : Waiting codec config self requestId sessionId := h
  have hdelivery := becomes_delivery hnext
  rw [hnext.pc]
  refine ⟨hcontrol, by rw [hdelivery, DeliveryState.setPending_none_pending?], ?_⟩
  intro other
  rw [becomes_isSubscribed hnext, hdelivery, DeliveryState.setPending_isSubscribedTo]
  exact hw.agrees other

theorem committed_stage {self next : NativeSystem Other} (ha : Aligned codec config self)
    {requestId : String} {sessionId : SessionId} {outcome : SessionSyncOutcome}
    {baseline : EventSequence} {pending : PendingSubscription}
    (hpc : self.pc = .subscribeCommit requestId sessionId outcome)
    (hpending : self.delivery.pending? = some pending)
    (hnext : Becomes self next (((self.delivery.setPending none).append
      (DeliveryState.commitBatch requestId sessionId outcome baseline pending)).recordSync
        sessionId outcome) self.drained .accepting) :
    Stage codec config next next.pc := by
  have h := ha.stage
  rw [hpc] at h
  have hc : Committing codec config self requestId sessionId outcome := h
  obtain ⟨client, hclient, -⟩ := DeliveryState.client_of_pending? hpending
  have hdelivery := becomes_delivery hnext
  rw [hnext.pc]
  refine ⟨rfl, by rw [hdelivery]; simp, ?_⟩
  intro other
  have hfreed : ((self.delivery.setPending none).append
      (DeliveryState.commitBatch requestId sessionId outcome baseline pending)).client =
      some { client with pending := none } := by
    simp [DeliveryState.setPending, DeliveryState.updateClient, hclient]
  rw [becomes_isSubscribed hnext, hdelivery, Bool.eq_iff_iff, hc.subscribed,
    DeliveryState.recordSync_isSubscribedTo hfreed]
  simp

theorem overflowed_stage {self next : NativeSystem Other} (ha : Aligned codec config self)
    (hfits : next.pc ≠ self.pc →
      CommitFits self (.worker .proceed) ∨ next.delivery.abortReason = none) {requestId : String}
    {sessionId : SessionId} {outcome : SessionSyncOutcome} {pending : PendingSubscription}
    (hpc : self.pc = .subscribeCommit requestId sessionId outcome)
    (hpending : self.delivery.pending? = some pending) (hfull : ¬ self.delivery.BatchFits pending)
    (hnext : Becomes self next (self.delivery.setPending none).abortFull self.drained
      (.disconnect false)) :
    Stage codec config next next.pc := by
  have h := ha.stage
  have hmoved : next.pc ≠ self.pc := by rw [hnext.pc, hpc]; simp
  have hdelivery := becomes_delivery hnext
  rw [hpc] at h
  have hc : Committing codec config self requestId sessionId outcome := h
  have hshort : outcome.subscribed = false := by
    by_contra hfinal
    rcases hfits hmoved with hroom | hopen
    · simp only [CommitFits, hpc] at hroom
      exact hfull (hroom (by simpa using hfinal) pending hpending)
    · rw [hdelivery] at hopen
      cases hopen
  rw [hnext.pc]
  refine ⟨rfl, by rw [hdelivery]; simp, ?_⟩
  intro other
  rw [becomes_isSubscribed hnext, hdelivery, Bool.eq_iff_iff, hc.subscribed]
  simp [hshort]

theorem broken_stage {self next : NativeSystem Other} (ha : Aligned codec config self)
    {requestId : String} {sessionId : SessionId} {outcome : SessionSyncOutcome}
    (hpc : self.pc = .subscribeCommit requestId sessionId outcome)
    (hbroken : eventSequence? outcome.throughSequence = none ∨
      validateUuidV7 codec "request_id" requestId ≠ .ok () ∨ self.delivery.pending? = none) :
    Stage codec config next next.pc := by
  have h := ha.stage
  rw [hpc] at h
  have hc : Committing codec config self requestId sessionId outcome := h
  obtain ⟨baseline, hbaseline⟩ := hc.baseline
  obtain ⟨frames, trailing, hpending, -⟩ := hc.pending
  simp [hbaseline, hc.valid, hpending] at hbroken

theorem unsubscribed_stage {self next : NativeSystem Other} (ha : Aligned codec config self)
    {requestId : String} {sessionId : SessionId} {outcome : UnsubscribeOutcome}
    (hpc : self.pc = .unsubscribe requestId sessionId) (hnext : next = { self with
      bridge := (self.bridge.unsubscribe config.channelId sessionId).1
      pc := .unsubscribeRecord requestId sessionId outcome }) :
    Stage codec config next next.pc := by
  have h := ha.stage
  have hquiet : self.pc.quiet = true := by rw [hpc]; rfl
  obtain ⟨-, hnone, hagrees⟩ := (stage_quiet codec config hquiet).mp h
  have hdelivery : next.delivery = self.delivery := by
    rw [hnext, delivery, Bridge.unsubscribe_world]
    rfl
  rw [hnext] at hdelivery ⊢
  refine ⟨by rw [hdelivery]; exact hnone, fun other => ?_⟩
  rw [Bridge.unsubscribe_isSubscribed ha.consistent, hdelivery, hagrees]
  simp

theorem removed_stage {self next : NativeSystem Other} (ha : Aligned codec config self)
    {requestId : String} {sessionId : SessionId} {outcome : UnsubscribeOutcome}
    {message : NativeServerMessage}
    (hpc : self.pc = .unsubscribeRecord requestId sessionId outcome)
    (hcontrol : message.isControl = true)
    (hnext : Becomes self next (self.delivery.removeSubscription sessionId) self.drained
      (.reply message)) :
    Stage codec config next next.pc := by
  have h := ha.stage
  rw [hpc] at h
  have hdelivery := becomes_delivery hnext
  rw [hnext.pc]
  refine ⟨hcontrol, by rw [hdelivery, DeliveryState.removeSubscription_pending?]; exact h.1, ?_⟩
  intro other
  rw [becomes_isSubscribed hnext, hdelivery, Bool.eq_iff_iff,
    DeliveryState.removeSubscription_isSubscribedTo]
  exact h.2 other

theorem leaving_stage {self next : NativeSystem Other} (ha : Aligned codec config self)
    {last : Bool} (hpc : self.pc = .disconnect last)
    (hnext : Becomes self next self.delivery self.drained
      (.unsubscribing self.delivery.subscriptionList last)) :
    Stage codec config next next.pc := by
  have h := ha.stage
  have hquiet : self.pc.quiet = true := by rw [hpc]; rfl
  obtain ⟨-, hnone, hagrees⟩ := (stage_quiet codec config hquiet).mp h
  have hdelivery := becomes_delivery hnext
  rw [hnext.pc]
  refine ⟨by rw [hdelivery, hnone], fun other hsub => ?_⟩
  rw [becomes_isSubscribed hnext, hagrees] at hsub
  exact ⟨by rw [hdelivery]; exact hsub, DeliveryState.mem_subscriptionList.mpr hsub⟩

theorem left_stage {self next : NativeSystem Other} (ha : Aligned codec config self)
    {sessionId : SessionId} {remaining : List SessionId} {last : Bool}
    (hpc : self.pc = .unsubscribing (sessionId :: remaining) last) (hnext : next = { self with
      bridge := (self.bridge.unsubscribe config.channelId sessionId).1
      pc := .unsubscribing remaining last }) :
    Stage codec config next next.pc := by
  have h := ha.stage
  rw [hpc] at h
  have hdelivery : next.delivery = self.delivery := by
    rw [hnext, delivery, Bridge.unsubscribe_world]
    rfl
  rw [hnext] at hdelivery ⊢
  refine ⟨by rw [hdelivery]; exact h.1, fun other hsub => ?_⟩
  rw [Bridge.unsubscribe_isSubscribed ha.consistent] at hsub
  obtain ⟨hmine, hmem⟩ := h.2 other hsub.1
  refine ⟨by rw [hdelivery]; exact hmine, ?_⟩
  rcases List.mem_cons.mp hmem with heq | hmem
  · exact absurd ⟨heq, rfl⟩ hsub.2
  · exact hmem

theorem cleared_stage {self next : NativeSystem Other} (ha : Aligned codec config self)
    {last : Bool} {pc : WorkerPc} (hpc : self.pc = .unsubscribing [] last)
    (hready : pc.Ready codec) (hnext : Becomes self next self.delivery.clearConnection [] pc) :
    Stage codec config next next.pc := by
  have h := ha.stage
  rw [hpc] at h
  have hdelivery := becomes_delivery hnext
  rw [hnext.pc, stage_quiet codec config (ready_quiet codec hready)]
  refine ⟨hready, by rw [hdelivery]; rfl, fun other => ?_⟩
  rw [becomes_isSubscribed hnext, hdelivery]
  have hnone : self.bridge.isSubscribed config.channelId other = false := by
    by_contra hsub
    have hmem := (h.2 other (by simpa using hsub)).2
    cases hmem
  rw [hnone]
  rfl

/-- The stage is kept by every move that does not overflow on a final page. -/
theorem move_stage {self next : NativeSystem Other} (ha : Aligned codec config self)
    (m : Move codec config self next)
    (hfits : next.pc ≠ self.pc →
      CommitFits self (.worker .proceed) ∨ next.delivery.abortReason = none) :
    Stage codec config next next.pc := by
  have h := ha.stage
  cases m with
  | stay hnext =>
    rw [hnext]
    exact h
  | foreign bridge hfree hquiet huntouched hnext =>
    exact foreign_stage codec config ha huntouched hnext
  | published providerId event provider session routes aggregate hfree hcommitted hnext =>
    rw [hnext]
    exact stage_congr codec config _ h (fun _ => rfl) (fun _ => rfl) (.inl rfl)
  | ended publication hpublication hroutes hnext =>
    rw [hnext]
    exact stage_congr codec config _ h (fun _ => rfl) (fun _ => rfl) (.inl rfl)
  | passedEvent publication route others result hpublication hhead hhandoff hother hnext =>
    rw [hnext]
    exact stage_congr codec config _ h (fun _ => rfl) (fun _ => rfl) (.inl rfl)
  | passedView publication route session others result hpublication hhead hhandoff hother hnext =>
    rw [hnext]
    exact stage_congr codec config _ h (fun _ => rfl) (fun _ => rfl) (.inl rfl)
  | handedEvent publication route delivery result hpublication hhead hhandoff hnative hcall hnext =>
    have hsub := inFlight_native config (ha.inFlight publication hpublication) hhead hnative
    subst hnext
    exact stage_deliver codec config h hsub hcall rfl rfl (fun _ => rfl)
  | handedView publication route session delivery result hpublication hhead hhandoff hnative hcall
      hnext =>
    exact handedView_stage codec config ha hpublication hhead hhandoff hnative hcall hnext
  | turn pc hquiet hready hnext =>
    exact stage_becomes codec config h hquiet hnext hready rfl (fun _ => rfl)
  | drained frame rest pc hquiet hready houtgoing hnext =>
    exact stage_becomes codec config h hquiet hnext hready rfl (fun _ => rfl)
  | opened sessionCursors resumeAccepted message hpc hcontrol hnext =>
    exact opened_stage codec config ha hpc hcontrol hnext
  | queued message hpc hnext =>
    have hquiet : self.pc.quiet = true := by rcases hpc with hpc | hpc <;> rw [hpc] <;> rfl
    exact stage_becomes codec config h hquiet hnext rfl rfl (fun _ => rfl)
  | full pc hquiet hready hnext =>
    exact stage_becomes codec config h hquiet hnext hready rfl (fun _ => rfl)
  | discovered requestId snapshot frames sessions hpc hframes hnext =>
    have hquiet : self.pc.quiet = true := by rw [hpc]; rfl
    exact stage_becomes codec config h hquiet hnext rfl (by simp) (by simp)
  | submitted bridge pc hfree hquiet hready hbridge huntouched hnext =>
    exact submitted_stage codec config ha hquiet hready huntouched hnext
  | already requestId sessionId client baseline hpc hclient hmem hcursor hnext =>
    have hquiet : self.pc.quiet = true := by rw [hpc]; rfl
    exact stage_becomes codec config h hquiet hnext rfl rfl (fun _ => rfl)
  | began requestId sessionId client hpc hclient hmem hnext =>
    exact began_stage codec config ha hpc hclient hmem hnext
  | asked requestId sessionId hpc hnext =>
    exact asked_stage codec config ha hpc hnext
  | syncRefused requestId sessionId afterSequence e delivery hpc hfree hdelivery hnext =>
    exact syncRefused_stage codec config ha hpc hdelivery hnext
  | syncAgain requestId sessionId afterSequence outcome hpc hfree hsub hnext =>
    exact syncAgain_stage codec config ha hpc hsub
  | synced requestId sessionId afterSequence channel aggregate provider sync pending hpc hfree
      hsyncs hpending hnext =>
    exact synced_stage codec config ha hpc hsyncs hpending hnext
  | syncFailed requestId sessionId e message hpc hcontrol hnext =>
    exact syncFailed_stage codec config ha hpc hcontrol hnext
  | committed requestId sessionId outcome baseline pending hpc hbaseline hpending hroom hnext =>
    exact committed_stage codec config ha hpc hpending hnext
  | overflowed requestId sessionId outcome pending hpc hpending hfull hnext =>
    exact overflowed_stage codec config ha hfits hpc hpending hfull hnext
  | broken requestId sessionId outcome hpc hbroken hnext =>
    exact broken_stage codec config ha hpc hbroken
  | unsubscribed requestId sessionId outcome hpc hfree hnext =>
    exact unsubscribed_stage codec config ha hpc hnext
  | removed requestId sessionId outcome message hpc hcontrol hnext =>
    exact removed_stage codec config ha hpc hcontrol hnext
  | leaving last hpc hnext =>
    exact leaving_stage codec config ha hpc hnext
  | left sessionId remaining last hpc hfree hnext =>
    exact left_stage codec config ha hpc hnext
  | cleared last pc hpc hready hnext =>
    exact cleared_stage codec config ha hpc hready hnext

theorem deliver_isSubscribedTo (self : DeliveryState) (sessionId : SessionId)
    (message : ProtocolMessage) (route : Option ChannelEventRoute) (other : SessionId) :
    (NativeChannelPort.deliver codec self sessionId message route).1.isSubscribedTo other =
      self.isSubscribedTo other := by
  rcases NativeChannelPort.deliver_cases codec self sessionId message route with ⟨e, he, -⟩ |
    ⟨e, he⟩ | ⟨client, context, hclient, hcontext, hencode, he⟩
  · rw [he]
  · rw [he]
    rfl
  · rw [he]
    unfold NativeChannelPort.push
    split
    · rfl
    · split <;> simp

/-- The client's set grows only when the batch of a page is queued. -/
theorem move_isSubscribedTo {self next : NativeSystem Other} (m : Move codec config self next)
    {sessionId : SessionId} (hsub : next.delivery.isSubscribedTo sessionId = true) :
    self.delivery.isSubscribedTo sessionId = true ∨
      ∃ requestId session outcome, self.pc = .subscribeCommit requestId session outcome := by
  have hsame : ∀ {state : DeliveryState} {taken : List Frame} {target : WorkerPc},
      Becomes self next state taken target →
      state.isSubscribedTo sessionId = self.delivery.isSubscribedTo sessionId →
      self.delivery.isSubscribedTo sessionId = true := by
    intro state taken target hnext heq
    rw [← heq, ← becomes_delivery hnext]
    exact hsub
  cases m with
  | stay hnext =>
    rw [hnext] at hsub
    exact .inl hsub
  | foreign bridge hfree hquiet huntouched hnext =>
    rw [hnext, delivery, huntouched.delivery] at hsub
    exact .inl hsub
  | published providerId event provider session routes aggregate hfree hcommitted hnext =>
    rw [hnext] at hsub
    exact .inl hsub
  | ended publication hpublication hroutes hnext =>
    rw [hnext] at hsub
    exact .inl hsub
  | passedEvent publication route others result hpublication hhead hhandoff hother hnext =>
    rw [hnext] at hsub
    exact .inl hsub
  | passedView publication route session others result hpublication hhead hhandoff hother hnext =>
    rw [hnext] at hsub
    exact .inl hsub
  | handedEvent publication route delivery result hpublication hhead hhandoff hnative hcall hnext =>
    have hdelivery : next.delivery = delivery := by rw [hnext]; rfl
    have hkeeps := deliver_isSubscribedTo codec self.delivery publication.event.sessionId
      (.agentEvent publication.event) (some route.route) sessionId
    rw [NativeChannelPort.deliverEvent] at hcall
    rw [hcall, ← hdelivery, hsub] at hkeeps
    exact .inl hkeeps.symm
  | handedView publication route session delivery result hpublication hhead hhandoff hnative hcall
      hnext =>
    have hdelivery : next.delivery = delivery := by rw [hnext]; rfl
    have hkeeps := deliver_isSubscribedTo codec self.delivery session.id (.agentSession session)
      none sessionId
    rw [NativeChannelPort.deliverSession] at hcall
    rw [hcall, ← hdelivery, hsub] at hkeeps
    exact .inl hkeeps.symm
  | turn pc hquiet hready hnext => exact .inl (hsame hnext rfl)
  | drained frame rest pc hquiet hready houtgoing hnext => exact .inl (hsame hnext rfl)
  | opened sessionCursors resumeAccepted message hpc hcontrol hnext =>
    rw [becomes_delivery hnext] at hsub
    simp [DeliveryState.openClient, DeliveryState.isSubscribedTo] at hsub
  | queued message hpc hnext => exact .inl (hsame hnext rfl)
  | full pc hquiet hready hnext => exact .inl (hsame hnext rfl)
  | discovered requestId snapshot frames sessions hpc hframes hnext =>
    exact .inl (hsame hnext (by simp))
  | submitted bridge pc hfree hquiet hready hbridge huntouched hnext =>
    rw [hnext, delivery, huntouched.delivery] at hsub
    exact .inl hsub
  | already requestId session client baseline hpc hclient hmem hcursor hnext =>
    exact .inl (hsame hnext rfl)
  | began requestId session client hpc hclient hmem hnext => exact .inl (hsame hnext (by simp))
  | asked requestId session hpc hnext => exact .inl (hsame hnext rfl)
  | syncRefused requestId session afterSequence e delivery hpc hfree hdelivery hnext =>
    refine .inl (hsame hnext ?_)
    rcases hdelivery with rfl | rfl <;> rfl
  | syncAgain requestId session afterSequence outcome hpc hfree hagain hnext =>
    exact .inl (hsame hnext rfl)
  | synced requestId session afterSequence channel aggregate provider sync pending hpc hfree
      hsyncs hpending hnext =>
    rw [hnext] at hsub
    simp only [delivery, Bridge.afterSync_world, DeliveryState.setPending_isSubscribedTo] at hsub
    exact .inl hsub
  | syncFailed requestId session e message hpc hcontrol hnext =>
    exact .inl (hsame hnext (by simp))
  | committed requestId session outcome baseline pending hpc hbaseline hpending hfits hnext =>
    exact .inr ⟨requestId, session, outcome, hpc⟩
  | overflowed requestId session outcome pending hpc hpending hfull hnext =>
    exact .inr ⟨requestId, session, outcome, hpc⟩
  | broken requestId session outcome hpc hbroken hnext =>
    exact .inr ⟨requestId, session, outcome, hpc⟩
  | unsubscribed requestId session outcome hpc hfree hnext =>
    rw [hnext, delivery, Bridge.unsubscribe_world] at hsub
    exact .inl hsub
  | removed requestId session outcome message hpc hcontrol hnext =>
    rw [becomes_delivery hnext, DeliveryState.removeSubscription_isSubscribedTo] at hsub
    exact .inl hsub.1
  | leaving last hpc hnext => exact .inl (hsame hnext rfl)
  | left session remaining last hpc hfree hnext =>
    rw [hnext, delivery, Bridge.unsubscribe_world] at hsub
    exact .inl hsub
  | cleared last pc hpc hready hnext =>
    rw [becomes_delivery hnext] at hsub
    simp [DeliveryState.clearConnection, DeliveryState.isSubscribedTo] at hsub

theorem move_inFlight {self next : NativeSystem Other} (ha : Aligned codec config self)
    (m : Move codec config self next) :
    ∀ publication ∈ next.publication, InFlight config next.bridge publication := by
  intro publication hp
  rcases move_publication codec config m with ⟨hsame, hkept⟩ |
    ⟨providerId, event, provider, session, routes, aggregate, -, hcommitted, hnext⟩ | hnone |
    ⟨before, route, after, hbefore, hafter, hadvances, hsessions, hsubscriptions⟩
  · rw [hsame] at hp
    obtain ⟨hsessions, hsubscriptions⟩ := hkept (by rw [hp]; simp)
    exact inFlight_congr config (ha.inFlight publication hp) hsessions hsubscriptions
  · rw [hnext] at hp ⊢
    cases hp
    exact inFlight_published config ha.registered hcommitted
  · rw [hnone] at hp
    cases hp
  · rw [hafter] at hp
    cases hp
    exact inFlight_congr config (inFlight_advances config (ha.inFlight before hbefore) hadvances)
      hsessions hsubscriptions

/-- Every step that does not overflow on a final page keeps the invariant. -/
theorem step_aligned {self : NativeSystem Other} (ha : Aligned codec config self)
    (input : NativeInput) (hfits : CommitFits self input ∨
      (step codec config otherPorts self input).1.delivery.abortReason = none) :
    Aligned codec config (step codec config otherPorts self input).1 := by
  have m := step_move codec config otherPorts self input
  have hchange := move_change codec config m
  obtain ⟨hgreeting, hlost⟩ := step_greeting codec config otherPorts ha.greeting input
  refine ⟨Bridge.consistent_change ha.consistent hchange,
    (Bridge.keeps_change hchange).channels _ _ ha.registered, move_inFlight codec config ha m,
    hgreeting, ?_, move_stage codec config ha m ?_⟩
  · intro hfalse sessionId
    rw [← Bool.not_eq_true]
    intro hsub
    rcases hlost hfalse with hbefore | hnone
    · rcases move_isSubscribedTo codec config m hsub with hmine | ⟨requestId, session, outcome, hpc⟩
      · rw [ha.unused hbefore] at hmine
        cases hmine
      · have hearly := ha.greeting.early hbefore
        rw [hpc] at hearly
        cases hearly
    · simp [DeliveryState.isSubscribedTo, hnone] at hsub
  · intro hmoved
    cases input with
    | worker input => exact hfits
    | publish providerId event =>
      exact absurd (step_other codec config otherPorts self (by simp)).1 hmoved
    | deliver => exact absurd (step_other codec config otherPorts self (by simp)).1 hmoved
    | foreign op => exact absurd (step_other codec config otherPorts self (by simp)).1 hmoved

theorem start_aligned (sessionConfig : SessionAggregateConfig) (others : Other) :
    Aligned codec config (start config sessionConfig others) := by
  have hempty := Bridge.consistent_withSessionConfig sessionConfig
    (⟨DeliveryState.new config.outboundCapacity, others⟩ : NativeWorld Other)
  have hchange := Bridge.step_change (nativePorts codec config.channelId fun world _ => (world, .ok ()))
    (Bridge.withSessionConfig sessionConfig
      (⟨DeliveryState.new config.outboundCapacity, others⟩ : NativeWorld Other))
    (.registerChannel config.descriptor)
  refine ⟨Bridge.consistent_change hempty hchange, ?_, by simp [start], ⟨fun _ => rfl, ?_⟩,
    fun _ _ => rfl, rfl, rfl, ?_⟩
  · simp [start, Bridge.registerChannel, Bridge.withSessionConfig, NativeChannelConfig.descriptor]
  · simp [start]
  · intro sessionId
    simp [start, Bridge.registerChannel, Bridge.withSessionConfig, Bridge.isSubscribed, delivery,
      DeliveryState.isSubscribedTo, DeliveryState.new]

/-- The invariant of all runs without an overflow on a final page. -/
theorem run_aligned (sessionConfig : SessionAggregateConfig) (others : Other)
    {inputs : List NativeInput}
    (h : Trace.Along (step codec config otherPorts) CommitFits (start config sessionConfig others)
      inputs) : Aligned codec config (run codec config otherPorts sessionConfig others inputs) :=
  Trace.along_invariant _ CommitFits (Aligned codec config)
    (fun _ input ha hfits => step_aligned codec config otherPorts ha input (.inl hfits)) h
    (start_aligned codec config sessionConfig others)

theorem betweenFrames_quiet {pc : WorkerPc} (h : pc.betweenFrames = true) : pc.quiet = true := by
  cases pc <;> first | rfl | simp [WorkerPc.betweenFrames] at h

/-- At every point between two frames, the bridge subscriptions of the channel
are the sessions of the connected client, and there are none without a client,
in every run in which the batch of each final page fits. -/
theorem run_agrees (sessionConfig : SessionAggregateConfig) (others : Other)
    (inputs : List NativeInput)
    (hfits : Trace.Along (step codec config otherPorts) CommitFits
      (start config sessionConfig others) inputs)
    (hbetween : (run codec config otherPorts sessionConfig others inputs).pc.betweenFrames =
      true) :
    let reached := run codec config otherPorts sessionConfig others inputs
    (∀ sessionId, reached.bridge.isSubscribed config.channelId sessionId =
      reached.delivery.isSubscribedTo sessionId) ∧
    (reached.delivery.client = none →
      ∀ sessionId, reached.bridge.isSubscribed config.channelId sessionId = false) := by
  intro reached
  have ha := run_aligned codec config otherPorts sessionConfig others hfits
  obtain ⟨-, -, hagrees⟩ := (stage_quiet codec config (betweenFrames_quiet hbetween)).mp ha.stage
  refine ⟨hagrees, fun hnone sessionId => ?_⟩
  have hmine : reached.delivery.isSubscribedTo sessionId = false := by
    simp [DeliveryState.isSubscribedTo, hnone]
  exact (hagrees sessionId).trans hmine

/-- A client that subscribed to a session of two events. -/
theorem run_agrees_subscribing :
    let inputs := Sample.discovered ++ Sample.subscribing ++ Sample.proceed 1
    let reached := run Sample.codec (Sample.native 7 (by decide)) Sample.accepting .default ()
      inputs
    reached.bridge.isSubscribed (Sample.channel 0).id (Sample.started 0 0).sessionId = true ∧
      reached.delivery.isSubscribedTo (Sample.started 0 0).sessionId = true := by
  intro inputs reached
  have hagrees := run_agrees Sample.codec (Sample.native 7 (by decide)) Sample.accepting .default ()
    inputs (by decide +kernel) (by decide +kernel)
  have hsub : reached.bridge.isSubscribed (Sample.channel 0).id (Sample.started 0 0).sessionId =
      true := by decide +kernel
  exact ⟨hsub, (hagrees.1 (Sample.started 0 0).sessionId).symm.trans hsub⟩

/-- With four places in the queue the page is accepted and its batch is not: the
subscription outlives the client. -/
theorem subscription_outlives_client :
    ¬ ∀ (outboundCapacity : Nat) (holdsThree : 3 ≤ outboundCapacity) (inputs : List NativeInput),
      let reached := run Sample.codec (Sample.native outboundCapacity holdsThree) Sample.accepting
        .default () inputs
      reached.pc.betweenFrames = true → reached.delivery.client = none →
      ∀ sessionId, reached.bridge.isSubscribed (Sample.channel 0).id sessionId = false := by
  intro h
  have hnone := h 4 (by decide)
    (Sample.discovered ++ Sample.subscribing ++ Sample.proceed 3) (by decide +kernel)
    (by decide +kernel) (Sample.started 0 0).sessionId
  have hsub : (run Sample.codec (Sample.native 4 (by decide)) Sample.accepting .default ()
      (Sample.discovered ++ Sample.subscribing ++ Sample.proceed 3)).bridge.isSubscribed
      (Sample.channel 0).id (Sample.started 0 0).sessionId = true := by decide +kernel
  rw [hsub] at hnone
  cases hnone

end NativeSystem

end AgentPulse

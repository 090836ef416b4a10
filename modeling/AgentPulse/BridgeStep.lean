import AgentPulse.Bridge
import AgentPulse.CoreHistory

/-!
# What one operation of the bridge can do

A provider event is rejected, recognized as a retry, or committed and then
handed to every subscriber. Every operation is one of the changes listed by
`Change`; the later modules read operations through these lemmas and never
unfold them again.
-/
namespace AgentPulse

open Std (ExtTreeMap ExtTreeSet)

namespace Bridge

variable {World : Type} (ports : Ports World)

theorem mem_sessionSubscribers {self : Bridge World} {channelId : ChannelId}
    {sessionId : SessionId} :
    channelId ∈ self.sessionSubscribers sessionId ↔
      self.isSubscribed channelId sessionId = true :=
  MultiMap.mem_members

/-- The fan-out loop when every channel is present. -/
def deliverAll (event : AgentEvent) (sessionView : Option AgentSession) :
    World → List EventRoute → World × List ChannelDeliveryResult
  | world, [] => (world, [])
  | world, route :: routes =>
    let (world, delivery) := deliverTo ports world event sessionView route
    let (world, deliveries) := deliverAll event sessionView world routes
    (world, delivery :: deliveries)

theorem fanOut_eq_deliverAll (channels : ExtTreeMap ChannelId ChannelDescriptor)
    (event : AgentEvent) (sessionView : Option AgentSession) (world : World)
    (routes : List EventRoute) (h : ∀ route ∈ routes, route.channelId ∈ channels) :
    fanOut ports channels event sessionView world routes =
      ((deliverAll ports event sessionView world routes).1,
        .ok (deliverAll ports event sessionView world routes).2) := by
  induction routes generalizing world with
  | nil => rfl
  | cons route routes ih =>
    have hhead : channels.contains route.channelId = true :=
      ExtTreeMap.contains_iff_mem.mpr (h route (by simp))
    have htail : ∀ r ∈ routes, r.channelId ∈ channels := fun r hr => h r (by simp [hr])
    have hrest := ih (deliverTo ports world event sessionView route).1 htail
    simp [fanOut, deliverAll, hhead, hrest]

/-- What the route of one subscriber records. -/
def RouteFor (self : Bridge World) (provider : ProviderDescriptor) (session : AgentSession)
    (event : AgentEvent) (route : EventRoute) : Prop :=
  ∃ channel, self.channels[route.channelId]? = some channel ∧
    CapabilityRouter.channelEventRoute provider channel session event = .ok route.route ∧
    route.deliverSession = (channel.capabilities.contains ChannelCapabilities.sessionView &&
      eventUpdatesSessionView event)

theorem eventRoutes_ok {self : Bridge World} {provider : ProviderDescriptor}
    {session : AgentSession} {event : AgentEvent} {routes : List EventRoute}
    (h : self.eventRoutes provider session event = .ok routes) :
    routes.map EventRoute.channelId = self.sessionSubscribers event.sessionId ∧
      ∀ route ∈ routes, RouteFor self provider session event route := by
  unfold eventRoutes at h
  rw [Fallible.mapM_eq_ok] at h
  generalize self.sessionSubscribers event.sessionId = subscribers at h ⊢
  induction h with
  | nil => simp
  | @cons channelId route channelIds routes hroute _ ih =>
    have hfor : route.channelId = channelId ∧ RouteFor self provider session event route := by
      cases hchannel : self.channels[channelId]? with
      | none => simp [hchannel] at hroute
      | some channel =>
        simp only [hchannel] at hroute
        cases hr : CapabilityRouter.channelEventRoute provider channel session event with
        | error e => simp [hr] at hroute
        | ok r =>
          simp only [hr, Except.ok.injEq] at hroute
          subst hroute
          exact ⟨rfl, channel, hchannel, hr, rfl⟩
    refine ⟨by rw [List.map_cons, hfor.1, ih.1], ?_⟩
    intro r hr
    rcases List.mem_cons.mp hr with rfl | hr
    · exact hfor.2
    · exact ih.2 r hr

theorem routeFor_mem {self : Bridge World} {provider : ProviderDescriptor}
    {session : AgentSession} {event : AgentEvent} {route : EventRoute}
    (h : RouteFor self provider session event route) : route.channelId ∈ self.channels := by
  obtain ⟨channel, hchannel, -⟩ := h
  rw [ExtTreeMap.mem_iff_isSome_getElem?, hchannel]
  rfl

/-- Route computation fails on a missing channel or on a capability check. -/
theorem eventRoutes_error {self : Bridge World} {provider : ProviderDescriptor}
    {session : AgentSession} {event : AgentEvent} {e : ProviderEventError}
    (h : self.eventRoutes provider session event = .error e) :
    (∃ channelId ∈ self.sessionSubscribers event.sessionId,
      self.channels[channelId]? = none ∧ e = .channelNotFound channelId) ∨
    (∃ source, e = .capabilityRoute source) := by
  unfold eventRoutes at h
  obtain ⟨channelId, hmem, herr⟩ := Fallible.exists_of_mapM_error h
  cases hchannel : self.channels[channelId]? with
  | none =>
    simp only [hchannel, Except.error.injEq] at herr
    exact .inl ⟨channelId, hmem, hchannel, herr.symm⟩
  | some channel =>
    simp only [hchannel] at herr
    cases hr : CapabilityRouter.channelEventRoute provider channel session event with
    | error source =>
      simp only [hr, Except.error.injEq] at herr
      exact .inr ⟨source, herr.symm⟩
    | ok route => simp [hr] at herr

/-- The aggregate that an accepted event leaves in the bridge. -/
def Reduction (self : Bridge World) (event : AgentEvent) (aggregate : SessionAggregate) : Prop :=
  (∃ old, self.sessions[event.sessionId]? = some old ∧
    (old.apply event).2 = .ok .applied ∧ (old.apply event).1 = aggregate) ∨
  (self.sessions[event.sessionId]? = none ∧
    SessionAggregate.fromInitialEventWithConfig event self.sessionConfig = .ok aggregate)

def withSession (self : Bridge World) (sessionId : SessionId) (aggregate : SessionAggregate) :
    Bridge World :=
  { self with sessions := self.sessions.insert sessionId aggregate }

/-- A rejected or repeated event writes back the aggregate that was there. -/
theorem withSession_self {self : Bridge World} {sessionId : SessionId}
    {aggregate : SessionAggregate} (h : self.sessions[sessionId]? = some aggregate) :
    self.withSession sessionId aggregate = self := by
  unfold withSession
  rw [OrderedMap.insert_self h]

theorem reduceEvent_cases (self : Bridge World) (event : AgentEvent) :
    (∃ e, self.reduceEvent event = (self, .error e)) ∨
    (∃ old, self.sessions[event.sessionId]? = some old ∧
      (old.apply event).2 = .ok .alreadyApplied ∧
      self.reduceEvent event = (self, .ok (.alreadyApplied, old.session))) ∨
    (∃ aggregate, self.Reduction event aggregate ∧
      self.reduceEvent event =
        (self.withSession event.sessionId aggregate, .ok (.applied, aggregate.session))) := by
  unfold reduceEvent
  cases hold : self.sessions[event.sessionId]? with
  | none =>
    cases hinit : SessionAggregate.fromInitialEventWithConfig event self.sessionConfig with
    | error e => exact .inl ⟨e, rfl⟩
    | ok aggregate => exact .inr (.inr ⟨aggregate, .inr ⟨hold, hinit⟩, rfl⟩)
  | some old =>
    have hback := withSession_self hold
    unfold withSession at hback
    rcases SessionAggregate.apply_cases old event with ⟨-, ha⟩ | ⟨e, ha⟩ | ⟨-, -, ha⟩
    · exact .inr (.inl ⟨old, rfl, by rw [ha], by simp [ha, hback]⟩)
    · exact .inl ⟨e, by simp [ha, hback]⟩
    · refine .inr (.inr ⟨(old.apply event).1, .inl ⟨old, hold, by rw [ha], rfl⟩, ?_⟩)
      simp [ha, withSession]

/-- Everything that holds when a provider event is accepted. -/
structure Committed (bridge : Bridge World) (providerId : ProviderId) (event : AgentEvent)
    (provider : ProviderDescriptor) (session : AgentSession) (routes : List EventRoute)
    (aggregate : SessionAggregate) : Prop where
  registered : bridge.providers[providerId]? = some provider
  routing : bridge.routingSession event = .ok session
  valid : CapabilityRouter.validateProviderEvent provider session event = .ok ()
  routed : bridge.eventRoutes provider session event = .ok routes
  reduced : bridge.Reduction event aggregate

/-- The session view of a fan-out, present when some channel wants it. -/
def sessionViewOf (routes : List EventRoute) (aggregate : SessionAggregate) :
    Option AgentSession :=
  if routes.any EventRoute.deliverSession then some aggregate.session else none

/-- The bridge after a committed event: one aggregate is replaced and the ports
have been called. -/
def commit (self : Bridge World) (event : AgentEvent) (routes : List EventRoute)
    (aggregate : SessionAggregate) : Bridge World :=
  { self.withSession event.sessionId aggregate with
    world := (deliverAll ports event (sessionViewOf routes aggregate) self.world routes).1 }

def commitReport (self : Bridge World) (event : AgentEvent) (routes : List EventRoute)
    (aggregate : SessionAggregate) : ProviderEventReport :=
  ⟨.applied, (deliverAll ports event (sessionViewOf routes aggregate) self.world routes).2⟩

def commitResult (self : Bridge World) (event : AgentEvent) (routes : List EventRoute)
    (aggregate : SessionAggregate) : Except ProviderEventError ProviderEventReport :=
  let report := self.commitReport ports event routes aggregate
  if report.hasFailures then .error (.channelHandoffs report) else .ok report

/-- The complete behaviour of the phases before the fan-out. -/
theorem beginProviderEvent_cases (self : Bridge World) (providerId : ProviderId)
    (event : AgentEvent) :
    (∃ e, self.beginProviderEvent providerId event = (self, .error e) ∧
      (∀ report, e ≠ .channelHandoffs report) ∧
      (∀ channelId, e = .channelNotFound channelId →
        channelId ∈ self.sessionSubscribers event.sessionId ∧
          self.channels[channelId]? = none)) ∨
    (∃ old, self.sessions[event.sessionId]? = some old ∧
      (old.apply event).2 = .ok .alreadyApplied ∧
      self.beginProviderEvent providerId event = (self, .ok none)) ∨
    (∃ provider session routes aggregate,
      Committed self providerId event provider session routes aggregate ∧
      self.beginProviderEvent providerId event =
        (self.withSession event.sessionId aggregate,
          .ok (some (routes, sessionViewOf routes aggregate)))) := by
  unfold beginProviderEvent
  cases hprovider : self.providers[providerId]? with
  | none => exact .inl ⟨.providerNotFound providerId, rfl, by simp, by simp⟩
  | some provider =>
    cases hsession : self.routingSession event with
    | error e =>
      have he : e = .sessionNotStarted event.sessionId := by
        unfold routingSession at hsession
        split at hsession
        · cases hsession
        · split at hsession <;> cases hsession
          rfl
      exact .inl ⟨e, rfl, by simp [he], by simp [he]⟩
    | ok session =>
      cases hvalid : CapabilityRouter.validateProviderEvent provider session event with
      | error e => exact .inl ⟨.capabilityRoute e, by simp [hvalid], by simp, by simp⟩
      | ok u =>
        cases hroutes : self.eventRoutes provider session event with
        | error e =>
          refine .inl ⟨e, by simp [hvalid, hroutes], ?_, ?_⟩
          · rcases eventRoutes_error hroutes with ⟨c, -, -, rfl⟩ | ⟨source, rfl⟩ <;> simp
          · intro channelId hc
            rcases eventRoutes_error hroutes with ⟨c, hmem, hnone, rfl⟩ | ⟨source, rfl⟩
            · cases hc
              exact ⟨hmem, hnone⟩
            · cases hc
        | ok routes =>
          rcases self.reduceEvent_cases event with ⟨e, hr⟩ | ⟨old, hold, ha, hr⟩ |
            ⟨aggregate, hred, hr⟩
          · exact .inl ⟨.reduce e, by simp [hvalid, hroutes, hr], by simp, by simp⟩
          · exact .inr (.inl ⟨old, hold, ha, by simp [hvalid, hroutes, hr]⟩)
          · refine .inr (.inr ⟨provider, session, routes, aggregate,
              ⟨hprovider, hsession, hvalid, hroutes, hred⟩, ?_⟩)
            simp only [hvalid, hroutes, hr]
            rfl

/-- An accepted event passes every phase before the fan-out. -/
theorem beginProviderEvent_committed {self : Bridge World} {providerId : ProviderId}
    {event : AgentEvent} {provider : ProviderDescriptor} {session : AgentSession}
    {routes : List EventRoute} {aggregate : SessionAggregate}
    (h : Committed self providerId event provider session routes aggregate) :
    self.beginProviderEvent providerId event =
      (self.withSession event.sessionId aggregate,
        .ok (some (routes, sessionViewOf routes aggregate))) := by
  have hreduce : self.reduceEvent event =
      (self.withSession event.sessionId aggregate, .ok (.applied, aggregate.session)) := by
    unfold reduceEvent
    rcases h.reduced with ⟨old, hold, happlied, rfl⟩ | ⟨hnone, hinit⟩
    · simp only [hold, happlied]
      rfl
    · simp only [hnone, hinit]
      rfl
  unfold beginProviderEvent
  simp only [h.registered, h.routing, h.valid, h.routed, hreduce]
  rfl

/-- An accepted event is committed and then fanned out. -/
theorem handleProviderEvent_committed {self : Bridge World} {providerId : ProviderId}
    {event : AgentEvent} {provider : ProviderDescriptor} {session : AgentSession}
    {routes : List EventRoute} {aggregate : SessionAggregate}
    (h : Committed self providerId event provider session routes aggregate) :
    self.handleProviderEvent ports providerId event =
      (self.commit ports event routes aggregate,
        self.commitResult ports event routes aggregate) := by
  have hmem : ∀ route ∈ routes, route.channelId ∈ self.channels :=
    fun route hroute => routeFor_mem ((eventRoutes_ok h.routed).2 route hroute)
  have hfan := fanOut_eq_deliverAll ports self.channels event (sessionViewOf routes aggregate)
    self.world routes hmem
  unfold handleProviderEvent
  simp only [beginProviderEvent_committed h, withSession, hfan]
  unfold commitResult commit commitReport withSession
  by_cases hfail : ProviderEventReport.hasFailures ⟨.applied, (deliverAll ports event
      (sessionViewOf routes aggregate) self.world routes).2⟩ = true
  · simp only [hfail, if_true]
  · simp only [hfail]
    rfl

/-- The complete behaviour of one provider event. -/
theorem handleProviderEvent_cases (self : Bridge World) (providerId : ProviderId)
    (event : AgentEvent) :
    (∃ e, self.handleProviderEvent ports providerId event = (self, .error e) ∧
      (∀ report, e ≠ .channelHandoffs report) ∧
      (∀ channelId, e = .channelNotFound channelId →
        channelId ∈ self.sessionSubscribers event.sessionId ∧
          self.channels[channelId]? = none)) ∨
    (∃ old, self.sessions[event.sessionId]? = some old ∧
      (old.apply event).2 = .ok .alreadyApplied ∧
      self.handleProviderEvent ports providerId event = (self, .ok ⟨.alreadyApplied, []⟩)) ∨
    (∃ provider session routes aggregate,
      Committed self providerId event provider session routes aggregate ∧
      self.handleProviderEvent ports providerId event =
        (self.commit ports event routes aggregate,
          self.commitResult ports event routes aggregate)) := by
  rcases beginProviderEvent_cases self providerId event with ⟨e, he, hnot, hmissing⟩ |
    ⟨old, hold, ha, he⟩ | ⟨provider, session, routes, aggregate, hc, -⟩
  · exact .inl ⟨e, by rw [handleProviderEvent, he], hnot, hmissing⟩
  · exact .inr (.inl ⟨old, hold, ha, by rw [handleProviderEvent, he]⟩)
  · exact .inr (.inr ⟨provider, session, routes, aggregate, hc,
      handleProviderEvent_committed ports hc⟩)

/-- Everything that holds when `syncSession` calls its channel port. -/
structure Syncs (bridge : Bridge World) (channelId : ChannelId) (sessionId : SessionId)
    (requestedAfter maxEvents : Nat) (channel : ChannelDescriptor) (aggregate : SessionAggregate)
    (provider : ProviderDescriptor) (sync : ChannelSessionSync) : Prop where
  positive : maxEvents ≠ 0
  registered : bridge.channels[channelId]? = some channel
  known : bridge.sessions[sessionId]? = some aggregate
  fresh : bridge.isSubscribed channelId sessionId = false
  owner : bridge.providers[aggregate.session.providerId]? = some provider
  page : sessionSync provider channel channelId aggregate requestedAfter maxEvents = .ok sync

def setWorld (self : Bridge World) (world : World) : Bridge World := { self with world := world }

/-- The bridge after an accepted page. -/
def afterSync (self : Bridge World) (channelId : ChannelId) (sessionId : SessionId)
    (sync : ChannelSessionSync) (world : World) : Bridge World :=
  if sync.isFinal then (self.setWorld world).insertSubscription channelId sessionId
  else self.setWorld world

/-- The complete behaviour of `syncSession`. -/
theorem syncSession_cases (self : Bridge World) (channelId : ChannelId) (sessionId : SessionId)
    (requestedAfter maxEvents : Nat) :
    (∃ e, self.syncSession ports channelId sessionId requestedAfter maxEvents = (self, .error e) ∧
      ∀ source, e = .baselineRoute source → ∃ channel aggregate provider,
        self.channels[channelId]? = some channel ∧ self.sessions[sessionId]? = some aggregate ∧
        self.providers[aggregate.session.providerId]? = some provider ∧
        sessionSync provider channel channelId aggregate requestedAfter maxEvents = .error e) ∨
    (∃ aggregate, maxEvents ≠ 0 ∧ channelId ∈ self.channels ∧
      self.sessions[sessionId]? = some aggregate ∧
      self.isSubscribed channelId sessionId = true ∧
      self.syncSession ports channelId sessionId requestedAfter maxEvents =
        (self, .ok ⟨aggregate.lastSequence.get, 0, false, true, 0⟩)) ∨
    (∃ channel aggregate provider sync world result,
      Syncs self channelId sessionId requestedAfter maxEvents channel aggregate provider sync ∧
      ports self.world (.deliverSessionSync channelId sync) = (world, result) ∧
      self.syncSession ports channelId sessionId requestedAfter maxEvents =
        match result with
        | .error source => (self.setWorld world,
            .error (.initialSessionHandoff ⟨channelId, .session, source⟩))
        | .ok () => (self.afterSync channelId sessionId sync world, .ok (syncOutcome sync))) := by
  unfold syncSession
  by_cases hzero : maxEvents = 0
  · exact .inl ⟨.invalidPageSize, by simp [hzero], by simp⟩
  · rw [if_neg hzero]
    cases hchannel : self.channels[channelId]? with
    | none => exact .inl ⟨.channelNotFound channelId, rfl, by simp⟩
    | some channel =>
      have hmem : channelId ∈ self.channels := by
        rw [ExtTreeMap.mem_iff_isSome_getElem?, hchannel]
        rfl
      cases hsession : self.sessions[sessionId]? with
      | none => exact .inl ⟨.sessionNotFound sessionId, rfl, by simp⟩
      | some aggregate =>
        cases hsub : self.isSubscribed channelId sessionId with
        | true => exact .inr (.inl ⟨aggregate, hzero, hmem, rfl, rfl, by simp⟩)
        | false =>
          cases hprovider : self.providers[aggregate.session.providerId]? with
          | none => exact .inl ⟨.sessionNotFound sessionId, by simp [hprovider], by simp⟩
          | some provider =>
            cases hsync : sessionSync provider channel channelId aggregate requestedAfter
                maxEvents with
            | error e =>
              refine .inl ⟨e, by simp [hprovider, hsync], ?_⟩
              intro source _
              exact ⟨channel, aggregate, provider, rfl, rfl, hprovider, hsync⟩
            | ok sync =>
              have hsyncs : Syncs self channelId sessionId requestedAfter maxEvents channel
                  aggregate provider sync := ⟨hzero, hchannel, hsession, hsub, hprovider, hsync⟩
              cases hport : ports self.world (.deliverSessionSync channelId sync) with
              | mk world result =>
                refine .inr (.inr ⟨channel, aggregate, provider, sync, world, result, hsyncs,
                  hport, ?_⟩)
                cases result with
                | error source => simp [hprovider, hsync, hport, setWorld]
                | ok u => simp [hprovider, hsync, hport, afterSync, setWorld]

/-- Everything that holds when `subscribe` activates a subscription, with the
baseline it may hand over first. -/
structure Subscribes (bridge : Bridge World) (channelId : ChannelId) (sessionId : SessionId)
    (channel : ChannelDescriptor) (aggregate : SessionAggregate) (provider : ProviderDescriptor)
    (baseline : ChannelSessionBaseline) : Prop where
  registered : bridge.channels[channelId]? = some channel
  known : bridge.sessions[sessionId]? = some aggregate
  fresh : bridge.isSubscribed channelId sessionId = false
  owner : bridge.providers[aggregate.session.providerId]? = some provider
  routed : baselineOf provider channel aggregate = .ok baseline

/-- The complete behaviour of `subscribe`. -/
theorem subscribe_cases (self : Bridge World) (channelId : ChannelId) (sessionId : SessionId) :
    (∃ e, self.subscribe ports channelId sessionId = (self, .error e) ∧
      ∀ source, e = .baselineRoute source → ∃ channel aggregate provider,
        self.channels[channelId]? = some channel ∧ self.sessions[sessionId]? = some aggregate ∧
        self.providers[aggregate.session.providerId]? = some provider ∧
        baselineOf provider channel aggregate = .error e) ∨
    (∃ aggregate, self.sessions[sessionId]? = some aggregate ∧
      self.isSubscribed channelId sessionId = true ∧
      self.subscribe ports channelId sessionId =
        (self, .ok (.alreadySubscribed aggregate.lastSequence))) ∨
    (∃ channel aggregate provider baseline,
      Subscribes self channelId sessionId channel aggregate provider baseline ∧
      ((channel.capabilities.contains ChannelCapabilities.sessionView = false ∧
        self.subscribe ports channelId sessionId =
          (self.insertSubscription channelId sessionId,
            .ok (.subscribed false aggregate.lastSequence
              baseline.pendingInteractions.length))) ∨
      (channel.capabilities.contains ChannelCapabilities.sessionView = true ∧
        ∃ world result,
          ports self.world (.deliverSessionBaseline channelId baseline) = (world, result) ∧
          self.subscribe ports channelId sessionId =
            match result with
            | .error source => (self.setWorld world,
                .error (.initialSessionHandoff ⟨channelId, .session, source⟩))
            | .ok () => ((self.setWorld world).insertSubscription channelId sessionId,
                .ok (.subscribed true aggregate.lastSequence
                  baseline.pendingInteractions.length))))) := by
  unfold subscribe
  cases hchannel : self.channels[channelId]? with
  | none => exact .inl ⟨.channelNotFound channelId, rfl, by simp⟩
  | some channel =>
    cases hsession : self.sessions[sessionId]? with
    | none => exact .inl ⟨.sessionNotFound sessionId, rfl, by simp⟩
    | some aggregate =>
      cases hsub : self.isSubscribed channelId sessionId with
      | true => exact .inr (.inl ⟨aggregate, rfl, rfl, by simp⟩)
      | false =>
        cases hprovider : self.providers[aggregate.session.providerId]? with
        | none => exact .inl ⟨.sessionNotFound sessionId, by simp [hprovider], by simp⟩
        | some provider =>
          cases hbase : baselineOf provider channel aggregate with
          | error e =>
            refine .inl ⟨e, by simp [hprovider, hbase], ?_⟩
            intro source _
            exact ⟨channel, aggregate, provider, rfl, rfl, hprovider, hbase⟩
          | ok baseline =>
            have hsubs : Subscribes self channelId sessionId channel aggregate provider baseline :=
              ⟨hchannel, hsession, hsub, hprovider, hbase⟩
            refine .inr (.inr ⟨channel, aggregate, provider, baseline, hsubs, ?_⟩)
            cases hview : channel.capabilities.contains ChannelCapabilities.sessionView with
            | false => exact .inl ⟨rfl, by simp [hprovider, hbase, hview]⟩
            | true =>
              cases hport : ports self.world (.deliverSessionBaseline channelId baseline) with
              | mk world result =>
                refine .inr ⟨rfl, world, result, rfl, ?_⟩
                cases result with
                | error source => simp [hprovider, hbase, hview, hport, setWorld]
                | ok u => simp [hprovider, hbase, hview, hport, setWorld]

/-- A channel action reaches at most the provider port; it changes nothing else. -/
theorem handToProvider_setWorld (self : Bridge World) (providerId : ProviderId)
    (handoff : ProviderHandoffKind) (call : PortCall) :
    ∃ world, (self.handToProvider ports providerId handoff call).1 = self.setWorld world := by
  unfold handToProvider
  split
  · exact ⟨self.world, rfl⟩
  · split
    · next world source hport => exact ⟨world, rfl⟩
    · next world hport => exact ⟨world, rfl⟩

theorem handleInteractionResponse_setWorld (self : Bridge World) (channelId : ChannelId)
    (response : InteractionResponse) :
    ∃ world, (self.handleInteractionResponse ports channelId response).1 =
      self.setWorld world := by
  unfold handleInteractionResponse
  split
  · exact ⟨self.world, rfl⟩
  · exact handToProvider_setWorld ports self _ _ _

theorem handleCommand_setWorld (self : Bridge World) (channelId : ChannelId)
    (command : AgentCommand) :
    ∃ world, (self.handleCommand ports channelId command).1 = self.setWorld world := by
  unfold handleCommand
  split
  · exact ⟨self.world, rfl⟩
  · exact handToProvider_setWorld ports self _ _ _

/-- The changes of every operation other than a provider event. -/
inductive Quiet (self : Bridge World) : Bridge World → Prop where
  | world (world : World) : Quiet self (self.setWorld world)
  | provider (descriptor : ProviderDescriptor) : descriptor.id ∉ self.providers →
      Quiet self { self with providers := self.providers.insert descriptor.id descriptor }
  | channel (descriptor : ChannelDescriptor) : descriptor.id ∉ self.channels →
      Quiet self { self with channels := self.channels.insert descriptor.id descriptor }
  | joined (channelId : ChannelId) (sessionId : SessionId) (world : World) :
      channelId ∈ self.channels → sessionId ∈ self.sessions →
      Quiet self ((self.setWorld world).insertSubscription channelId sessionId)
  | left (channelId : ChannelId) (sessionId : SessionId) : Quiet self { self with
      subscriptions := MultiMap.remove self.subscriptions sessionId channelId }
  | cleared (channelId : ChannelId) : Quiet self { self with
      subscriptions := MultiMap.removeMember self.subscriptions channelId }

/-- All the ways in which one operation can change a bridge. -/
inductive Change (self : Bridge World) : Bridge World → Prop where
  | quiet {next : Bridge World} : Quiet self next → Change self next
  | reduced (providerId : ProviderId) (event : AgentEvent) (provider : ProviderDescriptor)
      (session : AgentSession) (routes : List EventRoute) (aggregate : SessionAggregate)
      (world : World) : Committed self providerId event provider session routes aggregate →
      Change self ((self.withSession event.sessionId aggregate).setWorld world)

theorem quiet_refl (self : Bridge World) : Quiet self self := .world self.world

theorem quiet_sessions {self next : Bridge World} (h : Quiet self next) :
    next.sessions = self.sessions ∧ next.sessionConfig = self.sessionConfig := by
  cases h <;> exact ⟨rfl, rfl⟩

theorem mem_of_getElem? {α β : Type} [Ord α] [Std.TransOrd α] {m : ExtTreeMap α β} {k : α} {v : β}
    (h : m[k]? = some v) : k ∈ m := by
  rw [ExtTreeMap.mem_iff_isSome_getElem?, h]
  rfl

theorem step_quiet (self : Bridge World) (op : BridgeOp)
    (hop : ∀ providerId event, op ≠ .handleProviderEvent providerId event) :
    Quiet self (self.step ports op).1 := by
  cases op with
  | registerProvider descriptor =>
    simp only [step, registerProvider]
    split
    · exact quiet_refl self
    · next h => exact .provider descriptor (fun hm => h (ExtTreeMap.contains_iff_mem.mpr hm))
  | registerChannel descriptor =>
    simp only [step, registerChannel]
    split
    · exact quiet_refl self
    · next h => exact .channel descriptor (fun hm => h (ExtTreeMap.contains_iff_mem.mpr hm))
  | subscribe channelId sessionId =>
    simp only [step, Prod.map_fst, id_eq]
    rcases subscribe_cases ports self channelId sessionId with ⟨e, he, -⟩ | ⟨aggregate, -, -, he⟩ |
      ⟨channel, aggregate, provider, baseline, hs, ⟨-, he⟩ | ⟨-, world, result, -, he⟩⟩
    · rw [he]
      exact quiet_refl self
    · rw [he]
      exact quiet_refl self
    · rw [he]
      exact .joined channelId sessionId self.world (mem_of_getElem? hs.registered)
        (mem_of_getElem? hs.known)
    · rw [he]
      cases result with
      | error source => exact .world world
      | ok u =>
        exact .joined channelId sessionId world (mem_of_getElem? hs.registered)
          (mem_of_getElem? hs.known)
  | syncSession channelId sessionId requestedAfter maxEvents =>
    simp only [step, Prod.map_fst, id_eq]
    rcases syncSession_cases ports self channelId sessionId requestedAfter maxEvents with
      ⟨e, he, -⟩ | ⟨aggregate, -, -, -, -, he⟩ |
      ⟨channel, aggregate, provider, sync, world, result, hs, -, he⟩
    · rw [he]
      exact quiet_refl self
    · rw [he]
      exact quiet_refl self
    · rw [he]
      cases result with
      | error source => exact .world world
      | ok u =>
        simp only [afterSync]
        split
        · exact .joined channelId sessionId world (mem_of_getElem? hs.registered)
            (mem_of_getElem? hs.known)
        · exact .world world
  | unsubscribe channelId sessionId =>
    simp only [step, unsubscribe]
    split
    · exact quiet_refl self
    · split
      · exact quiet_refl self
      · exact .left channelId sessionId
  | unsubscribeChannel channelId =>
    simp only [step, unsubscribeChannel]
    split
    · exact quiet_refl self
    · exact .cleared channelId
  | handleProviderEvent providerId event => exact absurd rfl (hop providerId event)
  | handleInteractionResponse channelId response =>
    obtain ⟨world, hw⟩ := handleInteractionResponse_setWorld ports self channelId response
    simp only [step, Prod.map_fst, id_eq, hw]
    exact .world world
  | handleCommand channelId command =>
    obtain ⟨world, hw⟩ := handleCommand_setWorld ports self channelId command
    simp only [step, Prod.map_fst, id_eq, hw]
    exact .world world

theorem step_change (self : Bridge World) (op : BridgeOp) :
    Change self (self.step ports op).1 := by
  by_cases hop : ∀ providerId event, op ≠ .handleProviderEvent providerId event
  · exact .quiet (step_quiet ports self op hop)
  · simp only [not_forall, ne_eq, not_not] at hop
    obtain ⟨providerId, event, rfl⟩ := hop
    simp only [step, Prod.map_fst, id_eq]
    rcases handleProviderEvent_cases ports self providerId event with ⟨e, he, -⟩ |
      ⟨old, -, -, he⟩ | ⟨provider, session, routes, aggregate, hc, he⟩
    · rw [he]
      exact .quiet (quiet_refl self)
    · rw [he]
      exact .quiet (quiet_refl self)
    · rw [he]
      exact .reduced providerId event provider session routes aggregate _ hc

theorem change_sessionConfig {self next : Bridge World} (h : Change self next) :
    next.sessionConfig = self.sessionConfig := by
  cases h with
  | quiet hquiet => exact (quiet_sessions hquiet).2
  | reduced providerId event provider session routes aggregate world hcommitted => rfl

theorem run_sessionConfig (config : SessionAggregateConfig) (world : World)
    (ops : List BridgeOp) : (run ports config world ops).sessionConfig = config :=
  Trace.final_invariant (step ports) (fun bridge => bridge.sessionConfig = config)
    (fun bridge op h => (change_sessionConfig (step_change ports bridge op)).trans h) _ ops rfl

end Bridge

end AgentPulse

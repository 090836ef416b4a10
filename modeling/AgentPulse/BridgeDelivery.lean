import AgentPulse.BridgeInvariant

/-!
# Delivery of one provider event

`recording` wraps any ports and appends every call with its result to a log.
A rejected or repeated event leaves the whole bridge alone, the log included.
An accepted event replaces one aggregate and then reaches every subscriber
once, in identifier order, whatever the ports answer.
-/
namespace AgentPulse

open Std (ExtTreeMap ExtTreeSet)
open SessionAggregate (reduces_anchored)

/-- A port call together with the answer it got. -/
abbrev Handoff := PortCall × Except BoxAdapterError Unit

structure Recorded (World : Type) where
  world : World
  calls : List Handoff

def recording {World : Type} (ports : Ports World) : Ports (Recorded World) :=
  fun recorded call =>
    (⟨(ports recorded.world call).1, recorded.calls ++ [(call, (ports recorded.world call).2)]⟩,
      (ports recorded.world call).2)

/-- The calls made for one subscriber: its event, and after an accepted event
possibly the session view. -/
inductive SubscriberCalls (event : AgentEvent) (session : AgentSession) (channelId : ChannelId) :
    List Handoff → Prop where
  | rejected (route : ChannelEventRoute) (source : BoxAdapterError) :
      SubscriberCalls event session channelId
        [(.deliverEvent channelId event route, .error source)]
  | event (route : ChannelEventRoute) :
      SubscriberCalls event session channelId [(.deliverEvent channelId event route, .ok ())]
  | eventAndSession (route : ChannelEventRoute) (result : Except BoxAdapterError Unit) :
      SubscriberCalls event session channelId
        [(.deliverEvent channelId event route, .ok ()), (.deliverSession channelId session, result)]

namespace Bridge

variable {World : Type} (ports : Ports World)

theorem deliverTo_recording (recorded : Recorded World) (event : AgentEvent)
    (view : Option AgentSession) (session : AgentSession) (hview : ∀ s ∈ view, s = session)
    (route : EventRoute) :
    ∃ calls, SubscriberCalls event session route.channelId calls ∧
      (deliverTo (recording ports) recorded event view route).1.calls =
        recorded.calls ++ calls := by
  unfold deliverTo recording
  cases hevent : (ports recorded.world (.deliverEvent route.channelId event route.route)).2 with
  | error source => exact ⟨_, .rejected route.route source, rfl⟩
  | ok u =>
    cases hdeliver : route.deliverSession with
    | false => exact ⟨_, .event route.route, rfl⟩
    | true =>
      cases view with
      | none => exact ⟨_, .event route.route, rfl⟩
      | some s =>
        have hs : s = session := hview s rfl
        subst hs
        generalize (ports recorded.world
          (.deliverEvent route.channelId event route.route)).1 = middle
        refine ⟨_, .eventAndSession route.route
          (ports middle (.deliverSession route.channelId s)).2, ?_⟩
        cases hsession : (ports middle (.deliverSession route.channelId s)).2 <;> simp [hsession]

theorem deliverAll_recording (recorded : Recorded World) (event : AgentEvent)
    (view : Option AgentSession) (session : AgentSession) (hview : ∀ s ∈ view, s = session)
    (routes : List EventRoute) :
    ∃ blocks, List.Forall₂ (SubscriberCalls event session) (routes.map EventRoute.channelId)
        blocks ∧
      (deliverAll (recording ports) event view recorded routes).1.calls =
        recorded.calls ++ blocks.flatten := by
  induction routes generalizing recorded with
  | nil => exact ⟨[], .nil, by simp [deliverAll]⟩
  | cons route routes ih =>
    obtain ⟨calls, hcalls, hhead⟩ := deliverTo_recording ports recorded event view session hview
      route
    obtain ⟨blocks, hblocks, htail⟩ :=
      ih (deliverTo (recording ports) recorded event view route).1
    refine ⟨calls :: blocks, .cons hcalls hblocks, ?_⟩
    simp [deliverAll, htail, hhead]

/-- What an accepted event did to the bridge. -/
structure Delivered (before after : Bridge (Recorded World)) (event : AgentEvent)
    (aggregate : SessionAggregate) : Prop where
  reduced : before.Reduction event aggregate
  changed : before.sessions[event.sessionId]? ≠ some aggregate
  sessions : after.sessions = before.sessions.insert event.sessionId aggregate
  subscriptions : after.subscriptions = before.subscriptions
  providers : after.providers = before.providers
  channels : after.channels = before.channels
  handed : ∃ blocks, after.world.calls = before.world.calls ++ blocks.flatten ∧
    List.Forall₂ (SubscriberCalls event aggregate.session)
      (before.sessionSubscribers event.sessionId) blocks
  ordered : (before.sessionSubscribers event.sessionId).Pairwise
    fun earlier later => compare earlier later = .lt

/-- An accepted event moves the cursor, so the aggregate is a new one. -/
theorem reduction_changed {self : Bridge World} {event : AgentEvent}
    {aggregate : SessionAggregate} (h : self.Reduction event aggregate) :
    self.sessions[event.sessionId]? ≠ some aggregate := by
  rcases h with ⟨old, hold, happlied, rfl⟩ | ⟨hnone, -⟩
  · obtain ⟨hcursor, -, heq⟩ := SessionAggregate.apply_applied happlied
    have hnext := (SessionAggregate.validateCursor_next hcursor).2
    rw [hold, heq]
    intro hsame
    have hlast : old.lastEvent = event := by
      have := congrArg SessionAggregate.lastEvent (Option.some.inj hsame)
      exact this
    rw [SessionAggregate.lastSequence, hlast] at hnext
    omega
  · rw [hnone]
    simp

theorem delivered_commit {self : Bridge (Recorded World)} {providerId : ProviderId}
    {event : AgentEvent} {provider : ProviderDescriptor} {session : AgentSession}
    {routes : List EventRoute} {aggregate : SessionAggregate}
    (h : Committed self providerId event provider session routes aggregate) :
    Delivered self (self.commit (recording ports) event routes aggregate) event aggregate := by
  have hview : ∀ s ∈ sessionViewOf routes aggregate, s = aggregate.session := by
    intro s hs
    unfold sessionViewOf at hs
    split at hs
    · exact (Option.some.inj hs).symm
    · cases hs
  obtain ⟨blocks, hblocks, hcalls⟩ :=
    deliverAll_recording ports self.world event _ aggregate.session hview routes
  rw [(eventRoutes_ok h.routed).1] at hblocks
  exact ⟨h.reduced, reduction_changed h.reduced, rfl, rfl, rfl, rfl, ⟨blocks, hcalls, hblocks⟩,
    MultiMap.members_ordered _ _⟩

/-- The event applied last is recognized, whoever subscribed since. -/
theorem handleProviderEvent_retry {self : Bridge World} (hcon : Consistent self)
    {event : AgentEvent} {aggregate : SessionAggregate} {provider : ProviderDescriptor}
    {providerId : ProviderId} (hsession : self.sessions[event.sessionId]? = some aggregate)
    (hlast : aggregate.lastEvent = event) (hprovider : self.providers[providerId]? = some provider)
    (howner : aggregate.session.providerId = providerId) :
    self.handleProviderEvent ports providerId event = (self, .ok ⟨.alreadyApplied, []⟩) := by
  obtain ⟨history, owner, howned⟩ := hcon.sessions event.sessionId aggregate hsession
  have hsame : owner = provider := by
    have h := howned.owner
    rw [howner, hprovider] at h
    exact (Option.some.inj h).symm
  subst hsame
  have hmem : event ∈ history := by
    have hl := (reduces_anchored howned.reduces).last
    rw [hlast] at hl
    exact List.mem_of_getLast? hl
  have hvalid := ownedSession_valid hcon howned hmem
  have hroutes : ∃ routes, self.eventRoutes owner aggregate.session event = .ok routes := by
    refine Fallible.exists_mapM_ok ?_
    intro channelId hsub
    have hchannel := (hcon.subscribed channelId event.sessionId (mem_sessionSubscribers.mp hsub)).1
    rw [ExtTreeMap.mem_iff_isSome_getElem?, Option.isSome_iff_exists] at hchannel
    obtain ⟨channel, hchannel⟩ := hchannel
    have hroute : ∃ route, CapabilityRouter.channelEventRoute owner channel aggregate.session
        event = .ok route := CapabilityRouter.exists_channelEventRoute.mpr hvalid
    obtain ⟨route, hroute⟩ := hroute
    exact ⟨⟨channelId, route, _⟩, by simp only [hchannel, hroute]; rfl⟩
  obtain ⟨routes, hroutes⟩ := hroutes
  have hretry : (aggregate.apply event) = (aggregate, .ok .alreadyApplied) := by
    have hsid : aggregate.lastEvent.sessionId = aggregate.session.id := by
      rw [hlast]
      exact (reduces_anchored howned.reduces).sessionIds event hmem
    have hv := (SessionAggregate.validateCursor_retry_iff aggregate event hsid).mpr hlast.symm
    simp [SessionAggregate.apply, hv]
  have hrouting : self.routingSession event = .ok aggregate.session := by
    simp [routingSession, hsession]
  have hback : self.reduceEvent event = (self, .ok (.alreadyApplied, aggregate.session)) := by
    have h := withSession_self hsession
    unfold withSession at h
    simp [reduceEvent, hsession, hretry, h]
  simp only [handleProviderEvent, beginProviderEvent, hprovider, hrouting, hvalid, hroutes, hback]

/-- The owner of a freshly committed aggregate is the publishing provider. -/
theorem committed_owner {self : Bridge World} (hcon : Consistent self) {providerId : ProviderId}
    {event : AgentEvent} {provider : ProviderDescriptor} {session : AgentSession}
    {routes : List EventRoute} {aggregate : SessionAggregate}
    (h : Committed self providerId event provider session routes aggregate) :
    aggregate.session.providerId = providerId ∧ aggregate.lastEvent = event := by
  obtain ⟨history, howned, hlast⟩ := ownedSession_reduced hcon h
  have hid := hcon.providerIds _ _ howned.owner
  have hid' := hcon.providerIds _ _ h.registered
  have hl := (reduces_anchored howned.reduces).last
  rw [hlast] at hl
  exact ⟨hid.symm.trans hid', (Option.some.inj hl).symm⟩

/-- Whether a result says that the event was accepted now. -/
def IsCommitted (result : Except ProviderEventError ProviderEventReport) : Prop :=
  (∃ report, result = .error (.channelHandoffs report)) ∨
    ∃ deliveries, result = .ok ⟨.applied, deliveries⟩

theorem commitResult_isCommitted (self : Bridge World) (event : AgentEvent)
    (routes : List EventRoute) (aggregate : SessionAggregate) :
    IsCommitted (self.commitResult ports event routes aggregate) := by
  unfold commitResult
  simp only
  split
  · exact .inl ⟨_, rfl⟩
  · exact .inr ⟨_, rfl⟩

/-- For every bridge that a run reaches with ports that answer arbitrarily: an
event that is not accepted leaves the bridge and the log as they were, an
accepted one is delivered, and offering it again is recognized without a call. -/
theorem run_handleProviderEvent (config : SessionAggregateConfig) (world : Recorded World)
    (ops : List BridgeOp) (providerId : ProviderId) (event : AgentEvent) :
    let bridge := run (recording ports) config world ops
    let next := bridge.handleProviderEvent (recording ports) providerId event
    (¬ IsCommitted next.2 → next.1 = bridge) ∧
    (IsCommitted next.2 → ∃ aggregate, Delivered bridge next.1 event aggregate) ∧
    (IsCommitted next.2 ∨ next.2 = .ok ⟨.alreadyApplied, []⟩ →
      next.1.handleProviderEvent (recording ports) providerId event =
        (next.1, .ok ⟨.alreadyApplied, []⟩)) := by
  intro bridge next
  have hcon : Consistent bridge := run_consistent (recording ports) config world ops
  rcases handleProviderEvent_cases (recording ports) bridge providerId event with
    ⟨e, he, hnot, -⟩ | ⟨old, -, -, he⟩ | ⟨provider, session, routes, aggregate, hc, he⟩
  · have hnext : next = (bridge, .error e) := he
    have hrejected : ¬ IsCommitted next.2 := by
      rw [hnext]
      rintro (⟨report, h⟩ | ⟨deliveries, h⟩)
      · cases h
        exact hnot report rfl
      · cases h
    refine ⟨fun _ => by rw [hnext], fun h => absurd h hrejected, ?_⟩
    rintro (h | h)
    · exact absurd h hrejected
    · rw [hnext] at h
      cases h
  · have hnext : next = (bridge, .ok ⟨.alreadyApplied, []⟩) := he
    have hrejected : ¬ IsCommitted next.2 := by
      rw [hnext]
      rintro (⟨report, h⟩ | ⟨deliveries, h⟩) <;> cases h
    refine ⟨fun _ => by rw [hnext], fun h => absurd h hrejected, ?_⟩
    intro _
    rw [hnext]
    exact he
  · have hnext : next = (bridge.commit (recording ports) event routes aggregate,
        bridge.commitResult (recording ports) event routes aggregate) := he
    have hcommitted : IsCommitted next.2 := by
      rw [hnext]
      exact commitResult_isCommitted (recording ports) bridge event routes aggregate
    refine ⟨fun h => absurd hcommitted h, fun _ => ⟨aggregate, ?_⟩, fun _ => ?_⟩
    · rw [hnext]
      exact delivered_commit ports hc
    · have hcon' : Consistent next.1 := by
        have h := consistent_change hcon
          (step_change (recording ports) bridge (.handleProviderEvent providerId event))
        exact h
      obtain ⟨howner, hlast⟩ := committed_owner hcon hc
      have hsession : next.1.sessions[event.sessionId]? = some aggregate := by
        rw [hnext]
        simp [commit, withSession]
      have hprovider : next.1.providers[providerId]? = some provider := by
        rw [hnext]
        exact hc.registered
      exact handleProviderEvent_retry (recording ports) hcon' hsession hlast hprovider howner

end Bridge

end AgentPulse

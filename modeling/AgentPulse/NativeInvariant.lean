import AgentPulse.NativeStep

/-!
# Native subscriptions and bridge subscriptions

The worker keeps its own set of subscribed sessions next to the one in the
bridge, and changes the two in separate sections. `Stage` says for each section
how far they may differ there.
-/
namespace AgentPulse

open Std (ExtTreeMap ExtTreeSet)

namespace DeliveryState

@[simp] theorem append_pending? (self : DeliveryState) (frames : List Frame) :
    (self.append frames).pending? = self.pending? := rfl

@[simp] theorem append_client (self : DeliveryState) (frames : List Frame) :
    (self.append frames).client = self.client := rfl

@[simp] theorem append_isSubscribedTo (self : DeliveryState) (frames : List Frame)
    (sessionId : SessionId) :
    (self.append frames).isSubscribedTo sessionId = self.isSubscribedTo sessionId := rfl

@[simp] theorem abortFull_pending? (self : DeliveryState) :
    self.abortFull.pending? = self.pending? := rfl

@[simp] theorem abortFull_isSubscribedTo (self : DeliveryState) (sessionId : SessionId) :
    self.abortFull.isSubscribedTo sessionId = self.isSubscribedTo sessionId := rfl

@[simp] theorem setPending_isSubscribedTo (self : DeliveryState)
    (pending : Option PendingSubscription) (sessionId : SessionId) :
    (self.setPending pending).isSubscribedTo sessionId = self.isSubscribedTo sessionId := by
  unfold setPending updateClient isSubscribedTo
  cases self.client <;> rfl

theorem setPending_pending? {self : DeliveryState} {client : ActiveClient}
    (h : self.client = some client) (pending : Option PendingSubscription) :
    (self.setPending pending).pending? = pending := by
  simp [setPending, updateClient, pending?, h]

theorem client_of_pending? {self : DeliveryState} {pending : PendingSubscription}
    (h : self.pending? = some pending) :
    ∃ client, self.client = some client ∧ client.pending = some pending :=
  Option.bind_eq_some_iff.mp h

/-- Subscriptions are those of a client that is connected. -/
theorem isSubscribedTo_iff {self : DeliveryState} {sessionId : SessionId} :
    self.isSubscribedTo sessionId = true ↔
      ∃ client, self.client = some client ∧ sessionId ∈ client.subscriptions := by
  unfold isSubscribedTo
  cases self.client with
  | none => simp
  | some client => simp

theorem mem_subscriptionList {self : DeliveryState} {sessionId : SessionId} :
    sessionId ∈ self.subscriptionList ↔ self.isSubscribedTo sessionId = true := by
  rw [isSubscribedTo_iff]
  unfold subscriptionList
  cases self.client with
  | none => simp
  | some client => simp

/-- The other subscriptions of the client stay. -/
theorem removeSubscription_isSubscribedTo {self : DeliveryState} {sessionId other : SessionId} :
    (self.removeSubscription sessionId).isSubscribedTo other = true ↔
      self.isSubscribedTo other = true ∧ other ≠ sessionId := by
  unfold removeSubscription updateClient isSubscribedTo
  cases self.client with
  | none => simp
  | some client =>
    simp only [Option.map_some, Option.any_some, ExtTreeSet.contains_erase, Bool.and_eq_true,
      bne_iff_ne, ne_eq]
    rw [Std.compare_eq_iff_eq]
    exact ⟨fun ⟨hne, hmem⟩ => ⟨hmem, fun h => hne h.symm⟩,
      fun ⟨hmem, hne⟩ => ⟨fun h => hne h.symm, hmem⟩⟩

@[simp] theorem removeSubscription_pending? (self : DeliveryState) (sessionId : SessionId) :
    (self.removeSubscription sessionId).pending? = self.pending? := by
  unfold removeSubscription updateClient pending?
  cases self.client <;> rfl

@[simp] theorem updateDiscovered_pending? (self : DeliveryState)
    (sessions : ExtTreeSet SessionId) :
    (self.updateClient fun client => { client with discovered := sessions }).pending? =
      self.pending? := by
  unfold updateClient pending?
  cases self.client <;> rfl

@[simp] theorem updateDiscovered_isSubscribedTo (self : DeliveryState)
    (sessions : ExtTreeSet SessionId) (sessionId : SessionId) :
    (self.updateClient fun client => { client with discovered := sessions }).isSubscribedTo
      sessionId = self.isSubscribedTo sessionId := by
  unfold updateClient isSubscribedTo
  cases self.client <;> rfl

@[simp] theorem recordSync_pending? (self : DeliveryState) (sessionId : SessionId)
    (outcome : SessionSyncOutcome) :
    (self.recordSync sessionId outcome).pending? = self.pending? := by
  unfold recordSync updateClient pending?
  cases self.client <;> rfl

theorem recordSync_isSubscribedTo {self : DeliveryState} {client : ActiveClient}
    (hclient : self.client = some client) {sessionId other : SessionId}
    {outcome : SessionSyncOutcome} :
    (self.recordSync sessionId outcome).isSubscribedTo other = true ↔
      self.isSubscribedTo other = true ∨ (other = sessionId ∧ outcome.subscribed = true) := by
  unfold recordSync updateClient isSubscribedTo
  cases hsub : outcome.subscribed with
  | false => simp [hclient]
  | true =>
    simp only [hclient, Option.map_some, Option.any_some, if_true, ExtTreeSet.contains_insert,
      Bool.or_eq_true, and_true]
    rw [beq_iff_eq, Std.compare_eq_iff_eq, or_comm, eq_comm (a := sessionId)]

end DeliveryState

namespace Bridge

variable {World : Type}

theorem unsubscribe_quiet (self : Bridge World) (channelId : ChannelId) (sessionId : SessionId) :
    Quiet self (self.unsubscribe channelId sessionId).1 := by
  unfold unsubscribe
  split
  · exact quiet_refl self
  · split
    · exact quiet_refl self
    · exact .left channelId sessionId

@[simp] theorem unsubscribe_world (self : Bridge World) (channelId : ChannelId)
    (sessionId : SessionId) : (self.unsubscribe channelId sessionId).1.world = self.world := by
  unfold unsubscribe
  split
  · rfl
  · split <;> rfl

/-- A refused call changes nothing, and then there was nothing to remove. -/
theorem unsubscribe_isSubscribed {self : Bridge World} (hcon : Consistent self)
    (channelId other : ChannelId) (sessionId session : SessionId) :
    (self.unsubscribe channelId sessionId).1.isSubscribed other session = true ↔
      self.isSubscribed other session = true ∧ ¬ (session = sessionId ∧ other = channelId) := by
  have hmissing : (channelId ∉ self.channels ∨ sessionId ∉ self.sessions) →
      (self.isSubscribed other session = true ↔
        self.isSubscribed other session = true ∧ ¬ (session = sessionId ∧ other = channelId)) := by
    intro hmissing
    constructor
    · intro hsub
      refine ⟨hsub, ?_⟩
      rintro ⟨rfl, rfl⟩
      have hmem := hcon.subscribed other session hsub
      rcases hmissing with h | h
      · exact h hmem.1
      · exact h hmem.2
    · exact fun h => h.1
  unfold unsubscribe
  by_cases hchannel : self.channels.contains channelId = true
  · by_cases hsession : self.sessions.contains sessionId = true
    · simp only [hchannel, hsession, Bool.not_true, Bool.false_eq_true, if_false]
      exact MultiMap.contains_remove _ _ _ _ _
    · simp only [hchannel, hsession, Bool.not_true, Bool.false_eq_true, if_false, Bool.not_false,
        if_true]
      exact hmissing (.inr fun h => hsession (ExtTreeMap.contains_iff_mem.mpr h))
  · simp only [hchannel, Bool.not_false, if_true]
    exact hmissing (.inl fun h => hchannel (ExtTreeMap.contains_iff_mem.mpr h))

theorem afterSync_quiet {self : Bridge World} {channelId : ChannelId} {sessionId : SessionId}
    {requestedAfter maxEvents : Nat} {channel : ChannelDescriptor} {aggregate : SessionAggregate}
    {provider : ProviderDescriptor} {sync : ChannelSessionSync}
    (h : Syncs self channelId sessionId requestedAfter maxEvents channel aggregate provider sync)
    (world : World) : Quiet self (self.afterSync channelId sessionId sync world) := by
  unfold afterSync
  split
  · exact .joined channelId sessionId world (mem_of_getElem? h.registered)
      (mem_of_getElem? h.known)
  · exact .world world

end Bridge

namespace NativeSystem

variable {Other : Type} (codec : NativeCodec) (config : NativeChannelConfig)
  (otherPorts : Ports Other)

theorem becomes_quiet {self next : NativeSystem Other} {state : DeliveryState}
    {taken : List Frame} {target : WorkerPc} (h : Becomes self next state taken target) :
    Bridge.Quiet self.bridge next.bridge := by
  rw [h.bridge]
  exact .world _

/-- Only a publication changes a session; every other move is a quiet operation
of the bridge. -/
theorem move_quiet {self next : NativeSystem Other} (m : Move codec config self next) :
    Bridge.Quiet self.bridge next.bridge ∨
    ∃ providerId event provider session routes aggregate, self.publication = none ∧
      Bridge.Committed self.bridge providerId event provider session routes aggregate ∧
      next = { self with
        bridge := self.bridge.withSession event.sessionId aggregate
        publication := some ⟨event, Bridge.sessionViewOf routes aggregate, routes, none, []⟩ } := by
  cases m with
  | stay h =>
    rw [h]
    exact .inl (Bridge.quiet_refl _)
  | foreign bridge hfree hquiet huntouched h =>
    rw [h]
    exact .inl hquiet
  | published providerId event provider session routes aggregate hfree hcommitted h =>
    exact .inr ⟨providerId, event, provider, session, routes, aggregate, hfree, hcommitted, h⟩
  | ended publication hpublication hroutes h =>
    rw [h]
    exact .inl (Bridge.quiet_refl _)
  | passedEvent publication route others result hpublication hhead hhandoff hother h =>
    rw [h]
    exact .inl (.world _)
  | passedView publication route session others result hpublication hhead hhandoff hother h =>
    rw [h]
    exact .inl (.world _)
  | handedEvent publication route delivery result hpublication hhead hhandoff hnative hcall h =>
    rw [h]
    exact .inl (.world _)
  | handedView publication route session delivery result hpublication hhead hhandoff hnative hcall
      h =>
    rw [h]
    exact .inl (.world _)
  | submitted bridge pc hfree hquiet hready hbridge huntouched h =>
    rw [h]
    exact .inl hbridge
  | synced requestId sessionId afterSequence channel aggregate provider sync pending hpc hfree
      hsyncs hpending h =>
    rw [h]
    exact .inl (Bridge.afterSync_quiet hsyncs _)
  | unsubscribed requestId sessionId outcome hpc hfree h =>
    rw [h]
    exact .inl (Bridge.unsubscribe_quiet _ _ _)
  | left sessionId remaining last hpc hfree h =>
    rw [h]
    exact .inl (Bridge.unsubscribe_quiet _ _ _)
  | broken requestId sessionId outcome hpc hbroken h =>
    obtain ⟨delivery, pc, hbecomes⟩ := h
    exact .inl (becomes_quiet hbecomes)
  | turn pc hquiet hready h => exact .inl (becomes_quiet h)
  | drained frame rest pc hquiet hready houtgoing h => exact .inl (becomes_quiet h)
  | opened sessionCursors resumeAccepted message hpc hcontrol h => exact .inl (becomes_quiet h)
  | queued message hpc h => exact .inl (becomes_quiet h)
  | full pc hquiet hready h => exact .inl (becomes_quiet h)
  | discovered requestId snapshot frames sessions hpc hframes h => exact .inl (becomes_quiet h)
  | already requestId sessionId client baseline hpc hclient hmem hcursor h =>
    exact .inl (becomes_quiet h)
  | began requestId sessionId client hpc hclient hmem h => exact .inl (becomes_quiet h)
  | asked requestId sessionId hpc h => exact .inl (becomes_quiet h)
  | syncRefused requestId sessionId afterSequence e delivery hpc hfree hdelivery h =>
    exact .inl (becomes_quiet h)
  | syncAgain requestId sessionId afterSequence outcome hpc hfree hsub h =>
    exact .inl (becomes_quiet h)
  | syncFailed requestId sessionId e message hpc hcontrol h => exact .inl (becomes_quiet h)
  | committed requestId sessionId outcome baseline pending hpc hbaseline hpending hfits h =>
    exact .inl (becomes_quiet h)
  | overflowed requestId sessionId outcome pending hpc hpending hfull h =>
    exact .inl (becomes_quiet h)
  | removed requestId sessionId outcome message hpc hcontrol h => exact .inl (becomes_quiet h)
  | leaving last hpc h => exact .inl (becomes_quiet h)
  | cleared last pc hpc hready h => exact .inl (becomes_quiet h)

theorem move_change {self next : NativeSystem Other} (m : Move codec config self next) :
    Bridge.Change self.bridge next.bridge := by
  rcases move_quiet codec config m with hquiet | ⟨providerId, event, provider, session, routes,
    aggregate, -, hcommitted, h⟩
  · exact .quiet hquiet
  · rw [h]
    exact .reduced providerId event provider session routes aggregate self.bridge.world hcommitted

/-- One handoff of a publication was made. -/
def Advances (before after : Publication) (route : EventRoute) : Prop :=
  before.routes.head? = some route ∧ ∃ result,
    (before.handoff = none ∧ after = before.afterEvent route result) ∨
    (before.handoff ≠ none ∧ after = before.afterView route result)

/-- What a move does to the publication in progress. While there is one, sessions
and subscriptions stay as they are. -/
theorem move_publication {self next : NativeSystem Other} (m : Move codec config self next) :
    (next.publication = self.publication ∧ (self.publication ≠ none →
      next.bridge.sessions = self.bridge.sessions ∧
        next.bridge.subscriptions = self.bridge.subscriptions)) ∨
    (∃ providerId event provider session routes aggregate, self.publication = none ∧
      Bridge.Committed self.bridge providerId event provider session routes aggregate ∧
      next = { self with
        bridge := self.bridge.withSession event.sessionId aggregate
        publication := some ⟨event, Bridge.sessionViewOf routes aggregate, routes, none, []⟩ }) ∨
    next.publication = none ∨
    (∃ publication route after, self.publication = some publication ∧
      next.publication = some after ∧ Advances publication after route ∧
      next.bridge.sessions = self.bridge.sessions ∧
      next.bridge.subscriptions = self.bridge.subscriptions) := by
  have hbecomes : ∀ {state : DeliveryState} {taken : List Frame} {target : WorkerPc},
      Becomes self next state taken target → next.publication = self.publication ∧
        (self.publication ≠ none → next.bridge.sessions = self.bridge.sessions ∧
          next.bridge.subscriptions = self.bridge.subscriptions) := by
    intro state taken target h
    exact ⟨h.publication, fun _ => by rw [h.bridge]; exact ⟨rfl, rfl⟩⟩
  cases m with
  | stay h =>
    rw [h]
    exact .inl ⟨rfl, fun _ => ⟨rfl, rfl⟩⟩
  | foreign bridge hfree hquiet huntouched h =>
    rw [h]
    exact .inl ⟨rfl, fun hsome => absurd hfree hsome⟩
  | published providerId event provider session routes aggregate hfree hcommitted h =>
    exact .inr (.inl
      ⟨providerId, event, provider, session, routes, aggregate, hfree, hcommitted, h⟩)
  | ended publication hpublication hroutes h =>
    rw [h]
    exact .inr (.inr (.inl rfl))
  | passedEvent publication route others result hpublication hhead hhandoff hother h =>
    rw [h]
    exact .inr (.inr (.inr ⟨publication, route, _, hpublication, rfl,
      ⟨hhead, result, .inl ⟨hhandoff, rfl⟩⟩, rfl, rfl⟩))
  | passedView publication route session others result hpublication hhead hhandoff hother h =>
    rw [h]
    exact .inr (.inr (.inr ⟨publication, route, _, hpublication, rfl,
      ⟨hhead, result, .inr ⟨by simp [hhandoff], rfl⟩⟩, rfl, rfl⟩))
  | handedEvent publication route delivery result hpublication hhead hhandoff hnative hcall h =>
    rw [h]
    exact .inr (.inr (.inr ⟨publication, route, _, hpublication, rfl,
      ⟨hhead, _, .inl ⟨hhandoff, rfl⟩⟩, rfl, rfl⟩))
  | handedView publication route session delivery result hpublication hhead hhandoff hnative hcall
      h =>
    rw [h]
    exact .inr (.inr (.inr ⟨publication, route, _, hpublication, rfl,
      ⟨hhead, _, .inr ⟨by simp [hhandoff], rfl⟩⟩, rfl, rfl⟩))
  | submitted bridge pc hfree hquiet hready hbridge huntouched h =>
    rw [h]
    exact .inl ⟨rfl, fun hsome => absurd hfree hsome⟩
  | synced requestId sessionId afterSequence channel aggregate provider sync pending hpc hfree
      hsyncs hpending h =>
    rw [h]
    exact .inl ⟨rfl, fun hsome => absurd hfree hsome⟩
  | unsubscribed requestId sessionId outcome hpc hfree h =>
    rw [h]
    exact .inl ⟨rfl, fun hsome => absurd hfree hsome⟩
  | left sessionId remaining last hpc hfree h =>
    rw [h]
    exact .inl ⟨rfl, fun hsome => absurd hfree hsome⟩
  | broken requestId sessionId outcome hpc hbroken h =>
    obtain ⟨delivery, pc, h⟩ := h
    exact .inl (hbecomes h)
  | turn pc hquiet hready h => exact .inl (hbecomes h)
  | drained frame rest pc hquiet hready houtgoing h => exact .inl (hbecomes h)
  | opened sessionCursors resumeAccepted message hpc hcontrol h => exact .inl (hbecomes h)
  | queued message hpc h => exact .inl (hbecomes h)
  | full pc hquiet hready h => exact .inl (hbecomes h)
  | discovered requestId snapshot frames sessions hpc hframes h => exact .inl (hbecomes h)
  | already requestId sessionId client baseline hpc hclient hmem hcursor h =>
    exact .inl (hbecomes h)
  | began requestId sessionId client hpc hclient hmem h => exact .inl (hbecomes h)
  | asked requestId sessionId hpc h => exact .inl (hbecomes h)
  | syncRefused requestId sessionId afterSequence e delivery hpc hfree hdelivery h =>
    exact .inl (hbecomes h)
  | syncAgain requestId sessionId afterSequence outcome hpc hfree hsub h => exact .inl (hbecomes h)
  | syncFailed requestId sessionId e message hpc hcontrol h => exact .inl (hbecomes h)
  | committed requestId sessionId outcome baseline pending hpc hbaseline hpending hfits h =>
    exact .inl (hbecomes h)
  | overflowed requestId sessionId outcome pending hpc hpending hfull h => exact .inl (hbecomes h)
  | removed requestId sessionId outcome message hpc hcontrol h => exact .inl (hbecomes h)
  | leaving last hpc h => exact .inl (hbecomes h)
  | cleared last pc hpc hready h => exact .inl (hbecomes h)

/-- What holds of a publication in progress: its remaining routes are those of
subscribers, its event is the newest of its session, and the session view is the
one after that event. -/
structure InFlight (bridge : Bridge (NativeWorld Other)) (publication : Publication) : Prop where
  subscribed : ∀ route ∈ publication.routes,
    bridge.isSubscribed route.channelId publication.event.sessionId = true
  distinct : (publication.routes.map EventRoute.channelId).Nodup
  stored : ∃ aggregate, bridge.sessions[publication.event.sessionId]? = some aggregate ∧
    aggregate.lastEvent = publication.event ∧
    (∀ view ∈ publication.sessionView, view = aggregate.session) ∧
    ∀ view ∈ publication.handoff, view = aggregate.session
  wanted : ∀ route ∈ publication.routes, route.deliverSession = true →
    publication.sessionView ≠ none
  views : ∀ route ∈ publication.routes, route.channelId = config.channelId →
    route.deliverSession = eventUpdatesSessionView publication.event

theorem inFlight_next {bridge : Bridge (NativeWorld Other)} {publication : Publication}
    (h : InFlight config bridge publication) (delivery : ChannelDeliveryResult) :
    InFlight config bridge (publication.next delivery) := by
  have hmem : ∀ route ∈ publication.routes.tail, route ∈ publication.routes :=
    fun route => List.mem_of_mem_tail
  refine ⟨fun route hr => h.subscribed route (hmem route hr), ?_, ?_,
    fun route hr => h.wanted route (hmem route hr), fun route hr => h.views route (hmem route hr)⟩
  · have htail := h.distinct.tail
    rw [← List.map_tail] at htail
    exact htail
  · obtain ⟨aggregate, hstored, hlast, hview, -⟩ := h.stored
    exact ⟨aggregate, hstored, hlast, hview, by simp [Publication.next]⟩

theorem inFlight_advances {bridge : Bridge (NativeWorld Other)} {before after : Publication}
    {route : EventRoute} (h : InFlight config bridge before) (ha : Advances before after route) :
    InFlight config bridge after := by
  obtain ⟨hhead, result, ⟨-, rfl⟩ | ⟨-, rfl⟩⟩ := ha
  · cases result with
    | error source => exact inFlight_next config h _
    | ok u =>
      simp only [Publication.afterEvent]
      split
      · next session hwants hsession =>
        obtain ⟨aggregate, hstored, hlast, hview, -⟩ := h.stored
        refine ⟨h.subscribed, h.distinct, ⟨aggregate, hstored, hlast, hview, ?_⟩, h.wanted, h.views⟩
        intro view hv
        exact hview view (by rw [hsession]; exact hv)
      · exact inFlight_next config h _
  · cases result with
    | error source => exact inFlight_next config h _
    | ok u => exact inFlight_next config h _

/-- Sessions and subscriptions are all that `InFlight` reads of the bridge. -/
theorem inFlight_congr {before after : Bridge (NativeWorld Other)} {publication : Publication}
    (h : InFlight config before publication) (hsessions : after.sessions = before.sessions)
    (hsubscriptions : after.subscriptions = before.subscriptions) :
    InFlight config after publication := by
  refine ⟨?_, h.distinct, ?_, h.wanted, h.views⟩
  · intro route hr
    rw [Bridge.isSubscribed, hsubscriptions]
    exact h.subscribed route hr
  · rw [hsessions]
    exact h.stored

theorem reduction_lastEvent {World : Type} {bridge : Bridge World} {event : AgentEvent}
    {aggregate : SessionAggregate} (h : bridge.Reduction event aggregate) :
    aggregate.lastEvent = event := by
  rcases h with ⟨old, -, happlied, rfl⟩ | ⟨-, hinit⟩
  · obtain ⟨-, -, heq⟩ := SessionAggregate.apply_applied happlied
    rw [heq]
  · obtain ⟨-, session, -, heq⟩ := SessionAggregate.fromInitialEvent_ok hinit
    rw [heq]

/-- A publication starts with the subscribers of its session as its routes. -/
theorem inFlight_published {bridge : Bridge (NativeWorld Other)}
    (hregistered : bridge.channels[config.channelId]? = some config.descriptor)
    {providerId : ProviderId} {event : AgentEvent} {provider : ProviderDescriptor}
    {session : AgentSession} {routes : List EventRoute} {aggregate : SessionAggregate}
    (hc : Bridge.Committed bridge providerId event provider session routes aggregate) :
    InFlight config (bridge.withSession event.sessionId aggregate)
      ⟨event, Bridge.sessionViewOf routes aggregate, routes, none, []⟩ := by
  obtain ⟨hids, hroutes⟩ := Bridge.eventRoutes_ok hc.routed
  refine ⟨?_, ?_, ⟨aggregate, ?_, reduction_lastEvent hc.reduced, ?_, by simp⟩, ?_, ?_⟩
  · intro route hr
    have hmem : route.channelId ∈ bridge.sessionSubscribers event.sessionId := by
      rw [← hids]
      exact List.mem_map_of_mem hr
    exact Bridge.mem_sessionSubscribers.mp hmem
  · simp only [hids]
    exact MultiMap.members_nodup _ _
  · simp [Bridge.withSession]
  · intro view hview
    unfold Bridge.sessionViewOf at hview
    split at hview
    · exact (Option.some.inj hview).symm
    · cases hview
  · intro route hr hwants
    have hany : routes.any EventRoute.deliverSession = true := List.any_eq_true.mpr ⟨route, hr, hwants⟩
    simp [Bridge.sessionViewOf, hany]
  · intro route hr hnative
    obtain ⟨channel, hchannel, -, hwants⟩ := hroutes route hr
    have hsame : channel = config.descriptor := by
      rw [hnative, hregistered] at hchannel
      exact (Option.some.inj hchannel).symm
    have hview : nativeCapabilities.contains ChannelCapabilities.sessionView = true := by decide
    have hcapabilities : config.descriptor.capabilities = nativeCapabilities := rfl
    rw [hwants, hsame, hcapabilities, hview, Bool.true_and]

end NativeSystem

end AgentPulse

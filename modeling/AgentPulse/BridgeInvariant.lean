import AgentPulse.BridgeStep
import AgentPulse.CoreDerived
import AgentPulse.CoreRetention

/-!
# The representation invariant of the bridge

`Consistent` is kept by every change and holds in every bridge a run reaches.
Capability checks are made once, when an event is published; the invariant
keeps for each session the history that passed them, so that retained events
and pending interactions still have a route for every channel later on.
-/
namespace AgentPulse

open Std (ExtTreeMap ExtTreeSet)
open SessionAggregate (Reduces reduces_anchored reduces_recentEvents reduces_derivedFrom)

/-- Events that passed the publication check of a provider. -/
def Publishable (provider : ProviderDescriptor) (history : List AgentEvent) : Prop :=
  ∀ event ∈ history,
    provider.capabilities.contains event.payload.requiredProviderCapability = true ∧
    ∀ started, event.payload = .sessionStarted started → provider.id = started.providerId

theorem publishable_snoc {provider : ProviderDescriptor} {history : List AgentEvent}
    {event : AgentEvent} (h : Publishable provider history) {session : AgentSession}
    (hv : CapabilityRouter.validateProviderEvent provider session event = .ok ()) :
    Publishable provider (history ++ [event]) := by
  intro e he
  rcases List.mem_append.mp he with he | he
  · exact h e he
  · rw [List.mem_singleton.mp he]
    have hok := CapabilityRouter.validateProviderEvent_ok.mp hv
    exact ⟨hok.2.2.2, hok.2.2.1⟩

/-- One stored session: its identity, its owner and the history it was reduced
from. -/
structure OwnedSession (providers : ExtTreeMap ProviderId ProviderDescriptor)
    (config : SessionAggregateConfig) (sessionId : SessionId) (aggregate : SessionAggregate)
    (history : List AgentEvent) (provider : ProviderDescriptor) : Prop where
  reduces : Reduces config history aggregate
  id : aggregate.session.id = sessionId
  owner : providers[aggregate.session.providerId]? = some provider
  published : Publishable provider history

/-- The representation invariant. -/
structure Consistent {World : Type} (bridge : Bridge World) : Prop where
  providerIds : ∀ (id : ProviderId) descriptor,
    bridge.providers[id]? = some descriptor → descriptor.id = id
  channelIds : ∀ (id : ChannelId) descriptor,
    bridge.channels[id]? = some descriptor → descriptor.id = id
  sessions : ∀ (id : SessionId) aggregate, bridge.sessions[id]? = some aggregate →
    ∃ history provider,
      OwnedSession bridge.providers bridge.sessionConfig id aggregate history provider
  subscribed : ∀ channelId sessionId, bridge.isSubscribed channelId sessionId = true →
    channelId ∈ bridge.channels ∧ sessionId ∈ bridge.sessions
  noEmptySets : MultiMap.NoEmptySets bridge.subscriptions

namespace Bridge

variable {World : Type} (ports : Ports World)

/-- A fresh key leaves every stored entry where it was. -/
theorem getElem?_insert_fresh {α β : Type} [Ord α] [Std.TransOrd α] [Std.LawfulEqOrd α]
    [DecidableEq α] {m : ExtTreeMap α β} {k a : α} {v w : β} (hfresh : k ∉ m)
    (h : m[a]? = some v) : (m.insert k w)[a]? = some v := by
  rw [OrderedMap.getElem?_insert]
  by_cases hk : k = a
  · exact absurd (mem_of_getElem? (hk ▸ h)) hfresh
  · rw [if_neg hk, h]

theorem consistent_withSessionConfig (config : SessionAggregateConfig) (world : World) :
    Consistent (withSessionConfig config world) := by
  constructor
  · intro id descriptor h
    simp [withSessionConfig] at h
  · intro id descriptor h
    simp [withSessionConfig] at h
  · intro id aggregate h
    simp [withSessionConfig] at h
  · intro c s h
    simp [isSubscribed, withSessionConfig] at h
  · exact MultiMap.noEmptySets_empty

/-- The aggregate of a committed event belongs to the publishing provider. -/
theorem ownedSession_reduced {self : Bridge World} (hcon : Consistent self)
    {providerId : ProviderId} {event : AgentEvent} {provider : ProviderDescriptor}
    {session : AgentSession} {routes : List EventRoute} {aggregate : SessionAggregate}
    (h : Committed self providerId event provider session routes aggregate) :
    ∃ history, OwnedSession self.providers self.sessionConfig event.sessionId aggregate history
      provider ∧ history.getLast? = some event := by
  have hid := hcon.providerIds providerId provider h.registered
  have hvalid := CapabilityRouter.validateProviderEvent_ok.mp h.valid
  rcases h.reduced with ⟨old, hold, happlied, rfl⟩ | ⟨hnone, hinit⟩
  · obtain ⟨history, owner, howned⟩ := hcon.sessions event.sessionId old hold
    have hsession : old.session = session := by
      have hr := h.routing
      simp only [routingSession, hold, Except.ok.injEq] at hr
      exact hr
    obtain ⟨-, -, heq⟩ := SessionAggregate.apply_applied happlied
    obtain ⟨-, -, -, hsid, hpid, -⟩ := SessionAggregate.applyPayload_frame old event
    have howner : self.providers[old.session.providerId]? = some provider := by
      rw [hsession, ← hvalid.1, hid]
      exact h.registered
    have hsame : owner = provider := by
      have := howned.owner
      rw [howner] at this
      exact (Option.some.inj this).symm
    subst hsame
    refine ⟨history ++ [event], ⟨.applied howned.reduces happlied, ?_, ?_, ?_⟩, by simp⟩
    · rw [heq]
      exact hsid.trans howned.id
    · rw [heq]
      simp only [hpid]
      exact howner
    · exact publishable_snoc howned.published h.valid
  · obtain ⟨-, started, hp, heq⟩ := SessionAggregate.fromInitialEvent_ok hinit
    have howner : provider.id = started.providerId := hvalid.2.2.1 started hp
    refine ⟨[event], ⟨.initial hinit, ?_, ?_, ?_⟩, rfl⟩
    · rw [heq]
      exact event.session_id_eq hp
    · rw [heq]
      simp only [← howner, hid]
      exact h.registered
    · have hnil : Publishable provider [] := by
        intro e he
        simp at he
      exact publishable_snoc hnil h.valid

theorem consistent_quiet {self next : Bridge World} (hcon : Consistent self)
    (h : Quiet self next) : Consistent next := by
  cases h with
  | world world => exact ⟨hcon.1, hcon.2, hcon.3, hcon.4, hcon.5⟩
  | provider descriptor hfresh =>
    refine ⟨?_, hcon.channelIds, ?_, hcon.subscribed, hcon.noEmptySets⟩
    · intro id d hd
      simp only [OrderedMap.getElem?_insert] at hd
      by_cases hk : descriptor.id = id
      · rw [if_pos hk] at hd
        cases hd
        exact hk
      · rw [if_neg hk] at hd
        exact hcon.providerIds id d hd
    · intro id aggregate ha
      obtain ⟨history, provider, howned⟩ := hcon.sessions id aggregate ha
      exact ⟨history, provider, howned.reduces, howned.id,
        getElem?_insert_fresh hfresh howned.owner, howned.published⟩
  | channel descriptor hfresh =>
    refine ⟨hcon.providerIds, ?_, hcon.sessions, ?_, hcon.noEmptySets⟩
    · intro id d hd
      simp only [OrderedMap.getElem?_insert] at hd
      by_cases hk : descriptor.id = id
      · rw [if_pos hk] at hd
        cases hd
        exact hk
      · rw [if_neg hk] at hd
        exact hcon.channelIds id d hd
    · intro c s hs
      obtain ⟨hc, hs⟩ := hcon.subscribed c s hs
      exact ⟨ExtTreeMap.mem_insert.mpr (.inr hc), hs⟩
  | joined channelId sessionId world hc hs =>
    refine ⟨hcon.providerIds, hcon.channelIds, hcon.sessions, ?_,
      MultiMap.noEmptySets_add hcon.noEmptySets sessionId channelId⟩
    intro c s hsub
    rcases (MultiMap.contains_add _ _ _ _ _).mp hsub with hsub | ⟨rfl, rfl⟩
    · exact hcon.subscribed c s hsub
    · exact ⟨hc, hs⟩
  | left channelId sessionId =>
    refine ⟨hcon.providerIds, hcon.channelIds, hcon.sessions, ?_,
      MultiMap.noEmptySets_remove hcon.noEmptySets sessionId channelId⟩
    intro c s hsub
    exact hcon.subscribed c s ((MultiMap.contains_remove _ _ _ _ _).mp hsub).1
  | cleared channelId =>
    refine ⟨hcon.providerIds, hcon.channelIds, hcon.sessions, ?_,
      MultiMap.noEmptySets_removeMember _ channelId⟩
    intro c s hsub
    exact hcon.subscribed c s ((MultiMap.contains_removeMember _ _ _ _).mp hsub).1

theorem consistent_change {self next : Bridge World} (hcon : Consistent self)
    (h : Change self next) : Consistent next := by
  cases h with
  | quiet hquiet => exact consistent_quiet hcon hquiet
  | reduced providerId event provider session routes aggregate world hcommitted =>
    refine ⟨hcon.providerIds, hcon.channelIds, ?_, ?_, hcon.noEmptySets⟩
    · intro id stored hget
      simp only [setWorld, withSession, OrderedMap.getElem?_insert] at hget
      by_cases hk : event.sessionId = id
      · rw [if_pos hk] at hget
        cases hget
        obtain ⟨history, howned, -⟩ := ownedSession_reduced hcon hcommitted
        exact ⟨history, provider, hk ▸ howned⟩
      · rw [if_neg hk] at hget
        exact hcon.sessions id stored hget
    · intro c s hsub
      obtain ⟨hc, hs⟩ := hcon.subscribed c s hsub
      exact ⟨hc, ExtTreeMap.mem_insert.mpr (.inr hs)⟩

theorem run_consistent (config : SessionAggregateConfig) (world : World) (ops : List BridgeOp) :
    Consistent (run ports config world ops) :=
  Trace.final_invariant (step ports) Consistent
    (fun bridge op h => consistent_change h (step_change ports bridge op)) _ ops
    (consistent_withSessionConfig config world)

/-- A later bridge keeps every endpoint and the owner of every session. -/
structure Keeps (before after : Bridge World) : Prop where
  providers : ∀ (id : ProviderId) descriptor,
    before.providers[id]? = some descriptor → after.providers[id]? = some descriptor
  channels : ∀ (id : ChannelId) descriptor,
    before.channels[id]? = some descriptor → after.channels[id]? = some descriptor
  owners : ∀ (id : SessionId) aggregate, before.sessions[id]? = some aggregate →
    ∃ later, after.sessions[id]? = some later ∧
      later.session.providerId = aggregate.session.providerId

theorem keeps_refl (self : Bridge World) : Keeps self self :=
  ⟨fun _ _ h => h, fun _ _ h => h, fun _ aggregate h => ⟨aggregate, h, rfl⟩⟩

theorem keeps_trans {a b c : Bridge World} (hab : Keeps a b) (hbc : Keeps b c) : Keeps a c := by
  refine ⟨fun id d h => hbc.providers id d (hab.providers id d h),
    fun id d h => hbc.channels id d (hab.channels id d h), ?_⟩
  intro id aggregate h
  obtain ⟨middle, hm, hpm⟩ := hab.owners id aggregate h
  obtain ⟨later, hl, hpl⟩ := hbc.owners id middle hm
  exact ⟨later, hl, hpl.trans hpm⟩

theorem keeps_quiet {self next : Bridge World} (h : Quiet self next) : Keeps self next := by
  have hrefl := keeps_refl self
  cases h with
  | world world => exact ⟨hrefl.1, hrefl.2, hrefl.3⟩
  | provider descriptor hfresh =>
    exact ⟨fun _ _ hd => getElem?_insert_fresh hfresh hd, hrefl.2, hrefl.3⟩
  | channel descriptor hfresh =>
    exact ⟨hrefl.1, fun _ _ hd => getElem?_insert_fresh hfresh hd, hrefl.3⟩
  | joined channelId sessionId world hc hs => exact ⟨hrefl.1, hrefl.2, hrefl.3⟩
  | left channelId sessionId => exact ⟨hrefl.1, hrefl.2, hrefl.3⟩
  | cleared channelId => exact ⟨hrefl.1, hrefl.2, hrefl.3⟩

theorem keeps_change {self next : Bridge World} (h : Change self next) : Keeps self next := by
  have hrefl := keeps_refl self
  cases h with
  | quiet hquiet => exact keeps_quiet hquiet
  | reduced providerId event provider session routes aggregate world hcommitted =>
    refine ⟨hrefl.1, hrefl.2, ?_⟩
    intro id stored hget
    simp only [setWorld, withSession, OrderedMap.getElem?_insert]
    by_cases hk : event.sessionId = id
    · subst hk
      rw [if_pos rfl]
      refine ⟨aggregate, rfl, ?_⟩
      rcases hcommitted.reduced with ⟨old, hold, happlied, rfl⟩ | ⟨hnone, -⟩
      · rw [hold] at hget
        cases hget
        obtain ⟨-, -, heq⟩ := SessionAggregate.apply_applied happlied
        obtain ⟨-, -, -, -, hpid, -⟩ := SessionAggregate.applyPayload_frame stored event
        rw [heq]
        exact hpid
      · rw [hnone] at hget
        cases hget
    · rw [if_neg hk]
      exact ⟨stored, hget, rfl⟩

theorem final_keeps (self : Bridge World) (ops : List BridgeOp) :
    Keeps self (Trace.final (step ports) self ops) :=
  Trace.final_monotone (step ports) Keeps keeps_refl (fun _ _ _ => keeps_trans)
    (fun bridge op => keeps_change (step_change ports bridge op)) self ops

theorem retainedEventPageAfter_mem {aggregate : SessionAggregate} {afterSequence maxEvents : Nat}
    {events : List AgentEvent}
    (h : aggregate.retainedEventPageAfter afterSequence maxEvents = some events) :
    ∀ event ∈ events, event ∈ aggregate.recentEvents := by
  intro event hevent
  unfold SessionAggregate.retainedEventPageAfter at h
  split at h
  · cases h
  · split at h
    · cases h
      simp at hevent
    · split at h
      · cases h
      · split at h
        · cases h
        · split at h
          · cases h
          · cases h
            exact List.mem_of_mem_filter (List.mem_of_mem_take hevent)

/-- Every event of an owned history still passes the publication check against
the current session. -/
theorem ownedSession_valid {self : Bridge World} (hcon : Consistent self) {sessionId : SessionId}
    {aggregate : SessionAggregate} {history : List AgentEvent} {provider : ProviderDescriptor}
    (h : OwnedSession self.providers self.sessionConfig sessionId aggregate history provider)
    {event : AgentEvent} (hevent : event ∈ history) :
    CapabilityRouter.validateProviderEvent provider aggregate.session event = .ok () := by
  have hid := hcon.providerIds _ _ h.owner
  have hsid := (reduces_anchored h.reduces).sessionIds event hevent
  obtain ⟨hcap, hstarted⟩ := h.published event hevent
  exact CapabilityRouter.validateProviderEvent_ok.mpr ⟨hid, hsid.symm, hstarted, hcap⟩

theorem exists_route_of_recent {self : Bridge World} (hcon : Consistent self)
    {sessionId : SessionId} {aggregate : SessionAggregate} {history : List AgentEvent}
    {provider : ProviderDescriptor}
    (h : OwnedSession self.providers self.sessionConfig sessionId aggregate history provider)
    (channel : ChannelDescriptor) {event : AgentEvent} (hevent : event ∈ aggregate.recentEvents) :
    ∃ route, CapabilityRouter.channelEventRoute provider channel aggregate.session event =
      .ok route := by
  rw [reduces_recentEvents h.reduces] at hevent
  have hmem := (SessionAggregate.window_suffix _ history).subset hevent
  exact CapabilityRouter.exists_channelEventRoute.mpr (ownedSession_valid hcon h hmem)

theorem exists_route_of_pending {self : Bridge World} (hcon : Consistent self)
    {sessionId : SessionId} {aggregate : SessionAggregate} {history : List AgentEvent}
    {provider : ProviderDescriptor}
    (h : OwnedSession self.providers self.sessionConfig sessionId aggregate history provider)
    (channel : ChannelDescriptor) {id : InteractionId} {request : InteractionRequest}
    (hpending : aggregate.pendingInteractions[id]? = some request) :
    ∃ route, CapabilityRouter.interactionRoute provider channel aggregate.session request =
      .ok route := by
  obtain ⟨-, -, initial, -, -, hderived⟩ := reduces_derivedFrom h.reduces
  obtain ⟨event, ⟨before, after, rfl, -, -⟩, hp⟩ := (hderived.pending id request).mp hpending
  have hvalid := CapabilityRouter.validateProviderEvent_ok.mp
    (ownedSession_valid hcon h (List.mem_append_right before List.mem_cons_self))
  have hsid := event.request_sessionId_eq hp
  refine CapabilityRouter.exists_interactionRoute.mpr
    ⟨hvalid.1, hvalid.2.1.trans hsid.symm, ?_⟩
  simpa [hp, AgentEventPayload.requiredProviderCapability] using hvalid.2.2.2

theorem exists_baselineOf {self : Bridge World} (hcon : Consistent self) {sessionId : SessionId}
    {aggregate : SessionAggregate} {history : List AgentEvent} {provider : ProviderDescriptor}
    (h : OwnedSession self.providers self.sessionConfig sessionId aggregate history provider)
    (channel : ChannelDescriptor) : ∃ baseline, baselineOf provider channel aggregate =
      .ok baseline := by
  have hrouted : ∃ routed, routedInteractions provider channel aggregate = .ok routed := by
    refine Fallible.exists_mapM_ok ?_
    intro request hrequest
    obtain ⟨id, hid⟩ := OrderedMap.mem_values.mp hrequest
    obtain ⟨route, hroute⟩ := exists_route_of_pending hcon h channel hid
    exact ⟨⟨request, route⟩, by simp [hroute]⟩
  obtain ⟨routed, hrouted⟩ := hrouted
  exact ⟨⟨aggregate.session, aggregate.lastSequence, routed⟩, by
    simp [baselineOf, hrouted, bind, Except.bind]⟩

theorem exists_routedEvents {self : Bridge World} (hcon : Consistent self) {sessionId : SessionId}
    {aggregate : SessionAggregate} {history : List AgentEvent} {provider : ProviderDescriptor}
    (h : OwnedSession self.providers self.sessionConfig sessionId aggregate history provider)
    (channel : ChannelDescriptor) {events : List AgentEvent}
    (hevents : ∀ event ∈ events, event ∈ aggregate.recentEvents) :
    ∃ routed, routedEvents provider channel aggregate.session events = .ok routed := by
  refine Fallible.exists_mapM_ok ?_
  intro event hevent
  obtain ⟨route, hroute⟩ := exists_route_of_recent hcon h channel (hevents event hevent)
  exact ⟨⟨event, route⟩, by simp [hroute]⟩

/-- Building a page can only fail because the history is no longer retained. -/
theorem sessionSync_error {self : Bridge World} (hcon : Consistent self) {sessionId : SessionId}
    {aggregate : SessionAggregate} {history : List AgentEvent} {provider : ProviderDescriptor}
    (h : OwnedSession self.providers self.sessionConfig sessionId aggregate history provider)
    (channel : ChannelDescriptor) {channelId : ChannelId} {requestedAfter maxEvents : Nat}
    {e : SubscriptionError}
    (he : sessionSync provider channel channelId aggregate requestedAfter maxEvents = .error e) :
    pageOrReset channelId aggregate requestedAfter maxEvents = .error e := by
  cases hpage : pageOrReset channelId aggregate requestedAfter maxEvents with
  | error e' =>
    simp only [sessionSync, hpage, bind, Except.bind] at he
    cases he
    rfl
  | ok page =>
    obtain ⟨afterSequence, reset, events⟩ := page
    have hmem : ∀ event ∈ events, event ∈ aggregate.recentEvents := by
      unfold pageOrReset at hpage
      split at hpage
      · next hp =>
        cases hpage
        exact retainedEventPageAfter_mem hp
      · split at hpage
        · next hp =>
          cases hpage
          exact retainedEventPageAfter_mem hp
        · cases hpage
    obtain ⟨routed, hrouted⟩ := exists_routedEvents hcon h channel hmem
    obtain ⟨baseline, hbaseline⟩ := exists_baselineOf hcon h channel
    by_cases hfinal : (pageThrough afterSequence events == aggregate.lastSequence.get) = true
    · simp [sessionSync, hpage, hrouted, hbaseline, hfinal, bind, Except.bind] at he
    · simp [sessionSync, hpage, hrouted, hfinal, bind, Except.bind] at he

theorem pageOrReset_not_baselineRoute {channelId : ChannelId} {aggregate : SessionAggregate}
    {requestedAfter maxEvents : Nat} {source : CapabilityRouteError} :
    pageOrReset channelId aggregate requestedAfter maxEvents ≠ .error (.baselineRoute source) := by
  unfold pageOrReset
  split
  · simp
  · split <;> simp

theorem syncSession_not_baselineRoute {self : Bridge World} (hcon : Consistent self)
    (channelId : ChannelId) (sessionId : SessionId) (requestedAfter maxEvents : Nat)
    (source : CapabilityRouteError) :
    (self.syncSession ports channelId sessionId requestedAfter maxEvents).2 ≠
      .error (.baselineRoute source) := by
  intro hresult
  rcases syncSession_cases ports self channelId sessionId requestedAfter maxEvents with
    ⟨e, he, hbase⟩ | ⟨aggregate, -, -, -, -, he⟩ |
    ⟨channel, aggregate, provider, sync, world, result, -, -, he⟩
  · rw [he] at hresult
    cases hresult
    obtain ⟨channel, aggregate, provider, -, hsession, hprovider, hsync⟩ := hbase source rfl
    obtain ⟨history, owner, howned⟩ := hcon.sessions sessionId aggregate hsession
    have hsame : owner = provider := by
      have howner := howned.owner
      rw [hprovider] at howner
      exact (Option.some.inj howner).symm
    subst hsame
    exact pageOrReset_not_baselineRoute (sessionSync_error hcon howned channel hsync)
  · rw [he] at hresult
    cases hresult
  · rw [he] at hresult
    cases result <;> cases hresult

theorem subscribe_not_baselineRoute {self : Bridge World} (hcon : Consistent self)
    (channelId : ChannelId) (sessionId : SessionId) (source : CapabilityRouteError) :
    (self.subscribe ports channelId sessionId).2 ≠ .error (.baselineRoute source) := by
  intro hresult
  rcases subscribe_cases ports self channelId sessionId with ⟨e, he, hbase⟩ |
    ⟨aggregate, -, -, he⟩ |
    ⟨channel, aggregate, provider, baseline, -, ⟨-, he⟩ | ⟨-, world, result, -, he⟩⟩
  · rw [he] at hresult
    cases hresult
    obtain ⟨channel, aggregate, provider, -, hsession, hprovider, hfail⟩ := hbase source rfl
    obtain ⟨history, owner, howned⟩ := hcon.sessions sessionId aggregate hsession
    have hsame : owner = provider := by
      have howner := howned.owner
      rw [hprovider] at howner
      exact (Option.some.inj howner).symm
    subst hsame
    obtain ⟨baseline, hbaseline⟩ := exists_baselineOf hcon howned channel
    rw [hbaseline] at hfail
    cases hfail
  · rw [he] at hresult
    cases hresult
  · rw [he] at hresult
    cases hresult
  · rw [he] at hresult
    cases result <;> cases hresult

theorem handleProviderEvent_not_channelNotFound {self : Bridge World} (hcon : Consistent self)
    (providerId : ProviderId) (event : AgentEvent) (channelId : ChannelId) :
    (self.handleProviderEvent ports providerId event).2 ≠ .error (.channelNotFound channelId) := by
  intro hresult
  rcases handleProviderEvent_cases ports self providerId event with ⟨e, he, -, hmissing⟩ |
    ⟨old, -, -, he⟩ | ⟨provider, session, routes, aggregate, -, he⟩
  · rw [he] at hresult
    cases hresult
    obtain ⟨hmem, hnone⟩ := hmissing channelId rfl
    have hsub := hcon.subscribed channelId event.sessionId (mem_sessionSubscribers.mp hmem)
    rw [ExtTreeMap.mem_iff_isSome_getElem?, hnone] at hsub
    simp at hsub
  · rw [he] at hresult
    cases hresult
  · rw [he] at hresult
    simp only [commitResult] at hresult
    split at hresult <;> cases hresult

/-- A stored session's owner answers every lookup of its provider. -/
theorem provider_mem_of_session {self : Bridge World} (hcon : Consistent self)
    {sessionId : SessionId} {aggregate : SessionAggregate}
    (h : self.sessions[sessionId]? = some aggregate) :
    aggregate.session.providerId ∈ self.providers := by
  obtain ⟨history, provider, howned⟩ := hcon.sessions sessionId aggregate h
  exact mem_of_getElem? howned.owner

theorem handToProvider_not_providerNotFound {self : Bridge World} {providerId : ProviderId}
    (hmem : providerId ∈ self.providers) (handoff : ProviderHandoffKind) (call : PortCall)
    (missing : ProviderId) :
    (self.handToProvider ports providerId handoff call).2 ≠
      .error (.providerNotFound missing) := by
  unfold handToProvider
  rw [if_neg (by simp [hmem])]
  split <;> simp

/-- The checks of a response end with the registered owner of its session. -/
theorem interactionResponseProvider_mem {self : Bridge World} (hcon : Consistent self)
    (channelId : ChannelId) (response : InteractionResponse) :
    (∀ missing, self.interactionResponseProvider channelId response ≠
      .error (.providerNotFound missing)) ∧
    (∀ providerId, self.interactionResponseProvider channelId response = .ok providerId →
      providerId ∈ self.providers) := by
  unfold interactionResponseProvider actionChannelDescriptor validateActionSubscription
  cases hchannel : self.channels[channelId]? with
  | none => simp [bind, Except.bind]
  | some channel =>
    by_cases hs : self.sessions.contains response.sessionId = true
    · by_cases hsub : self.isSubscribed channelId response.sessionId = true
      · cases hsession : self.sessions[response.sessionId]? with
        | none => simp [hs, hsub, bind, Except.bind]
        | some aggregate =>
          have hmem := provider_mem_of_session hcon hsession
          cases hprovider : self.providers[aggregate.session.providerId]? with
          | none =>
            rw [ExtTreeMap.mem_iff_isSome_getElem?, hprovider] at hmem
            simp at hmem
          | some provider =>
            cases hrequest : aggregate.pendingInteractions[response.requestId]? with
            | none => simp [hs, hsub, hprovider, hrequest, bind, Except.bind]
            | some request =>
              cases hv : CapabilityRouter.validateInteractionResponse provider channel
                  aggregate.session request response with
              | error e => simp [hs, hsub, hprovider, hrequest, hv, bind, Except.bind, Except.mapError]
              | ok u =>
                simp only [hs, hsub, hprovider, hrequest, hv, bind, Except.bind, Except.mapError]
                simp [hmem]
      · simp [hs, hsub, bind, Except.bind]
    · simp [hs, bind, Except.bind]

/-- The checks of a command end with the registered owner of its session. -/
theorem commandProvider_mem {self : Bridge World} (hcon : Consistent self)
    (channelId : ChannelId) (command : AgentCommand) :
    (∀ missing, self.commandProvider channelId command ≠ .error (.providerNotFound missing)) ∧
    (∀ providerId, self.commandProvider channelId command = .ok providerId →
      providerId ∈ self.providers) := by
  unfold commandProvider actionChannelDescriptor validateActionSubscription
  cases hchannel : self.channels[channelId]? with
  | none => simp [bind, Except.bind]
  | some channel =>
    by_cases hs : self.sessions.contains command.sessionId = true
    · by_cases hsub : self.isSubscribed channelId command.sessionId = true
      · cases hsession : self.sessions[command.sessionId]? with
        | none => simp [hs, hsub, bind, Except.bind]
        | some aggregate =>
          have hmem := provider_mem_of_session hcon hsession
          cases hprovider : self.providers[aggregate.session.providerId]? with
          | none =>
            rw [ExtTreeMap.mem_iff_isSome_getElem?, hprovider] at hmem
            simp at hmem
          | some provider =>
            cases hv : CapabilityRouter.validateCommand provider channel aggregate.session
                command with
            | error e => simp [hs, hsub, hprovider, hv, bind, Except.bind, Except.mapError]
            | ok u =>
              simp only [hs, hsub, hprovider, hv, bind, Except.bind, Except.mapError]
              simp [hmem]
      · simp [hs, hsub, bind, Except.bind]
    · simp [hs, bind, Except.bind]

theorem handleInteractionResponse_not_providerNotFound {self : Bridge World}
    (hcon : Consistent self) (channelId : ChannelId) (response : InteractionResponse)
    (missing : ProviderId) :
    (self.handleInteractionResponse ports channelId response).2 ≠
      .error (.providerNotFound missing) := by
  obtain ⟨herror, hok⟩ := interactionResponseProvider_mem hcon channelId response
  unfold handleInteractionResponse
  cases hprovider : self.interactionResponseProvider channelId response with
  | error e =>
    intro he
    cases he
    exact herror missing hprovider
  | ok providerId => exact handToProvider_not_providerNotFound ports (hok providerId hprovider) _ _ _

theorem handleCommand_not_providerNotFound {self : Bridge World} (hcon : Consistent self)
    (channelId : ChannelId) (command : AgentCommand) (missing : ProviderId) :
    (self.handleCommand ports channelId command).2 ≠ .error (.providerNotFound missing) := by
  obtain ⟨herror, hok⟩ := commandProvider_mem hcon channelId command
  unfold handleCommand
  cases hprovider : self.commandProvider channelId command with
  | error e =>
    intro he
    cases he
    exact herror missing hprovider
  | ok providerId => exact handToProvider_not_providerNotFound ports (hok providerId hprovider) _ _ _

/-- The maps of a bridge fit together and every stored message can still be
routed to every registered channel. -/
structure Represented (bridge : Bridge World) : Prop where
  ownId : ∀ (id : SessionId) aggregate, bridge.sessions[id]? = some aggregate →
    aggregate.session.id = id
  owner : ∀ (id : SessionId) aggregate, bridge.sessions[id]? = some aggregate →
    aggregate.session.providerId ∈ bridge.providers
  subscribers : ∀ (id : SessionId) channels, bridge.subscriptions[id]? = some channels →
    id ∈ bridge.sessions ∧ channels ≠ ∅ ∧ ∀ channelId ∈ channels, channelId ∈ bridge.channels
  events : ∀ (id : SessionId) aggregate, bridge.sessions[id]? = some aggregate →
    ∀ provider, bridge.providers[aggregate.session.providerId]? = some provider →
    ∀ (channelId : ChannelId) channel, bridge.channels[channelId]? = some channel →
    ∀ event ∈ aggregate.recentEvents, ∃ route,
      CapabilityRouter.channelEventRoute provider channel aggregate.session event = .ok route
  interactions : ∀ (id : SessionId) aggregate, bridge.sessions[id]? = some aggregate →
    ∀ provider, bridge.providers[aggregate.session.providerId]? = some provider →
    ∀ (channelId : ChannelId) channel, bridge.channels[channelId]? = some channel →
    ∀ (interactionId : InteractionId) request,
      aggregate.pendingInteractions[interactionId]? = some request → ∃ route,
        CapabilityRouter.interactionRoute provider channel aggregate.session request = .ok route

theorem represented_of_consistent {self : Bridge World} (hcon : Consistent self) :
    Represented self := by
  have hsame : ∀ (id : SessionId) aggregate, self.sessions[id]? = some aggregate →
      ∀ provider, self.providers[aggregate.session.providerId]? = some provider →
      ∃ history, OwnedSession self.providers self.sessionConfig id aggregate history provider := by
    intro id aggregate hget provider hprovider
    obtain ⟨history, owner, howned⟩ := hcon.sessions id aggregate hget
    have howner := howned.owner
    rw [hprovider] at howner
    cases howner
    exact ⟨history, howned⟩
  refine ⟨?_, ?_, ?_, ?_, ?_⟩
  · intro id aggregate hget
    obtain ⟨history, provider, howned⟩ := hcon.sessions id aggregate hget
    exact howned.id
  · intro id aggregate hget
    exact provider_mem_of_session hcon hget
  · intro id channels hget
    obtain ⟨someone, hsomeone⟩ := MultiMap.exists_member hcon.noEmptySets hget
    refine ⟨(hcon.subscribed someone id hsomeone).2, hcon.noEmptySets id channels hget, ?_⟩
    intro channelId hmem
    exact (hcon.subscribed channelId id (MultiMap.contains_iff.mpr ⟨channels, hget, hmem⟩)).1
  · intro id aggregate hget provider hprovider channelId channel _ event hevent
    obtain ⟨history, howned⟩ := hsame id aggregate hget provider hprovider
    exact exists_route_of_recent hcon howned channel hevent
  · intro id aggregate hget provider hprovider channelId channel _ interactionId request hrequest
    obtain ⟨history, howned⟩ := hsame id aggregate hget provider hprovider
    exact exists_route_of_pending hcon howned channel hrequest

/-- The defensive results that no call returns. -/
structure DefensiveUnreachable (bridge : Bridge World) : Prop where
  syncSession : ∀ channelId sessionId requestedAfter maxEvents source,
    (bridge.syncSession ports channelId sessionId requestedAfter maxEvents).2 ≠
      .error (.baselineRoute source)
  subscribe : ∀ channelId sessionId source,
    (bridge.subscribe ports channelId sessionId).2 ≠ .error (.baselineRoute source)
  providerEvent : ∀ providerId event channelId,
    (bridge.handleProviderEvent ports providerId event).2 ≠ .error (.channelNotFound channelId)
  interactionResponse : ∀ channelId response providerId,
    (bridge.handleInteractionResponse ports channelId response).2 ≠
      .error (.providerNotFound providerId)
  command : ∀ channelId command providerId,
    (bridge.handleCommand ports channelId command).2 ≠ .error (.providerNotFound providerId)

/-- In every bridge that a run reaches the maps fit together, endpoints and
owners are those of every earlier state of the run, and the defensive results
are unreachable. -/
theorem run_represented (config : SessionAggregateConfig) (world : World) (ops : List BridgeOp) :
    Represented (run ports config world ops) ∧
    (∀ earlier later, ops = earlier ++ later →
      Keeps (run ports config world earlier) (run ports config world ops)) ∧
    DefensiveUnreachable ports (run ports config world ops) := by
  have hcon := run_consistent ports config world ops
  refine ⟨represented_of_consistent hcon, ?_, ?_⟩
  · rintro earlier later rfl
    unfold run
    rw [Trace.final_append]
    exact final_keeps ports _ later
  · exact ⟨syncSession_not_baselineRoute ports hcon, subscribe_not_baselineRoute ports hcon,
      handleProviderEvent_not_channelNotFound ports hcon,
      handleInteractionResponse_not_providerNotFound ports hcon,
      handleCommand_not_providerNotFound ports hcon⟩

end Bridge

end AgentPulse

import AgentPulse.BridgeDelivery
import AgentPulse.CoreAnswer

/-!
# Actions of a channel and their record

A channel acts on a session by answering an interaction or by sending a command.
The bridge hands the action to the session's owner exactly when every condition
of `MayRespond` or `MayCommand` holds, and it changes nothing else. What the
owner publishes about an interaction afterwards is checked by another table.
-/
namespace AgentPulse

open Std (ExtTreeMap)
open CapabilityRouter
open Fallible (bind_eq_ok mapError_eq_ok)

namespace Bridge

variable {World : Type}

/-- The channel is registered and subscribed to the session, whose owner is registered. -/
structure ActsOn (bridge : Bridge World) (channelId : ChannelId) (sessionId : SessionId)
    (channel : ChannelDescriptor) (aggregate : SessionAggregate) (owner : ProviderId)
    (provider : ProviderDescriptor) : Prop where
  registered : bridge.channels[channelId]? = some channel
  subscribed : bridge.isSubscribed channelId sessionId = true
  session : bridge.sessions[sessionId]? = some aggregate
  owned : aggregate.session.providerId = owner
  present : bridge.providers[owner]? = some provider

/-- Everything a response needs to reach the owner of its session. -/
def MayRespond (bridge : Bridge World) (channelId : ChannelId) (response : InteractionResponse)
    (owner : ProviderId) : Prop :=
  ∃ channel aggregate provider request,
    ActsOn bridge channelId response.sessionId channel aggregate owner provider ∧
    response.channelId = channelId ∧
    aggregate.pendingInteractions[response.requestId]? = some request ∧
    request.validateResponse response = .ok () ∧
    provider.capabilities.contains request.payload.requiredProviderRequestCapability = true ∧
    provider.capabilities.contains request.payload.requiredProviderResponseCapability = true ∧
    channel.capabilities.contains request.payload.requiredChannelResponseCapability = true

/-- Everything a command needs to reach the owner of its session. -/
def MayCommand (bridge : Bridge World) (channelId : ChannelId) (command : AgentCommand)
    (owner : ProviderId) : Prop :=
  ∃ channel aggregate provider,
    ActsOn bridge channelId command.sessionId channel aggregate owner provider ∧
    command.channelId = channelId ∧
    provider.capabilities.contains command.payload.requiredProviderCapability = true ∧
    channel.capabilities.contains command.payload.requiredChannelCapabilities = true

section Gate

variable {self : Bridge World} {channelId : ChannelId}

@[simp] theorem actionChannelDescriptor_ok {channel : ChannelDescriptor} :
    self.actionChannelDescriptor channelId = .ok channel ↔
      self.channels[channelId]? = some channel := by
  unfold actionChannelDescriptor
  cases self.channels[channelId]? <;> simp

@[simp] theorem validateActionSubscription_ok {sessionId : SessionId} {u : Unit} :
    self.validateActionSubscription channelId sessionId = .ok u ↔
      self.sessions.contains sessionId = true ∧ self.isSubscribed channelId sessionId = true := by
  unfold validateActionSubscription
  by_cases hs : self.sessions.contains sessionId = true
  · by_cases hsub : self.isSubscribed channelId sessionId = true <;> simp [hs, hsub]
  · simp [hs]

theorem ActsOn.ids (hcon : Consistent self) {sessionId : SessionId} {channel : ChannelDescriptor}
    {aggregate : SessionAggregate} {owner : ProviderId} {provider : ProviderDescriptor}
    (h : ActsOn self channelId sessionId channel aggregate owner provider) :
    channel.id = channelId ∧ aggregate.session.id = sessionId ∧
      provider.id = aggregate.session.providerId := by
  obtain ⟨history, found, howned⟩ := hcon.sessions _ _ h.session
  exact ⟨hcon.channelIds _ _ h.registered, howned.id,
    (hcon.providerIds _ _ h.present).trans h.owned.symm⟩

/-- The checks of a response pass exactly for a response that may be handed over. -/
theorem interactionResponseProvider_ok (hcon : Consistent self) {response : InteractionResponse}
    {owner : ProviderId} :
    self.interactionResponseProvider channelId response = .ok owner ↔
      MayRespond self channelId response owner := by
  unfold interactionResponseProvider
  simp only [bind_eq_ok, actionChannelDescriptor_ok, validateActionSubscription_ok]
  constructor
  · rintro ⟨channel, hchannel, -, ⟨-, hsubscribed⟩, h⟩
    cases hsession : self.sessions[response.sessionId]? with
    | none => simp [hsession] at h
    | some aggregate =>
      cases hprovider : self.providers[aggregate.session.providerId]? with
      | none => simp [hsession, hprovider] at h
      | some provider =>
        cases hrequest : aggregate.pendingInteractions[response.requestId]? with
        | none => simp [hsession, hprovider, hrequest] at h
        | some request =>
          simp only [hsession, hprovider, hrequest, bind_eq_ok, mapError_eq_ok] at h
          obtain ⟨⟨⟩, hvalid, howner⟩ := h
          cases howner
          obtain ⟨-, -, -, hid, haccepted, hrequestable, hanswerable, hcollects⟩ :=
            validateInteractionResponse_ok.mp hvalid
          have hacts : ActsOn self channelId response.sessionId channel aggregate
              aggregate.session.providerId provider :=
            ⟨hchannel, hsubscribed, hsession, rfl, hprovider⟩
          exact ⟨channel, aggregate, provider, request, hacts,
            hid.symm.trans (hacts.ids hcon).1, hrequest, haccepted, hrequestable, hanswerable,
            hcollects⟩
  · rintro ⟨channel, aggregate, provider, request, hacts, hid, hrequest, haccepted, hrequestable,
      hanswerable, hcollects⟩
    obtain ⟨hchannelId, hsessionId, hproviderId⟩ := hacts.ids hcon
    obtain ⟨-, hsame, -⟩ := InteractionRequest.validateResponse_ok.mp haccepted
    have hvalid : validateInteractionResponse provider channel aggregate.session request response =
        .ok () :=
      validateInteractionResponse_ok.mpr ⟨hproviderId, hsessionId.trans hsame, hsessionId,
        hchannelId.trans hid.symm, haccepted, hrequestable, hanswerable, hcollects⟩
    have hpresent := hacts.present
    rw [← hacts.owned] at hpresent
    refine ⟨channel, hacts.registered, (), ⟨?_, hacts.subscribed⟩, ?_⟩
    · exact ExtTreeMap.contains_iff_mem.mpr (mem_of_getElem? hacts.session)
    · simp only [hacts.session, hpresent, hrequest, hvalid, Except.mapError]
      exact congrArg Except.ok hacts.owned

theorem commandProvider_ok (hcon : Consistent self) {command : AgentCommand}
    {owner : ProviderId} :
    self.commandProvider channelId command = .ok owner ↔
      MayCommand self channelId command owner := by
  unfold commandProvider
  simp only [bind_eq_ok, actionChannelDescriptor_ok, validateActionSubscription_ok]
  constructor
  · rintro ⟨channel, hchannel, -, ⟨-, hsubscribed⟩, h⟩
    cases hsession : self.sessions[command.sessionId]? with
    | none => simp [hsession] at h
    | some aggregate =>
      cases hprovider : self.providers[aggregate.session.providerId]? with
      | none => simp [hsession, hprovider] at h
      | some provider =>
        simp only [hsession, hprovider, bind_eq_ok, mapError_eq_ok] at h
        obtain ⟨⟨⟩, hvalid, howner⟩ := h
        cases howner
        obtain ⟨-, -, hid, hcapable, hallowed⟩ := validateCommand_ok.mp hvalid
        have hacts : ActsOn self channelId command.sessionId channel aggregate
            aggregate.session.providerId provider :=
          ⟨hchannel, hsubscribed, hsession, rfl, hprovider⟩
        exact ⟨channel, aggregate, provider, hacts, hid.symm.trans (hacts.ids hcon).1, hcapable,
          hallowed⟩
  · rintro ⟨channel, aggregate, provider, hacts, hid, hcapable, hallowed⟩
    obtain ⟨hchannelId, hsessionId, hproviderId⟩ := hacts.ids hcon
    have hvalid : validateCommand provider channel aggregate.session command = .ok () :=
      validateCommand_ok.mpr ⟨hproviderId, hsessionId, hchannelId.trans hid.symm, hcapable,
        hallowed⟩
    have hpresent := hacts.present
    rw [← hacts.owned] at hpresent
    refine ⟨channel, hacts.registered, (), ⟨?_, hacts.subscribed⟩, ?_⟩
    · exact ExtTreeMap.contains_iff_mem.mpr (mem_of_getElem? hacts.session)
    · simp only [hacts.session, hpresent, hvalid, Except.mapError]
      exact congrArg Except.ok hacts.owned

end Gate

/-- What an action leaves alone. -/
structure Unmoved (before after : Bridge World) : Prop where
  sessions : after.sessions = before.sessions
  subscriptions : after.subscriptions = before.subscriptions
  providers : after.providers = before.providers
  channels : after.channels = before.channels

/-- One call to the owner's port exactly when the action may be handed over. -/
def HandsOver (before after : Bridge (Recorded World)) (allowed : ProviderId → Prop)
    (call : ProviderId → PortCall) : Prop :=
  ∃ calls, after.world.calls = before.world.calls ++ calls ∧
    (calls ≠ [] ↔ ∃ owner, allowed owner) ∧
    ∀ owner, allowed owner → ∃ answer, calls = [(call owner, answer)]

/-- A call that was made names the owner to whom the action was handed over. -/
theorem HandsOver.allowed {before after : Bridge (Recorded World)} {allowed : ProviderId → Prop}
    {call : ProviderId → PortCall} (h : HandsOver before after allowed call) {owner : ProviderId}
    (hcall : Function.Injective call) {answer : Except BoxAdapterError Unit}
    (hreached : after.world.calls = before.world.calls ++ [(call owner, answer)]) :
    allowed owner := by
  obtain ⟨calls, hcalls, hiff, hone⟩ := h
  rw [hcalls] at hreached
  have hsame := List.append_cancel_left hreached
  obtain ⟨found, hfound⟩ := hiff.mp (by rw [hsame]; simp)
  obtain ⟨other, hother⟩ := hone found hfound
  rw [hsame] at hother
  have hpair := (List.cons.inj hother).1
  rw [hcall (Prod.mk.inj hpair).1]
  exact hfound

/-- An action that its checks reject calls nothing; one that they pass is handed over. -/
theorem handsOver_of_checks (ports : Ports World) {self next : Bridge (Recorded World)}
    {allowed : ProviderId → Prop} {call : ProviderId → PortCall}
    (checks : Except ChannelActionError ProviderId) (kind : ProviderHandoffKind)
    (hrejected : ∀ e, checks = .error e → next = self)
    (hpassed : ∀ owner, checks = .ok owner →
      next = (self.handToProvider (recording ports) owner kind (call owner)).1)
    (hchecks : ∀ owner, checks = .ok owner ↔ allowed owner)
    (hpresent : ∀ owner, allowed owner → owner ∈ self.providers) :
    HandsOver self next allowed call ∧ Unmoved self next := by
  cases hresult : checks with
  | error e =>
    have hnone : ¬ ∃ owner, allowed owner := by
      rintro ⟨owner, howner⟩
      rw [(hchecks owner).mpr howner] at hresult
      cases hresult
    rw [hrejected e hresult]
    refine ⟨⟨[], by simp, by simp [hnone], ?_⟩, ⟨rfl, rfl, rfl, rfl⟩⟩
    exact fun owner howner => absurd ⟨owner, howner⟩ hnone
  | ok owner =>
    have hallowed := (hchecks owner).mp hresult
    have hunique : ∀ other, allowed other → other = owner := by
      intro other hother
      rw [(hchecks other).mpr hother] at hresult
      cases hresult
      rfl
    have hmem := hpresent owner hallowed
    obtain ⟨world, hworld⟩ := handToProvider_setWorld (recording ports) self owner kind (call owner)
    have hcalls : (self.handToProvider (recording ports) owner kind (call owner)).1.world.calls =
        self.world.calls ++ [(call owner, (ports self.world.world (call owner)).2)] := by
      unfold handToProvider
      rw [if_neg (by simp [hmem])]
      cases hport : (ports self.world.world (call owner)).2 <;> simp [recording, hport]
    rw [hpassed owner hresult]
    refine ⟨⟨_, hcalls, ?_, ?_⟩, ?_⟩
    · exact iff_of_true (by simp) ⟨owner, hallowed⟩
    · intro other hother
      rw [hunique other hother]
      exact ⟨_, rfl⟩
    · rw [hworld]
      exact ⟨rfl, rfl, rfl, rfl⟩

theorem handleInteractionResponse_handsOver (ports : Ports World)
    {self : Bridge (Recorded World)} (hcon : Consistent self) (channelId : ChannelId)
    (response : InteractionResponse) :
    HandsOver self (self.handleInteractionResponse (recording ports) channelId response).1
      (MayRespond self channelId response)
      (fun owner => .acceptInteractionResponse owner response) ∧
    Unmoved self (self.handleInteractionResponse (recording ports) channelId response).1 := by
  apply handsOver_of_checks ports (self.interactionResponseProvider channelId response)
    .interactionResponse
  · intro e he
    simp only [handleInteractionResponse, he]
  · intro owner howner
    simp only [handleInteractionResponse, howner]
  · exact fun owner => interactionResponseProvider_ok hcon
  · rintro owner ⟨channel, aggregate, provider, request, hacts, -⟩
    exact mem_of_getElem? hacts.present

theorem handleCommand_handsOver (ports : Ports World) {self : Bridge (Recorded World)}
    (hcon : Consistent self) (channelId : ChannelId) (command : AgentCommand) :
    HandsOver self (self.handleCommand (recording ports) channelId command).1
      (MayCommand self channelId command) (fun owner => .acceptCommand owner command) ∧
    Unmoved self (self.handleCommand (recording ports) channelId command).1 := by
  apply handsOver_of_checks ports (self.commandProvider channelId command) .command
  · intro e he
    simp only [handleCommand, he]
  · intro owner howner
    simp only [handleCommand, howner]
  · exact fun owner => commandProvider_ok hcon
  · rintro owner ⟨channel, aggregate, provider, hacts, -⟩
    exact mem_of_getElem? hacts.present

/-- In every bridge that a run reaches, with ports that answer arbitrarily: a response
or a command is handed over, once and unchanged, to the owner of its session exactly
when it may be, and in any case nothing but the ports is touched. -/
theorem run_channel_action (ports : Ports World) (config : SessionAggregateConfig)
    (world : Recorded World) (ops : List BridgeOp) (channelId : ChannelId) :
    let bridge := run (recording ports) config world ops
    (∀ response,
      HandsOver bridge (bridge.handleInteractionResponse (recording ports) channelId response).1
        (MayRespond bridge channelId response)
        (fun owner => .acceptInteractionResponse owner response) ∧
      Unmoved bridge (bridge.handleInteractionResponse (recording ports) channelId response).1) ∧
    (∀ command,
      HandsOver bridge (bridge.handleCommand (recording ports) channelId command).1
        (MayCommand bridge channelId command) (fun owner => .acceptCommand owner command) ∧
      Unmoved bridge (bridge.handleCommand (recording ports) channelId command).1) := by
  intro bridge
  have hcon : Consistent bridge := run_consistent (recording ports) config world ops
  constructor
  · exact handleInteractionResponse_handsOver ports hcon channelId
  · exact handleCommand_handsOver ports hcon channelId

/-- In a consistent bridge every subscriber has a route for a valid event. -/
theorem exists_eventRoutes {self : Bridge World} (hcon : Consistent self)
    {provider : ProviderDescriptor} {session : AgentSession} {event : AgentEvent}
    (hvalid : validateProviderEvent provider session event = .ok ()) :
    ∃ routes, self.eventRoutes provider session event = .ok routes := by
  apply Fallible.exists_mapM_ok
  intro channelId hmem
  have hregistered := (hcon.subscribed channelId event.sessionId (mem_sessionSubscribers.mp hmem)).1
  obtain ⟨channel, hchannel⟩ := Option.isSome_iff_exists.mp
    (ExtTreeMap.mem_iff_isSome_getElem?.mp hregistered)
  have hroutes : ∃ route, channelEventRoute provider channel session event = .ok route :=
    exists_channelEventRoute.mpr hvalid
  obtain ⟨route, hroute⟩ := hroutes
  simp only [hchannel, hroute]
  exact ⟨_, rfl⟩

/-- A valid event that its aggregate accepts is committed. -/
theorem handleProviderEvent_accepts (ports : Ports World) {self : Bridge World}
    (hcon : Consistent self) {providerId : ProviderId} {event : AgentEvent}
    {provider : ProviderDescriptor} {aggregate : SessionAggregate}
    (hprovider : self.providers[providerId]? = some provider)
    (hsession : self.sessions[event.sessionId]? = some aggregate)
    (hvalid : validateProviderEvent provider aggregate.session event = .ok ())
    (happlied : (aggregate.apply event).2 = .ok .applied) :
    IsCommitted (self.handleProviderEvent ports providerId event).2 ∧
    (self.handleProviderEvent ports providerId event).1.sessions =
      self.sessions.insert event.sessionId (aggregate.apply event).1 := by
  obtain ⟨routes, hroutes⟩ := exists_eventRoutes hcon hvalid
  have hcommitted : Committed self providerId event provider aggregate.session routes
      (aggregate.apply event).1 := by
    constructor
    · exact hprovider
    · unfold routingSession
      rw [hsession]
    · exact hvalid
    · exact hroutes
    · exact .inl ⟨aggregate, hsession, happlied, rfl⟩
  rw [handleProviderEvent_committed ports hcommitted]
  exact ⟨commitResult_isCommitted ports self event routes _, rfl⟩

/-- The owner of a session publishes; a commit shows what was checked. -/
theorem committed_checks (ports : Ports World) {self : Bridge World} {providerId : ProviderId}
    {event : AgentEvent} {aggregate : SessionAggregate}
    (hsession : self.sessions[event.sessionId]? = some aggregate)
    (h : IsCommitted (self.handleProviderEvent ports providerId event).2) :
    ∃ provider, self.providers[providerId]? = some provider ∧
      validateProviderEvent provider aggregate.session event = .ok () := by
  rcases handleProviderEvent_cases ports self providerId event with ⟨e, he, hnot, -⟩ |
    ⟨old, -, -, he⟩ | ⟨provider, session, routes, reduced, hc, -⟩
  · rw [he] at h
    rcases h with ⟨report, h⟩ | ⟨deliveries, h⟩
    · cases h
      exact absurd rfl (hnot report)
    · cases h
  · rw [he] at h
    rcases h with ⟨report, h⟩ | ⟨deliveries, h⟩ <;> cases h
  · have hrouting := hc.routing
    unfold routingSession at hrouting
    rw [hsession] at hrouting
    cases hrouting
    exact ⟨provider, hc.registered, hc.valid⟩

/-- An accepted event does not replace a pending request. -/
theorem applyPayload_pending_same {self : SessionAggregate} {event : AgentEvent}
    (hok : (self.applyPayload event).2 = .ok ()) {id : InteractionId}
    {request later : InteractionRequest} (hbefore : self.pendingInteractions[id]? = some request)
    (hafter : (self.applyPayload event).1.pendingInteractions[id]? = some later) :
    later = request := by
  rw [SessionAggregate.applyPayload_pending hok id, hbefore] at hafter
  cases hp : event.payload with
  | interactionRequested other =>
    have hfresh : ¬ self.pendingInteractions.contains other.id = true := by
      intro hcontains
      simp [SessionAggregate.applyPayload, hp, hcontains] at hok
    have hne : other.id ≠ id := by
      rintro rfl
      apply hfresh
      exact ExtTreeMap.contains_iff_mem.mpr (mem_of_getElem? hbefore)
    simp only [hp, if_neg hne] at hafter
    exact (Option.some.inj hafter).symm
  | interactionResponded response =>
    simp only [hp] at hafter
    split at hafter
    · cases hafter
    · exact (Option.some.inj hafter).symm
  | interactionClosed closed =>
    simp only [hp] at hafter
    split at hafter
    · cases hafter
    · exact (Option.some.inj hafter).symm
  | sessionEnded outcome =>
    rw [hp] at hafter
    cases hafter
  | _ =>
    rw [hp] at hafter
    exact (Option.some.inj hafter).symm

def InteractionPending (bridge : Bridge World) (sessionId : SessionId) (id : InteractionId)
    (request : InteractionRequest) : Prop :=
  ∃ aggregate, bridge.sessions[sessionId]? = some aggregate ∧
    aggregate.pendingInteractions[id]? = some request

/-- As long as an identifier is pending it names the same request. -/
theorem pending_same {self next : Bridge World} (h : Change self next) {sessionId : SessionId}
    {id : InteractionId} {request later : InteractionRequest}
    (hbefore : InteractionPending self sessionId id request)
    (hafter : InteractionPending next sessionId id later) : later = request := by
  obtain ⟨old, hold, hrequest⟩ := hbefore
  obtain ⟨new, hnew, hlater⟩ := hafter
  cases h with
  | quiet hquiet =>
    rw [(quiet_sessions hquiet).1, hold] at hnew
    cases hnew
    rw [hrequest] at hlater
    exact (Option.some.inj hlater).symm
  | reduced providerId event provider session routes aggregate world hcommitted =>
    simp only [setWorld, withSession, OrderedMap.getElem?_insert] at hnew
    by_cases hk : event.sessionId = sessionId
    · rw [if_pos hk] at hnew
      cases hnew
      subst hk
      rcases hcommitted.reduced with ⟨found, hfound, happlied, rfl⟩ | ⟨hnone, -⟩
      · rw [hold] at hfound
        cases hfound
        obtain ⟨-, hok, heq⟩ := SessionAggregate.apply_applied happlied
        rw [heq] at hlater
        exact applyPayload_pending_same hok hrequest hlater
      · rw [hold] at hnone
        cases hnone
    · rw [if_neg hk, hold] at hnew
      cases hnew
      rw [hrequest] at hlater
      exact (Option.some.inj hlater).symm

/-- The interaction is pending at every moment of a run. -/
def StaysPending (ports : Ports World) (bridge : Bridge World) (ops : List BridgeOp)
    (sessionId : SessionId) (id : InteractionId) : Prop :=
  ∀ taken, taken <+: ops →
    ∃ request, InteractionPending (Trace.final (step ports) bridge taken) sessionId id request

theorem final_pending (ports : Ports World) {bridge : Bridge World} {ops : List BridgeOp}
    {sessionId : SessionId} {id : InteractionId} {request : InteractionRequest}
    (hstays : StaysPending ports bridge ops sessionId id)
    (h : InteractionPending bridge sessionId id request) :
    InteractionPending (Trace.final (step ports) bridge ops) sessionId id request := by
  induction ops generalizing bridge with
  | nil => exact h
  | cons op rest ih =>
    obtain ⟨later, hlater⟩ := hstays [op] (by simp)
    have hsame := pending_same (step_change ports bridge op) h hlater
    subst hsame
    apply ih _ hlater
    intro taken htaken
    exact hstays (op :: taken) (by simpa using htaken)

/-- A kind of response needs what a request that accepts it asks of its provider. -/
theorem requiredProviderCapability_of_accepted {request : InteractionRequestPayload}
    {response : InteractionResponsePayload} (h : request.validateResponse response = .ok ()) :
    response.requiredProviderCapability = request.requiredProviderResponseCapability := by
  cases request <;> cases response <;> first | rfl | cases h

/-- What the record of a response leaves alone. -/
structure RecordsResponse (before after : SessionAggregate) (id : InteractionId) : Prop where
  removed : after.pendingInteractions[id]? = none
  others : ∀ other, other ≠ id →
    after.pendingInteractions[other]? = before.pendingInteractions[other]?
  session : after.session = before.session
  plan : after.plan = before.plan
  progress : after.progress = before.progress
  activeToolCalls : after.activeToolCalls = before.activeToolCalls

theorem apply_responded {aggregate : SessionAggregate} {event : AgentEvent}
    {response : InteractionResponse} {request : InteractionRequest}
    (hpayload : event.payload = .interactionResponded response)
    (hid : event.sessionId = aggregate.session.id)
    (hnext : event.sequence.get = aggregate.lastSequence.get + 1)
    (hrequest : aggregate.pendingInteractions[response.requestId]? = some request)
    (haccepted : request.validateResponse response = .ok ()) :
    (aggregate.apply event).2 = .ok .applied ∧
      RecordsResponse aggregate (aggregate.apply event).1 response.requestId := by
  have hcursor := SessionAggregate.validateCursor_of_next hid hnext
  have happlied : aggregate.applyPayload event =
      ({ aggregate with
        pendingInteractions := aggregate.pendingInteractions.erase response.requestId }, .ok ()) := by
    simp [SessionAggregate.applyPayload, hpayload, hrequest, haccepted]
  have hrun : (aggregate.apply event).2 = .ok .applied := by
    simp [SessionAggregate.apply, hcursor, happlied]
  obtain ⟨-, -, heq⟩ := SessionAggregate.apply_applied hrun
  rw [happlied] at heq
  refine ⟨hrun, ?_⟩
  rw [heq]
  constructor
  · show (aggregate.pendingInteractions.erase response.requestId)[response.requestId]? = none
    rw [OrderedMap.getElem?_erase, if_pos rfl]
  · intro other hother
    show (aggregate.pendingInteractions.erase response.requestId)[other]? = _
    rw [OrderedMap.getElem?_erase, if_neg (Ne.symm hother)]
  · rfl
  · rfl
  · rfl
  · rfl

/-- From a consistent bridge, a response that was handed over can be recorded as long
as its interaction stays pending. -/
theorem response_recorded (ports : Ports World) {bridge : Bridge (Recorded World)}
    (hcon : Consistent bridge) {channelId : ChannelId} {response : InteractionResponse}
    {owner : ProviderId} {answer : Except BoxAdapterError Unit}
    (hreached : (bridge.handleInteractionResponse (recording ports) channelId
        response).1.world.calls =
      bridge.world.calls ++ [(.acceptInteractionResponse owner response, answer)])
    {later : List BridgeOp}
    (hstays : StaysPending (recording ports) (bridge.handleInteractionResponse (recording ports)
      channelId response).1 later response.sessionId response.requestId)
    {event : AgentEvent} (hpayload : event.payload = .interactionResponded response)
    {aggregate : SessionAggregate} :
    let after := Trace.final (step (recording ports)) (bridge.handleInteractionResponse
      (recording ports) channelId response).1 later
    after.sessions[response.sessionId]? = some aggregate →
    event.sequence.get = aggregate.lastSequence.get + 1 →
    (∃ provider, after.providers[owner]? = some provider ∧
      validateProviderEvent provider aggregate.session event = .ok ()) ∧
    (aggregate.apply event).2 = .ok .applied ∧
    IsCommitted (after.handleProviderEvent (recording ports) owner event).2 ∧
    (after.handleProviderEvent (recording ports) owner event).1.sessions =
      after.sessions.insert response.sessionId (aggregate.apply event).1 ∧
    RecordsResponse aggregate (aggregate.apply event).1 response.requestId := by
  intro after hsession hnext
  obtain ⟨hover, hunmoved⟩ := handleInteractionResponse_handsOver ports hcon channelId response
  obtain ⟨channel, before, provider, request, hacts, -, hrequest, haccepted, -, hanswerable, -⟩ :=
    hover.allowed (fun a b h => (PortCall.acceptInteractionResponse.inj h).1) hreached
  -- Later bridges are consistent, keep the owner and still hold the same request.
  have hmiddle : Consistent (bridge.handleInteractionResponse (recording ports) channelId
      response).1 :=
    consistent_change hcon
      (step_change (recording ports) bridge (.handleInteractionResponse channelId response))
  have hafter : Consistent after :=
    Trace.final_invariant (step (recording ports)) Consistent
      (fun b op h => consistent_change h (step_change (recording ports) b op)) _ later hmiddle
  have hkeeps := final_keeps (recording ports)
    (bridge.handleInteractionResponse (recording ports) channelId response).1 later
  have hpresent : after.providers[owner]? = some provider := by
    apply hkeeps.providers
    rw [hunmoved.providers]
    exact hacts.present
  have hstored : (bridge.handleInteractionResponse (recording ports) channelId
      response).1.sessions[response.sessionId]? = some before := by
    rw [hunmoved.sessions]
    exact hacts.session
  obtain ⟨found, hfound, hpending⟩ := final_pending (recording ports) hstays
    ⟨before, hstored, hrequest⟩
  obtain ⟨kept, hkept, howner⟩ := hkeeps.owners _ _ hstored
  have hsame : found = aggregate := Option.some.inj (hfound.symm.trans hsession)
  have hsame' : kept = aggregate := Option.some.inj (hkept.symm.trans hsession)
  rw [hsame] at hpending
  rw [hsame'] at howner
  have heventId : event.sessionId = response.sessionId := by
    have hcorrelated := event.correlated
    rw [hpayload] at hcorrelated
    exact hcorrelated.symm
  obtain ⟨history, descriptor, howned⟩ := hafter.sessions _ _ hsession
  have hid : event.sessionId = aggregate.session.id := heventId.trans howned.id.symm
  have hvalid : validateProviderEvent provider aggregate.session event = .ok () := by
    apply validateProviderEvent_ok.mpr
    refine ⟨?_, hid.symm, ?_, ?_⟩
    · exact (hafter.providerIds _ _ hpresent).trans (hacts.owned.symm.trans howner.symm)
    · intro started hstarted
      rw [hpayload] at hstarted
      cases hstarted
    · rw [hpayload]
      have hkind := requiredProviderCapability_of_accepted
        (InteractionRequest.validateResponse_ok.mp haccepted).2.2.2.2
      show provider.capabilities.contains response.payload.requiredProviderCapability = true
      rw [hkind]
      exact hanswerable
  obtain ⟨happlied, hrecords⟩ := apply_responded hpayload hid hnext hpending haccepted
  rw [← heventId] at hsession
  obtain ⟨hcommitted, hsessions⟩ :=
    handleProviderEvent_accepts (recording ports) hafter hpresent hsession hvalid happlied
  rw [heventId] at hsessions
  exact ⟨⟨provider, hpresent, hvalid⟩, happlied, hcommitted, hsessions, hrecords⟩

/-- A response that reached its provider can be recorded by that provider at any
later moment, as long as the interaction has stayed pending: the event passes both
checks and removes exactly this interaction. -/
theorem run_response_recorded (ports : Ports World) (config : SessionAggregateConfig)
    (world : Recorded World) (ops : List BridgeOp) (channelId : ChannelId)
    (response : InteractionResponse) (owner : ProviderId) (answer : Except BoxAdapterError Unit)
    (hreached : ((run (recording ports) config world ops).handleInteractionResponse
        (recording ports) channelId response).1.world.calls =
      (run (recording ports) config world ops).world.calls ++
        [(.acceptInteractionResponse owner response, answer)])
    (later : List BridgeOp)
    (hstays : StaysPending (recording ports) ((run (recording ports) config world
      ops).handleInteractionResponse (recording ports) channelId response).1 later
        response.sessionId response.requestId)
    (event : AgentEvent) (hpayload : event.payload = .interactionResponded response)
    (aggregate : SessionAggregate) :
    let after := Trace.final (step (recording ports)) ((run (recording ports) config world
      ops).handleInteractionResponse (recording ports) channelId response).1 later
    after.sessions[response.sessionId]? = some aggregate →
    event.sequence.get = aggregate.lastSequence.get + 1 →
    (∃ provider, after.providers[owner]? = some provider ∧
      validateProviderEvent provider aggregate.session event = .ok ()) ∧
    (aggregate.apply event).2 = .ok .applied ∧
    IsCommitted (after.handleProviderEvent (recording ports) owner event).2 ∧
    (after.handleProviderEvent (recording ports) owner event).1.sessions =
      after.sessions.insert response.sessionId (aggregate.apply event).1 ∧
    RecordsResponse aggregate (aggregate.apply event).1 response.requestId := by
  exact response_recorded ports (run_consistent (recording ports) config world ops) hreached hstays
    hpayload

/-- A pending request was published by the owner, which declared its kind of request. -/
theorem pending_capability {self : Bridge World} (hcon : Consistent self) {sessionId : SessionId}
    {aggregate : SessionAggregate} (hsession : self.sessions[sessionId]? = some aggregate)
    {provider : ProviderDescriptor}
    (howner : self.providers[aggregate.session.providerId]? = some provider) {id : InteractionId}
    {request : InteractionRequest} (hpending : aggregate.pendingInteractions[id]? = some request)
    (channel : ChannelDescriptor) :
    provider.capabilities.contains request.payload.requiredProviderRequestCapability = true := by
  obtain ⟨history, found, howned⟩ := hcon.sessions _ _ hsession
  have hsame : found = provider := Option.some.inj (howned.owner.symm.trans howner)
  subst hsame
  obtain ⟨route, hroute⟩ := exists_route_of_pending hcon howned channel hpending
  exact (exists_interactionRoute.mp ⟨route, hroute⟩).2.2

theorem apply_closed {aggregate : SessionAggregate} {event : AgentEvent}
    {closed : InteractionClosed} {request : InteractionRequest}
    (hpayload : event.payload = .interactionClosed closed)
    (hid : event.sessionId = aggregate.session.id)
    (hnext : event.sequence.get = aggregate.lastSequence.get + 1)
    (hrequest : aggregate.pendingInteractions[closed.requestId]? = some request) :
    (aggregate.apply event).2 = .ok .applied := by
  have hcursor := SessionAggregate.validateCursor_of_next hid hnext
  simp [SessionAggregate.apply, hcursor, SessionAggregate.applyPayload, hpayload, hrequest]

/-- The close of a pending interaction is accepted from its owner exactly if the
request is an approval or the owner may also ask for approvals. -/
theorem run_close_accepted (ports : Ports World) (config : SessionAggregateConfig) (world : World)
    (ops : List BridgeOp) (closed : InteractionClosed) (aggregate : SessionAggregate)
    (request : InteractionRequest) (provider : ProviderDescriptor) (event : AgentEvent)
    (hsession : (run ports config world ops).sessions[closed.sessionId]? = some aggregate)
    (hpending : aggregate.pendingInteractions[closed.requestId]? = some request)
    (howner : (run ports config world ops).providers[aggregate.session.providerId]? =
      some provider)
    (hpayload : event.payload = .interactionClosed closed)
    (hnext : event.sequence.get = aggregate.lastSequence.get + 1) :
    IsCommitted ((run ports config world ops).handleProviderEvent ports
      aggregate.session.providerId event).2 ↔
    (∃ approval, request.payload = .approval approval) ∨
      provider.capabilities.contains ProviderCapabilities.approvalRequest = true := by
  have hcon : Consistent (run ports config world ops) := run_consistent ports config world ops
  have heventId : event.sessionId = closed.sessionId := by
    have hcorrelated := event.correlated
    rw [hpayload] at hcorrelated
    exact hcorrelated.symm
  obtain ⟨history, found, howned⟩ := hcon.sessions _ _ hsession
  have hid : event.sessionId = aggregate.session.id := heventId.trans howned.id.symm
  have hstored := hsession
  rw [← heventId] at hstored
  constructor
  · intro hcommitted
    obtain ⟨registered, hregistered, hvalid⟩ := committed_checks ports hstored hcommitted
    have hsame : registered = provider := Option.some.inj (hregistered.symm.trans howner)
    subst hsame
    obtain ⟨-, -, -, hcapability⟩ := validateProviderEvent_ok.mp hvalid
    rw [hpayload] at hcapability
    exact .inr hcapability
  · intro hallowed
    have hdeclared : provider.capabilities.contains ProviderCapabilities.approvalRequest = true := by
      rcases hallowed with ⟨approval, happroval⟩ | hdeclared
      · have hcapability := pending_capability hcon hsession howner hpending (Sample.channel 0)
        rw [happroval] at hcapability
        exact hcapability
      · exact hdeclared
    have hvalid : validateProviderEvent provider aggregate.session event = .ok () := by
      apply validateProviderEvent_ok.mpr
      refine ⟨hcon.providerIds _ _ howner, hid.symm, ?_, ?_⟩
      · intro started hstarted
        rw [hpayload] at hstarted
        cases hstarted
      · rw [hpayload]
        exact hdeclared
    exact (handleProviderEvent_accepts ports hcon howner hstored hvalid
      (apply_closed hpayload hid hnext hpending)).1

end Bridge

namespace Sample

def inputProvider (p : Nat) : ProviderDescriptor :=
  { provider p with
    capabilities := (ProviderCapabilities.sessionState.union
      ProviderCapabilities.userInputRequest).union ProviderCapabilities.userInputResponse }

def question (s : Nat) : InteractionRequest :=
  .new (Ident.numbered .interaction 0) (Ident.numbered .session s) instant text (.text ⟨none, false⟩)

def asked (s n : Nat) : AgentEvent :=
  ⟨Ident.numbered .event n, Ident.numbered .session s, sequence n, instant,
    .interactionRequested (question s), rfl⟩

def questionClosed (s : Nat) : InteractionClosed :=
  ⟨(question s).id, Ident.numbered .session s, .providerCancelled⟩

def closedEvent (s n : Nat) : AgentEvent :=
  ⟨Ident.numbered .event n, Ident.numbered .session s, sequence n, instant,
    .interactionClosed (questionClosed s), rfl⟩

def reply (s : Nat) : InteractionResponse :=
  ⟨(question s).id, Ident.numbered .session s, Ident.numbered .channel 0, instant, .text text⟩

def replied (s n : Nat) : AgentEvent :=
  ⟨Ident.numbered .event n, Ident.numbered .session s, sequence n, instant,
    .interactionResponded (reply s), rfl⟩

/-- A provider opens a session and asks a question that channel zero follows. -/
def askedRun (provider : ProviderDescriptor) : List BridgeOp :=
  [.registerProvider provider, .registerChannel (channel 0),
    .handleProviderEvent provider.id (started 0 0),
    .subscribe (channel 0).id (Ident.numbered .session 0),
    .handleProviderEvent provider.id (asked 0 1)]

end Sample

namespace Bridge

/-- What the sample run stores, read from its session. -/
theorem sample_session :
    ∃ aggregate,
      (run Sample.accepting .default () (Sample.askedRun (Sample.provider 0))).sessions[
        (Sample.questionClosed 0).sessionId]? = some aggregate ∧
      aggregate.session.providerId = (Sample.provider 0).id ∧ aggregate.lastSequence.get = 2 ∧
      aggregate.pendingInteractions[(Sample.question 0).id]? = some (Sample.question 0) := by
  have hsome : ((run Sample.accepting .default () (Sample.askedRun (Sample.provider 0))).sessions[
      (Sample.questionClosed 0).sessionId]?).isSome = true := by decide +kernel
  have hfacts : ((run Sample.accepting .default ()
      (Sample.askedRun (Sample.provider 0))).sessions[(Sample.questionClosed 0).sessionId]?).map
      (fun a => (a.session.providerId, a.lastSequence.get,
        a.pendingInteractions[(Sample.question 0).id]?)) =
      some ((Sample.provider 0).id, 2, some (Sample.question 0)) := by decide +kernel
  obtain ⟨aggregate, hsession⟩ := Option.isSome_iff_exists.mp hsome
  rw [hsession] at hfacts
  obtain ⟨howner, hrest⟩ := Prod.mk.inj (Option.some.inj hfacts)
  obtain ⟨hlast, hpending⟩ := Prod.mk.inj hrest
  exact ⟨aggregate, hsession, howner, hlast, hpending⟩

/-- A provider with every capability may close its question. -/
theorem close_accepted_sample :
    IsCommitted ((run Sample.accepting .default ()
      (Sample.askedRun (Sample.provider 0))).handleProviderEvent Sample.accepting
        (Sample.provider 0).id (Sample.closedEvent 0 2)).2 := by
  obtain ⟨aggregate, hsession, howner, hlast, hpending⟩ := sample_session
  rw [← howner]
  refine (run_close_accepted Sample.accepting .default () (Sample.askedRun (Sample.provider 0))
    (Sample.questionClosed 0) aggregate (Sample.question 0) (Sample.provider 0)
    (Sample.closedEvent 0 2) hsession hpending ?_ rfl ?_).mpr (.inr (by decide))
  · rw [howner]
    decide +kernel
  · rw [hlast]
    decide

/-- A provider that declares only user input may ask its question but not close it. -/
theorem close_rejected_for_input_provider :
    ((run Sample.accepting .default () ((Sample.askedRun (Sample.inputProvider 0)).take
      4)).handleProviderEvent Sample.accepting (Sample.inputProvider 0).id (Sample.asked 0 1)).2 =
      .ok ⟨.applied, [.delivered (Sample.channel 0).id]⟩ ∧
    (((run Sample.accepting .default ()
      (Sample.askedRun (Sample.inputProvider 0))).sessions[(Sample.questionClosed 0).sessionId]?).bind
        fun aggregate => aggregate.pendingInteractions[(Sample.question 0).id]?) =
      some (Sample.question 0) ∧
    ((run Sample.accepting .default () (Sample.askedRun (Sample.inputProvider
      0))).handleProviderEvent Sample.accepting (Sample.inputProvider 0).id
        (Sample.closedEvent 0 2)).2 =
      .error (.capabilityRoute (.missingProviderCapabilities ProviderCapabilities.approvalRequest
        (Sample.inputProvider 0).capabilities)) := by
  refine ⟨?_, ?_, ?_⟩
  · decide +kernel
  · decide +kernel
  · decide +kernel

/-- The question is answered and a message passes by before the answer is recorded. -/
theorem response_recorded_sample :
    let ops := Sample.askedRun (Sample.provider 0)
    let ports := recording Sample.accepting
    let bridge := run ports .default ⟨(), []⟩ ops
    let after := Trace.final (step ports) (bridge.handleInteractionResponse ports
      (Sample.channel 0).id (Sample.reply 0)).1
        [.handleProviderEvent (Sample.provider 0).id (Sample.message 0 2)]
    IsCommitted (after.handleProviderEvent ports (Sample.provider 0).id (Sample.replied 0 3)).2 := by
  intro ops ports bridge after
  have hsome : (after.sessions[(Sample.reply 0).sessionId]?).isSome = true := by decide +kernel
  have hlast : (after.sessions[(Sample.reply 0).sessionId]?).map
      (fun a => a.lastSequence.get) = some 3 := by decide +kernel
  obtain ⟨aggregate, hsession⟩ := Option.isSome_iff_exists.mp hsome
  rw [hsession] at hlast
  have hcursor : aggregate.lastSequence.get = 3 := Option.some.inj hlast
  have hstays : StaysPending ports (bridge.handleInteractionResponse ports (Sample.channel 0).id
      (Sample.reply 0)).1 [.handleProviderEvent (Sample.provider 0).id (Sample.message 0 2)]
      (Sample.reply 0).sessionId (Sample.reply 0).requestId := by
    have hbefore : ((Trace.final (step ports) (bridge.handleInteractionResponse ports
        (Sample.channel 0).id (Sample.reply 0)).1 []).sessions[(Sample.reply 0).sessionId]?.bind
          fun a => a.pendingInteractions[(Sample.reply 0).requestId]?) =
        some (Sample.question 0) := by decide +kernel
    have hafter : (after.sessions[(Sample.reply 0).sessionId]?.bind
          fun a => a.pendingInteractions[(Sample.reply 0).requestId]?) =
        some (Sample.question 0) := by decide +kernel
    intro taken htaken
    rcases List.prefix_cons_iff.mp htaken with rfl | ⟨rest, rfl, hrest⟩
    · obtain ⟨a, hfound, hpending⟩ := Option.bind_eq_some_iff.mp hbefore
      exact ⟨_, a, hfound, hpending⟩
    · rw [List.prefix_nil.mp hrest]
      obtain ⟨a, hfound, hpending⟩ := Option.bind_eq_some_iff.mp hafter
      exact ⟨_, a, hfound, hpending⟩
  exact (run_response_recorded Sample.accepting .default ⟨(), []⟩ ops (Sample.channel 0).id
    (Sample.reply 0) (Sample.provider 0).id (.ok ()) (by decide +kernel)
    [.handleProviderEvent (Sample.provider 0).id (Sample.message 0 2)] hstays (Sample.replied 0 3)
    rfl aggregate hsession (by rw [hcursor]; decide)).2.2.1

end Bridge

end AgentPulse

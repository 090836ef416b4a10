import AgentPulse.CoreEvent
import AgentPulse.Fallible

/-!
# Centralized capability routing

The stateless policy that decides which message may travel between a provider
and a channel. Each check reports the first condition that fails; the lemmas
say when all of them pass.
-/
namespace AgentPulse

open Fallible (bind_eq_ok)

/-- A read-only route may show a request but not accept its response. -/
inductive InteractionRoute where
  | readOnly | interactive
  deriving DecidableEq, Repr

inductive ChannelEventRoute where
  | observeOnly
  | interaction (route : InteractionRoute)
  deriving DecidableEq, Repr

inductive CapabilityRouteError where
  | providerMismatch (expected actual : ProviderId)
  | channelMismatch (expected actual : ChannelId)
  | sessionMismatch (expected actual : SessionId)
  | missingProviderCapabilities (required declared : ProviderCapabilities)
  | missingChannelCapabilities (required declared : ChannelCapabilities)
  | invalidInteractionResponse (source : DomainError)
  deriving DecidableEq, Repr

namespace CapabilityRouter

def validateProviderSession (provider : ProviderDescriptor) (session : AgentSession) :
    Except CapabilityRouteError Unit :=
  if provider.id ≠ session.providerId then
    .error (.providerMismatch provider.id session.providerId)
  else .ok ()

def validateSessionId (expected actual : SessionId) : Except CapabilityRouteError Unit :=
  if expected ≠ actual then .error (.sessionMismatch expected actual) else .ok ()

def validateChannelId (expected actual : ChannelId) : Except CapabilityRouteError Unit :=
  if expected ≠ actual then .error (.channelMismatch expected actual) else .ok ()

def validateProviderCapabilities (provider : ProviderDescriptor)
    (required : ProviderCapabilities) : Except CapabilityRouteError Unit :=
  if !provider.capabilities.contains required then
    .error (.missingProviderCapabilities required provider.capabilities)
  else .ok ()

def validateChannelCapabilities (channel : ChannelDescriptor) (required : ChannelCapabilities) :
    Except CapabilityRouteError Unit :=
  if !channel.capabilities.contains required then
    .error (.missingChannelCapabilities required channel.capabilities)
  else .ok ()

/-- A started session must itself name the publishing provider. -/
def validateStartedSession (provider : ProviderDescriptor) (event : AgentEvent) :
    Except CapabilityRouteError Unit :=
  match event.payload with
  | .sessionStarted eventSession => validateProviderSession provider eventSession
  | _ => .ok ()

/-- The checks in their order: the owner, the session, what was declared. -/
def validateProviderEvent (provider : ProviderDescriptor) (session : AgentSession)
    (event : AgentEvent) : Except CapabilityRouteError Unit := do
  validateProviderSession provider session
  validateSessionId session.id event.sessionId
  validateStartedSession provider event
  validateProviderCapabilities provider event.payload.requiredProviderCapability

/-- Interactive only if the request can be answered and both sides take part in that. -/
def interactionRoute (provider : ProviderDescriptor) (channel : ChannelDescriptor)
    (session : AgentSession) (request : InteractionRequest) :
    Except CapabilityRouteError InteractionRoute := do
  validateProviderSession provider session
  validateSessionId session.id request.sessionId
  validateProviderCapabilities provider request.payload.requiredProviderRequestCapability
  let providerAcceptsResponse :=
    provider.capabilities.contains request.payload.requiredProviderResponseCapability
  let channelCollectsResponse :=
    channel.capabilities.contains request.payload.requiredChannelResponseCapability
  if request.payload.isActionable && providerAcceptsResponse && channelCollectsResponse then
    .ok .interactive
  else .ok .readOnly

def channelEventRoute (provider : ProviderDescriptor) (channel : ChannelDescriptor)
    (session : AgentSession) (event : AgentEvent) :
    Except CapabilityRouteError ChannelEventRoute := do
  validateProviderEvent provider session event
  match event.payload with
  | .interactionRequested request =>
    (interactionRoute provider channel session request).map .interaction
  | _ => .ok .observeOnly

def validateInteractionResponse (provider : ProviderDescriptor) (channel : ChannelDescriptor)
    (session : AgentSession) (request : InteractionRequest) (response : InteractionResponse) :
    Except CapabilityRouteError Unit := do
  validateProviderSession provider session
  validateSessionId session.id request.sessionId
  validateSessionId session.id response.sessionId
  validateChannelId channel.id response.channelId
  (request.validateResponse response).mapError .invalidInteractionResponse
  validateProviderCapabilities provider request.payload.requiredProviderRequestCapability
  validateProviderCapabilities provider request.payload.requiredProviderResponseCapability
  validateChannelCapabilities channel request.payload.requiredChannelResponseCapability

def validateCommand (provider : ProviderDescriptor) (channel : ChannelDescriptor)
    (session : AgentSession) (command : AgentCommand) : Except CapabilityRouteError Unit := do
  validateProviderSession provider session
  validateSessionId session.id command.sessionId
  validateChannelId channel.id command.channelId
  validateProviderCapabilities provider command.payload.requiredProviderCapability
  validateChannelCapabilities channel command.payload.requiredChannelCapabilities

@[simp] theorem validateProviderSession_ok {provider : ProviderDescriptor}
    {session : AgentSession} {u : Unit} :
    validateProviderSession provider session = .ok u ↔ provider.id = session.providerId := by
  unfold validateProviderSession
  by_cases h : provider.id = session.providerId <;> simp [h]

@[simp] theorem validateSessionId_ok {expected actual : SessionId} {u : Unit} :
    validateSessionId expected actual = .ok u ↔ expected = actual := by
  unfold validateSessionId
  by_cases h : expected = actual <;> simp [h]

@[simp] theorem validateProviderCapabilities_ok {provider : ProviderDescriptor}
    {required : ProviderCapabilities} {u : Unit} :
    validateProviderCapabilities provider required = .ok u ↔
      provider.capabilities.contains required = true := by
  unfold validateProviderCapabilities
  by_cases h : provider.capabilities.contains required = true <;> simp [h]

@[simp] theorem validateStartedSession_ok {provider : ProviderDescriptor} {event : AgentEvent}
    {u : Unit} :
    validateStartedSession provider event = .ok u ↔
      ∀ session, event.payload = .sessionStarted session → provider.id = session.providerId := by
  unfold validateStartedSession
  cases hp : event.payload <;> simp

/-- The event belongs to the provider's own session and the provider declared
the capability to publish it. -/
theorem validateProviderEvent_ok {provider : ProviderDescriptor} {session : AgentSession}
    {event : AgentEvent} :
    validateProviderEvent provider session event = .ok () ↔
      provider.id = session.providerId ∧ session.id = event.sessionId ∧
      (∀ started, event.payload = .sessionStarted started → provider.id = started.providerId) ∧
      provider.capabilities.contains event.payload.requiredProviderCapability = true := by
  unfold validateProviderEvent
  simp [bind_eq_ok]

theorem exists_interactionRoute {provider : ProviderDescriptor} {channel : ChannelDescriptor}
    {session : AgentSession} {request : InteractionRequest} :
    (∃ route, interactionRoute provider channel session request = .ok route) ↔
      provider.id = session.providerId ∧ session.id = request.sessionId ∧
      provider.capabilities.contains request.payload.requiredProviderRequestCapability = true := by
  unfold interactionRoute
  simp only [bind_eq_ok, validateProviderSession_ok, validateSessionId_ok,
    validateProviderCapabilities_ok]
  constructor
  · rintro ⟨route, -, hp, -, hs, -, hc, -⟩
    exact ⟨hp, hs, hc⟩
  · rintro ⟨hp, hs, hc⟩
    by_cases ha : (request.payload.isActionable &&
        provider.capabilities.contains request.payload.requiredProviderResponseCapability &&
        channel.capabilities.contains request.payload.requiredChannelResponseCapability) = true
    · exact ⟨.interactive, (), hp, (), hs, (), hc, if_pos ha⟩
    · exact ⟨.readOnly, (), hp, (), hs, (), hc, if_neg ha⟩

/-- The channel decides the route mode of an event but never whether it has one. -/
theorem exists_channelEventRoute {provider : ProviderDescriptor} {channel : ChannelDescriptor}
    {session : AgentSession} {event : AgentEvent} :
    (∃ route, channelEventRoute provider channel session event = .ok route) ↔
      validateProviderEvent provider session event = .ok () := by
  unfold channelEventRoute
  simp only [bind_eq_ok]
  constructor
  · rintro ⟨route, u, hv, -⟩
    exact hv
  · intro hv
    have hok := validateProviderEvent_ok.mp hv
    cases hp : event.payload with
    | interactionRequested request =>
      have hsid := event.request_sessionId_eq hp
      have hroute : ∃ route, interactionRoute provider channel session request = .ok route := by
        refine exists_interactionRoute.mpr ⟨hok.1, hok.2.1.trans hsid.symm, ?_⟩
        simpa [hp, AgentEventPayload.requiredProviderCapability] using hok.2.2.2
      obtain ⟨route, hroute⟩ := hroute
      exact ⟨.interaction route, (), hv, by simp [hroute, Except.map]⟩
    | _ => exact ⟨.observeOnly, (), hv, rfl⟩

end CapabilityRouter

end AgentPulse

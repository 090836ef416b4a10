import AgentPulse.Bridge
import AgentPulse.ProtocolDto

/-!
# Native transport messages

The control and domain-delivery messages of the native channel with the checks
that the codec makes on both directions. An encoded frame is represented by the
message it encodes. The nested domain encoder, the texts of the uuid crate and
the texts of the bridge errors are parameters, collected in `NativeCodec`.
-/
namespace AgentPulse

open Std (ExtTreeMap ExtTreeSet)

def protocolMessageType : ProtocolMessage → String
  | .providerDescriptor _ => "provider_descriptor"
  | .channelDescriptor _ => "channel_descriptor"
  | .agentSession _ => "agent_session"
  | .agentEvent _ => "agent_event"
  | .interactionRequest _ => "interaction_request"
  | .interactionResponse _ => "interaction_response"
  | .agentCommand _ => "agent_command"

inductive NativeClientMessage where
  | hello (clientId displayName : String) (version : Option String)
      (supportedProtocolVersions : List Nat) (hostRunId : Option String)
      (sessionCursors : ExtTreeMap SessionId Nat)
  | discover (requestId : String)
  | subscribe (requestId : String) (sessionId : SessionId)
  | unsubscribe (requestId : String) (sessionId : SessionId)
  | submitInteractionResponse (requestId : String) (response : InteractionResponse)
  | submitCommand (requestId : String) (command : AgentCommand)

inductive NativeEventRoute where
  | observeOnly | interactionReadOnly | interactionInteractive
  deriving DecidableEq, Repr

def NativeEventRoute.fromCore : ChannelEventRoute → NativeEventRoute
  | .observeOnly => .observeOnly
  | .interaction .readOnly => .interactionReadOnly
  | .interaction .interactive => .interactionInteractive

inductive NativeDeliveryContext where
  | discoveryProvider (requestId : String)
  | discoverySession (requestId : String) (lastSequence : EventSequence)
  | subscriptionSession (requestId : String)
  | subscriptionInteraction (requestId : String) (route : NativeEventRoute)
  | liveEvent (route : NativeEventRoute)
  | liveSession
  deriving DecidableEq, Repr

inductive NativeSubscriptionStatus where
  | catchingUp | subscribed | alreadySubscribed
  deriving DecidableEq, Repr

inductive NativeUnsubscriptionStatus where
  | unsubscribed | notSubscribed
  deriving DecidableEq, Repr

inductive NativeErrorCode where
  | connectionBusy | invalidHandshake | invalidRequest | sessionNotDiscovered | sessionNotFound
  | internal | capabilityUnavailable | interactionNotPending | sessionNotSubscribed
  | providerRejected
  deriving DecidableEq, Repr

inductive NativeServerMessage where
  | hello (connectionId : String) (channel : ChannelDescriptor)
      (protocolVersion maxFrameBytes pingIntervalSeconds idleTimeoutSeconds : Nat)
      (hostRunId : String) (resumeAccepted : Bool)
  | syncStarted (requestId : String) (providerCount sessionCount : Nat)
  | domain (context : NativeDeliveryContext) (message : ProtocolMessage)
  | syncCompleted (requestId : String)
  | subscriptionResult (requestId : String) (sessionId : SessionId)
      (status : NativeSubscriptionStatus) (baselineSequence : EventSequence)
      (pendingInteractionCount eventCount : Nat) (reset : Bool)
  | unsubscriptionResult (requestId : String) (sessionId : SessionId)
      (status : NativeUnsubscriptionStatus)
  | interactionResponseResult (requestId : String) (sessionId : SessionId)
      (interactionId : String)
  | commandResult (requestId : String) (sessionId : SessionId) (commandId : String)
  | error (requestId : Option String) (code : NativeErrorCode) (message : String)
      (recoverable : Bool)
  deriving DecidableEq, Repr

/-- A queued text frame, by the message it encodes. -/
abbrev Frame := NativeServerMessage

inductive NativeProtocolError where
  | invalidField (field reason : String)
  | domainProtocol (source : String)
  | invalidDomainContext (context actual : String)
  deriving DecidableEq, Repr

def NativeProtocolError.toString : NativeProtocolError → String
  | .invalidField field reason => s!"invalid Native Transport field {field}: {reason}"
  | .domainProtocol source => s!"invalid nested AgentPulse domain message: {source}"
  | .invalidDomainContext context actual =>
    s!"domain message {actual} is invalid for Native delivery context {context}"

/-- The foreign parts of encoding: whether the domain encoder accepts a message,
and the display texts of errors raised elsewhere. -/
structure NativeCodec where
  encodeJson : ProtocolMessage → Except String Unit
  uuidError : String → String
  subscriptionError : SubscriptionError → String
  channelActionError : ChannelActionError → String

def invalid (field reason : String) : Except NativeProtocolError Unit :=
  .error (.invalidField field reason)

def validateNonblank (field value : String) : Except NativeProtocolError Unit :=
  if isBlank value then invalid field "must not be blank" else .ok ()

/-- The capability set that a native channel declares, no more and no less. -/
def nativeCapabilities : ChannelCapabilities :=
  ChannelCapabilities.notification.union <| ChannelCapabilities.sessionView.union <|
    ChannelCapabilities.realtimeSync.union <| ChannelCapabilities.approval.union <|
    ChannelCapabilities.formInput.union <| ChannelCapabilities.textInput.union
    ChannelCapabilities.remoteCommand

section Codec

variable (codec : NativeCodec)

def validateUuidV7 (field value : String) : Except NativeProtocolError Unit :=
  match Uuid.parseStr value with
  | none => .error (.invalidField field (codec.uuidError value))
  | some parsed =>
    if parsed.getVersionNum ≠ 7 ∨ parsed.toString ≠ value then
      invalid field "expected a canonical lowercase UUIDv7 string"
    else .ok ()

def validateClientMessage : NativeClientMessage → Except NativeProtocolError Unit
  | .hello clientId displayName version supportedProtocolVersions hostRunId sessionCursors => do
    validateUuidV7 codec "client_id" clientId
    validateNonblank "display_name" displayName
    match version with
    | some version => validateNonblank "version" version
    | none => .ok ()
    match hostRunId with
    | some hostRunId => validateUuidV7 codec "host_run_id" hostRunId
    | none => .ok ()
    if hostRunId.isNone && !sessionCursors.isEmpty then
      invalid "session_cursors" "stored Session cursors require host_run_id"
    else if (OrderedMap.values sessionCursors).any (· == 0) then
      invalid "session_cursors" "stored Session cursors must be positive"
    else if supportedProtocolVersions.isEmpty then
      invalid "supported_protocol_versions" "must not be empty"
    else if supportedProtocolVersions.dedup.length ≠ supportedProtocolVersions.length then
      invalid "supported_protocol_versions" "must not contain duplicates"
    else .ok ()
  | .discover requestId => validateUuidV7 codec "request_id" requestId
  | .subscribe requestId _ => validateUuidV7 codec "request_id" requestId
  | .unsubscribe requestId _ => validateUuidV7 codec "request_id" requestId
  | .submitInteractionResponse requestId _ => validateUuidV7 codec "request_id" requestId
  | .submitCommand requestId _ => validateUuidV7 codec "request_id" requestId

/-- The name of a context, and whether it may carry the message. -/
def contextAdmits (message : ProtocolMessage) : NativeDeliveryContext → String × Bool
  | .discoveryProvider _ =>
    ("discovery_provider", match message with | .providerDescriptor _ => true | _ => false)
  | .discoverySession _ _ =>
    ("discovery_session", match message with | .agentSession _ => true | _ => false)
  | .subscriptionSession _ =>
    ("subscription_session", match message with | .agentSession _ => true | _ => false)
  | .subscriptionInteraction _ _ =>
    ("subscription_interaction", match message with | .interactionRequest _ => true | _ => false)
  | .liveEvent _ => ("live_event", match message with | .agentEvent _ => true | _ => false)
  | .liveSession => ("live_session", match message with | .agentSession _ => true | _ => false)

def NativeDeliveryContext.requestId? : NativeDeliveryContext → Option String
  | .discoveryProvider requestId => some requestId
  | .discoverySession requestId _ => some requestId
  | .subscriptionSession requestId => some requestId
  | .subscriptionInteraction requestId _ => some requestId
  | .liveEvent _ => none
  | .liveSession => none

def validateDeliveryContext (context : NativeDeliveryContext) (message : ProtocolMessage) :
    Except NativeProtocolError Unit := do
  match context.requestId? with
  | some requestId => validateUuidV7 codec "request_id" requestId
  | none => .ok ()
  let (contextName, valid) := contextAdmits message context
  if valid then .ok ()
  else .error (.invalidDomainContext contextName (protocolMessageType message))

def validateServerMessage : NativeServerMessage → Except NativeProtocolError Unit
  | .hello connectionId channel protocolVersion maxFrameBytes pingIntervalSeconds
      idleTimeoutSeconds hostRunId _ => do
    validateUuidV7 codec "connection_id" connectionId
    validateUuidV7 codec "host_run_id" hostRunId
    if channel.kind.asStr ≠ "native" then
      invalid "channel.kind" "server must identify a native Channel"
    else if channel.capabilities ≠ nativeCapabilities then
      invalid "channel.capabilities"
        "Native v3 requires its complete interactive command capability set"
    else if protocolVersion ≠ v2ProtocolVersion then
      invalid "protocol_version" "server must select AgentPulse JSON v2"
    else if maxFrameBytes = 0 ∨ pingIntervalSeconds = 0 ∨ idleTimeoutSeconds = 0 then
      invalid "server_hello limits" "all limits must be greater than zero"
    else .ok ()
  | .syncStarted requestId _ _ => validateUuidV7 codec "request_id" requestId
  | .syncCompleted requestId => validateUuidV7 codec "request_id" requestId
  | .subscriptionResult requestId _ _ _ _ _ _ => validateUuidV7 codec "request_id" requestId
  | .unsubscriptionResult requestId _ _ => validateUuidV7 codec "request_id" requestId
  | .interactionResponseResult requestId _ interactionId => do
    validateUuidV7 codec "request_id" requestId
    validateUuidV7 codec "interaction_id" interactionId
  | .commandResult requestId _ commandId => do
    validateUuidV7 codec "request_id" requestId
    validateUuidV7 codec "command_id" commandId
  | .domain context message => validateDeliveryContext codec context message
  | .error requestId _ message _ => do
    match requestId with
    | some requestId => validateUuidV7 codec "request_id" requestId
    | none => .ok ()
    validateNonblank "error.message" message

def encodeDomainValue (message : ProtocolMessage) : Except NativeProtocolError Unit :=
  (codec.encodeJson message).mapError .domainProtocol

/-- The nested domain envelope of a server message, where it has one. -/
def encodeNested : NativeServerMessage → Except NativeProtocolError Unit
  | .hello _ channel _ _ _ _ _ _ => encodeDomainValue codec (.channelDescriptor channel)
  | .domain _ message => encodeDomainValue codec message
  | _ => .ok ()

/-- Validates and encodes; of the encoding only its success remains visible. -/
def encodeServerMessage (message : NativeServerMessage) : Except NativeProtocolError Frame := do
  validateServerMessage codec message
  encodeNested codec message
  .ok message

/-- The domain encoder accepts the message. -/
def NativeCodec.encodes (message : ProtocolMessage) : Bool := (codec.encodeJson message).isOk

theorem encodeServerMessage_eq {message frame : NativeServerMessage}
    (h : encodeServerMessage codec message = .ok frame) : frame = message := by
  unfold encodeServerMessage at h
  rw [Fallible.bind_eq_ok] at h
  obtain ⟨-, -, h⟩ := h
  rw [Fallible.bind_eq_ok] at h
  obtain ⟨-, -, h⟩ := h
  exact (Except.ok.inj h).symm

theorem encodeDomainValue_isOk (message : ProtocolMessage) :
    encodeDomainValue codec message = .ok () ↔ codec.encodes message = true := by
  unfold encodeDomainValue NativeCodec.encodes
  cases codec.encodeJson message with
  | error e => simp [Except.mapError, Except.isOk, Except.toBool]
  | ok u => simp [Except.mapError, Except.isOk, Except.toBool]

/-- A domain message in a context that admits it is encoded exactly when the
domain encoder accepts it. -/
theorem encodeServerMessage_domain {context : NativeDeliveryContext} {message : ProtocolMessage}
    (hcontext : validateDeliveryContext codec context message = .ok ()) :
    (codec.encodes message = true ∧
      encodeServerMessage codec (.domain context message) = .ok (.domain context message)) ∨
    (codec.encodes message = false ∧
      ∃ e, encodeServerMessage codec (.domain context message) = .error e) := by
  unfold encodeServerMessage
  cases hencode : encodeDomainValue codec message with
  | ok u =>
    have hyes := (encodeDomainValue_isOk codec message).mp hencode
    exact .inl ⟨hyes, by
      simp [validateServerMessage, encodeNested, hcontext, hencode, bind, Except.bind]⟩
  | error e =>
    have hno : codec.encodes message = false := by
      rw [← Bool.not_eq_true, ← encodeDomainValue_isOk codec, hencode]
      simp
    exact .inr ⟨hno, e, by
      simp [validateServerMessage, encodeNested, hcontext, hencode, bind, Except.bind]⟩

end Codec

end AgentPulse

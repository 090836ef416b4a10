import AgentPulse.CoreDisplay
import AgentPulse.NativeProtocol
import AgentPulse.ProtocolWellFormed

/-!
# The wire shapes of Native Transport

The JSON records of the native channel and the four entry points of its codec. A
nested domain message travels as a JSON value `V` and goes through the domain
codec in both directions. Serde enters as a parameter, as it does for the domain
codec.
-/
namespace AgentPulse

open Std (ExtTreeMap)
open Fallible (bind_eq_ok)

def nativeTransportVersion : Nat := 3

structure NativeEnvelope (T : Type) where
  nativeTransportVersion : Nat
  message : T

structure SessionCursorDto where
  sessionId : String
  lastSequence : String
  deriving DecidableEq, Repr

/-- The frames of a client as records; a session or event is a value of its own codec. -/
inductive ClientMessageDto (V : Type) where
  | clientHello (clientId displayName : String) (version : Option String)
      (supportedProtocolVersions : List Nat) (hostRunId : Option String)
      (sessionCursors : List SessionCursorDto)
  | discoverSessions (requestId : String)
  | subscribeSession (requestId sessionId : String)
  | unsubscribeSession (requestId sessionId : String)
  | submitInteractionResponse (requestId : String) (response : V)
  | submitCommand (requestId : String) (command : V)

inductive EventRouteDto where
  | observeOnly | interactionReadOnly | interactionInteractive
  deriving DecidableEq, Repr

inductive DeliveryContextDto where
  | discoveryProvider (requestId : String)
  | discoverySession (requestId lastSequence : String)
  | subscriptionSession (requestId : String)
  | subscriptionInteraction (requestId : String) (route : EventRouteDto)
  | liveEvent (route : EventRouteDto)
  | liveSession
  deriving DecidableEq, Repr

inductive SubscriptionStatusDto where
  | catchingUp | subscribed | alreadySubscribed
  deriving DecidableEq, Repr

inductive UnsubscriptionStatusDto where
  | unsubscribed | notSubscribed
  deriving DecidableEq, Repr

inductive ErrorCodeDto where
  | connectionBusy | invalidHandshake | invalidRequest | sessionNotDiscovered | sessionNotFound
  | internal | capabilityUnavailable | interactionNotPending | sessionNotSubscribed
  | providerRejected
  deriving DecidableEq, Repr

/-- The frames of the server as records. -/
inductive ServerMessageDto (V : Type) where
  | serverHello (connectionId : String) (channel : V)
      (protocolVersion maxFrameBytes pingIntervalSeconds idleTimeoutSeconds : Nat)
      (hostRunId : String) (resumeAccepted : Bool)
  | syncStarted (requestId : String) (providerCount sessionCount : Nat)
  | domainMessage (context : DeliveryContextDto) (domain : V)
  | syncCompleted (requestId : String)
  | subscriptionResult (requestId sessionId : String) (status : SubscriptionStatusDto)
      (baselineSequence : String) (pendingInteractionCount eventCount : Nat) (reset : Bool)
  | unsubscriptionResult (requestId sessionId : String) (status : UnsubscriptionStatusDto)
  | interactionResponseResult (requestId sessionId interactionId : String)
  | commandResult (requestId sessionId commandId : String)
  | error (requestId : Option String) (code : ErrorCodeDto) (message : String) (recoverable : Bool)

/-- The failures of the codec: those of the validators, the ones that only the
wire can raise, and a panic inside the domain decoder. -/
inductive NativeWireError where
  | protocol (error : NativeProtocolError)
  | json (source : String)
  | unsupportedVersion (received supported : Nat)
  | domainProtocol (source : ProtocolError)
  | panicked
  deriving DecidableEq, Repr

def EventRouteDto.ofNative : NativeEventRoute → EventRouteDto
  | .observeOnly => .observeOnly
  | .interactionReadOnly => .interactionReadOnly
  | .interactionInteractive => .interactionInteractive

def EventRouteDto.toNative : EventRouteDto → NativeEventRoute
  | .observeOnly => .observeOnly
  | .interactionReadOnly => .interactionReadOnly
  | .interactionInteractive => .interactionInteractive

def SubscriptionStatusDto.ofNative : NativeSubscriptionStatus → SubscriptionStatusDto
  | .catchingUp => .catchingUp
  | .subscribed => .subscribed
  | .alreadySubscribed => .alreadySubscribed

def SubscriptionStatusDto.toNative : SubscriptionStatusDto → NativeSubscriptionStatus
  | .catchingUp => .catchingUp
  | .subscribed => .subscribed
  | .alreadySubscribed => .alreadySubscribed

def UnsubscriptionStatusDto.ofNative : NativeUnsubscriptionStatus → UnsubscriptionStatusDto
  | .unsubscribed => .unsubscribed
  | .notSubscribed => .notSubscribed

def UnsubscriptionStatusDto.toNative : UnsubscriptionStatusDto → NativeUnsubscriptionStatus
  | .unsubscribed => .unsubscribed
  | .notSubscribed => .notSubscribed

def ErrorCodeDto.ofNative : NativeErrorCode → ErrorCodeDto
  | .connectionBusy => .connectionBusy
  | .invalidHandshake => .invalidHandshake
  | .invalidRequest => .invalidRequest
  | .sessionNotDiscovered => .sessionNotDiscovered
  | .sessionNotFound => .sessionNotFound
  | .internal => .internal
  | .capabilityUnavailable => .capabilityUnavailable
  | .interactionNotPending => .interactionNotPending
  | .sessionNotSubscribed => .sessionNotSubscribed
  | .providerRejected => .providerRejected

def ErrorCodeDto.toNative : ErrorCodeDto → NativeErrorCode
  | .connectionBusy => .connectionBusy
  | .invalidHandshake => .invalidHandshake
  | .invalidRequest => .invalidRequest
  | .sessionNotDiscovered => .sessionNotDiscovered
  | .sessionNotFound => .sessionNotFound
  | .internal => .internal
  | .capabilityUnavailable => .capabilityUnavailable
  | .interactionNotPending => .interactionNotPending
  | .sessionNotSubscribed => .sessionNotSubscribed
  | .providerRejected => .providerRejected

@[simp] theorem EventRouteDto.toNative_ofNative (route : NativeEventRoute) :
    (EventRouteDto.ofNative route).toNative = route := by
  cases route <;> rfl

@[simp] theorem SubscriptionStatusDto.toNative_ofNative (status : NativeSubscriptionStatus) :
    (SubscriptionStatusDto.ofNative status).toNative = status := by
  cases status <;> rfl

@[simp] theorem UnsubscriptionStatusDto.toNative_ofNative (status : NativeUnsubscriptionStatus) :
    (UnsubscriptionStatusDto.ofNative status).toNative = status := by
  cases status <;> rfl

@[simp] theorem ErrorCodeDto.toNative_ofNative (code : NativeErrorCode) :
    (ErrorCodeDto.ofNative code).toNative = code := by
  cases code <;> rfl

/-- `str::parse::<u64>`: an optional plus sign and digits, leading zeros included. -/
def parseU64 (text : String) : Option Nat :=
  let digits := match text.toList with
    | '+' :: rest => rest
    | digits => digits
  if digits.isEmpty || !digits.all Char.isDigit then none
  else
    let value := Nat.ofDigitChars 10 digits 0
    if value < 2 ^ 64 then some value else none

def wireInvalid {α : Type} (field reason : String) : Except NativeWireError α :=
  .error (.protocol (.invalidField field reason))

def parseSessionId (value : String) : Except NativeWireError SessionId :=
  (Ident.fromStr .session value).mapError fun error =>
    .protocol (.invalidField "session_id" error.display)

/-- The cursors read so far, and the rest of the list. -/
def parseSessionCursors :
    ExtTreeMap SessionId Nat → List SessionCursorDto →
      Except NativeWireError (ExtTreeMap SessionId Nat)
  | parsed, [] => .ok parsed
  | parsed, cursor :: cursors => do
    let sessionId ← parseSessionId cursor.sessionId
    match parseU64 cursor.lastSequence with
    | none => wireInvalid "last_sequence" "expected a canonical positive decimal u64"
    | some lastSequence =>
      if lastSequence = 0 ∨ cursor.lastSequence ≠ lastSequence.repr then
        wireInvalid "last_sequence" "expected a canonical positive decimal u64"
      else if parsed[sessionId]?.isSome then
        wireInvalid "session_cursors" "must not contain duplicate Session IDs"
      else parseSessionCursors (parsed.insert sessionId lastSequence) cursors

/-- A digit string without sign or leading zero, of a counter that is not zero. -/
def parseSequence (value : String) : Except NativeWireError EventSequence :=
  let digits := value.toList
  if digits.isEmpty || !digits.all Char.isDigit ||
      (decide (digits.length > 1) && digits.head? == some '0') then
    wireInvalid "event sequence" "expected a canonical unsigned decimal string"
  else
    if h : Nat.ofDigitChars 10 digits 0 < 2 ^ 64 then
      (PositiveCounter.new .eventSequence _ h).mapError fun error =>
        .protocol (.invalidField "event sequence" error.display)
    else wireInvalid "event sequence" "number too large to fit in target type"

/-- The derived readers and writers of the native records over JSON values `V`. -/
structure NativeSerde (V : Type) where
  toVecValue : V → Except String (List UInt8)
  toVecClient : NativeEnvelope (ClientMessageDto V) → Except String (List UInt8)
  toVecServer : NativeEnvelope (ServerMessageDto V) → Except String (List UInt8)
  fromValueClient : V → Except String (NativeEnvelope (ClientMessageDto V))
  fromValueServer : V → Except String (NativeEnvelope (ServerMessageDto V))

namespace NativeWire

variable (codec : NativeCodec) (serde : SerdeJson) (time : Rfc3339) (native : NativeSerde serde.Value)

/-- A nested message goes through the text of its own codec. -/
def encodeDomainValue (message : ProtocolMessage) : Except NativeWireError serde.Value := do
  let bytes ← (encodeJson serde time message).mapError .domainProtocol
  (serde.fromSlice bytes).mapError .json

def decodeDomainValue (value : serde.Value) : Except NativeWireError ProtocolMessage := do
  let bytes ← (native.toVecValue value).mapError .json
  (decodeJson serde time bytes).mapError fun
    | .failed error => .domainProtocol error
    | .panicked => .panicked

/-- Identifiers and counters become texts. -/
def clientFromSemantic :
    NativeClientMessage → Except NativeWireError (ClientMessageDto serde.Value)
  | .hello clientId displayName version supportedProtocolVersions hostRunId sessionCursors =>
    .ok (.clientHello clientId displayName version supportedProtocolVersions hostRunId
      (sessionCursors.toList.map fun (sessionId, lastSequence) =>
        ⟨sessionId.toString, lastSequence.repr⟩))
  | .discover requestId => .ok (.discoverSessions requestId)
  | .subscribe requestId sessionId => .ok (.subscribeSession requestId sessionId.toString)
  | .unsubscribe requestId sessionId => .ok (.unsubscribeSession requestId sessionId.toString)
  | .submitInteractionResponse requestId response => do
    let response ← encodeDomainValue serde time (.interactionResponse response)
    .ok (.submitInteractionResponse requestId response)
  | .submitCommand requestId command => do
    let command ← encodeDomainValue serde time (.agentCommand command)
    .ok (.submitCommand requestId command)

/-- The texts are parsed in the order of the fields. -/
def clientIntoSemantic :
    ClientMessageDto serde.Value → Except NativeWireError NativeClientMessage
  | .clientHello clientId displayName version supportedProtocolVersions hostRunId sessionCursors => do
    let sessionCursors ← parseSessionCursors ∅ sessionCursors
    .ok (.hello clientId displayName version supportedProtocolVersions hostRunId sessionCursors)
  | .discoverSessions requestId => .ok (.discover requestId)
  | .subscribeSession requestId sessionId => do
    let sessionId ← parseSessionId sessionId
    .ok (.subscribe requestId sessionId)
  | .unsubscribeSession requestId sessionId => do
    let sessionId ← parseSessionId sessionId
    .ok (.unsubscribe requestId sessionId)
  | .submitInteractionResponse requestId response => do
    match ← decodeDomainValue serde time native response with
    | .interactionResponse response => .ok (.submitInteractionResponse requestId response)
    | _ =>
      .error (.protocol
        (.invalidDomainContext "submit_interaction_response" "non-interaction_response"))
  | .submitCommand requestId command => do
    match ← decodeDomainValue serde time native command with
    | .agentCommand command => .ok (.submitCommand requestId command)
    | _ => .error (.protocol (.invalidDomainContext "submit_command" "non-agent_command"))

def contextFromSemantic : NativeDeliveryContext → DeliveryContextDto
  | .discoveryProvider requestId => .discoveryProvider requestId
  | .discoverySession requestId lastSequence =>
    .discoverySession requestId lastSequence.get.repr
  | .subscriptionSession requestId => .subscriptionSession requestId
  | .subscriptionInteraction requestId route =>
    .subscriptionInteraction requestId (.ofNative route)
  | .liveEvent route => .liveEvent (.ofNative route)
  | .liveSession => .liveSession

def contextIntoSemantic : DeliveryContextDto → Except NativeWireError NativeDeliveryContext
  | .discoveryProvider requestId => .ok (.discoveryProvider requestId)
  | .discoverySession requestId lastSequence => do
    let lastSequence ← parseSequence lastSequence
    .ok (.discoverySession requestId lastSequence)
  | .subscriptionSession requestId => .ok (.subscriptionSession requestId)
  | .subscriptionInteraction requestId route =>
    .ok (.subscriptionInteraction requestId route.toNative)
  | .liveEvent route => .ok (.liveEvent route.toNative)
  | .liveSession => .ok .liveSession

def serverFromSemantic :
    NativeServerMessage → Except NativeWireError (ServerMessageDto serde.Value)
  | .hello connectionId channel protocolVersion maxFrameBytes pingIntervalSeconds
      idleTimeoutSeconds hostRunId resumeAccepted => do
    let channel ← encodeDomainValue serde time (.channelDescriptor channel)
    .ok (.serverHello connectionId channel protocolVersion maxFrameBytes pingIntervalSeconds
      idleTimeoutSeconds hostRunId resumeAccepted)
  | .syncStarted requestId providerCount sessionCount =>
    .ok (.syncStarted requestId providerCount sessionCount)
  | .domain context message => do
    let domain ← encodeDomainValue serde time message
    .ok (.domainMessage (contextFromSemantic context) domain)
  | .syncCompleted requestId => .ok (.syncCompleted requestId)
  | .subscriptionResult requestId sessionId status baselineSequence pendingInteractionCount
      eventCount reset =>
    .ok (.subscriptionResult requestId sessionId.toString (.ofNative status)
      baselineSequence.get.repr pendingInteractionCount eventCount reset)
  | .unsubscriptionResult requestId sessionId status =>
    .ok (.unsubscriptionResult requestId sessionId.toString (.ofNative status))
  | .interactionResponseResult requestId sessionId interactionId =>
    .ok (.interactionResponseResult requestId sessionId.toString interactionId)
  | .commandResult requestId sessionId commandId =>
    .ok (.commandResult requestId sessionId.toString commandId)
  | .error requestId code message recoverable =>
    .ok (.error requestId (.ofNative code) message recoverable)

def serverIntoSemantic :
    ServerMessageDto serde.Value → Except NativeWireError NativeServerMessage
  | .serverHello connectionId channel protocolVersion maxFrameBytes pingIntervalSeconds
      idleTimeoutSeconds hostRunId resumeAccepted => do
    match ← decodeDomainValue serde time native channel with
    | .channelDescriptor channel =>
      .ok (.hello connectionId channel protocolVersion maxFrameBytes pingIntervalSeconds
        idleTimeoutSeconds hostRunId resumeAccepted)
    | _ => .error (.protocol (.invalidDomainContext "server_hello" "non-channel_descriptor"))
  | .syncStarted requestId providerCount sessionCount =>
    .ok (.syncStarted requestId providerCount sessionCount)
  | .domainMessage context domain => do
    let context ← contextIntoSemantic context
    let message ← decodeDomainValue serde time native domain
    .ok (.domain context message)
  | .syncCompleted requestId => .ok (.syncCompleted requestId)
  | .subscriptionResult requestId sessionId status baselineSequence pendingInteractionCount
      eventCount reset => do
    let sessionId ← parseSessionId sessionId
    let baselineSequence ← parseSequence baselineSequence
    .ok (.subscriptionResult requestId sessionId status.toNative baselineSequence
      pendingInteractionCount eventCount reset)
  | .unsubscriptionResult requestId sessionId status => do
    let sessionId ← parseSessionId sessionId
    .ok (.unsubscriptionResult requestId sessionId status.toNative)
  | .interactionResponseResult requestId sessionId interactionId => do
    let sessionId ← parseSessionId sessionId
    .ok (.interactionResponseResult requestId sessionId interactionId)
  | .commandResult requestId sessionId commandId => do
    let sessionId ← parseSessionId sessionId
    .ok (.commandResult requestId sessionId commandId)
  | .error requestId code message recoverable =>
    .ok (.error requestId code.toNative message recoverable)

/-- Reads the version before any other field. -/
def decodeEnvelope {T : Type} (fromValue : serde.Value → Except String (NativeEnvelope T))
    (input : List UInt8) : Except NativeWireError (NativeEnvelope T) :=
  match serde.fromSlice input with
  | .error source => .error (.json source)
  | .ok value =>
    match serde.getU64 value "native_transport_version" with
    | none => wireInvalid "native_transport_version" "expected an unsigned JSON integer"
    | some received =>
      if received ≠ nativeTransportVersion then
        .error (.unsupportedVersion received nativeTransportVersion)
      else (fromValue value).mapError .json

def encodeClientMessage (message : NativeClientMessage) :
    Except NativeWireError (List UInt8) := do
  (validateClientMessage codec message).mapError .protocol
  let dto ← clientFromSemantic serde time message
  (native.toVecClient ⟨nativeTransportVersion, dto⟩).mapError .json

def decodeClientMessage (input : List UInt8) : Except NativeWireError NativeClientMessage := do
  let envelope ← decodeEnvelope serde native.fromValueClient input
  let message ← clientIntoSemantic serde time native envelope.message
  (validateClientMessage codec message).mapError .protocol
  .ok message

def encodeServerMessage (message : NativeServerMessage) :
    Except NativeWireError (List UInt8) := do
  (validateServerMessage codec message).mapError .protocol
  let dto ← serverFromSemantic serde time message
  (native.toVecServer ⟨nativeTransportVersion, dto⟩).mapError .json

def decodeServerMessage (input : List UInt8) : Except NativeWireError NativeServerMessage := do
  let envelope ← decodeEnvelope serde native.fromValueServer input
  let message ← serverIntoSemantic serde time native envelope.message
  (validateServerMessage codec message).mapError .protocol
  .ok message

end NativeWire

/-- What the deserializer of decimal scalars checks holds of every rendered number. -/
theorem repr_digits {n : Nat} (h : n < 2 ^ 64) :
    (n.repr.toList.isEmpty || !n.repr.toList.all Char.isDigit ||
      (decide (n.repr.toList.length > 1) && n.repr.toList.head? == some '0')) = false ∧
    Nat.ofDigitChars 10 n.repr.toList 0 = n := by
  have hvisit := DecimalU64.visitStr_serialize ⟨n, h⟩
  unfold DecimalU64.visitStr DecimalU64.serialize at hvisit
  simp only at hvisit
  split at hvisit
  · cases hvisit
  · next hpass =>
    refine ⟨by simpa using hpass, ?_⟩
    rw [Nat.toList_repr, Nat.ofDigitChars_ten_toDigits]

/-- A sequence is read back from its decimal text. -/
theorem parseSequence_repr (sequence : EventSequence) :
    parseSequence sequence.get.repr = .ok sequence := by
  obtain ⟨hpass, hvalue⟩ := repr_digits sequence.bounded
  have hnew : PositiveCounter.new .eventSequence sequence.get sequence.bounded = .ok sequence := by
    rw [PositiveCounter.new, dif_pos sequence.positive]
  have hbound : Nat.ofDigitChars 10 sequence.get.repr.toList 0 < 2 ^ 64 := by
    rw [hvalue]
    exact sequence.bounded
  unfold parseSequence
  simp only [hpass, Bool.false_eq_true, if_false]
  rw [dif_pos hbound]
  simp only [hvalue, hnew]
  rfl

theorem parseU64_repr {n : Nat} (h : n < 2 ^ 64) : parseU64 n.repr = some n := by
  obtain ⟨hpass, hvalue⟩ := repr_digits h
  simp only [Bool.or_eq_false_iff] at hpass
  have hdigits : (match n.repr.toList with
      | '+' :: rest => rest
      | digits => digits) = n.repr.toList := by
    cases hlist : n.repr.toList with
    | nil => rfl
    | cons first rest =>
      have hfirst : first ≠ '+' := by
        rintro rfl
        simp [hlist] at hpass
      split
      · next heq => exact absurd (List.cons.inj heq).1 hfirst
      · rfl
  unfold parseU64
  simp only [hdigits, hpass.1.1, hpass.1.2, hvalue, Bool.or_self, Bool.false_eq_true, if_false]
  rw [if_pos h]

theorem parseSessionId_toString (sessionId : SessionId) :
    parseSessionId sessionId.toString = .ok sessionId := by
  rw [parseSessionId, Ident.fromStr_toString]
  rfl

/-- The cursors of a map, written in key order, are read into a map with the
same entries, added to what was read before. -/
theorem parseSessionCursors_entries (entries : List (SessionId × Nat))
    (parsed : ExtTreeMap SessionId Nat) (hnodup : (entries.map Prod.fst).Nodup)
    (hfresh : ∀ sessionId ∈ entries.map Prod.fst, parsed[sessionId]? = none)
    (hrange : ∀ entry ∈ entries, 0 < entry.2 ∧ entry.2 < 2 ^ 64) :
    parseSessionCursors parsed (entries.map fun (sessionId, lastSequence) =>
        ⟨sessionId.toString, lastSequence.repr⟩) =
      .ok (entries.foldl (fun map entry => map.insert entry.1 entry.2) parsed) := by
  induction entries generalizing parsed with
  | nil => rfl
  | cons entry entries ih =>
    obtain ⟨sessionId, lastSequence⟩ := entry
    obtain ⟨hpositive, hbound⟩ := hrange (sessionId, lastSequence) (by simp)
    have hnew := hfresh sessionId (by simp)
    have hrest := ih (parsed.insert sessionId lastSequence) (List.nodup_cons.mp hnodup).2
      (by
        intro other hother
        rw [OrderedMap.getElem?_insert, if_neg]
        · exact hfresh other (by simp [hother])
        · rintro rfl
          exact (List.nodup_cons.mp hnodup).1 hother)
      (fun entry hentry => hrange entry (by simp [hentry]))
    have hzero : ¬ (lastSequence = 0 ∨ lastSequence.repr ≠ lastSequence.repr) := by
      simp
      omega
    simp only [List.map_cons, parseSessionCursors, parseSessionId_toString, parseU64_repr hbound,
      hzero, hnew, Option.isSome_none, Bool.false_eq_true, if_false, bind, Except.bind, List.foldl_cons]
    exact hrest

theorem nodup_keys_toList (m : ExtTreeMap SessionId Nat) : (m.toList.map Prod.fst).Nodup := by
  have hpair := ExtTreeMap.distinct_keys_toList (t := m)
  rw [List.Nodup, List.pairwise_map]
  refine hpair.imp ?_
  intro a b hne heq
  exact hne (by rw [heq]; exact Std.ReflCmp.compare_self)

theorem foldl_insert_toList (m : ExtTreeMap SessionId Nat) :
    m.toList.foldl (fun map entry => map.insert entry.1 entry.2) ∅ = m := by
  have hdistinct := nodup_keys_toList m
  have hfold : ∀ (entries : List (SessionId × Nat)) (start : ExtTreeMap SessionId Nat) (k : SessionId),
      (entries.map Prod.fst).Nodup →
      (entries.foldl (fun map entry => map.insert entry.1 entry.2) start)[k]? =
        ((entries.find? fun entry => entry.1 = k).map Prod.snd).or start[k]? := by
    intro entries
    induction entries with
    | nil => simp
    | cons entry entries ih =>
      intro start k hnodup
      rw [List.map_cons, List.nodup_cons] at hnodup
      rw [List.foldl_cons, ih _ _ hnodup.2, OrderedMap.getElem?_insert]
      by_cases hkey : entry.1 = k
      · have hnone : entries.find? (fun entry => entry.1 = k) = none := by
          rw [List.find?_eq_none]
          intro other hother hsame
          exact hnodup.1 (List.mem_map.mpr ⟨other, hother, by rw [hkey]; simpa using hsame⟩)
        simp [hkey, hnone]
      · simp [hkey]
  apply ExtTreeMap.ext_getElem?
  intro k
  rw [hfold _ _ _ hdistinct]
  cases hfind : m.toList.find? fun entry => entry.1 = k with
  | none =>
    have hnone : m[k]? = none := by
      by_contra hsome
      obtain ⟨v, hv⟩ := Option.ne_none_iff_exists'.mp hsome
      have hmem := ExtTreeMap.mem_toList_iff_getElem?_eq_some.mpr hv
      have hother := List.find?_eq_none.mp hfind _ hmem
      simp at hother
    simp [hnone]
  | some entry =>
    have hmem := List.mem_of_find?_eq_some hfind
    have hkey : entry.1 = k := by simpa using List.find?_some hfind
    have hget := ExtTreeMap.mem_toList_iff_getElem?_eq_some.mp (show (entry.1, entry.2) ∈ m.toList from hmem)
    rw [hkey] at hget
    simp [hget]

end AgentPulse

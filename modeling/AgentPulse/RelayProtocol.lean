import AgentPulse.RelayFraming
import AgentPulse.Serde

/-!
# Control messages of the relay

Both directions carry one message in an envelope with the version. The derived
readers and writers work on JSON values; the text of a JSON value is a parameter.
What a decoder accepts an encoder writes, and a frame carries it.
-/
namespace AgentPulse

open Serde (Json)
open Serde.Fields (required_of_mem)

def relayProtocolVersion : UInt16 := 1

inductive RelayErrorCode where
  | authenticationFailed | invalidHandshake | invalidRequest | hostUnavailable | hostBusy
  | resourceLimit | internal
  deriving DecidableEq, Repr

/-- What the relay tells an endpoint before the tunnel. -/
inductive RelayMessage where
  | challenge (connectionId nonce : String) (expiresAtUnixSeconds : Int64)
  | hostWaiting (connectionId : String)
  | tunnelReady (peerConnectionId : String)
  | ping (pingId : String)
  | error (code : RelayErrorCode) (message : String) (recoverable : Bool)
  deriving DecidableEq, Repr

/-- The text of JSON values. -/
structure RelayJson where
  toVec : Json → Except String (List UInt8)
  fromSlice : List UInt8 → Except String Json
  /-- The diagnostic for a document that is no record of its type. -/
  dataError : List UInt8 → String

/-- What is assumed of the text: a value that was written is read back, and no text
is the empty one. -/
structure RelayJson.Lawful (json : RelayJson) : Prop where
  fromSlice_toVec : ∀ value bytes, json.toVec value = .ok bytes → json.fromSlice bytes = .ok value
  fromSlice_nil : ∀ value, json.fromSlice [] ≠ .ok value

namespace RouteRegistration

def fieldNames : List String := ["route_id", "authentication_key"]

def entries (self : RouteRegistration) : List (String × Json) :=
  [("route_id", .string self.routeId), ("authentication_key", .string self.authenticationKey)]

def serialize (self : RouteRegistration) : Json := .object self.entries

def deserialize (value : Json) : Option RouteRegistration := do
  let fields ← Serde.fields fieldNames value
  let routeId ← fields.required "route_id" Serde.text
  let authenticationKey ← fields.required "authentication_key" Serde.text
  some ⟨routeId, authenticationKey⟩

end RouteRegistration

namespace EndpointMessage

/-- The tag of the variant. -/
def variant : EndpointMessage → String
  | hostHello .. => "host_hello"
  | clientHello .. => "client_hello"
  | pong .. => "pong"

def entries : EndpointMessage → List (String × Json)
  | hostHello hostId routes proof =>
    [("host_id", .string hostId), ("routes", .array (routes.map RouteRegistration.serialize)),
      ("proof", .string proof)]
  | clientHello routeId proof => [("route_id", .string routeId), ("proof", .string proof)]
  | pong pingId => [("ping_id", .string pingId)]

def serialize (self : EndpointMessage) : Json :=
  .object (("type", .string self.variant) :: self.entries)

def hostHelloNames : List String := ["host_id", "routes", "proof"]

def clientHelloNames : List String := ["route_id", "proof"]

def pongNames : List String := ["ping_id"]

def deserialize (value : Json) : Option EndpointMessage := do
  let (variant, content) ← Serde.tagged "type" value
  if variant = "host_hello" then do
    let fields ← Serde.fields hostHelloNames content
    let hostId ← fields.required "host_id" Serde.text
    let routes ← fields.required "routes" (Serde.list RouteRegistration.deserialize)
    let proof ← fields.required "proof" Serde.text
    some (.hostHello hostId routes proof)
  else if variant = "client_hello" then do
    let fields ← Serde.fields clientHelloNames content
    let routeId ← fields.required "route_id" Serde.text
    let proof ← fields.required "proof" Serde.text
    some (.clientHello routeId proof)
  else if variant = "pong" then do
    let fields ← Serde.fields pongNames content
    let pingId ← fields.required "ping_id" Serde.text
    some (.pong pingId)
  else none

end EndpointMessage

namespace RelayErrorCode

def name : RelayErrorCode → String
  | authenticationFailed => "authentication_failed"
  | invalidHandshake => "invalid_handshake"
  | invalidRequest => "invalid_request"
  | hostUnavailable => "host_unavailable"
  | hostBusy => "host_busy"
  | resourceLimit => "resource_limit"
  | internal => "internal"

def ofName : String → Option RelayErrorCode
  | "authentication_failed" => some authenticationFailed
  | "invalid_handshake" => some invalidHandshake
  | "invalid_request" => some invalidRequest
  | "host_unavailable" => some hostUnavailable
  | "host_busy" => some hostBusy
  | "resource_limit" => some resourceLimit
  | "internal" => some internal
  | _ => none

@[simp] theorem ofName_name (code : RelayErrorCode) : ofName code.name = some code := by
  cases code <;> rfl

end RelayErrorCode

namespace RelayMessage

/-- The tag of the variant. -/
def variant : RelayMessage → String
  | challenge .. => "challenge"
  | hostWaiting .. => "host_waiting"
  | tunnelReady .. => "tunnel_ready"
  | ping .. => "ping"
  | error .. => "error"

def entries : RelayMessage → List (String × Json)
  | challenge connectionId nonce expiresAtUnixSeconds =>
    [("connection_id", .string connectionId), ("nonce", .string nonce),
      ("expires_at_unix_seconds", .int expiresAtUnixSeconds.toInt)]
  | hostWaiting connectionId => [("connection_id", .string connectionId)]
  | tunnelReady peerConnectionId => [("peer_connection_id", .string peerConnectionId)]
  | ping pingId => [("ping_id", .string pingId)]
  | error code message recoverable =>
    [("code", .string code.name), ("message", .string message), ("recoverable", .bool recoverable)]

def serialize (self : RelayMessage) : Json :=
  .object (("type", .string self.variant) :: self.entries)

def challengeNames : List String := ["connection_id", "nonce", "expires_at_unix_seconds"]

def hostWaitingNames : List String := ["connection_id"]

def tunnelReadyNames : List String := ["peer_connection_id"]

def pingNames : List String := ["ping_id"]

def errorNames : List String := ["code", "message", "recoverable"]

def deserialize (value : Json) : Option RelayMessage := do
  let (variant, content) ← Serde.tagged "type" value
  if variant = "challenge" then do
    let fields ← Serde.fields challengeNames content
    let connectionId ← fields.required "connection_id" Serde.text
    let nonce ← fields.required "nonce" Serde.text
    let expiresAtUnixSeconds ← fields.required "expires_at_unix_seconds" Serde.i64
    some (.challenge connectionId nonce expiresAtUnixSeconds)
  else if variant = "host_waiting" then do
    let fields ← Serde.fields hostWaitingNames content
    let connectionId ← fields.required "connection_id" Serde.text
    some (.hostWaiting connectionId)
  else if variant = "tunnel_ready" then do
    let fields ← Serde.fields tunnelReadyNames content
    let peerConnectionId ← fields.required "peer_connection_id" Serde.text
    some (.tunnelReady peerConnectionId)
  else if variant = "ping" then do
    let fields ← Serde.fields pingNames content
    let pingId ← fields.required "ping_id" Serde.text
    some (.ping pingId)
  else if variant = "error" then do
    let fields ← Serde.fields errorNames content
    let code ← fields.required "code" fun code => (Serde.unitVariant code).bind RelayErrorCode.ofName
    let message ← fields.required "message" Serde.text
    let recoverable ← fields.required "recoverable" Serde.flag
    some (.error code message recoverable)
  else none

end RelayMessage

def relayEnvelope (message : Json) : Json :=
  .object [("relay_version", .int relayProtocolVersion.toNat), ("message", message)]

def readRelayEnvelope {T : Type} (read : Json → Option T) (value : Json) : Option (UInt64 × T) := do
  let fields ← Serde.fields ["relay_version", "message"] value
  let version ← fields.required "relay_version" Serde.u64
  let message ← fields.required "message" read
  some (version, message)

section

variable (lib : RelayLibrary) (json : RelayJson)

def validateRelay : RelayMessage → Except RelayError Unit
  | .challenge connectionId nonce expiresAtUnixSeconds => do
    relayUuidV7 lib "connection_id" connectionId
    let _ ← relayDecode32 lib "nonce" nonce
    if expiresAtUnixSeconds.toInt ≤ 0 then
      .error (.invalidField "expires_at_unix_seconds" "must be positive")
    else .ok ()
  | .hostWaiting connectionId => relayUuidV7 lib "connection_id" connectionId
  | .tunnelReady peerConnectionId => relayUuidV7 lib "peer_connection_id" peerConnectionId
  | .ping pingId => relayUuidV7 lib "ping_id" pingId
  | .error _ message _ =>
    if isBlank message ∨ message.utf8ByteSize > 256 then
      .error (.invalidField "message" "must be nonblank and at most 256 bytes")
    else .ok ()

def relayEncode (message : Json) : Except RelayError (List UInt8) := do
  let bytes ← (json.toVec (relayEnvelope message)).mapError .json
  if bytes.length > maxControlBytes then
    .error (.invalidField "control_frame" "encoded message exceeds 16 KiB")
  else .ok bytes

def relayDecode {T : Type} (read : Json → Option T) (input : List UInt8) : Except RelayError T :=
  if input.isEmpty ∨ input.length > maxControlBytes then
    .error (.invalidField "control_frame" "message must be between 1 byte and 16 KiB")
  else do
    let value ← (json.fromSlice input).mapError .json
    match readRelayEnvelope read value with
    | none => .error (.json (json.dataError input))
    | some (version, message) =>
      if version.toNat ≠ relayProtocolVersion.toNat then
        .error (.invalidField "relay_version" "unsupported Relay version")
      else .ok message

def encodeEndpoint (message : EndpointMessage) : Except RelayError (List UInt8) := do
  validateEndpoint lib message
  relayEncode json message.serialize

def decodeEndpoint (input : List UInt8) : Except RelayError EndpointMessage := do
  let message ← relayDecode json EndpointMessage.deserialize input
  validateEndpoint lib message
  .ok message

def encodeRelay (message : RelayMessage) : Except RelayError (List UInt8) := do
  validateRelay lib message
  relayEncode json message.serialize

def decodeRelay (input : List UInt8) : Except RelayError RelayMessage := do
  let message ← relayDecode json RelayMessage.deserialize input
  validateRelay lib message
  .ok message

end

theorem RouteRegistration.deserialize_serialize (self : RouteRegistration) :
    deserialize self.serialize = some self := by
  have hdistinct : (self.entries.map Prod.fst).Nodup := by
    show fieldNames.Nodup
    simp [fieldNames]
  have hfields := Serde.fields_object fieldNames (rfl : self.entries.map Prod.fst = _)
    (List.Subset.refl fieldNames) hdistinct
  unfold deserialize
  refine Option.bind_eq_some_iff.mpr ⟨_, hfields, ?_⟩
  refine Option.bind_eq_some_iff.mpr ⟨self.routeId, required_of_mem hdistinct (by simp [entries])
    (Serde.text_string self.routeId), ?_⟩
  exact Option.bind_eq_some_iff.mpr ⟨self.authenticationKey, required_of_mem hdistinct
    (by simp [entries]) (Serde.text_string self.authenticationKey), rfl⟩

/-- A record of one text. -/
theorem read_id (name id : String) :
    Serde.fields [name] (.object [(name, .string id)]) = some ⟨false, [(name, .string id)]⟩ ∧
      (Serde.Fields.mk false [(name, .string id)]).required name Serde.text = some id := by
  have hdistinct : ([(name, Json.string id)].map Prod.fst).Nodup := by simp
  exact ⟨Serde.fields_object [name] rfl (List.Subset.refl _) hdistinct,
    required_of_mem hdistinct (by simp) (Serde.text_string id)⟩

/-- A message of an endpoint is read back from its document. -/
theorem EndpointMessage.deserialize_serialize (self : EndpointMessage) :
    deserialize self.serialize = some self := by
  have htagged : Serde.tagged "type" self.serialize = some (self.variant, .object self.entries) := by
    apply Serde.tagged_object
    cases self <;> simp [entries]
  unfold deserialize
  refine Option.bind_eq_some_iff.mpr ⟨_, htagged, ?_⟩
  cases self with
  | hostHello host routes proof =>
    have hdistinct : ((hostHello host routes proof).entries.map Prod.fst).Nodup := by
      show hostHelloNames.Nodup
      simp [hostHelloNames]
    have hfields := Serde.fields_object hostHelloNames
      (rfl : (hostHello host routes proof).entries.map Prod.fst = _) (List.Subset.refl _) hdistinct
    dsimp only [variant]
    rw [if_pos rfl]
    refine Option.bind_eq_some_iff.mpr ⟨_, hfields, ?_⟩
    refine Option.bind_eq_some_iff.mpr ⟨host, required_of_mem hdistinct (by simp [entries])
      (Serde.text_string host), ?_⟩
    refine Option.bind_eq_some_iff.mpr ⟨routes, required_of_mem hdistinct (by simp [entries])
      (Serde.list_map RouteRegistration.deserialize_serialize routes), ?_⟩
    exact Option.bind_eq_some_iff.mpr ⟨proof, required_of_mem hdistinct (by simp [entries])
      (Serde.text_string proof), rfl⟩
  | clientHello route proof =>
    have hdistinct : ((clientHello route proof).entries.map Prod.fst).Nodup := by
      show clientHelloNames.Nodup
      simp [clientHelloNames]
    have hfields := Serde.fields_object clientHelloNames
      (rfl : (clientHello route proof).entries.map Prod.fst = _) (List.Subset.refl _) hdistinct
    dsimp only [variant]
    rw [if_neg (by simp), if_pos rfl]
    refine Option.bind_eq_some_iff.mpr ⟨_, hfields, ?_⟩
    refine Option.bind_eq_some_iff.mpr ⟨route, required_of_mem hdistinct (by simp [entries])
      (Serde.text_string route), ?_⟩
    exact Option.bind_eq_some_iff.mpr ⟨proof, required_of_mem hdistinct (by simp [entries])
      (Serde.text_string proof), rfl⟩
  | pong ping =>
    obtain ⟨hfields, hread⟩ := read_id "ping_id" ping
    dsimp only [variant]
    rw [if_neg (by simp), if_neg (by simp), if_pos rfl]
    refine Option.bind_eq_some_iff.mpr ⟨_, hfields, ?_⟩
    exact Option.bind_eq_some_iff.mpr ⟨ping, hread, rfl⟩

/-- A message of the relay is read back from its document. -/
theorem RelayMessage.deserialize_serialize (self : RelayMessage) :
    deserialize self.serialize = some self := by
  have htagged : Serde.tagged "type" self.serialize = some (self.variant, .object self.entries) := by
    apply Serde.tagged_object
    cases self <;> simp [entries]
  unfold deserialize
  refine Option.bind_eq_some_iff.mpr ⟨_, htagged, ?_⟩
  cases self with
  | challenge connection nonce expires =>
    have hdistinct : ((challenge connection nonce expires).entries.map Prod.fst).Nodup := by
      show challengeNames.Nodup
      simp [challengeNames]
    have hfields := Serde.fields_object challengeNames
      (rfl : (challenge connection nonce expires).entries.map Prod.fst = _) (List.Subset.refl _)
      hdistinct
    dsimp only [variant]
    rw [if_pos rfl]
    refine Option.bind_eq_some_iff.mpr ⟨_, hfields, ?_⟩
    refine Option.bind_eq_some_iff.mpr ⟨connection, required_of_mem hdistinct (by simp [entries])
      (Serde.text_string connection), ?_⟩
    refine Option.bind_eq_some_iff.mpr ⟨nonce, required_of_mem hdistinct (by simp [entries])
      (Serde.text_string nonce), ?_⟩
    exact Option.bind_eq_some_iff.mpr ⟨expires, required_of_mem hdistinct (by simp [entries])
      (Serde.i64_int expires), rfl⟩
  | hostWaiting connection =>
    obtain ⟨hfields, hread⟩ := read_id "connection_id" connection
    dsimp only [variant]
    rw [if_neg (by simp), if_pos rfl]
    refine Option.bind_eq_some_iff.mpr ⟨_, hfields, ?_⟩
    exact Option.bind_eq_some_iff.mpr ⟨connection, hread, rfl⟩
  | tunnelReady peer =>
    obtain ⟨hfields, hread⟩ := read_id "peer_connection_id" peer
    dsimp only [variant]
    rw [if_neg (by simp), if_neg (by simp), if_pos rfl]
    refine Option.bind_eq_some_iff.mpr ⟨_, hfields, ?_⟩
    exact Option.bind_eq_some_iff.mpr ⟨peer, hread, rfl⟩
  | ping ping =>
    obtain ⟨hfields, hread⟩ := read_id "ping_id" ping
    dsimp only [variant]
    rw [if_neg (by simp), if_neg (by simp), if_neg (by simp),
      if_pos rfl]
    refine Option.bind_eq_some_iff.mpr ⟨_, hfields, ?_⟩
    exact Option.bind_eq_some_iff.mpr ⟨ping, hread, rfl⟩
  | error code message recoverable =>
    have hdistinct : ((error code message recoverable).entries.map Prod.fst).Nodup := by
      show errorNames.Nodup
      simp [errorNames]
    have hfields := Serde.fields_object errorNames
      (rfl : (error code message recoverable).entries.map Prod.fst = _) (List.Subset.refl _) hdistinct
    have hcode : (Serde.unitVariant (.string code.name)).bind RelayErrorCode.ofName = some code :=
      code.ofName_name
    dsimp only [variant]
    rw [if_neg (by simp), if_neg (by simp), if_neg (by simp),
      if_neg (by simp), if_pos rfl]
    refine Option.bind_eq_some_iff.mpr ⟨_, hfields, ?_⟩
    refine Option.bind_eq_some_iff.mpr ⟨code, required_of_mem hdistinct (by simp [entries]) hcode, ?_⟩
    refine Option.bind_eq_some_iff.mpr ⟨message, required_of_mem hdistinct (by simp [entries])
      (Serde.text_string message), ?_⟩
    exact Option.bind_eq_some_iff.mpr ⟨recoverable, required_of_mem hdistinct (by simp [entries])
      (Serde.flag_bool recoverable), rfl⟩

theorem readRelayEnvelope_envelope {T : Type} {read : Json → Option T} {message : Json} {record : T}
    (h : read message = some record) :
    readRelayEnvelope read (relayEnvelope message) = some (1, record) := by
  let entries : List (String × Json) :=
    [("relay_version", .int relayProtocolVersion.toNat), ("message", message)]
  have hdistinct : (entries.map Prod.fst).Nodup := by
    show ["relay_version", "message"].Nodup
    simp
  have hfields := Serde.fields_object ["relay_version", "message"]
    (rfl : entries.map Prod.fst = _) (List.Subset.refl _) hdistinct
  have hversion : Serde.u64 (.int relayProtocolVersion.toNat) = some 1 := Serde.u64_int 1
  unfold readRelayEnvelope
  refine Option.bind_eq_some_iff.mpr ⟨_, hfields, ?_⟩
  refine Option.bind_eq_some_iff.mpr
    ⟨1, required_of_mem hdistinct (by simp [entries]) hversion, ?_⟩
  exact Option.bind_eq_some_iff.mpr ⟨record, required_of_mem hdistinct (by simp [entries]) h, rfl⟩

section

variable {lib : RelayLibrary} {json : RelayJson}

/-- What was encoded is read again, and fits in a frame. -/
theorem relayDecode_encode (hjson : json.Lawful) {T : Type} {read : Json → Option T}
    {message : Json} {record : T} (hread : read message = some record) {payload : List UInt8}
    (h : relayEncode json message = .ok payload) :
    relayDecode json read payload = .ok record ∧ payload ≠ [] ∧
      payload.length ≤ maxControlBytes := by
  obtain ⟨bytes, hbytes, hsize⟩ := Fallible.bind_eq_ok.mp h
  have hwritten := Fallible.mapError_eq_ok.mp hbytes
  split at hsize
  · cases hsize
  · next hfits =>
    cases hsize
    have hvalue := hjson.fromSlice_toVec _ _ hwritten
    have hsome : payload ≠ [] := by
      rintro rfl
      exact hjson.fromSlice_nil _ hvalue
    have hvalid : ¬ (payload.isEmpty = true ∨ payload.length > maxControlBytes) := by
      rintro (hempty | hover)
      · exact hsome (List.isEmpty_iff.mp hempty)
      · exact hfits hover
    refine ⟨?_, hsome, Nat.not_lt.mp hfits⟩
    unfold relayDecode
    rw [if_neg hvalid, hvalue]
    show (match readRelayEnvelope read (relayEnvelope message) with
      | none => _
      | some (version, message) => _) = _
    rw [readRelayEnvelope_envelope hread]
    rfl

/-- Messages of one kind travel in frames: what is encoded is read back from its
frame, whatever follows, and what is decoded can be encoded if it fits. -/
structure Frames {M : Type} (json : RelayJson) (serialize : M → Json)
    (encode : M → Except RelayError (List UInt8)) (decode : List UInt8 → Except RelayError M) :
    Prop where
  carried : ∀ message payload, encode message = .ok payload →
    ∃ frame, writeFrame byteSink [] payload = (.ok (), frame) ∧
      ∀ stream rest, Flows stream → unread stream = frame ++ rest →
        (readFrame stream).result = .ok payload ∧ unread (readFrame stream).rest = rest ∧
          decode payload = .ok message
  accepted : ∀ input message, decode input = .ok message →
    ∀ bytes, json.toVec (relayEnvelope (serialize message)) = .ok bytes →
      bytes.length ≤ maxControlBytes → encode message = .ok bytes

/-- A check on both sides of a codec. -/
theorem frames_of_check (hjson : json.Lawful) {M : Type} {serialize : M → Json}
    {deserialize : Json → Option M} (hread : ∀ message, deserialize (serialize message) = some message)
    (check : M → Except RelayError Unit) :
    Frames json serialize (fun message => check message >>= fun _ => relayEncode json (serialize message))
      (fun input => relayDecode json deserialize input >>= fun message =>
        check message >>= fun _ => .ok message) where
  carried message payload hencode := by
    obtain ⟨⟨⟩, hcheck, hencoded⟩ := Fallible.bind_eq_ok.mp hencode
    obtain ⟨hdecoded, hsome, hfits⟩ := relayDecode_encode hjson (hread message) hencoded
    refine ⟨_, writeFrame_bytes hsome hfits, ?_⟩
    intro stream rest hflows hunread
    obtain ⟨hresult, hrest⟩ := readFrame_frame hsome hfits hflows hunread
    refine ⟨hresult, hrest, ?_⟩
    rw [hdecoded]
    show (check message >>= fun _ => _) = _
    rw [hcheck]
    rfl
  accepted input message hdecode bytes hbytes hfits := by
    obtain ⟨found, -, hchecked⟩ := Fallible.bind_eq_ok.mp hdecode
    obtain ⟨⟨⟩, hcheck, hsame⟩ := Fallible.bind_eq_ok.mp hchecked
    cases hsame
    rw [hcheck]
    show relayEncode json (serialize message) = _
    unfold relayEncode
    rw [hbytes]
    exact if_neg (Nat.not_lt.mpr hfits)

/-- Control messages of both directions travel in frames, and no length prefix makes
the reader set aside or take more than the largest frame. -/
theorem control_frames_round_trip (lib : RelayLibrary) (json : RelayJson) (hjson : json.Lawful) :
    Frames json EndpointMessage.serialize (encodeEndpoint lib json) (decodeEndpoint lib json) ∧
      Frames json RelayMessage.serialize (encodeRelay lib json) (decodeRelay lib json) ∧
      ∀ stream, (readFrame stream).allocated ≤ 4 + 16384 ∧
        ∃ taken, unread stream = taken ++ unread (readFrame stream).rest ∧
          taken.length ≤ 4 + 16384 :=
  ⟨frames_of_check hjson EndpointMessage.deserialize_serialize (validateEndpoint lib),
    frames_of_check hjson RelayMessage.deserialize_serialize (validateRelay lib), readFrame_bounded⟩

end

namespace Sample

def pingId : String := "01890f47-7c00-7000-8000-000000000001"

def pongText : List UInt8 :=
  Bytes.utf8 ("\x7b\"relay_version\":1,\"message\":\x7b\"type\":\"pong\",\"ping_id\":\"" ++
    pingId ++ "\"\x7d\x7d")

def pongEnvelope : Json := relayEnvelope (EndpointMessage.serialize (.pong pingId))

/-- The text of one envelope. -/
def pongJson : RelayJson where
  toVec value :=
    match value with
    | .object [(a, .int n), (b, .object [(c, .string d), (e, .string f)])] =>
      if (a, n, b, c, d, e, f) = ("relay_version", 1, "message", "type", "pong", "ping_id", pingId)
      then .ok pongText
      else .error "another value"
    | _ => .error "another value"
  fromSlice bytes := if bytes = pongText then .ok pongEnvelope else .error "another text"
  dataError _ := "another record"

theorem pongJson_lawful : pongJson.Lawful where
  fromSlice_toVec value bytes h := by
    simp only [pongJson] at h ⊢
    split at h
    · split at h
      · next hsame =>
        cases h
        rw [if_pos rfl]
        simp only [Prod.mk.injEq] at hsame
        obtain ⟨rfl, rfl, rfl, rfl, rfl, rfl, rfl⟩ := hsame
        rfl
      · cases h
    · cases h
  fromSlice_nil value h := by
    have hother : ([] : List UInt8) ≠ pongText := by decide +kernel
    simp only [pongJson] at h
    rw [if_neg hother] at h
    cases h

/-- No hash or base64 is needed for a heartbeat. -/
def frameLibrary : RelayLibrary where
  hmac _ _ := .filled 0
  encode _ := ""
  decode _ := .error "Invalid input length: 1"
  uuidError _ := "invalid character"

end Sample

theorem control_frames_round_trip_pong :
    encodeEndpoint Sample.frameLibrary Sample.pongJson (.pong Sample.pingId) = .ok Sample.pongText ∧
      Frames Sample.pongJson EndpointMessage.serialize
        (encodeEndpoint Sample.frameLibrary Sample.pongJson)
        (decodeEndpoint Sample.frameLibrary Sample.pongJson) ∧
      Frames Sample.pongJson RelayMessage.serialize
        (encodeRelay Sample.frameLibrary Sample.pongJson)
        (decodeRelay Sample.frameLibrary Sample.pongJson) ∧
      ∀ stream, (readFrame stream).allocated ≤ 4 + 16384 ∧
        ∃ taken, unread stream = taken ++ unread (readFrame stream).rest ∧
          taken.length ≤ 4 + 16384 :=
  ⟨by decide +kernel, control_frames_round_trip Sample.frameLibrary Sample.pongJson Sample.pongJson_lawful⟩

end AgentPulse

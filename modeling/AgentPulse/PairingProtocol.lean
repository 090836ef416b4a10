import AgentPulse.Base64
import AgentPulse.CoreValue
import AgentPulse.IpAddr
import AgentPulse.PairingStore
import AgentPulse.Serde

/-!
# Pairing bundles, requests and server messages

The bundle travels in a URI of a QR code, requests and server messages over the pinned
socket. The derived readers and writers work on JSON values; the text of a JSON value,
base64 and the clock are parameters.
-/
namespace AgentPulse

open Serde (Json)

def pairingProtocolVersion : UInt16 := 1

/-- What a host shows to a client that is to be paired. -/
structure PairingBundle where
  pairingVersion : UInt16
  pairingId : String
  hostId : String
  hostName : String
  serverName : String
  address : String
  port : UInt16
  leafSha256 : String
  bootstrapToken : String
  relayEndpoint : String
  route : Option String
  expiresAtUnixSeconds : Int64
  deriving DecidableEq, Repr

structure PairingRequest where
  pairingId : String
  bootstrapToken : String
  clientId : String
  displayName : String
  version : Option String
  deriving DecidableEq, Repr

inductive PairingErrorCode where
  | invalidRequest | invalidCredential | expired | used | denied | capacity | internal
  deriving DecidableEq, Repr

/-- What the server tells a client while it pairs. -/
inductive PairingServerMessage where
  | pending (clientId displayName : String)
  | succeeded (hostId hostName caCertificateDer serverName nativeAddress : String)
      (nativePort : UInt16) (accessToken : String) (nativeTransportVersion : UInt16)
      (domainProtocolVersions : List UInt16)
  | error (code : PairingErrorCode) (message : String) (recoverable : Bool)
  deriving DecidableEq, Repr

structure PairingCodec where
  /-- `serde_json::to_vec` of a JSON value. -/
  toVec : Json → Except String (List UInt8)
  fromSlice : List UInt8 → Except String Json
  /-- The diagnostic for a document that is no record of its type. -/
  dataError : List UInt8 → String
  /-- Base64 of the URL alphabet without padding. -/
  encode : List UInt8 → String
  decode : String → Except String (List UInt8)
  uuidError : String → String

def pairingInvalid {α : Type} (field reason : String) : Except PairingError α :=
  .error (.invalidField field reason)

section Validation

variable (codec : PairingCodec)

def pairingUuidV7 (field value : String) : Except PairingError Unit :=
  match Uuid.parseStr value with
  | none => pairingInvalid field (codec.uuidError value)
  | some uuid => require (uuid.getVersionNum = 7) (.invalidField field "must be UUIDv7")

def nonblank (field value : String) (maximum : Nat) : Except PairingError Unit :=
  require (isBlank value = false ∧ value.utf8ByteSize ≤ maximum)
    (.invalidField field "must be nonblank and within its size limit")

/-- The parts before and after the last occurrence of a character. -/
def rsplitOnce (separator : Char) (text : List Char) : Option (List Char × List Char) :=
  match text.reverse.dropWhile (· != separator) with
  | [] => none
  | _ :: front => some (front.reverse, (text.reverse.takeWhile (· != separator)).reverse)

/-- `str::parse::<u16>`: an optional plus sign and digits, leading zeros included. -/
def parseU16 (text : List Char) : Option Nat :=
  let digits := match text with
    | '+' :: rest => rest
    | digits => digits
  if digits.isEmpty || !digits.all Char.isDigit then none
  else
    let value := Nat.ofDigitChars 10 digits 0
    if value < 2 ^ 16 then some value else none

def isAscii (text : List Char) : Bool := text.all fun c => c.toNat < 128

/-- The length of a text in bytes. -/
def byteLength (text : List Char) : Nat := (String.ofList text).utf8ByteSize

def dnsLabel (allowed : Char → Bool) (label : List Char) : Bool :=
  !label.isEmpty && byteLength label ≤ 63 && label.head? != some '-' && label.getLast? != some '-' &&
    label.all fun c => allowed c || c.isDigit || c == '-'

def canonicalDnsName (host : List Char) : Bool :=
  !host.contains ':' && byteLength host ≤ 253 && host.contains '.' &&
    !host.any Char.isUpper && isAscii host && (IpAddr.parse (String.ofList host)).isNone &&
    (host.splitOn '.').all (dnsLabel Char.isLower)

def validateRelayEndpoint (endpoint : String) : Except PairingError Unit := do
  let text := endpoint.toList
  require (text.head?.any isWhitespace = false ∧ text.getLast?.any isWhitespace = false ∧
      (text.any fun c => "/?#@".toList.contains c) = false)
    (.invalidField "relay_endpoint" "must be a canonical DNS host:port authority")
  match rsplitOnce ':' text with
  | none => pairingInvalid "relay_endpoint" "must contain one port"
  | some (host, port) =>
    require (canonicalDnsName host = true)
      (.invalidField "relay_endpoint" "must use a canonical public ASCII DNS name")
    require (((parseU16 port).any fun port => port != 0) = true)
      (.invalidField "relay_endpoint" "port must be 1..65535")

/-- An explicit internet address or DNS name, without scheme or port. -/
def validateDirectHost (host : String) : Except PairingError Unit :=
  let accepted :=
    match IpAddr.parse host with
    | some address => !IpAddr.isUnspecified address && !IpAddr.isMulticast address
    | none =>
      !(host.toList.all fun c => c.isDigit || c == '.') && host.utf8ByteSize ≤ 253 &&
        isAscii host.toList && (host.toList.splitOn '.').all (dnsLabel Char.isAlpha)
  require (accepted = true) (.invalidField "address" "must be a unicast IP or ASCII DNS name")

def lowercaseSha256 (value : String) : Bool :=
  value.utf8ByteSize == 64 && value.toList.all fun c => c.isDigit || ('a' ≤ c && c ≤ 'f')

/-- The discovery fields that go with the version. -/
def validateDiscovery (bundle : PairingBundle) : Except PairingError Unit :=
  if bundle.pairingVersion = 1 ∧ bundle.route = none then validateRelayEndpoint bundle.relayEndpoint
  else if bundle.pairingVersion = 2 ∧ bundle.route = some "direct" ∧ bundle.relayEndpoint = "" then
    validateDirectHost bundle.address
  else pairingInvalid "route" "invalid discovery route"

/-- The checks of a bundle in the order of the source. -/
def validateBundle (bundle : PairingBundle) : Except PairingError Unit := do
  require (bundle.pairingVersion = 1 ∨ bundle.pairingVersion = 2)
    (.invalidField "pairing_version" "unsupported version")
  pairingUuidV7 codec "pairing_id" bundle.pairingId
  pairingUuidV7 codec "host_id" bundle.hostId
  nonblank "host_name" bundle.hostName 80
  nonblank "server_name" bundle.serverName 253
  nonblank "address" bundle.address 253
  require (lowercaseSha256 bundle.leafSha256 = true)
    (.invalidField "leaf_sha256" "must be a lowercase SHA-256 fingerprint")
  nonblank "bootstrap_token" bundle.bootstrapToken 128
  validateDiscovery bundle
  require (bundle.port ≠ 0) (.invalidField "port" "must be non-zero")
  require (0 < bundle.expiresAtUnixSeconds.toInt)
    (.invalidField "expires_at_unix_seconds" "must be positive")

/-- The checks of a request in the order of the source. -/
def validateRequest (request : PairingRequest) : Except PairingError Unit := do
  pairingUuidV7 codec "pairing_id" request.pairingId
  pairingUuidV7 codec "client_id" request.clientId
  nonblank "bootstrap_token" request.bootstrapToken 128
  nonblank "display_name" request.displayName 80
  match request.version with
  | some version => nonblank "version" version 64
  | none => .ok ()

def validatePairingMessage : PairingServerMessage → Except PairingError Unit
  | .pending clientId displayName => do
    pairingUuidV7 codec "client_id" clientId
    nonblank "display_name" displayName 80
  | .succeeded hostId hostName caCertificateDer serverName nativeAddress nativePort accessToken
      nativeTransportVersion domainProtocolVersions => do
    pairingUuidV7 codec "host_id" hostId
    nonblank "host_name" hostName 80
    nonblank "ca_certificate_der" caCertificateDer (16 * 1024)
    nonblank "server_name" serverName 253
    nonblank "native_address" nativeAddress 253
    nonblank "access_token" accessToken 128
    require (nativePort ≠ 0 ∧ nativeTransportVersion ≠ 0)
      (.invalidField "endpoint" "port and version must be non-zero")
    require (domainProtocolVersions ≠ [])
      (.invalidField "domain_protocol_versions" "at least one version is required")
  | .error _ message _ => nonblank "message" message 512

def validatePairingVersion (version : UInt64) : Except PairingError Unit :=
  require (version.toNat = pairingProtocolVersion.toNat)
    (.invalidField "pairing_version" "unsupported version")

end Validation

/-- The entry of a text that is left out when it is empty. -/
def nonEmptyEntry (name value : String) : List (String × Json) :=
  if value = "" then [] else [(name, .string value)]

def someEntry (name : String) : Option String → List (String × Json)
  | none => []
  | some value => [(name, .string value)]

def nullableText : Option String → Json
  | none => .null
  | some value => .string value

namespace PairingBundle

def fieldNames : List String :=
  ["pairing_version", "pairing_id", "host_id", "host_name", "server_name", "address", "port",
    "leaf_sha256", "bootstrap_token", "relay_endpoint", "route", "expires_at_unix_seconds"]

def entries (self : PairingBundle) : List (String × Json) :=
  [("pairing_version", .int self.pairingVersion.toNat),
    ("pairing_id", .string self.pairingId), ("host_id", .string self.hostId),
    ("host_name", .string self.hostName), ("server_name", .string self.serverName),
    ("address", .string self.address), ("port", .int self.port.toNat),
    ("leaf_sha256", .string self.leafSha256), ("bootstrap_token", .string self.bootstrapToken)] ++
    nonEmptyEntry "relay_endpoint" self.relayEndpoint ++ someEntry "route" self.route ++
    [("expires_at_unix_seconds", .int self.expiresAtUnixSeconds.toInt)]

def serialize (self : PairingBundle) : Json := .object self.entries

def deserialize (value : Json) : Option PairingBundle := do
  let fields ← Serde.fields fieldNames value
  let pairingVersion ← fields.required "pairing_version" Serde.u16
  let pairingId ← fields.required "pairing_id" Serde.text
  let hostId ← fields.required "host_id" Serde.text
  let hostName ← fields.required "host_name" Serde.text
  let serverName ← fields.required "server_name" Serde.text
  let address ← fields.required "address" Serde.text
  let port ← fields.required "port" Serde.u16
  let leafSha256 ← fields.required "leaf_sha256" Serde.text
  let bootstrapToken ← fields.required "bootstrap_token" Serde.text
  let relayEndpoint ← fields.defaulted "relay_endpoint" "" Serde.text
  let route ← fields.defaulted "route" none (Serde.nullable Serde.text)
  let expiresAtUnixSeconds ← fields.required "expires_at_unix_seconds" Serde.i64
  some ⟨pairingVersion, pairingId, hostId, hostName, serverName, address, port, leafSha256,
    bootstrapToken, relayEndpoint, route, expiresAtUnixSeconds⟩

end PairingBundle

/-- The envelope of requests and server messages. -/
def envelope (message : Json) : Json :=
  .object [("pairing_version", .int pairingProtocolVersion.toNat), ("message", message)]

def readEnvelope {T : Type} (read : Json → Option T) (value : Json) : Option (UInt64 × T) := do
  let fields ← Serde.fields ["pairing_version", "message"] value
  let pairingVersion ← fields.required "pairing_version" Serde.u64
  let message ← fields.required "message" read
  some (pairingVersion, message)

namespace PairingRequest

def fieldNames : List String :=
  ["pairing_id", "bootstrap_token", "client_id", "display_name", "version"]

def entries (self : PairingRequest) : List (String × Json) :=
  [("pairing_id", .string self.pairingId), ("bootstrap_token", .string self.bootstrapToken),
    ("client_id", .string self.clientId), ("display_name", .string self.displayName),
    ("version", nullableText self.version)]

def serialize (self : PairingRequest) : Json :=
  .object (("type", .string "pair_request") :: self.entries)

def deserialize (value : Json) : Option PairingRequest := do
  let (variant, content) ← Serde.tagged "type" value
  if variant = "pair_request" then do
    let fields ← Serde.fields fieldNames content
    let pairingId ← fields.required "pairing_id" Serde.text
    let bootstrapToken ← fields.required "bootstrap_token" Serde.text
    let clientId ← fields.required "client_id" Serde.text
    let displayName ← fields.required "display_name" Serde.text
    let version ← fields.optional "version" Serde.text
    some ⟨pairingId, bootstrapToken, clientId, displayName, version⟩
  else none

end PairingRequest

def PairingErrorCode.name : PairingErrorCode → String
  | invalidRequest => "invalid_request"
  | invalidCredential => "invalid_credential"
  | expired => "expired"
  | used => "used"
  | denied => "denied"
  | capacity => "capacity"
  | internal => "internal"

def PairingErrorCode.ofName : String → Option PairingErrorCode
  | "invalid_request" => some invalidRequest
  | "invalid_credential" => some invalidCredential
  | "expired" => some expired
  | "used" => some used
  | "denied" => some denied
  | "capacity" => some capacity
  | "internal" => some internal
  | _ => none

@[simp] theorem PairingErrorCode.ofName_name (code : PairingErrorCode) :
    ofName code.name = some code := by
  cases code <;> rfl

namespace PairingServerMessage

/-- The tag of the variant. -/
def variant : PairingServerMessage → String
  | pending .. => "pairing_pending"
  | succeeded .. => "pairing_succeeded"
  | error .. => "pairing_error"

def entries : PairingServerMessage → List (String × Json)
  | pending clientId displayName =>
    [("client_id", .string clientId), ("display_name", .string displayName)]
  | succeeded hostId hostName caCertificateDer serverName nativeAddress nativePort accessToken
      nativeTransportVersion domainProtocolVersions =>
    [("host_id", .string hostId), ("host_name", .string hostName),
      ("ca_certificate_der", .string caCertificateDer), ("server_name", .string serverName),
      ("native_address", .string nativeAddress), ("native_port", .int nativePort.toNat),
      ("access_token", .string accessToken),
      ("native_transport_version", .int nativeTransportVersion.toNat),
      ("domain_protocol_versions",
        .array (domainProtocolVersions.map fun version => .int version.toNat))]
  | error code message recoverable =>
    [("code", .string code.name), ("message", .string message), ("recoverable", .bool recoverable)]

def serialize (self : PairingServerMessage) : Json :=
  .object (("type", .string self.variant) :: self.entries)

def pendingNames : List String := ["client_id", "display_name"]

def succeededNames : List String :=
  ["host_id", "host_name", "ca_certificate_der", "server_name", "native_address", "native_port",
    "access_token", "native_transport_version", "domain_protocol_versions"]

def errorNames : List String := ["code", "message", "recoverable"]

def deserialize (value : Json) : Option PairingServerMessage := do
  let (variant, content) ← Serde.tagged "type" value
  if variant = "pairing_pending" then do
    let fields ← Serde.fields pendingNames content
    let clientId ← fields.required "client_id" Serde.text
    let displayName ← fields.required "display_name" Serde.text
    some (.pending clientId displayName)
  else if variant = "pairing_succeeded" then do
    let fields ← Serde.fields succeededNames content
    let hostId ← fields.required "host_id" Serde.text
    let hostName ← fields.required "host_name" Serde.text
    let caCertificateDer ← fields.required "ca_certificate_der" Serde.text
    let serverName ← fields.required "server_name" Serde.text
    let nativeAddress ← fields.required "native_address" Serde.text
    let nativePort ← fields.required "native_port" Serde.u16
    let accessToken ← fields.required "access_token" Serde.text
    let nativeTransportVersion ← fields.required "native_transport_version" Serde.u16
    let domainProtocolVersions ← fields.required "domain_protocol_versions" (Serde.list Serde.u16)
    some (.succeeded hostId hostName caCertificateDer serverName nativeAddress nativePort accessToken
      nativeTransportVersion domainProtocolVersions)
  else if variant = "pairing_error" then do
    let fields ← Serde.fields errorNames content
    let code ← fields.required "code" fun code => (Serde.unitVariant code).bind PairingErrorCode.ofName
    let message ← fields.required "message" Serde.text
    let recoverable ← fields.required "recoverable" Serde.flag
    some (.error code message recoverable)
  else none

end PairingServerMessage

open Serde.Fields (required_of_mem)

/-- The written fields are known to the reader and distinct. -/
theorem PairingBundle.names_entries (self : PairingBundle) :
    self.entries.map Prod.fst ⊆ fieldNames ∧ (self.entries.map Prod.fst).Nodup := by
  have hnames : self.entries.map Prod.fst = fieldNames.take 9 ++
      (nonEmptyEntry "relay_endpoint" self.relayEndpoint).map Prod.fst ++
      (someEntry "route" self.route).map Prod.fst ++ ["expires_at_unix_seconds"] := by
    simp only [entries, List.map_append]
    rfl
  rw [hnames]
  have hrelay : (nonEmptyEntry "relay_endpoint" self.relayEndpoint).map Prod.fst = [] ∨
      (nonEmptyEntry "relay_endpoint" self.relayEndpoint).map Prod.fst = ["relay_endpoint"] := by
    unfold nonEmptyEntry
    split
    · exact .inl rfl
    · exact .inr rfl
  have hroute : (someEntry "route" self.route).map Prod.fst = [] ∨
      (someEntry "route" self.route).map Prod.fst = ["route"] := by
    cases self.route with
    | none => exact .inl rfl
    | some route => exact .inr rfl
  rcases hrelay with hrelay | hrelay <;> rcases hroute with hroute | hroute <;>
    rw [hrelay, hroute] <;> simp [fieldNames]

theorem PairingBundle.relay_read (self : PairingBundle) :
    (Serde.Fields.mk false self.entries).defaulted "relay_endpoint" "" Serde.text =
      some self.relayEndpoint := by
  by_cases hrelay : self.relayEndpoint = ""
  · have hnone : self.entries.lookup "relay_endpoint" = none := by
      apply Serde.lookup_of_not_mem
      cases hroute : self.route <;> simp [entries, nonEmptyEntry, someEntry, hrelay, hroute]
    rw [Serde.Fields.defaulted, hnone, hrelay]
  · have hmem : ("relay_endpoint", Json.string self.relayEndpoint) ∈ self.entries := by
      simp [entries, nonEmptyEntry, hrelay]
    rw [Serde.Fields.defaulted, Serde.lookup_of_mem self.names_entries.2 hmem]
    rfl

theorem PairingBundle.route_read (self : PairingBundle) :
    (Serde.Fields.mk false self.entries).defaulted "route" none (Serde.nullable Serde.text) =
      some self.route := by
  cases hroute : self.route with
  | none =>
    have hnone : self.entries.lookup "route" = none := by
      apply Serde.lookup_of_not_mem
      by_cases hrelay : self.relayEndpoint = "" <;>
        simp [entries, nonEmptyEntry, someEntry, hrelay, hroute]
    rw [Serde.Fields.defaulted, hnone]
  | some route =>
    have hmem : ("route", Json.string route) ∈ self.entries := by
      simp [entries, someEntry, hroute]
    rw [Serde.Fields.defaulted, Serde.lookup_of_mem self.names_entries.2 hmem]
    rfl

/-- A bundle is read back from its document, with an empty endpoint left out. -/
theorem PairingBundle.deserialize_serialize (self : PairingBundle) :
    deserialize self.serialize = some self := by
  have hdistinct := self.names_entries.2
  have hfields := Serde.fields_object _ rfl self.names_entries.1 hdistinct
  unfold deserialize
  refine Option.bind_eq_some_iff.mpr ⟨_, hfields, ?_⟩
  refine Option.bind_eq_some_iff.mpr ⟨self.pairingVersion, required_of_mem hdistinct (by simp [entries])
    (Serde.u16_int self.pairingVersion), ?_⟩
  refine Option.bind_eq_some_iff.mpr ⟨self.pairingId, required_of_mem hdistinct (by simp [entries])
    (Serde.text_string self.pairingId), ?_⟩
  refine Option.bind_eq_some_iff.mpr ⟨self.hostId, required_of_mem hdistinct (by simp [entries])
    (Serde.text_string self.hostId), ?_⟩
  refine Option.bind_eq_some_iff.mpr ⟨self.hostName, required_of_mem hdistinct (by simp [entries])
    (Serde.text_string self.hostName), ?_⟩
  refine Option.bind_eq_some_iff.mpr ⟨self.serverName, required_of_mem hdistinct (by simp [entries])
    (Serde.text_string self.serverName), ?_⟩
  refine Option.bind_eq_some_iff.mpr ⟨self.address, required_of_mem hdistinct (by simp [entries])
    (Serde.text_string self.address), ?_⟩
  refine Option.bind_eq_some_iff.mpr ⟨self.port, required_of_mem hdistinct (by simp [entries])
    (Serde.u16_int self.port), ?_⟩
  refine Option.bind_eq_some_iff.mpr ⟨self.leafSha256, required_of_mem hdistinct (by simp [entries])
    (Serde.text_string self.leafSha256), ?_⟩
  refine Option.bind_eq_some_iff.mpr ⟨self.bootstrapToken, required_of_mem hdistinct (by simp [entries])
    (Serde.text_string self.bootstrapToken), ?_⟩
  refine Option.bind_eq_some_iff.mpr ⟨_, self.relay_read, ?_⟩
  refine Option.bind_eq_some_iff.mpr ⟨_, self.route_read, ?_⟩
  refine Option.bind_eq_some_iff.mpr ⟨self.expiresAtUnixSeconds, required_of_mem hdistinct
    (by simp [entries]) (Serde.i64_int self.expiresAtUnixSeconds), ?_⟩
  rfl

theorem PairingRequest.deserialize_serialize (self : PairingRequest) :
    deserialize self.serialize = some self := by
  have hdistinct : (self.entries.map Prod.fst).Nodup := by
    show fieldNames.Nodup
    simp [fieldNames]
  have hfields := Serde.fields_object fieldNames (rfl : self.entries.map Prod.fst = _)
    (List.Subset.refl fieldNames) hdistinct
  have htagged : Serde.tagged "type" self.serialize = some ("pair_request", .object self.entries) :=
    Serde.tagged_object (by simp [entries])
  unfold deserialize
  refine Option.bind_eq_some_iff.mpr ⟨_, htagged, ?_⟩
  dsimp only
  rw [if_pos rfl]
  refine Option.bind_eq_some_iff.mpr ⟨_, hfields, ?_⟩
  refine Option.bind_eq_some_iff.mpr ⟨self.pairingId, required_of_mem hdistinct (by simp [entries])
    (Serde.text_string self.pairingId), ?_⟩
  refine Option.bind_eq_some_iff.mpr ⟨self.bootstrapToken, required_of_mem hdistinct (by simp [entries])
    (Serde.text_string self.bootstrapToken), ?_⟩
  refine Option.bind_eq_some_iff.mpr ⟨self.clientId, required_of_mem hdistinct (by simp [entries])
    (Serde.text_string self.clientId), ?_⟩
  refine Option.bind_eq_some_iff.mpr ⟨self.displayName, required_of_mem hdistinct (by simp [entries])
    (Serde.text_string self.displayName), ?_⟩
  have hversion : (Serde.Fields.mk false self.entries).optional "version" Serde.text =
      some self.version := by
    have hmem : ("version", nullableText self.version) ∈ self.entries := by simp [entries]
    rw [Serde.Fields.optional, Serde.lookup_of_mem hdistinct hmem]
    cases self.version <;> rfl
  exact Option.bind_eq_some_iff.mpr ⟨_, hversion, rfl⟩

theorem PairingServerMessage.deserialize_serialize (self : PairingServerMessage) :
    deserialize self.serialize = some self := by
  have htagged : Serde.tagged "type" self.serialize = some (self.variant, .object self.entries) := by
    apply Serde.tagged_object
    cases self <;> simp [entries]
  unfold deserialize
  refine Option.bind_eq_some_iff.mpr ⟨_, htagged, ?_⟩
  cases self with
  | pending client display =>
    have hdistinct : ((pending client display).entries.map Prod.fst).Nodup := by
      show pendingNames.Nodup
      simp [pendingNames]
    have hfields := Serde.fields_object pendingNames
      (rfl : (pending client display).entries.map Prod.fst = _) (List.Subset.refl _) hdistinct
    dsimp only [variant]
    rw [if_pos rfl]
    refine Option.bind_eq_some_iff.mpr ⟨_, hfields, ?_⟩
    refine Option.bind_eq_some_iff.mpr ⟨client, required_of_mem hdistinct (by simp [entries])
      (Serde.text_string client), ?_⟩
    refine Option.bind_eq_some_iff.mpr ⟨display, required_of_mem hdistinct (by simp [entries])
      (Serde.text_string display), ?_⟩
    rfl
  | succeeded host hostName ca server address port token version versions =>
    let message := succeeded host hostName ca server address port token version versions
    have hdistinct : (message.entries.map Prod.fst).Nodup := by
      show succeededNames.Nodup
      simp [succeededNames]
    have hfields := Serde.fields_object succeededNames (rfl : message.entries.map Prod.fst = _)
      (List.Subset.refl _) hdistinct
    dsimp only [variant]
    rw [if_neg (by simp), if_pos rfl]
    refine Option.bind_eq_some_iff.mpr ⟨_, hfields, ?_⟩
    refine Option.bind_eq_some_iff.mpr ⟨host, required_of_mem hdistinct (by simp [message, entries])
      (Serde.text_string host), ?_⟩
    refine Option.bind_eq_some_iff.mpr ⟨hostName, required_of_mem hdistinct (by simp [message, entries])
      (Serde.text_string hostName), ?_⟩
    refine Option.bind_eq_some_iff.mpr ⟨ca, required_of_mem hdistinct (by simp [message, entries])
      (Serde.text_string ca), ?_⟩
    refine Option.bind_eq_some_iff.mpr ⟨server, required_of_mem hdistinct (by simp [message, entries])
      (Serde.text_string server), ?_⟩
    refine Option.bind_eq_some_iff.mpr ⟨address, required_of_mem hdistinct (by simp [message, entries])
      (Serde.text_string address), ?_⟩
    refine Option.bind_eq_some_iff.mpr ⟨port, required_of_mem hdistinct (by simp [message, entries])
      (Serde.u16_int port), ?_⟩
    refine Option.bind_eq_some_iff.mpr ⟨token, required_of_mem hdistinct (by simp [message, entries])
      (Serde.text_string token), ?_⟩
    refine Option.bind_eq_some_iff.mpr ⟨version, required_of_mem hdistinct (by simp [message, entries])
      (Serde.u16_int version), ?_⟩
    refine Option.bind_eq_some_iff.mpr ⟨versions, required_of_mem hdistinct
      (by simp [message, entries]) (Serde.list_map Serde.u16_int versions), ?_⟩
    rfl
  | error code message recoverable =>
    have hdistinct : ((error code message recoverable).entries.map Prod.fst).Nodup := by
      show errorNames.Nodup
      simp [errorNames]
    have hfields := Serde.fields_object errorNames
      (rfl : (error code message recoverable).entries.map Prod.fst = _) (List.Subset.refl _) hdistinct
    dsimp only [variant]
    rw [if_neg (by simp), if_neg (by simp), if_pos rfl]
    refine Option.bind_eq_some_iff.mpr ⟨_, hfields, ?_⟩
    have hcode : (Serde.unitVariant (.string code.name)).bind PairingErrorCode.ofName = some code :=
      code.ofName_name
    refine Option.bind_eq_some_iff.mpr ⟨code, required_of_mem hdistinct (by simp [entries]) hcode, ?_⟩
    refine Option.bind_eq_some_iff.mpr ⟨message, required_of_mem hdistinct (by simp [entries])
      (Serde.text_string message), ?_⟩
    refine Option.bind_eq_some_iff.mpr ⟨recoverable, required_of_mem hdistinct (by simp [entries])
      (Serde.flag_bool recoverable), ?_⟩
    rfl

theorem readEnvelope_envelope {T : Type} {read : Json → Option T} {message : Json} {record : T}
    (h : read message = some record) :
    readEnvelope read (envelope message) = some (1, record) := by
  let entries : List (String × Json) :=
    [("pairing_version", .int pairingProtocolVersion.toNat), ("message", message)]
  have hdistinct : (entries.map Prod.fst).Nodup := by
    show ["pairing_version", "message"].Nodup
    simp
  have hfields := Serde.fields_object ["pairing_version", "message"]
    (rfl : entries.map Prod.fst = _) (List.Subset.refl _) hdistinct
  have hversion : Serde.u64 (.int pairingProtocolVersion.toNat) = some 1 := Serde.u64_int 1
  unfold readEnvelope
  refine Option.bind_eq_some_iff.mpr ⟨_, hfields, ?_⟩
  refine Option.bind_eq_some_iff.mpr
    ⟨1, required_of_mem hdistinct (by simp [entries]) hversion, ?_⟩
  exact Option.bind_eq_some_iff.mpr ⟨record, required_of_mem hdistinct (by simp [entries]) h, rfl⟩

section Codec

variable (codec : PairingCodec)

/-- The text after a given front. -/
def stripPrefix (front text : String) : Option String :=
  (front.toList.isPrefixOf? text.toList).map String.ofList

def uriFront (version : Nat) : String := s!"agentpulse://pair/v{version}/"

def PairingBundle.toUri (self : PairingBundle) : Except PairingError String := do
  validateBundle codec self
  let bytes ← (codec.toVec self.serialize).mapError .json
  .ok (uriFront self.pairingVersion.toNat ++ codec.encode bytes)

/-- `serde_json::from_slice` of a record. -/
def readJson {T : Type} (read : Json → Option T) (bytes : List UInt8) : Except PairingError T := do
  let value ← (codec.fromSlice bytes).mapError .json
  match read value with
  | some record => .ok record
  | none => .error (.json (codec.dataError bytes))

/-- The front of the text must be that of the version which the document names. -/
def decodePairingUri (now : Int) (uri : String) : Except PairingError PairingBundle :=
  match (stripPrefix (uriFront 1) uri).or (stripPrefix (uriFront 2) uri) with
  | none => pairingInvalid "pairing_uri" "unsupported URI scheme or version"
  | some encoded => do
    let bytes ← (codec.decode encoded).mapError .base64
    let bundle ← readJson codec PairingBundle.deserialize bytes
    validateBundle codec bundle
    let value ← readJson codec some bytes
    if (stripPrefix (uriFront bundle.pairingVersion.toNat) uri).isNone ∨
        (bundle.pairingVersion = 1 ∧
          ((value.get "route").isSome ∨ (value.get "relay_endpoint").isNone)) ∨
        (bundle.pairingVersion = 2 ∧ (value.get "relay_endpoint").isSome) then
      pairingInvalid "pairing_uri" "discovery fields or version mismatch"
    else if bundle.expiresAtUnixSeconds.toInt ≤ now then
      pairingInvalid "expires_at_unix_seconds" "pairing session expired"
    else .ok bundle

/-- A message is checked before it is written in its envelope. -/
def encodePairingEnvelope (valid : Except PairingError Unit) (message : Json) :
    Except PairingError (List UInt8) := do
  valid
  (codec.toVec (envelope message)).mapError .json

/-- A message is read from its envelope and checked after the version. -/
def decodePairingEnvelope {T : Type} (read : Json → Option T) (validate : T → Except PairingError Unit)
    (input : List UInt8) : Except PairingError T := do
  let (version, message) ← readJson codec (readEnvelope read) input
  validatePairingVersion version
  validate message
  .ok message

def encodePairingRequest (request : PairingRequest) : Except PairingError (List UInt8) :=
  encodePairingEnvelope codec (validateRequest codec request) request.serialize

def decodePairingRequest : List UInt8 → Except PairingError PairingRequest :=
  decodePairingEnvelope codec PairingRequest.deserialize (validateRequest codec)

def encodePairingMessage (message : PairingServerMessage) : Except PairingError (List UInt8) :=
  encodePairingEnvelope codec (validatePairingMessage codec message) message.serialize

def decodePairingMessage : List UInt8 → Except PairingError PairingServerMessage :=
  decodePairingEnvelope codec PairingServerMessage.deserialize (validatePairingMessage codec)

end Codec

namespace Sample

/-- The libraries on the documents of these values. -/
def tableCodec (values : List Json) : PairingCodec where
  toVec value := .ok value.toVec
  fromSlice bytes :=
    match Json.readAmong values bytes with
    | some value => .ok value
    | none => .error "expected value"
  dataError _ := "invalid type"
  encode := Base64.encode .urlSafe
  decode text :=
    match Base64.decode .urlSafe text with
    | some bytes => .ok bytes
    | none => .error "Invalid padding"
  uuidError _ := "invalid UUID"

end Sample

end AgentPulse

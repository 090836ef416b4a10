import AgentPulse.RelayEndpoints

/-!
# Where endpoints come from

An endpoint is built from a name and a port, read from a text, or read from the
configuration file of the relay or of the host. The files are read by derived readers,
which look at no field of an endpoint.
-/
namespace AgentPulse

open Serde (Json)

namespace RelayEndpoint

theorem canonical_iff {self : RelayEndpoint} :
    self.Canonical ↔ canonicalDnsName self.host.toList = true ∧ self.port ≠ 0 := by
  constructor
  · rintro ⟨hhost, hport, -⟩
    exact ⟨validateHost_eq_ok.mp hhost, hport⟩
  · rintro ⟨hhost, hport⟩
    refine ⟨validateHost_eq_ok.mpr hhost, hport, ?_⟩
    have hvalue := parseU16_toDigits self.port.toNat_lt
    have hchars : ∀ c ∈ self.authority.toList,
        isWhitespace c = false ∧ "/?#@".toList.contains c = false := by
      intro c hc
      rw [toList_authority] at hc
      exact authorityChar hhost hvalue hc
    have htrim : trim self.authority.toList = self.authority.toList := by
      rw [trim, List.dropWhile_eq_self_iff.mpr, List.dropWhile_eq_self_iff.mpr,
        List.reverse_reverse]
      · intro hpos
        rw [(hchars _ (List.getElem_mem hpos)).1]
        simp
      · intro hpos
        have hmem := List.mem_reverse.mp (List.getElem_mem hpos)
        rw [(hchars _ ((List.dropWhile_suffix _).subset hmem)).1]
        simp
    have hdelimiter : (self.authority.toList.any fun c => "/?#@".toList.contains c) = false := by
      rw [List.any_eq_false]
      intro c hc
      rw [(hchars c hc).2]
      simp
    have hsplit : rsplitOnce ':' self.authority.toList =
        some (self.host.toList, Nat.toDigits 10 self.port.toNat) :=
      rsplitOnce_eq_some.mpr ⟨self.toList_authority, colon_not_mem_toDigits _⟩
    have hlower := toAsciiLowercase_of_canonical hhost
    simp only [fromStr, htrim, hdelimiter, hsplit, hvalue, UInt16.ofNat_toNat, String.ofList_toList]
    refine new_eq_ok.mpr ⟨?_, hhost, hport⟩
    rw [hlower]

theorem canonical_of_new {host : String} {port : UInt16} {e : RelayEndpoint}
    (h : new host port = .ok e) : e.Canonical := by
  obtain ⟨rfl, hhost, hport⟩ := new_eq_ok.mp h
  exact canonical_iff.mpr ⟨hhost, hport⟩

theorem canonical_of_fromStr {value : String} {e : RelayEndpoint} (h : fromStr value = .ok e) :
    e.Canonical := by
  simp only [fromStr, relayInvalid] at h
  split at h
  · cases h
  · split at h
    · cases h
    · split at h
      · cases h
      · exact canonical_of_new h

/-- The last colon of an authority stands before the port, so an authority is that of one
endpoint, canonical or not. -/
theorem authority_injective : Function.Injective authority := by
  intro e e' h
  have hsplit : ∀ e : RelayEndpoint, rsplitOnce ':' e.authority.toList =
      some (e.host.toList, Nat.toDigits 10 e.port.toNat) := fun e =>
    rsplitOnce_eq_some.mpr ⟨e.toList_authority, colon_not_mem_toDigits _⟩
  have hparts := hsplit e
  rw [h, hsplit e'] at hparts
  obtain ⟨hhost, hport⟩ := Prod.mk.inj (Option.some.inj hparts)
  have hvalue : e.port.toNat = e'.port.toNat := by
    have hread := parseU16_toDigits e'.port.toNat_lt
    rw [hport] at hread
    exact Option.some.inj ((parseU16_toDigits e.port.toNat_lt).symm.trans hread)
  calc e = ⟨e.host, e.port⟩ := rfl
    _ = ⟨e'.host, e'.port⟩ := by
      rw [String.toList_injective hhost, UInt16.toNat_inj.mp hvalue]
    _ = e' := rfl

/-- Only a canonical endpoint is written the way a checked one is. -/
theorem canonical_iff_authority (e : RelayEndpoint) :
    e.Canonical ↔ ∃ host port e', new host port = .ok e' ∧ e'.authority = e.authority := by
  constructor
  · intro h
    obtain ⟨hhost, hport⟩ := canonical_iff.mp h
    refine ⟨e.host, e.port, e, new_eq_ok.mpr ⟨?_, hhost, hport⟩, rfl⟩
    rw [toAsciiLowercase_of_canonical hhost]
  · rintro ⟨host, port, e', hnew, hsame⟩
    rw [← authority_injective hsame]
    exact canonical_of_new hnew

def fields : List String := ["host", "port"]

/-- The derived reader. -/
def read (value : Json) : Option RelayEndpoint := do
  let record ← Serde.fields fields value
  let host ← record.required "host" Serde.text
  let port ← record.required "port" Serde.u16
  some ⟨host, port⟩

end RelayEndpoint

theorem RelayEndpoint.read_eq_some {value : Json} {e : RelayEndpoint} :
    RelayEndpoint.read value = some e ↔ ∃ record, Serde.fields RelayEndpoint.fields value = some record ∧
      record.entries.lookup "host" = some (.string e.host) ∧
      record.entries.lookup "port" = some (.int e.port.toNat) := by
  simp only [RelayEndpoint.read, Serde.Fields.required, Option.bind_eq_bind, Option.bind_eq_some_iff]
  constructor
  · rintro ⟨record, hrecord, host, ⟨hostEntry, hhost, hname⟩, port, ⟨portEntry, hport, hnumber⟩, he⟩
    obtain rfl := Option.some.inj he
    obtain rfl := Serde.text_eq_some.mp hname
    obtain rfl := Serde.u16_eq_some.mp hnumber
    exact ⟨record, hrecord, hhost, hport⟩
  · rintro ⟨record, hrecord, hhost, hport⟩
    exact ⟨record, hrecord, e.host, ⟨_, hhost, Serde.text_string _⟩, e.port,
      ⟨_, hport, Serde.u16_int _⟩, rfl⟩

namespace RelayConfig

structure ConfigCodec where
  fromSlice : List UInt8 → Except String Json
  /-- The diagnostic for a document that is no record of its type. -/
  dataError : List UInt8 → String
  /-- SHA-256 of an enrollment token. -/
  sha256 : String → Digest

section

variable (codec : ConfigCodec) (lib : RelayLibrary)

def relayConfigSchemaVersion : UInt16 := 1

structure RelayServerConfig where
  schemaVersion : UInt16
  bindAddress : IpAddr.SocketAddr
  publicEndpoint : RelayEndpoint
  certificateChain : String
  privateKey : String
  hostId : String
  hostAuthenticationKey : String
  deriving DecidableEq, Repr

def serverFields : List String :=
  ["schema_version", "bind_address", "public_endpoint", "certificate_chain", "private_key",
    "host_id", "host_authentication_key"]

def socketAddr (value : Json) : Option IpAddr.SocketAddr := (Serde.text value).bind IpAddr.parseSocket

def RelayServerConfig.read (value : Json) : Option RelayServerConfig := do
  let record ← Serde.fields serverFields value
  let schemaVersion ← record.required "schema_version" Serde.u16
  let bindAddress ← record.required "bind_address" socketAddr
  let publicEndpoint ← record.required "public_endpoint" RelayEndpoint.read
  let certificateChain ← record.required "certificate_chain" Serde.text
  let privateKey ← record.required "private_key" Serde.text
  let hostId ← record.required "host_id" Serde.text
  let hostAuthenticationKey ← record.required "host_authentication_key" Serde.text
  some { schemaVersion, bindAddress, publicEndpoint, certificateChain, privateKey, hostId,
         hostAuthenticationKey }

def hostUuid (hostId : String) : Except RelayError Unit :=
  match Uuid.parseStr hostId with
  | none => relayInvalid "host_id" (lib.uuidError hostId)
  | some uuid =>
    if uuid.getVersionNum = 7 then .ok () else relayInvalid "host_id" "must be UUIDv7"

def decodeKey (value : String) : Except RelayError Digest := do
  let bytes ← (lib.decode value).mapError .base64
  if h : bytes.length = 32 then .ok ⟨bytes, h⟩
  else relayInvalid "host_authentication_key" "must contain 32 bytes"

def RelayServerConfig.validate (self : RelayServerConfig) : Except RelayError Unit :=
  if self.schemaVersion ≠ relayConfigSchemaVersion then
    relayInvalid "schema_version" "unsupported version"
  else if self.bindAddress.port = 0 then relayInvalid "bind_address" "port must be non-zero"
  else do
    hostUuid lib self.hostId
    let _ ← decodeKey lib self.hostAuthenticationKey
    if self.certificateChain.isEmpty ∨ self.privateKey.isEmpty then
      relayInvalid "tls" "certificate and key paths are required"
    else .ok ()

/-- The outcome of reading the file, or what the file system reports. -/
def RelayServerConfig.load (file : Except String (List UInt8)) :
    Except RelayError RelayServerConfig := do
  let bytes ← file.mapError (.io "read Relay configuration")
  let value ← (codec.fromSlice bytes).mapError .json
  match RelayServerConfig.read value with
  | none => .error (.json (codec.dataError bytes))
  | some config =>
    config.validate lib
    .ok config

structure RelayHostConnectionConfig where
  endpoint : RelayEndpoint
  hostId : String
  hostAuthenticationKey : Digest
  localTunnelAddress : IpAddr.SocketAddr
  deriving DecidableEq

def RelayHostConnectionConfig.fromKey (endpoint : RelayEndpoint) (hostId : String)
    (authenticationKey : Digest) (localTunnelAddress : IpAddr.SocketAddr) :
    Except RelayError RelayHostConnectionConfig := do
  hostUuid lib hostId
  if localTunnelAddress.port = 0 then relayInvalid "local_tunnel_address" "port must be non-zero"
  else .ok ⟨endpoint, hostId, authenticationKey, localTunnelAddress⟩

def RelayHostConnectionConfig.new (endpoint : RelayEndpoint) (hostId enrollmentToken : String)
    (localTunnelAddress : IpAddr.SocketAddr) : Except RelayError RelayHostConnectionConfig :=
  let text := enrollmentToken.toList
  if (trim text).isEmpty ∨ trim text ≠ text ∨ 128 < enrollmentToken.utf8ByteSize then
    relayInvalid "enrollment_token"
      "must be nonblank, unpadded by whitespace, and at most 128 bytes"
  else RelayHostConnectionConfig.fromKey lib endpoint hostId (codec.sha256 enrollmentToken) localTunnelAddress

def relayHostConfigSchemaVersion : UInt16 := 1

structure RelayHostConfigRecord where
  schemaVersion : UInt16
  endpoint : RelayEndpoint
  enrollmentToken : String

def hostFields : List String := ["schema_version", "endpoint", "enrollment_token"]

def RelayHostConfigRecord.read (value : Json) : Option RelayHostConfigRecord := do
  let record ← Serde.fields hostFields value
  let schemaVersion ← record.required "schema_version" Serde.u16
  let endpoint ← record.required "endpoint" RelayEndpoint.read
  let enrollmentToken ← record.required "enrollment_token" Serde.text
  some { schemaVersion, endpoint, enrollmentToken }

structure RelayHostSettings where
  endpoint : RelayEndpoint
  enrollmentToken : String
  deriving DecidableEq, Repr

inductive FileError where
  | notFound
  | other (source : String)
  deriving DecidableEq, Repr

inductive SettingsError where
  | io (source : String)
  | json (source : String)
  | unsupportedSchema (message : String)
  | relay (error : RelayError)
  deriving DecidableEq, Repr

def loopback : IpAddr.SocketAddr := ⟨.v4 [127, 0, 0, 1], 0, 1⟩

/-- A file that is not there, when it is protected or when it is read, sets nothing. -/
def loadRelaySettings (protectFile : Except FileError Unit) (file : Except FileError (List UInt8))
    (hostId : String) : Except SettingsError (Option RelayHostSettings) :=
  match protectFile, file with
  | .error .notFound, _ => .ok none
  | .error (.other source), _ => .error (.io source)
  | .ok (), .error .notFound => .ok none
  | .ok (), .error (.other source) => .error (.io source)
  | .ok (), .ok bytes => do
    let value ← (codec.fromSlice bytes).mapError .json
    match RelayHostConfigRecord.read value with
    | none => .error (.json (codec.dataError bytes))
    | some record =>
      if record.schemaVersion ≠ relayHostConfigSchemaVersion then
        .error (.unsupportedSchema
          s!"unsupported Relay Host configuration schema {record.schemaVersion}")
      else do
        let _ ← (RelayHostConnectionConfig.new codec lib record.endpoint hostId
          record.enrollmentToken loopback).mapError .relay
        .ok (some ⟨record.endpoint, record.enrollmentToken⟩)

/-- The entry of the endpoint has a checked name and a port other than zero. -/
def WritesCanonical (names : List String) (name : String) (bytes : List UInt8) : Prop :=
  ∃ value record entry endpoint host port, codec.fromSlice bytes = .ok value ∧
    Serde.fields names value = some record ∧ record.entries.lookup name = some entry ∧
    Serde.fields RelayEndpoint.fields entry = some endpoint ∧
    endpoint.entries.lookup "host" = some (.string host) ∧
    endpoint.entries.lookup "port" = some (.int port) ∧ validateHost host = .ok () ∧ port ≠ 0

/-- The endpoint that a file is read with is canonical if its entry is. -/
theorem canonical_iff_writes {names : List String} {name : String} {bytes : List UInt8}
    {value : Json} {record : Serde.Fields} {e : RelayEndpoint}
    (hparsed : codec.fromSlice bytes = .ok value) (hrecord : Serde.fields names value = some record)
    (hread : record.required name RelayEndpoint.read = some e) :
    e.Canonical ↔ WritesCanonical codec names name bytes := by
  obtain ⟨entry, hentry, hendpoint⟩ := Option.bind_eq_some_iff.mp hread
  obtain ⟨endpoint, hfields, hhost, hport⟩ := RelayEndpoint.read_eq_some.mp hendpoint
  have hport_zero : (e.port.toNat : Int) = 0 ↔ e.port = 0 := by
    rw [Int.natCast_eq_zero, ← UInt16.toNat_inj]
    rfl
  constructor
  · rintro ⟨hvalid, hnonzero, -⟩
    exact ⟨value, record, entry, endpoint, e.host, e.port.toNat, hparsed, hrecord, hentry, hfields,
      hhost, hport, hvalid, fun hzero => hnonzero (hport_zero.mp hzero)⟩
  · rintro ⟨value', record', entry', endpoint', host, port, hparsed', hrecord', hentry', hfields',
      hhost', hport', hvalid, hnonzero⟩
    obtain rfl := Except.ok.inj (hparsed.symm.trans hparsed')
    obtain rfl := Option.some.inj (hrecord.symm.trans hrecord')
    obtain rfl := Option.some.inj (hentry.symm.trans hentry')
    obtain rfl := Option.some.inj (hfields.symm.trans hfields')
    obtain rfl := Json.string.inj (Option.some.inj (hhost.symm.trans hhost'))
    obtain rfl := Json.int.inj (Option.some.inj (hport.symm.trans hport'))
    exact RelayEndpoint.canonical_iff.mpr
      ⟨validateHost_eq_ok.mp hvalid, fun hzero => hnonzero (hport_zero.mpr hzero)⟩

theorem RelayServerConfig.canonical_of_load {file : Except String (List UInt8)}
    {config : RelayServerConfig} (h : RelayServerConfig.load codec lib file = .ok config) :
    ∃ bytes, file = .ok bytes ∧
      (config.publicEndpoint.Canonical ↔ WritesCanonical codec serverFields "public_endpoint" bytes) := by
  simp only [load, Fallible.bind_eq_ok, Fallible.mapError_eq_ok] at h
  obtain ⟨bytes, hfile, value, hparsed, h⟩ := h
  split at h
  · cases h
  · rename_i config' hread
    obtain ⟨-, -, hconfig⟩ := Fallible.bind_eq_ok.mp h
    obtain rfl := Except.ok.inj hconfig
    simp only [read, Option.bind_eq_bind, Option.bind_eq_some_iff] at hread
    obtain ⟨record, hrecord, _, -, _, -, endpoint, hendpoint, _, -, _, -, _, -, _, -, hmade⟩ := hread
    obtain rfl := Option.some.inj hmade
    exact ⟨bytes, hfile, canonical_iff_writes codec hparsed hrecord hendpoint⟩

theorem canonical_of_loadRelaySettings {protectFile : Except FileError Unit}
    {file : Except FileError (List UInt8)} {hostId : String} {settings : RelayHostSettings}
    (h : loadRelaySettings codec lib protectFile file hostId = .ok (some settings)) :
    ∃ bytes, file = .ok bytes ∧
      (settings.endpoint.Canonical ↔ WritesCanonical codec hostFields "endpoint" bytes) := by
  unfold loadRelaySettings at h
  split at h
  case h_1 | h_2 | h_3 | h_4 => cases h
  case h_5 bytes =>
    obtain ⟨value, hvalue, h⟩ := Fallible.bind_eq_ok.mp h
    have hparsed := Fallible.mapError_eq_ok.mp hvalue
    split at h
    · cases h
    · rename_i record hread
      split at h
      · cases h
      · obtain ⟨-, -, hsettings⟩ := Fallible.bind_eq_ok.mp h
        obtain rfl := Option.some.inj (Except.ok.inj hsettings)
        simp only [RelayHostConfigRecord.read, Option.bind_eq_bind, Option.bind_eq_some_iff] at hread
        obtain ⟨fields, hfields, _, -, endpoint, hendpoint, _, -, hmade⟩ := hread
        obtain rfl := Option.some.inj hmade
        exact ⟨bytes, rfl, canonical_iff_writes codec hparsed hfields hendpoint⟩

/-- Checked endpoints are canonical, and those of accepted files are exactly if the entry of
the file is; no two endpoints share an authority. -/
theorem endpoint_canonical :
    (∀ host port e, RelayEndpoint.new host port = .ok e → e.Canonical) ∧
    (∀ value e, RelayEndpoint.fromStr value = .ok e → e.Canonical) ∧
    (∀ file config, RelayServerConfig.load codec lib file = .ok config →
      ∃ bytes, file = .ok bytes ∧ (config.publicEndpoint.Canonical ↔
        WritesCanonical codec serverFields "public_endpoint" bytes)) ∧
    (∀ protectFile file hostId settings,
      loadRelaySettings codec lib protectFile file hostId = .ok (some settings) →
      ∃ bytes, file = .ok bytes ∧
        (settings.endpoint.Canonical ↔ WritesCanonical codec hostFields "endpoint" bytes)) ∧
    (∀ e e' : RelayEndpoint, e.authority = e'.authority → e = e') ∧
    (∀ e : RelayEndpoint, e.Canonical ↔
      ∃ host port e', RelayEndpoint.new host port = .ok e' ∧ e'.authority = e.authority) :=
  ⟨fun _ _ _ h => RelayEndpoint.canonical_of_new h,
    fun _ _ h => RelayEndpoint.canonical_of_fromStr h,
    fun _ _ h => RelayServerConfig.canonical_of_load codec lib h,
    fun _ _ _ _ h => canonical_of_loadRelaySettings codec lib h,
    fun _ _ h => RelayEndpoint.authority_injective h,
    RelayEndpoint.canonical_iff_authority⟩

end

end RelayConfig

namespace Sample

open RelayConfig

def settingsText : String :=
  "\x7b\"schema_version\":1,\"endpoint\":\x7b\"host\":\"Relay.Example.COM\",\"port\":0\x7d," ++
    "\"enrollment_token\":\"token\"\x7d"

def settingsFile : Json :=
  .object [("schema_version", .int 1),
    ("endpoint", .object [("host", .string "Relay.Example.COM"), ("port", .int 0)]),
    ("enrollment_token", .string "token")]

/-- The reader on the one document of the example. -/
def settingsCodec : ConfigCodec where
  fromSlice bytes :=
    if bytes = Bytes.utf8 settingsText then .ok settingsFile else .error "expected value"
  dataError _ := "invalid type"
  sha256 _ := .filled 7

def settingsLibrary : RelayLibrary where
  hmac _ _ := .filled 7
  encode _ := ""
  decode _ := .error "invalid byte"
  uuidError _ := "invalid UUID"

end Sample

open RelayConfig Sample in
/-- The host takes an endpoint with capitals and port zero from its file. -/
theorem endpoint_not_canonical :
    ¬∀ (codec : ConfigCodec) (lib : RelayLibrary) protectFile file hostId settings,
      loadRelaySettings codec lib protectFile file hostId = .ok (some settings) →
      settings.endpoint.Canonical := by
  intro h
  have hparsed : settingsCodec.fromSlice (Bytes.utf8 settingsText) = .ok settingsFile := by
    simp [settingsCodec]
  have hloaded : loadRelaySettings settingsCodec settingsLibrary (.ok ())
      (.ok (Bytes.utf8 settingsText)) "0198f142-5a00-7000-8000-000000000002" =
      .ok (some ⟨⟨"Relay.Example.COM", 0⟩, "token"⟩) := by
    simp only [loadRelaySettings, hparsed]
    decide +kernel
  exact (h _ _ _ _ _ _ hloaded).port rfl

end AgentPulse

import AgentPulse.Base64
import AgentPulse.Bytes
import AgentPulse.CoreUuid
import AgentPulse.Fallible
import AgentPulse.PairingStore

/-!
# Relay proofs and derived routes

A proof is a keyed hash over everything that a connection is about: its role,
its challenge and what it registers or asks for. The transcripts are concatenations
of fields of fixed width, so that two transcripts agree only if their fields do.
HMAC-SHA256, base64 and SHA-256 are parameters.
-/
namespace AgentPulse

open Bytes (utf8 bigEndian)

inductive RelayError where
  | invalidField (field reason : String)
  | json (source : String)
  | base64 (source : String)
  | io (operation source : String)
  | tls (message : String)
  | authentication
  | protocol (message : String)
  | timeout (operation : String)
  | hostUnavailable
  | hostBusy
  | routesChanged
  | stopped
  deriving DecidableEq, Repr

structure RelayLibrary where
  /-- HMAC-SHA256 of a key and a message. -/
  hmac : List UInt8 → List UInt8 → Digest
  /-- Base64 of the URL alphabet without padding. -/
  encode : List UInt8 → String
  decode : String → Except String (List UInt8)
  uuidError : String → String

/-- What base64 without padding guarantees: a text is read back, and only one text is
read as given bytes. -/
structure RelayLibrary.Lawful (lib : RelayLibrary) : Prop where
  decode_encode : ∀ bytes, lib.decode (lib.encode bytes) = .ok bytes
  decode_injective : ∀ text text' bytes,
    lib.decode text = .ok bytes → lib.decode text' = .ok bytes → text = text'

/-- A validated DNS name and port. -/
structure RelayEndpoint where
  host : String
  port : UInt16
  deriving DecidableEq, Repr

def RelayEndpoint.authority (self : RelayEndpoint) : String := s!"{self.host}:{self.port.toNat}"

structure RouteRegistration where
  routeId : String
  authenticationKey : String
  deriving DecidableEq, Repr

structure RelayRouteCredential where
  routeId : String
  authenticationKey : Digest
  deriving DecidableEq, Repr

def routeDomain : String := "agentpulse.relay.v1.route\x00"
def clientAuthDomain : String := "agentpulse.relay.v1.client-auth\x00"
def proofDomain : String := "agentpulse.relay.v1.proof\x00"
def hostProofRole : UInt8 := 1
def clientProofRole : UInt8 := 2

/-- The message that starts an authentication exchange. -/
structure RelayChallenge where
  connection : Uuid
  version7 : connection.getVersionNum = 7
  nonce : Digest
  expiresAtUnixSeconds : Int64

theorem RelayChallenge.ext_iff_fields {a b : RelayChallenge} :
    a.connection = b.connection ∧ a.nonce = b.nonce ∧
      a.expiresAtUnixSeconds = b.expiresAtUnixSeconds ↔ a = b := by
  cases a
  cases b
  simp

instance : DecidableEq RelayChallenge := fun _ _ =>
  decidable_of_iff _ RelayChallenge.ext_iff_fields

/-- The identity of the connection as it travels. -/
def RelayChallenge.connectionId (self : RelayChallenge) : String := self.connection.toString

section

variable (lib : RelayLibrary)

def keyed (key front value : List UInt8) : Digest := lib.hmac key (front ++ value)

def deriveRoute (deviceRoot : Digest) (endpoint : RelayEndpoint) : RelayRouteCredential :=
  let authority := endpoint.authority
  let route := keyed lib deviceRoot.val (utf8 routeDomain) (utf8 authority)
  let authenticationKey := keyed lib deviceRoot.val (utf8 clientAuthDomain) (utf8 authority)
  ⟨lib.encode route.val, authenticationKey⟩

def relayDecode32 (field value : String) : Except RelayError Digest := do
  let bytes ← (lib.decode value).mapError .base64
  if h : bytes.length = 32 then .ok ⟨bytes, h⟩
  else .error (.invalidField field "must contain exactly 32 bytes")

def uuidBytes (field value : String) : Except RelayError (List UInt8) :=
  match Uuid.parseStr value with
  | none => .error (.invalidField field (lib.uuidError value))
  | some uuid =>
    if uuid.getVersionNum ≠ 7 then .error (.invalidField field "must be UUIDv7")
    else .ok (bigEndian 16 uuid.value.toNat)

def proofPrefix (role : UInt8) (connectionId : String) (nonce : Digest)
    (expiresAtUnixSeconds : Int64) : Except RelayError (List UInt8) := do
  let connection ← uuidBytes lib "connection_id" connectionId
  .ok (utf8 proofDomain ++ [role] ++ connection ++ nonce.val ++
    bigEndian 8 expiresAtUnixSeconds.toBitVec.toNat)

/-- The entries of the routes, in their order. -/
def routeEntries : List RouteRegistration → Except RelayError (List UInt8)
  | [] => .ok []
  | route :: routes => do
    let routeId ← relayDecode32 lib "route_id" route.routeId
    let authenticationKey ← relayDecode32 lib "authentication_key" route.authenticationKey
    let rest ← routeEntries routes
    .ok (routeId.val ++ authenticationKey.val ++ rest)

/-- What a host proof is a hash of. -/
def hostTranscript (connectionId : String) (nonce : Digest) (expiresAtUnixSeconds : Int64)
    (hostId : String) (routes : List RouteRegistration) : Except RelayError (List UInt8) := do
  let front ← proofPrefix lib hostProofRole connectionId nonce expiresAtUnixSeconds
  let host ← uuidBytes lib "host_id" hostId
  if routes.length < 2 ^ 16 then do
    let entries ← routeEntries lib routes
    .ok (front ++ host ++ bigEndian 2 routes.length ++ entries)
  else .error (.invalidField "routes" "too many routes")

def hostProof (key : Digest) (connectionId : String) (nonce : Digest)
    (expiresAtUnixSeconds : Int64) (hostId : String) (routes : List RouteRegistration) :
    Except RelayError String := do
  let transcript ← hostTranscript lib connectionId nonce expiresAtUnixSeconds hostId routes
  .ok (lib.encode (keyed lib key.val [] transcript).val)

/-- What a client proof is a hash of. -/
def clientTranscript (connectionId : String) (nonce : Digest) (expiresAtUnixSeconds : Int64)
    (routeId : String) : Except RelayError (List UInt8) := do
  let front ← proofPrefix lib clientProofRole connectionId nonce expiresAtUnixSeconds
  let route ← relayDecode32 lib "route_id" routeId
  .ok (front ++ route.val)

def clientProof (key : Digest) (connectionId : String) (nonce : Digest)
    (expiresAtUnixSeconds : Int64) (routeId : String) : Except RelayError String := do
  let transcript ← clientTranscript lib connectionId nonce expiresAtUnixSeconds routeId
  .ok (lib.encode (keyed lib key.val [] transcript).val)

def verifyProof (expected supplied : String) : Bool :=
  match relayDecode32 lib "proof" expected, relayDecode32 lib "proof" supplied with
  | .ok expected, .ok supplied => decide (expected = supplied)
  | _, _ => false

inductive EndpointMessage where
  | hostHello (hostId : String) (routes : List RouteRegistration) (proof : String)
  | clientHello (routeId proof : String)
  | pong (pingId : String)
  deriving DecidableEq, Repr

def relayMaxRoutes : Nat := 16

def relayUuidV7 (field value : String) : Except RelayError Unit :=
  match Uuid.parseStr value with
  | none => .error (.invalidField field (lib.uuidError value))
  | some uuid =>
    if uuid.getVersionNum ≠ 7 then .error (.invalidField field "must be UUIDv7") else .ok ()

/-- The check of the routes, with the identifier of the one before. -/
def validateRoutes : Option String → List RouteRegistration → Except RelayError Unit
  | _, [] => .ok ()
  | previous, route :: routes => do
    let _ ← relayDecode32 lib "route_id" route.routeId
    let _ ← relayDecode32 lib "authentication_key" route.authenticationKey
    if previous.any fun value => ¬ value < route.routeId then
      .error (.invalidField "routes" "must be strictly ordered and unique by route_id")
    else validateRoutes (some route.routeId) routes

def validateEndpoint : EndpointMessage → Except RelayError Unit
  | .hostHello hostId routes proof => do
    relayUuidV7 lib "host_id" hostId
    if routes.isEmpty ∨ routes.length > relayMaxRoutes then
      .error (.invalidField "routes" "must contain between 1 and 16 routes")
    else do
      validateRoutes lib none routes
      let _ ← relayDecode32 lib "proof" proof
      .ok ()
  | .clientHello routeId proof => do
    let _ ← relayDecode32 lib "route_id" routeId
    let _ ← relayDecode32 lib "proof" proof
    .ok ()
  | .pong pingId => relayUuidV7 lib "ping_id" pingId

end

/-- What the relay checks a proof against. -/
inductive ProofContext where
  | host (key : Digest) (challenge : RelayChallenge) (hostId : String)
      (routes : List RouteRegistration)
  | client (key : Digest) (challenge : RelayChallenge) (routeId : String)

namespace ProofContext

def key : ProofContext → Digest
  | host key _ _ _ => key
  | client key _ _ => key

def transcript (lib : RelayLibrary) : ProofContext → Except RelayError (List UInt8)
  | host _ challenge hostId routes =>
    hostTranscript lib challenge.connectionId challenge.nonce challenge.expiresAtUnixSeconds hostId
      routes
  | client _ challenge routeId =>
    clientTranscript lib challenge.connectionId challenge.nonce challenge.expiresAtUnixSeconds routeId

def expected (lib : RelayLibrary) : ProofContext → Except RelayError String
  | host key challenge hostId routes =>
    hostProof lib key challenge.connectionId challenge.nonce challenge.expiresAtUnixSeconds hostId
      routes
  | client key challenge routeId =>
    clientProof lib key challenge.connectionId challenge.nonce challenge.expiresAtUnixSeconds routeId

/-- The relay accepts the proof in this context. -/
def Verifies (lib : RelayLibrary) (context : ProofContext) (proof : String) : Prop :=
  ∃ text, context.expected lib = .ok text ∧ verifyProof lib text proof = true

/-- The same role in the same exchange, about the same host and routes. Of a host
identifier only the UUID counts, not its spelling. -/
def Same : ProofContext → ProofContext → Prop
  | host key challenge hostId routes, host key' challenge' hostId' routes' =>
    key = key' ∧ challenge = challenge' ∧ Uuid.parseStr hostId = Uuid.parseStr hostId' ∧
      routes = routes'
  | client key challenge routeId, client key' challenge' routeId' =>
    key = key' ∧ challenge = challenge' ∧ routeId = routeId'
  | _, _ => False

end ProofContext

section

variable {lib : RelayLibrary}

theorem decode32_eq_ok {field value : String} {digest : Digest}
    (h : relayDecode32 lib field value = .ok digest) : lib.decode value = .ok digest.val := by
  obtain ⟨bytes, hbytes, hdigest⟩ := Fallible.bind_eq_ok.mp h
  split at hdigest
  · cases hdigest
    exact Fallible.mapError_eq_ok.mp hbytes
  · cases hdigest

theorem decode32_injective (hlib : lib.Lawful) {field field' value value' : String} {digest : Digest}
    (h : relayDecode32 lib field value = .ok digest)
    (h' : relayDecode32 lib field' value' = .ok digest) : value = value' :=
  hlib.decode_injective value value' digest.val (decode32_eq_ok h) (decode32_eq_ok h')

theorem decode32_encode (hlib : lib.Lawful) (field : String) (digest : Digest) :
    relayDecode32 lib field (lib.encode digest.val) = .ok digest := by
  have hlength := digest.property
  unfold relayDecode32
  rw [hlib.decode_encode]
  simp [Except.mapError, bind, Except.bind, hlength]

/-- The bytes of an identifier name one version-seven UUID. -/
theorem uuidBytes_eq_ok {field value : String} {bytes : List UInt8}
    (h : uuidBytes lib field value = .ok bytes) :
    ∃ uuid, Uuid.parseStr value = some uuid ∧ bytes = bigEndian 16 uuid.value.toNat := by
  unfold uuidBytes at h
  cases hparse : Uuid.parseStr value with
  | none =>
    rw [hparse] at h
    cases h
  | some uuid =>
    simp only [hparse] at h
    split at h
    · cases h
    · cases h
      exact ⟨uuid, rfl, rfl⟩

theorem uuid_of_bytes {u u' : Uuid}
    (h : bigEndian 16 u.value.toNat = bigEndian 16 u'.value.toNat) : u = u' := by
  have hvalue : u.value.toNat = u'.value.toNat :=
    Bytes.bigEndian_injective u.value.isLt u'.value.isLt h
  cases u
  cases u'
  exact congrArg Uuid.mk (BitVec.eq_of_toNat_eq hvalue)

/-- The shared front of both transcripts. -/
theorem proofPrefix_eq_ok {role : UInt8} {challenge : RelayChallenge} {bytes : List UInt8}
    (h : proofPrefix lib role challenge.connectionId challenge.nonce challenge.expiresAtUnixSeconds =
      .ok bytes) :
    bytes = utf8 proofDomain ++ ([role] ++ (bigEndian 16 challenge.connection.value.toNat ++
      (challenge.nonce.val ++ bigEndian 8 challenge.expiresAtUnixSeconds.toBitVec.toNat))) := by
  obtain ⟨connection, hconnection, hbytes⟩ := Fallible.bind_eq_ok.mp h
  obtain ⟨uuid, hparse, rfl⟩ := uuidBytes_eq_ok hconnection
  have huuid : uuid = challenge.connection := by
    rw [RelayChallenge.connectionId, Uuid.parseStr_toString] at hparse
    exact (Option.some.inj hparse).symm
  cases hbytes
  rw [huuid]
  simp

/-- Two transcripts with a common beginning agree in role and challenge, and in what
follows. -/
theorem front_injective {role role' : UInt8} {challenge challenge' : RelayChallenge}
    {front front' rest rest' : List UInt8}
    (h : proofPrefix lib role challenge.connectionId challenge.nonce challenge.expiresAtUnixSeconds =
      .ok front)
    (h' : proofPrefix lib role' challenge'.connectionId challenge'.nonce
      challenge'.expiresAtUnixSeconds = .ok front')
    (heq : front ++ rest = front' ++ rest') : role = role' ∧ challenge = challenge' ∧ rest = rest' := by
  rw [proofPrefix_eq_ok h, proofPrefix_eq_ok h'] at heq
  simp only [List.append_assoc] at heq
  have hafter := List.append_cancel_left heq
  obtain ⟨hrole, hafter⟩ := List.append_inj hafter rfl
  obtain ⟨hconnection, hafter⟩ := List.append_inj hafter (by simp)
  obtain ⟨hnonce, hafter⟩ :=
    List.append_inj hafter (by rw [challenge.nonce.property, challenge'.nonce.property])
  obtain ⟨hexpires, hrest⟩ := List.append_inj hafter (by simp)
  refine ⟨List.head_eq_of_cons_eq hrole, ?_, hrest⟩
  have hseconds : challenge.expiresAtUnixSeconds = challenge'.expiresAtUnixSeconds := by
    apply Int64.toBitVec_inj.mp
    apply BitVec.eq_of_toNat_eq
    exact Bytes.bigEndian_injective challenge.expiresAtUnixSeconds.toBitVec.isLt
      challenge'.expiresAtUnixSeconds.toBitVec.isLt hexpires
  cases challenge
  cases challenge'
  cases uuid_of_bytes hconnection
  cases Subtype.ext hnonce
  cases hseconds
  rfl

/-- Every entry is sixty-four bytes, so the entries of two lists of routes of one length
agree one by one. -/
theorem routeEntries_injective (hlib : lib.Lawful) {routes routes' : List RouteRegistration}
    {bytes : List UInt8} (hlength : routes.length = routes'.length)
    (h : routeEntries lib routes = .ok bytes) (h' : routeEntries lib routes' = .ok bytes) :
    routes = routes' := by
  induction routes generalizing routes' bytes with
  | nil =>
    cases routes' with
    | nil => rfl
    | cons route' rest' => cases hlength
  | cons route rest ih =>
    cases routes' with
    | nil => cases hlength
    | cons route' rest' =>
      obtain ⟨id, hid, h⟩ := Fallible.bind_eq_ok.mp h
      obtain ⟨secret, hsecret, h⟩ := Fallible.bind_eq_ok.mp h
      obtain ⟨tail, htail, h⟩ := Fallible.bind_eq_ok.mp h
      obtain ⟨id', hid', h'⟩ := Fallible.bind_eq_ok.mp h'
      obtain ⟨secret', hsecret', h'⟩ := Fallible.bind_eq_ok.mp h'
      obtain ⟨tail', htail', h'⟩ := Fallible.bind_eq_ok.mp h'
      have hbytes : id.val ++ (secret.val ++ tail) = id'.val ++ (secret'.val ++ tail') := by
        have heq := (Except.ok.inj h).trans (Except.ok.inj h').symm
        simpa using heq
      obtain ⟨hids, hbytes⟩ := List.append_inj hbytes (by rw [id.property, id'.property])
      obtain ⟨hsecrets, htails⟩ :=
        List.append_inj hbytes (by rw [secret.property, secret'.property])
      cases Subtype.ext hids
      cases Subtype.ext hsecrets
      cases htails
      have hroute : route = route' := by
        cases route
        cases route'
        cases decode32_injective hlib hid hid'
        cases decode32_injective hlib hsecret hsecret'
        rfl
      rw [hroute, ih (by simpa using hlength) htail htail']

theorem hostTranscript_eq_ok {challenge : RelayChallenge} {hostId : String}
    {routes : List RouteRegistration} {bytes : List UInt8}
    (h : hostTranscript lib challenge.connectionId challenge.nonce challenge.expiresAtUnixSeconds hostId
      routes = .ok bytes) :
    ∃ front host entries, proofPrefix lib hostProofRole challenge.connectionId challenge.nonce
        challenge.expiresAtUnixSeconds = .ok front ∧
      Uuid.parseStr hostId = some host ∧ routes.length < 2 ^ 16 ∧
      routeEntries lib routes = .ok entries ∧
      bytes = front ++ (bigEndian 16 host.value.toNat ++ (bigEndian 2 routes.length ++ entries)) := by
  obtain ⟨front, hfront, h⟩ := Fallible.bind_eq_ok.mp h
  obtain ⟨host, hhost, h⟩ := Fallible.bind_eq_ok.mp h
  obtain ⟨uuid, hparse, rfl⟩ := uuidBytes_eq_ok hhost
  split at h
  · next hcount =>
    obtain ⟨entries, hentries, h⟩ := Fallible.bind_eq_ok.mp h
    cases h
    exact ⟨front, uuid, entries, hfront, hparse, hcount, hentries, by simp⟩
  · cases h

theorem clientTranscript_eq_ok {challenge : RelayChallenge} {routeId : String} {bytes : List UInt8}
    (h : clientTranscript lib challenge.connectionId challenge.nonce challenge.expiresAtUnixSeconds
      routeId = .ok bytes) :
    ∃ front route, proofPrefix lib clientProofRole challenge.connectionId challenge.nonce
        challenge.expiresAtUnixSeconds = .ok front ∧
      relayDecode32 lib "route_id" routeId = .ok route ∧ bytes = front ++ route.val := by
  obtain ⟨front, hfront, h⟩ := Fallible.bind_eq_ok.mp h
  obtain ⟨route, hroute, h⟩ := Fallible.bind_eq_ok.mp h
  cases h
  exact ⟨front, route, hfront, hroute, rfl⟩

/-- A transcript says what it is a transcript of. -/
theorem transcript_injective (hlib : lib.Lawful) {first second : ProofContext} {bytes : List UInt8}
    (hkey : first.key = second.key) (h : first.transcript lib = .ok bytes)
    (h' : second.transcript lib = .ok bytes) : first.Same second := by
  cases first with
  | host key challenge hostId routes =>
    obtain ⟨front, host, entries, hfront, hhost, hcount, hentries, rfl⟩ := hostTranscript_eq_ok h
    cases second with
    | host key' challenge' hostId' routes' =>
      obtain ⟨front', host', entries', hfront', hhost', hcount', hentries', hbytes⟩ :=
        hostTranscript_eq_ok h'
      obtain ⟨-, hchallenge, hbytes⟩ := front_injective hfront hfront' hbytes
      obtain ⟨hid, hbytes⟩ := List.append_inj hbytes (by simp)
      obtain ⟨hlengths, hentriesEq⟩ := List.append_inj hbytes (by simp)
      have hlength : routes.length = routes'.length :=
        Bytes.bigEndian_injective hcount hcount' hlengths
      have hhosts : host = host' := uuid_of_bytes hid
      rw [← hentriesEq] at hentries'
      refine ⟨hkey, hchallenge, ?_, routeEntries_injective hlib hlength hentries hentries'⟩
      rw [hhost, hhost', hhosts]
    | client key' challenge' routeId' =>
      obtain ⟨front', route', hfront', -, hbytes⟩ := clientTranscript_eq_ok h'
      obtain ⟨hrole, -⟩ := front_injective hfront hfront' hbytes
      cases hrole
  | client key challenge routeId =>
    obtain ⟨front, route, hfront, hroute, rfl⟩ := clientTranscript_eq_ok h
    cases second with
    | host key' challenge' hostId' routes' =>
      obtain ⟨front', host', entries', hfront', -, -, -, hbytes⟩ := hostTranscript_eq_ok h'
      obtain ⟨hrole, -⟩ := front_injective hfront hfront' hbytes
      cases hrole
    | client key' challenge' routeId' =>
      obtain ⟨front', route', hfront', hroute', hbytes⟩ := clientTranscript_eq_ok h'
      obtain ⟨-, hchallenge, hbytes⟩ := front_injective hfront hfront' hbytes
      cases Subtype.ext hbytes
      exact ⟨hkey, hchallenge, decode32_injective hlib hroute hroute'⟩

variable (lib) in
theorem ProofContext.expected_eq (context : ProofContext) :
    context.expected lib = (context.transcript lib).map fun transcript =>
      lib.encode (lib.hmac context.key.val transcript).val := by
  cases context with
  | host key challenge hostId routes => rfl
  | client key challenge routeId => rfl

/-- A proof verifies against the one keyed hash of its context. -/
theorem verifies_iff (hlib : lib.Lawful) (context : ProofContext) (proof : String) :
    context.Verifies lib proof ↔ ∃ transcript, context.transcript lib = .ok transcript ∧
      relayDecode32 lib "proof" proof = .ok (lib.hmac context.key.val transcript) := by
  have hexpected := context.expected_eq lib
  constructor
  · rintro ⟨text, htext, hverified⟩
    rw [hexpected] at htext
    cases htranscript : context.transcript lib with
    | error e =>
      rw [htranscript] at htext
      cases htext
    | ok transcript =>
      rw [htranscript] at htext
      cases htext
      refine ⟨transcript, rfl, ?_⟩
      unfold verifyProof at hverified
      rw [decode32_encode hlib] at hverified
      cases hproof : relayDecode32 lib "proof" proof with
      | error e =>
        rw [hproof] at hverified
        cases hverified
      | ok supplied =>
        rw [hproof] at hverified
        rw [of_decide_eq_true hverified]
  · rintro ⟨transcript, htranscript, hproof⟩
    refine ⟨_, by rw [hexpected, htranscript]; rfl, ?_⟩
    unfold verifyProof
    rw [decode32_encode hlib, hproof]
    simp

/-- The keyed hash of a context, as a query to HMAC. -/
def ProofContext.queries (lib : RelayLibrary) (context : ProofContext) :
    Set (List UInt8 × List UInt8) :=
  {query | ∃ transcript, context.transcript lib = .ok transcript ∧
    query = (context.key.val, transcript)}

/-- The two queries of a derivation. -/
def routeQueries (deviceRoot : Digest) (endpoint : RelayEndpoint) :
    Set (List UInt8 × List UInt8) :=
  {(deviceRoot.val, utf8 routeDomain ++ utf8 endpoint.authority),
    (deviceRoot.val, utf8 clientAuthDomain ++ utf8 endpoint.authority)}

/-- No query of one derivation domain is a query of the other. -/
theorem domains_differ (text text' : List UInt8) :
    utf8 routeDomain ++ text ≠ utf8 clientAuthDomain ++ text' := by
  intro h
  have hroute : (utf8 routeDomain)[20]? = some 114 := by decide +kernel
  have hclient : (utf8 clientAuthDomain)[20]? = some 99 := by decide +kernel
  have hbyte : (utf8 routeDomain ++ text)[20]? = (utf8 clientAuthDomain ++ text')[20]? := by rw [h]
  rw [List.getElem?_append_left (List.getElem?_eq_some_iff.mp hroute).1,
    List.getElem?_append_left (List.getElem?_eq_some_iff.mp hclient).1, hroute, hclient] at hbyte
  cases hbyte

/-- Two derived texts of one domain stand for the same root and authority. -/
theorem derived_injective {queries : Set (List UInt8 × List UInt8)}
    (hhmac : Set.InjOn (fun query => lib.hmac query.1 query.2) queries) (domain : String)
    {root root' : Digest} {endpoint endpoint' : RelayEndpoint}
    (h : (root.val, utf8 domain ++ utf8 endpoint.authority) ∈ queries)
    (h' : (root'.val, utf8 domain ++ utf8 endpoint'.authority) ∈ queries)
    (heq : keyed lib root.val (utf8 domain) (utf8 endpoint.authority) =
      keyed lib root'.val (utf8 domain) (utf8 endpoint'.authority)) :
    (root, endpoint.authority) = (root', endpoint'.authority) := by
  have hquery := hhmac h h' heq
  obtain ⟨hroot, htext⟩ := Prod.mk.inj hquery
  rw [Subtype.ext hroot, Bytes.utf8_injective (List.append_cancel_left htext)]

theorem encode_injective (hlib : lib.Lawful) {bytes bytes' : List UInt8}
    (h : lib.encode bytes = lib.encode bytes') : bytes = bytes' := by
  have hdecoded := hlib.decode_encode bytes
  rw [h, hlib.decode_encode bytes'] at hdecoded
  exact (Except.ok.inj hdecoded).symm

/-- Where the keyed hash has no collision among the queries that were made, a proof that
verifies in two contexts was made for one context, and derived routes and keys tell the
roots, the authorities and the two domains apart. -/
theorem relay_authentication_binds (hlib : lib.Lawful) (queries : Set (List UInt8 × List UInt8))
    (hhmac : Set.InjOn (fun query => lib.hmac query.1 query.2) queries) :
    (∀ (first second : ProofContext) (proof : String),
      first.queries lib ⊆ queries → second.queries lib ⊆ queries →
      first.Verifies lib proof → second.Verifies lib proof → first.Same second) ∧
    (∀ (root root' : Digest) (endpoint endpoint' : RelayEndpoint),
      routeQueries root endpoint ⊆ queries → routeQueries root' endpoint' ⊆ queries →
      ((root, endpoint.authority) ≠ (root', endpoint'.authority) →
        (deriveRoute lib root endpoint).routeId ≠ (deriveRoute lib root' endpoint').routeId ∧
        (deriveRoute lib root endpoint).authenticationKey ≠
          (deriveRoute lib root' endpoint').authenticationKey) ∧
      relayDecode32 lib "route_id" (deriveRoute lib root endpoint).routeId ≠
        .ok (deriveRoute lib root' endpoint').authenticationKey) := by
  refine ⟨?_, ?_⟩
  · intro first second proof hfirst hsecond hverified hverified'
    obtain ⟨transcript, htranscript, hproof⟩ := (verifies_iff hlib first proof).mp hverified
    obtain ⟨transcript', htranscript', hproof'⟩ := (verifies_iff hlib second proof).mp hverified'
    have htags : lib.hmac first.key.val transcript = lib.hmac second.key.val transcript' := by
      rw [hproof] at hproof'
      exact Except.ok.inj hproof'
    have hquery := hhmac (hfirst ⟨transcript, htranscript, rfl⟩)
      (hsecond ⟨transcript', htranscript', rfl⟩) htags
    obtain ⟨hkey, rfl⟩ := Prod.mk.inj hquery
    exact transcript_injective hlib (Subtype.ext hkey) htranscript htranscript'
  · intro root root' endpoint endpoint' hasked hasked'
    refine ⟨?_, ?_⟩
    · intro hdifferent
      refine ⟨?_, ?_⟩
      · intro hroute
        apply hdifferent
        exact derived_injective hhmac routeDomain (hasked (.inl rfl)) (hasked' (.inl rfl))
          (Subtype.ext (encode_injective hlib hroute))
      · intro hkey
        apply hdifferent
        exact derived_injective hhmac clientAuthDomain (hasked (.inr rfl)) (hasked' (.inr rfl)) hkey
    · intro hroute
      have hdecoded : relayDecode32 lib "route_id" (deriveRoute lib root endpoint).routeId =
          .ok (keyed lib root.val (utf8 routeDomain) (utf8 endpoint.authority)) :=
        decode32_encode hlib "route_id" _
      rw [hdecoded] at hroute
      have hquery := hhmac (hasked (.inl rfl)) (hasked' (.inr rfl)) (Except.ok.inj hroute)
      exact domains_differ _ _ (Prod.mk.inj hquery).2

end

namespace Sample

def relayKey : Digest := .filled 7

def relayHostId : String := (Ident.numbered .provider 2).toString

def challenge : RelayChallenge where
  connection := (Ident.numbered .event 1).uuid
  version7 := (Ident.numbered .event 1).version7
  nonce := .filled 1
  expiresAtUnixSeconds := 10

def clientChallenge : RelayChallenge where
  connection := (Ident.numbered .event 2).uuid
  version7 := (Ident.numbered .event 2).version7
  nonce := .filled 1
  expiresAtUnixSeconds := 10

/-- What a proof in these exchanges is a hash of. -/
def proofMessage (role : UInt8) (challenge : RelayChallenge) (rest : List UInt8) : List UInt8 :=
  utf8 proofDomain ++ [role] ++ bigEndian 16 challenge.connection.value.toNat ++
    List.replicate 32 1 ++ bigEndian 8 10 ++ rest

/-- The host offers one route, whose authentication key repeats one byte. -/
def hostMessage (byte : UInt8) : List UInt8 :=
  proofMessage hostProofRole challenge
    (bigEndian 16 (Ident.numbered .provider 2).uuid.value.toNat ++ bigEndian 2 1 ++
      List.replicate 32 5 ++ List.replicate 32 byte)

def clientMessage (challenge : RelayChallenge) : List UInt8 :=
  proofMessage clientProofRole challenge (List.replicate 32 5)

/-- HMAC-SHA256 of these messages under the key. -/
def proofTags : List (List UInt8 × Digest) :=
  [(hostMessage 5, ⟨[182, 232, 53, 237, 129, 58, 212, 138, 253, 202, 225, 244, 100, 172, 148, 110,
      17, 235, 142, 131, 231, 237, 233, 182, 109, 20, 142, 209, 94, 0, 52, 135], rfl⟩),
    (hostMessage 7, ⟨[55, 169, 182, 88, 70, 24, 60, 100, 91, 91, 11, 126, 18, 27, 111, 80, 120, 171,
      13, 23, 89, 219, 103, 206, 247, 138, 87, 197, 128, 3, 219, 250], rfl⟩),
    (clientMessage challenge, ⟨[94, 165, 17, 163, 32, 152, 17, 201, 131, 107, 27, 158, 86, 182, 72,
      32, 169, 182, 210, 9, 238, 216, 190, 189, 117, 102, 2, 136, 199, 22, 6, 48], rfl⟩),
    (clientMessage clientChallenge, ⟨[33, 203, 78, 178, 43, 125, 145, 184, 221, 198, 184, 136, 244,
      200, 216, 171, 221, 58, 152, 96, 27, 44, 42, 77, 10, 31, 76, 54, 66, 111, 252, 209], rfl⟩)]

def relayLibrary : RelayLibrary where
  hmac key message :=
    if key = relayKey.val then (proofTags.lookup message).getD (.filled 0) else .filled 0
  encode := Base64.encode .urlSafe
  decode text :=
    match Base64.decode .urlSafe text with
    | some bytes => .ok bytes
    | none => .error "invalid text"
  uuidError _ := "invalid UUID"

theorem relayLibrary_decode_eq_ok {text : String} {bytes : List UInt8} :
    relayLibrary.decode text = .ok bytes ↔ Base64.decode .urlSafe text = some bytes := by
  simp only [relayLibrary]
  split <;> simp_all

theorem relayLibrary_lawful : relayLibrary.Lawful where
  decode_encode bytes := relayLibrary_decode_eq_ok.mpr (Base64.decode_encode .urlSafe bytes)
  decode_injective _ _ _ h h' :=
    Base64.decode_injective .urlSafe (relayLibrary_decode_eq_ok.mp h)
      (relayLibrary_decode_eq_ok.mp h')

def routeText : String := relayLibrary.encode (List.replicate 32 5)

def hostContext : ProofContext :=
  .host relayKey challenge relayHostId [⟨routeText, routeText⟩]

def clientContext : ProofContext := .client relayKey challenge routeText

theorem hostContext_transcript : hostContext.transcript relayLibrary = .ok (hostMessage 5) := by
  decide +kernel

theorem clientContext_transcript :
    clientContext.transcript relayLibrary = .ok (clientMessage challenge) := by
  decide +kernel

end Sample

open Sample in
/-- The proof of a client is no proof of a host with the same key and challenge. -/
theorem relay_authentication_binds_roles :
    ∃ proof, clientContext.expected relayLibrary = .ok proof ∧
      ¬ hostContext.Verifies relayLibrary proof := by
  have htags : relayLibrary.hmac relayKey.val (hostMessage 5) ≠
      relayLibrary.hmac relayKey.val (clientMessage challenge) := by
    decide +kernel
  have hhmac : Set.InjOn (fun query => relayLibrary.hmac query.1 query.2)
      (hostContext.queries relayLibrary ∪ clientContext.queries relayLibrary) := by
    rintro _ (⟨t, ht, rfl⟩ | ⟨t, ht, rfl⟩) _ (⟨t', ht', rfl⟩ | ⟨t', ht', rfl⟩) hsame
    · cases ht.symm.trans ht'
      rfl
    · cases hostContext_transcript.symm.trans ht
      cases clientContext_transcript.symm.trans ht'
      exact absurd hsame htags
    · cases clientContext_transcript.symm.trans ht
      cases hostContext_transcript.symm.trans ht'
      exact absurd hsame htags.symm
    · cases ht.symm.trans ht'
      rfl
  have hexpected : clientContext.expected relayLibrary =
      .ok (relayLibrary.encode (relayLibrary.hmac relayKey.val (clientMessage challenge)).val) := by
    rw [clientContext.expected_eq relayLibrary, clientContext_transcript]
    rfl
  refine ⟨_, hexpected, ?_⟩
  intro hverified
  have hproof : clientContext.Verifies relayLibrary
      (relayLibrary.encode (relayLibrary.hmac relayKey.val (clientMessage challenge)).val) :=
    (verifies_iff relayLibrary_lawful _ _).mpr
      ⟨_, clientContext_transcript, decode32_encode relayLibrary_lawful "proof" _⟩
  exact (relay_authentication_binds relayLibrary_lawful _ hhmac).1 hostContext clientContext _
    Set.subset_union_left Set.subset_union_right hverified hproof

end AgentPulse

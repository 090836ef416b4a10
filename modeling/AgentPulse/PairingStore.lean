import AgentPulse.CoreUuid
import AgentPulse.Fallible
import AgentPulse.Trace

/-!
# The credential store of the host

One file holds the identity of the host and the devices that may connect. Each
operation runs under the file lock, so an operation is a function of what the
file holds. What the file system, the clock and the random source answer during
one operation is its `Surroundings`. JSON, base64, SHA-256 and the certificate
library are parameters, collected in `StoreLibrary`; `α` is the type of the
serialized documents.
-/
namespace AgentPulse

inductive PairingError where
  | invalidField (field reason : String)
  | json (source : String)
  | base64 (source : String)
  | certificate (source : String)
  | transport (source : String)
  | io (operation path source : String)
  | alreadyInitialized (path : String)
  | notInitialized (path : String)
  | invalidStore (message : String)
  | deviceCapacity (capacity : Nat)
  | deviceNotFound (clientId : String)
  | expired
  | denied
  | attemptLimit
  deriving DecidableEq, Repr

/-- A check that returns early with its error. -/
def require (condition : Prop) [Decidable condition] (error : PairingError) :
    Except PairingError Unit :=
  if condition then .ok () else .error error

theorem require_eq_ok {condition : Prop} [Decidable condition] {error : PairingError} {u : Unit} :
    require condition error = .ok u ↔ condition := by
  unfold require
  split
  · simp [*]
  · simp [*]

def storeSchemaVersion : Nat := 1
def maxDevices : Nat := 16
def leafLifetimeDays : Int := 90
def leafRenewalDays : Int := 14
def caLifetimeDays : Int := 3650

/-- `Duration::days(days).whole_seconds()`. -/
def daySeconds (days : Int) : Int := days * 86400

structure CertificateRecord where
  caCertificateDer : String
  caPrivateKeyDer : String
  leafCertificateDer : String
  leafPrivateKeyDer : String
  leafNotAfterUnixSeconds : Int
  deriving DecidableEq, Repr

structure DeviceRecord where
  clientId : String
  displayName : String
  version : Option String
  tokenSha256 : String
  pairedAtUnixSeconds : Int
  deriving DecidableEq, Repr

structure StoreRecord where
  schemaVersion : Nat
  hostId : String
  hostName : String
  providerId : String
  channelId : String
  serverName : String
  threadIds : List String
  certificates : CertificateRecord
  devices : List DeviceRecord
  deriving DecidableEq, Repr

structure HostIdentitySnapshot where
  hostId : String
  hostName : String
  providerId : String
  channelId : String
  serverName : String
  threadIds : List String
  leafCertificateDer : List UInt8
  caCertificateDer : List UInt8
  leafPrivateKeyDer : List UInt8
  leafNotAfterUnixSeconds : Int
  deriving DecidableEq, Repr

/-- Thirty-two bytes. -/
abbrev Digest := { bytes : List UInt8 // bytes.length = 32 }

/-- The same byte thirty-two times. -/
def Digest.filled (byte : UInt8) : Digest := ⟨List.replicate 32 byte, List.length_replicate⟩

/-- One digit of `hex`, for a value below sixteen. -/
def hexChar (value : UInt8) : Char :=
  "0123456789abcdef".toList.getD value.toNat '0'

def hex (bytes : List UInt8) : String :=
  String.ofList (bytes.flatMap fun byte : UInt8 => [hexChar (byte >>> 4), hexChar (byte &&& 0x0f)])

def digit (value : Char) : Option UInt8 :=
  if '0' ≤ value ∧ value ≤ '9' then some (UInt8.ofNat (value.toNat - '0'.toNat))
  else if 'a' ≤ value ∧ value ≤ 'f' then some (UInt8.ofNat (value.toNat - 'a'.toNat) + 10)
  else none

def decodePairs : List Char → Option (List UInt8)
  | high :: low :: rest => do
    let high ← digit high
    let low ← digit low
    let rest ← decodePairs rest
    some ((high <<< 4 ||| low) :: rest)
  | _ => some []

/-- Sixty-four bytes of text, every one a lowercase digit. A text with a longer
character has fewer characters, and fails at that character. -/
def decodeHex32 (value : String) : Option Digest :=
  if value.utf8ByteSize ≠ 64 then none
  else
    (decodePairs value.toList).bind fun bytes =>
      if h : bytes.length = 32 then some ⟨bytes, h⟩ else none

theorem digit_hexChar (value : UInt8) (h : value < 16) : digit (hexChar value) = some value := by
  have hall : ∀ n < 16, digit (hexChar (UInt8.ofNat n)) = some (UInt8.ofNat n) := by decide +kernel
  have hn := hall value.toNat (UInt8.lt_iff_toNat_lt.mp h)
  simpa using hn

theorem hexChar_utf8Size (value : UInt8) (h : value < 16) : (hexChar value).utf8Size = 1 := by
  have hall : ∀ n < 16, (hexChar (UInt8.ofNat n)).utf8Size = 1 := by decide +kernel
  have hn := hall value.toNat (UInt8.lt_iff_toNat_lt.mp h)
  simpa using hn

theorem nibbles (byte : UInt8) :
    byte >>> 4 < 16 ∧ byte &&& 0x0f < 16 ∧ (byte >>> 4) <<< 4 ||| (byte &&& 0x0f) = byte := by
  have hall : ∀ n < 256, UInt8.ofNat n >>> 4 < 16 ∧ UInt8.ofNat n &&& 0x0f < 16 ∧
    (UInt8.ofNat n >>> 4) <<< 4 ||| (UInt8.ofNat n &&& 0x0f) = UInt8.ofNat n := by decide +kernel
  have hn := hall byte.toNat byte.toNat_lt
  simpa using hn

theorem decodePairs_hex (bytes : List UInt8) :
    decodePairs (bytes.flatMap fun byte : UInt8 => [hexChar (byte >>> 4), hexChar (byte &&& 0x0f)]) =
      some bytes := by
  induction bytes with
  | nil => rfl
  | cons byte bytes ih =>
    obtain ⟨hhigh, hlow, hbyte⟩ := nibbles byte
    simp [decodePairs, digit_hexChar _ hhigh, digit_hexChar _ hlow, ih, hbyte]

theorem utf8ByteSize_hex (bytes : List UInt8) : (hex bytes).utf8ByteSize = 2 * bytes.length := by
  unfold hex
  rw [String.utf8ByteSize_ofList]
  induction bytes with
  | nil => rfl
  | cons byte bytes ih =>
    obtain ⟨hhigh, hlow, -⟩ := nibbles byte
    simp [hexChar_utf8Size _ hhigh, hexChar_utf8Size _ hlow, ih]
    omega

theorem decodeHex32_hex (digest : Digest) : decodeHex32 (hex digest.val) = some digest := by
  have hlength := digest.property
  have hsize := utf8ByteSize_hex digest.val
  rw [decodeHex32, if_neg (by omega), hex, String.toList_ofList, decodePairs_hex]
  simp [hlength]

/-- A key pair, by its DER encoding. -/
structure KeyPair where
  serializeDer : List UInt8
  deriving DecidableEq, Repr

structure CertificateParams where
  subjectAltNames : List String
  commonName : Option String
  isCa : Bool
  keyUsages : List String
  extendedKeyUsages : List String
  notBefore : Int
  notAfter : Int
  deriving DecidableEq, Repr

structure Certificate where
  der : List UInt8
  deriving DecidableEq, Repr

structure StoreLibrary (α : Type) where
  toVecPretty : StoreRecord → Except String α
  fromSlice : α → Except String StoreRecord
  /-- Standard padded base64. -/
  encodeStandard : List UInt8 → String
  decodeStandard : String → Except String (List UInt8)
  /-- Base64 of the URL alphabet without padding. -/
  encodeUrlSafe : List UInt8 → String
  sha256 : String → Digest
  uuidError : String → String
  newParams : List String → Except String CertificateParams
  fromCaCertDer : List UInt8 → Except String CertificateParams
  keyPairFromDer : List UInt8 → Except String KeyPair
  selfSigned : CertificateParams → KeyPair → Except String Certificate
  signedBy : CertificateParams → KeyPair → Certificate → KeyPair → Except String Certificate

/-- The answers that one operation gets from outside the process. -/
structure Surroundings where
  ensurePrivateDir : Except String Unit := .ok ()
  openPrivateLock : Except String Unit := .ok ()
  lock : Except String Unit := .ok ()
  protectFile : Except String Unit := .ok ()
  read : Except String Unit := .ok ()
  /-- Everything that a replacement does before it renames the new file. -/
  writeTemporary : Except String Unit := .ok ()
  rename : Except String Unit := .ok ()
  /-- The directory is flushed after the new file has taken its place. -/
  syncParent : Except String Unit := .ok ()
  nowUtc : Int := 0
  identityNow : Int := 0
  leafNow : Int := 0
  hostId : Uuid
  providerId : Uuid
  channelId : Uuid
  secret : Digest
  caKey : Except String KeyPair
  leafKey : Except String KeyPair

/-- A store at a path, with the lock path and the parent that the path has. -/
structure HostCredentialStore where
  path : String
  lockPath : String
  parent : Option String

section Validation

variable {α : Type} (lib : StoreLibrary α)

def snapshot (record : StoreRecord) : Except PairingError HostIdentitySnapshot := do
  let leafCertificateDer ← (lib.decodeStandard record.certificates.leafCertificateDer).mapError .base64
  let caCertificateDer ← (lib.decodeStandard record.certificates.caCertificateDer).mapError .base64
  let leafPrivateKeyDer ← (lib.decodeStandard record.certificates.leafPrivateKeyDer).mapError .base64
  .ok {
    hostId := record.hostId
    hostName := record.hostName
    providerId := record.providerId
    channelId := record.channelId
    serverName := record.serverName
    threadIds := record.threadIds
    leafCertificateDer
    caCertificateDer
    leafPrivateKeyDer
    leafNotAfterUnixSeconds := record.certificates.leafNotAfterUnixSeconds }

def validateBounded (field value : String) (maximum : Nat) : Except PairingError Unit :=
  require (isBlank value = false ∧ value.utf8ByteSize ≤ maximum)
    (.invalidField field "must be nonblank and within its size limit")

def validateName (value : String) : Except PairingError Unit :=
  validateBounded "display_name" value 80

/-- Any spelling that the uuid crate reads, of a version-seven identifier. -/
def validateUuidVersion7 (field value : String) : Except PairingError Unit :=
  match Uuid.parseStr value with
  | none => .error (.invalidField field (lib.uuidError value))
  | some uuid =>
    require (uuid.getVersionNum = 7) (.invalidField field "must be UUIDv7")

def validateDevice (device : DeviceRecord) : Except PairingError Unit := do
  validateUuidVersion7 lib "client_id" device.clientId
  validateName device.displayName
  require ((decodeHex32 device.tokenSha256).isSome = true)
    (.invalidStore "invalid device credential hash")

def validateRecord (record : StoreRecord) : Except PairingError Unit := do
  require (record.schemaVersion = storeSchemaVersion)
    (.invalidStore s!"unsupported schema version {record.schemaVersion}")
  validateUuidVersion7 lib "host_id" record.hostId
  validateUuidVersion7 lib "provider_id" record.providerId
  validateUuidVersion7 lib "channel_id" record.channelId
  validateName record.hostName
  validateBounded "server_name" record.serverName 253
  require (record.devices.length ≤ maxDevices) (.invalidStore "device capacity exceeded")
  record.threadIds.forM (validateUuidVersion7 lib "thread_id")
  record.devices.forM (validateDevice lib)
  let _ ← snapshot lib record
  .ok ()

end Validation

section Certificates

variable {α : Type} (lib : StoreLibrary α) (env : Surroundings)

def createLeaf (serverName : String) (caCertificate : Certificate) (caKey : KeyPair) :
    Except PairingError (List UInt8 × List UInt8 × Int) := do
  let notAfter := env.leafNow + daySeconds leafLifetimeDays
  let leafKey ← env.leafKey.mapError .certificate
  let params ← (lib.newParams [serverName]).mapError .certificate
  let leafParams := { params with
    commonName := some serverName
    keyUsages := ["DigitalSignature"]
    extendedKeyUsages := ["ServerAuth"]
    notBefore := env.leafNow - daySeconds 1
    notAfter }
  let leafCertificate ← (lib.signedBy leafParams leafKey caCertificate caKey).mapError .certificate
  .ok (leafCertificate.der, leafKey.serializeDer, notAfter)

def generateIdentity (hostName serverName : String) : Except PairingError CertificateRecord := do
  let caKey ← env.caKey.mapError .certificate
  let params ← (lib.newParams []).mapError .certificate
  let caParams := { params with
    commonName := some s!"AgentPulse {hostName} Local CA"
    isCa := true
    keyUsages := ["DigitalSignature", "KeyCertSign", "CrlSign"]
    notBefore := env.identityNow - daySeconds 1
    notAfter := env.identityNow + daySeconds caLifetimeDays }
  let caCertificate ← (lib.selfSigned caParams caKey).mapError .certificate
  let (leafCertificateDer, leafPrivateKeyDer, leafNotAfterUnixSeconds) ←
    createLeaf lib env serverName caCertificate caKey
  .ok {
    caCertificateDer := lib.encodeStandard caCertificate.der
    caPrivateKeyDer := lib.encodeStandard caKey.serializeDer
    leafCertificateDer := lib.encodeStandard leafCertificateDer
    leafPrivateKeyDer := lib.encodeStandard leafPrivateKeyDer
    leafNotAfterUnixSeconds }

def renewLeaf (record : StoreRecord) : Except PairingError StoreRecord := do
  let caDer ← (lib.decodeStandard record.certificates.caCertificateDer).mapError .base64
  let caKeyDer ← (lib.decodeStandard record.certificates.caPrivateKeyDer).mapError .base64
  let caKey ← (lib.keyPairFromDer caKeyDer).mapError .certificate
  let caParams ← (lib.fromCaCertDer caDer).mapError .certificate
  let caCertificate ← (lib.selfSigned caParams caKey).mapError .certificate
  let (leafCertificateDer, leafPrivateKeyDer, leafNotAfterUnixSeconds) ←
    createLeaf lib env record.serverName caCertificate caKey
  .ok { record with
    certificates := { record.certificates with
      leafCertificateDer := lib.encodeStandard leafCertificateDer
      leafPrivateKeyDer := lib.encodeStandard leafPrivateKeyDer
      leafNotAfterUnixSeconds } }

end Certificates

namespace HostCredentialStore

variable {α : Type} (lib : StoreLibrary α) (store : HostCredentialStore) (env : Surroundings)

def ensureParent : Except PairingError Unit :=
  match store.parent with
  | none => .error (.invalidField "credential_path" "path has no parent")
  | some parent => env.ensurePrivateDir.mapError (.io "protect directory" parent)

def openLock : Except PairingError Unit :=
  env.openPrivateLock.mapError (.io "open lock" store.lockPath)

/-- The way to the lock, exclusive or shared. -/
def acquire : Except PairingError Unit := do
  store.ensureParent env
  store.openLock env
  env.lock.mapError (.io "lock" store.lockPath)

def loadUnlocked (file : Option α) : Except PairingError StoreRecord :=
  match file with
  | none => .error (.notInitialized store.path)
  | some bytes => do
    env.protectFile.mapError (.io "protect file" store.path)
    env.read.mapError (.io "read" store.path)
    let record ← (lib.fromSlice bytes).mapError .json
    validateRecord lib record
    .ok record

/-- The new file takes the place of the old one by a rename; flushing the
directory comes after it and can still fail. -/
def atomicWritePrivate (bytes : α) (file : Option α) : Except String Unit × Option α :=
  match (do env.writeTemporary; env.rename : Except String Unit) with
  | .error source => (.error source, file)
  | .ok () => (env.syncParent, some bytes)

def saveUnlocked (record : StoreRecord) (file : Option α) :
    Except PairingError Unit × Option α :=
  match lib.toVecPretty record with
  | .error source => (.error (.json source), file)
  | .ok bytes =>
    let (written, file) := atomicWritePrivate env bytes file
    (written.mapError (.io "replace private file" store.path), file)

def update (operation : StoreRecord → Except PairingError StoreRecord) (file : Option α) :
    Except PairingError StoreRecord × Option α :=
  let edited := do
    store.acquire env
    let record ← store.loadUnlocked lib env file
    let record ← operation record
    validateRecord lib record
    .ok record
  match edited with
  | .error e => (.error e, file)
  | .ok record =>
    let (saved, file) := store.saveUnlocked lib env record file
    (saved.map fun _ => record, file)

def loadRecord (file : Option α) : Except PairingError StoreRecord := do
  store.acquire env
  store.loadUnlocked lib env file

/-- The first record of an installation; it is saved as built, without validation. -/
def newRecord (hostName : String) : Except PairingError StoreRecord := do
  let hostId := env.hostId.toString
  let serverName := s!"{hostId}.agentpulse.local"
  let certificates ← generateIdentity lib env hostName serverName
  .ok {
    schemaVersion := storeSchemaVersion
    hostId
    hostName
    providerId := env.providerId.toString
    channelId := env.channelId.toString
    serverName
    threadIds := []
    certificates
    devices := [] }

/-- The method that creates the store and refuses to replace one. -/
def create (hostName : String) (file : Option α) :
    Except PairingError HostIdentitySnapshot × Option α :=
  let built := do
    validateName hostName
    store.acquire env
    require (file.isNone = true) (.alreadyInitialized store.path)
    newRecord lib env hostName
  match built with
  | .error e => (.error e, file)
  | .ok record =>
    let (saved, file) := store.saveUnlocked lib env record file
    (saved.bind fun _ => snapshot lib record, file)

def loadIdentity (file : Option α) : Except PairingError HostIdentitySnapshot × Option α :=
  let (record, file) := store.update lib env (fun record =>
    if record.certificates.leafNotAfterUnixSeconds ≤ env.nowUtc + daySeconds leafRenewalDays then
      renewLeaf lib env record
    else .ok record) file
  (record.bind (snapshot lib), file)

/-- The scan of the identifiers, with those seen before. -/
def validateThreadIds : List String → List String → Except PairingError Unit
  | _, [] => .ok ()
  | unique, threadId :: threadIds => do
    validateUuidVersion7 lib "thread_id" threadId
    require (threadId ∉ unique) (.invalidField "thread_id" s!"duplicate thread {threadId}")
    validateThreadIds (threadId :: unique) threadIds

def setThreadIds (threadIds : List String) (file : Option α) :
    Except PairingError Unit × Option α :=
  match validateThreadIds lib [] threadIds with
  | .error e => (.error e, file)
  | .ok () =>
    let (record, file) := store.update lib env (fun record => .ok { record with threadIds }) file
    (record.map fun _ => (), file)

/-- The bearer token that an issue draws. -/
def drawnToken : String := lib.encodeUrlSafe env.secret.val

/-- Replaces the credential of a known device, or adds a device. -/
def issue (clientId displayName : String) (version : Option String) (tokenHash : String)
    (record : StoreRecord) : Except PairingError StoreRecord :=
  match record.devices.findIdx? (·.clientId == clientId) with
  | some index =>
    .ok { record with
      devices := record.devices.modify index fun device => { device with
        displayName, version, tokenSha256 := tokenHash, pairedAtUnixSeconds := env.nowUtc } }
  | none =>
    if record.devices.length ≥ maxDevices then .error (.deviceCapacity maxDevices)
    else
      .ok { record with
        devices := record.devices ++ [
          { clientId, displayName, version, tokenSha256 := tokenHash
            pairedAtUnixSeconds := env.nowUtc }] }

def issueDevice (clientId displayName : String) (version : Option String) (file : Option α) :
    Except PairingError String × Option α :=
  let checked := do
    validateUuidVersion7 lib "client_id" clientId
    validateName displayName
    match version with
    | some version => validateBounded "version" version 64
    | none => .ok ()
  match checked with
  | .error e => (.error e, file)
  | .ok () =>
    let token := drawnToken lib env
    let tokenHash := hex (lib.sha256 token).val
    let (record, file) :=
      store.update lib env (issue env clientId displayName version tokenHash) file
    (record.map fun _ => token, file)

def revoke (clientId : String) (record : StoreRecord) : Except PairingError StoreRecord :=
  let devices := record.devices.filter (·.clientId != clientId)
  if record.devices.length = devices.length then .error (.deviceNotFound clientId)
  else .ok { record with devices }

def revokeDevice (clientId : String) (file : Option α) : Except PairingError Unit × Option α :=
  let (record, file) := store.update lib env (revoke clientId) file
  (record.map fun _ => (), file)

def rotate (record : StoreRecord) : Except PairingError StoreRecord := do
  let certificates ← generateIdentity lib env record.hostName record.serverName
  .ok { record with certificates, devices := [] }

def rotateCredentials (file : Option α) : Except PairingError HostIdentitySnapshot × Option α :=
  let (record, file) := store.update lib env (rotate lib env) file
  (record.bind (snapshot lib), file)

def authorize (clientId token : String) (file : Option α) : Bool :=
  match store.loadRecord lib env file with
  | .error _ => false
  | .ok record =>
    match record.devices.find? (·.clientId == clientId) with
    | none => false
    | some device =>
      match decodeHex32 device.tokenSha256 with
      | none => false
      | some expected => decide (lib.sha256 token = expected)

end HostCredentialStore

end AgentPulse

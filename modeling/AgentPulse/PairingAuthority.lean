import AgentPulse.Base64
import AgentPulse.PairingStore

/-!
# What the credential store authorizes

Processes that share one store file run their operations one after another
under the file lock. `IssuedTo` reads off the log of such a run which token was
the last to be issued to a client and not taken back; the devices of the stored
record are exactly these.
-/
namespace AgentPulse

open Trace (LatestSince)

inductive StoreCall where
  | create (hostName : String)
  | loadIdentity
  | setThreadIds (threadIds : List String)
  | issueDevice (clientId displayName : String) (version : Option String)
  | revokeDevice (clientId : String)
  | rotateCredentials
  | authorize (clientId token : String)
  deriving DecidableEq, Repr

inductive StoreReply where
  | identity (result : Except PairingError HostIdentitySnapshot)
  | done (result : Except PairingError Unit)
  | issued (result : Except PairingError String)
  | authorized (result : Bool)
  deriving DecidableEq, Repr

/-- The error that an operation returned. -/
def StoreReply.error? : StoreReply → Option PairingError
  | .identity (.error e) => some e
  | .done (.error e) => some e
  | .issued (.error e) => some e
  | _ => none

namespace HostCredentialStore

variable {α : Type} (lib : StoreLibrary α) (store : HostCredentialStore)

/-- One operation with the answers of its surroundings. -/
def step (file : Option α) (call : StoreCall × Surroundings) : Option α × StoreReply :=
  let env := call.2
  match call.1 with
  | .create hostName =>
    let (result, file) := store.create lib env hostName file
    (file, .identity result)
  | .loadIdentity =>
    let (result, file) := store.loadIdentity lib env file
    (file, .identity result)
  | .setThreadIds threadIds =>
    let (result, file) := store.setThreadIds lib env threadIds file
    (file, .done result)
  | .issueDevice clientId displayName version =>
    let (result, file) := store.issueDevice lib env clientId displayName version file
    (file, .issued result)
  | .revokeDevice clientId =>
    let (result, file) := store.revokeDevice lib env clientId file
    (file, .done result)
  | .rotateCredentials =>
    let (result, file) := store.rotateCredentials lib env file
    (file, .identity result)
  | .authorize clientId token => (file, .authorized (store.authorize lib env clientId token file))

/-- What the file holds after the operations, from before the installation on. -/
def fileAfter (calls : List (StoreCall × Surroundings)) : Option α :=
  Trace.final (step lib store) none calls

/-- The operations of a run with what each returned. -/
def log (calls : List (StoreCall × Surroundings)) : List (StoreCall × StoreReply) :=
  Trace.collected (step lib store) (fun call reply => [(call.1, reply)]) none calls

/-- The record that a file holds. -/
def stored (file : Option α) : Option StoreRecord := file.bind fun bytes => (lib.fromSlice bytes).toOption

end HostCredentialStore

def IssuesTo (clientId : String) (entry : StoreCall × StoreReply) : Prop :=
  ∃ displayName version token,
    entry = (.issueDevice clientId displayName version, .issued (.ok token))

def Revokes (clientId : String) (entry : StoreCall × StoreReply) : Prop :=
  entry = (.revokeDevice clientId, .done (.ok ())) ∨
    ∃ identity, entry = (.rotateCredentials, .identity (.ok identity))

/-- The last success among the issues to the client, its revocations and the
rotations is an issue that returned the token. -/
def IssuedTo (log : List (StoreCall × StoreReply)) (clientId token : String) : Prop :=
  ∃ entry, LatestSince (IssuesTo clientId) (Revokes clientId) log entry ∧
    entry.2 = .issued (.ok token)

theorem not_issuedTo_nil (clientId token : String) : ¬ IssuedTo [] clientId token := by
  rintro ⟨entry, hlatest, -⟩
  exact Trace.latestSince_nil _ _ entry hlatest

theorem issuedTo_snoc (log : List (StoreCall × StoreReply)) (entry : StoreCall × StoreReply)
    (clientId token : String) :
    IssuedTo (log ++ [entry]) clientId token ↔
      (IssuesTo clientId entry ∧ entry.2 = .issued (.ok token)) ∨
        (¬ IssuesTo clientId entry ∧ ¬ Revokes clientId entry ∧ IssuedTo log clientId token) :=
  Trace.exists_latestSince_snoc (IssuesTo clientId) (Revokes clientId)
    (fun entry : StoreCall × StoreReply => entry.2 = .issued (.ok token)) log entry

theorem issuedTo_other {log : List (StoreCall × StoreReply)} {entry : StoreCall × StoreReply}
    {clientId : String} (hissue : ¬ IssuesTo clientId entry) (hrevoke : ¬ Revokes clientId entry)
    (token : String) : IssuedTo (log ++ [entry]) clientId token ↔ IssuedTo log clientId token := by
  rw [issuedTo_snoc]
  simp [hissue, hrevoke]

/-- An operation that failed changes nobody's standing. -/
theorem issuedTo_failed {log : List (StoreCall × StoreReply)} {entry : StoreCall × StoreReply}
    {e : PairingError} (hfailed : entry.2.error? = some e) (clientId token : String) :
    IssuedTo (log ++ [entry]) clientId token ↔ IssuedTo log clientId token := by
  apply issuedTo_other
  · rintro ⟨displayName, version, issued, rfl⟩
    cases hfailed
  · rintro (rfl | ⟨identity, rfl⟩)
    · cases hfailed
    · cases hfailed

theorem issuedTo_issue (log : List (StoreCall × StoreReply)) (issued displayName token : String)
    (version : Option String) (clientId other : String) :
    IssuedTo (log ++ [(.issueDevice issued displayName version, .issued (.ok token))]) clientId other ↔
      if clientId = issued then other = token else IssuedTo log clientId other := by
  by_cases hclient : clientId = issued
  · have habout : IssuesTo clientId (.issueDevice issued displayName version, .issued (.ok token)) :=
      ⟨displayName, version, token, by rw [hclient]⟩
    rw [issuedTo_snoc, if_pos hclient]
    simp [habout, eq_comm]
  · rw [if_neg hclient]
    apply issuedTo_other
    · rintro ⟨displayName', version', token', h⟩
      cases h
      exact hclient rfl
    · rintro (h | ⟨identity, h⟩)
      · cases h
      · cases h

theorem issuedTo_revoke (log : List (StoreCall × StoreReply)) (revoked clientId token : String) :
    IssuedTo (log ++ [(.revokeDevice revoked, .done (.ok ()))]) clientId token ↔
      clientId ≠ revoked ∧ IssuedTo log clientId token := by
  have hissue : ¬ IssuesTo clientId (.revokeDevice revoked, .done (.ok ())) := by
    rintro ⟨displayName, version, token', h⟩
    cases h
  by_cases hclient : clientId = revoked
  · have hends : Revokes clientId (.revokeDevice revoked, .done (.ok ())) := .inl (by rw [hclient])
    rw [issuedTo_snoc]
    subst hclient
    simp [hissue, hends]
  · have hends : ¬ Revokes clientId (.revokeDevice revoked, .done (.ok ())) := by
      rintro (h | ⟨identity, h⟩)
      · cases h
        exact hclient rfl
      · cases h
    rw [issuedTo_other hissue hends]
    simp [hclient]

theorem not_issuedTo_rotate (log : List (StoreCall × StoreReply)) (identity : HostIdentitySnapshot)
    (clientId token : String) :
    ¬ IssuedTo (log ++ [(.rotateCredentials, .identity (.ok identity))]) clientId token := by
  have hissue : ¬ IssuesTo clientId (.rotateCredentials, .identity (.ok identity)) := by
    rintro ⟨displayName, version, token', h⟩
    cases h
  have hends : Revokes clientId (.rotateCredentials, .identity (.ok identity)) :=
    .inr ⟨identity, rfl⟩
  rw [issuedTo_snoc]
  simp [hissue, hends]

/-- The operations that touch no credential. -/
def StoreCall.keepsCredentials : StoreCall → Bool
  | .create _ | .loadIdentity | .setThreadIds _ | .authorize _ _ => true
  | _ => false

theorem issuedTo_untouched (log : List (StoreCall × StoreReply)) (call : StoreCall)
    (reply : StoreReply) (h : call.keepsCredentials = true) (clientId token : String) :
    IssuedTo (log ++ [(call, reply)]) clientId token ↔ IssuedTo log clientId token := by
  apply issuedTo_other
  · rintro ⟨displayName, version, issued, hentry⟩
    cases hentry
    cases h
  · rintro (hentry | ⟨identity, hentry⟩)
    · cases hentry
      cases h
    · cases hentry
      cases h

/-- The digest text that `authorize` compares with. -/
def credential (devices : List DeviceRecord) (clientId : String) : Option String :=
  (devices.find? (·.clientId == clientId)).map (·.tokenSha256)

theorem credential_nil (clientId : String) : credential [] clientId = none := rfl

theorem credential_cons (device : DeviceRecord) (devices : List DeviceRecord) (clientId : String) :
    credential (device :: devices) clientId =
      if device.clientId = clientId then some device.tokenSha256 else credential devices clientId := by
  by_cases h : device.clientId = clientId
  · simp [credential, h]
  · simp [credential, h]

theorem credential_append (devices : List DeviceRecord) (device : DeviceRecord) (clientId : String) :
    credential (devices ++ [device]) clientId =
      (credential devices clientId).or
        (if device.clientId = clientId then some device.tokenSha256 else none) := by
  induction devices with
  | nil => rw [List.nil_append, credential_cons, credential_nil, Option.none_or]
  | cons first devices ih =>
    rw [List.cons_append, credential_cons, credential_cons, ih]
    by_cases h : first.clientId = clientId
    · simp [h]
    · simp [h]

theorem credential_filter (devices : List DeviceRecord) (revoked clientId : String) :
    credential (devices.filter (·.clientId != revoked)) clientId =
      if clientId = revoked then none else credential devices clientId := by
  induction devices with
  | nil => simp [credential_nil]
  | cons device devices ih =>
    rw [List.filter_cons, credential_cons]
    by_cases hrevoked : device.clientId = revoked
    · have hkept : (device.clientId != revoked) = false := by simp [hrevoked]
      rw [hkept, if_neg (by simp), ih]
      by_cases hclient : clientId = revoked
      · simp [hclient]
      · have hother : device.clientId ≠ clientId := fun h => hclient (h.symm.trans hrevoked)
        simp [hclient, hother]
    · have hkept : (device.clientId != revoked) = true := by simp [hrevoked]
      rw [hkept, if_pos rfl, credential_cons, ih]
      by_cases hclient : clientId = revoked
      · have hother : device.clientId ≠ clientId := fun h => hrevoked (h.trans hclient)
        simp [hclient, hrevoked]
      · simp [hclient]

/-- Editing the first device of a client, found by its index. -/
theorem credential_modify {devices : List DeviceRecord} {issuedTo : String} {index : Nat}
    (hindex : devices.findIdx? (·.clientId == issuedTo) = some index)
    {edit : DeviceRecord → DeviceRecord} {hash : String}
    (hedit : ∀ device, (edit device).clientId = device.clientId ∧ (edit device).tokenSha256 = hash)
    (clientId : String) :
    credential (devices.modify index edit) clientId =
      if clientId = issuedTo then some hash else credential devices clientId := by
  induction devices generalizing index with
  | nil => simp at hindex
  | cons device devices ih =>
    rw [List.findIdx?_cons] at hindex
    by_cases hdevice : device.clientId = issuedTo
    · have hzero : index = 0 := by simpa [hdevice] using hindex.symm
      obtain ⟨hsame, hhash⟩ := hedit device
      rw [hzero, List.modify_zero_cons, credential_cons, credential_cons, hsame, hhash, hdevice]
      by_cases hclient : clientId = issuedTo
      · simp [hclient]
      · have hother : issuedTo ≠ clientId := fun h => hclient h.symm
        simp [hclient, hother]
    · have hnot : (device.clientId == issuedTo) = false := by simp [hdevice]
      rw [hnot] at hindex
      obtain ⟨rest, hrest, rfl⟩ := Option.map_eq_some_iff.mp hindex
      rw [List.modify_succ_cons, credential_cons, credential_cons, ih hrest]
      by_cases hclient : clientId = issuedTo
      · have hother : device.clientId ≠ clientId := fun h => hdevice (h.trans hclient)
        simp [hclient, hdevice]
      · simp [hclient]

theorem modify_clientIds (devices : List DeviceRecord) (index : Nat)
    {edit : DeviceRecord → DeviceRecord} (hedit : ∀ device, (edit device).clientId = device.clientId) :
    (devices.modify index edit).map (·.clientId) = devices.map (·.clientId) := by
  induction devices generalizing index with
  | nil => simp
  | cons device devices ih =>
    cases index with
    | zero => simp [hedit]
    | succ index => simp [ih]

theorem credential_eq_none_iff {devices : List DeviceRecord} {clientId : String} :
    credential devices clientId = none ↔ clientId ∉ devices.map (·.clientId) := by
  simp [credential]

/-- What an issue does to the list of devices. -/
theorem issue_devices {env : Surroundings} {clientId displayName hash : String}
    {version : Option String} {old new : StoreRecord}
    (h : HostCredentialStore.issue env clientId displayName version hash old = .ok new) :
    (∀ other, credential new.devices other =
      if other = clientId then some hash else credential old.devices other) ∧
    ((old.devices.map (·.clientId)).Nodup → (new.devices.map (·.clientId)).Nodup) ∧
    (old.devices.length ≤ maxDevices → new.devices.length ≤ maxDevices) ∧
    new = { old with devices := new.devices } := by
  unfold HostCredentialStore.issue at h
  split at h
  · next index hindex =>
    cases h
    refine ⟨credential_modify hindex fun device => ⟨rfl, rfl⟩, ?_, ?_, rfl⟩
    · intro hnodup
      rw [modify_clientIds]
      · exact hnodup
      · intro device
        rfl
    · intro hcapacity
      simpa using hcapacity
  · next hnone =>
    have habsent : ∀ device ∈ old.devices, device.clientId ≠ clientId := by
      simpa [List.findIdx?_eq_none_iff] using hnone
    have hnew : credential old.devices clientId = none := by
      rw [credential_eq_none_iff]
      intro hmem
      obtain ⟨device, hdevice, hclient⟩ := List.mem_map.mp hmem
      exact habsent device hdevice hclient
    split at h
    · cases h
    · next hroom =>
      cases h
      refine ⟨?_, ?_, ?_, rfl⟩
      · intro other
        rw [credential_append]
        by_cases hother : other = clientId
        · subst hother
          simp [hnew]
        · have hne : clientId ≠ other := fun h => hother h.symm
          simp [hother, hne]
      · intro hnodup
        rw [List.map_append, List.nodup_append]
        refine ⟨hnodup, by simp, ?_⟩
        intro id hid id' hid' heq
        obtain ⟨device, hdevice, rfl⟩ := List.mem_map.mp hid
        have hclient : id' = clientId := by simpa using hid'
        exact habsent device hdevice (heq.trans hclient)
      · intro _
        rw [List.length_append, List.length_singleton]
        omega

theorem revoke_devices {clientId : String} {old new : StoreRecord}
    (h : HostCredentialStore.revoke clientId old = .ok new) :
    new = { old with devices := old.devices.filter (·.clientId != clientId) } := by
  unfold HostCredentialStore.revoke at h
  simp only at h
  split at h
  · cases h
  · cases h
    rfl

/-- JSON reads back the record it wrote, and base64 the bytes. -/
structure StoreLibrary.Lawful {α : Type} (lib : StoreLibrary α) : Prop where
  json : ∀ record bytes, lib.toVecPretty record = .ok bytes → lib.fromSlice bytes = .ok record
  base64 : ∀ bytes, lib.decodeStandard (lib.encodeStandard bytes) = .ok bytes

def SameIdentity (old new : StoreRecord) : Prop :=
  new.hostId = old.hostId ∧ new.providerId = old.providerId ∧ new.channelId = old.channelId

theorem snapshot_of_valid {α : Type} {lib : StoreLibrary α} {record : StoreRecord}
    (h : validateRecord lib record = .ok ()) : ∃ identity, snapshot lib record = .ok identity := by
  unfold validateRecord at h
  simp only [Fallible.bind_eq_ok] at h
  obtain ⟨-, -, -, -, -, -, -, -, -, -, -, -, -, -, -, -, -, -, identity, hidentity, -⟩ := h
  exact ⟨identity, hidentity⟩

namespace HostCredentialStore

variable {α : Type} {lib : StoreLibrary α} {store : HostCredentialStore} {env : Surroundings}

theorem saveUnlocked_cases (hatomic : env.syncParent = .ok ()) (record : StoreRecord)
    (file : Option α) :
    (∃ bytes, lib.toVecPretty record = .ok bytes ∧
      store.saveUnlocked lib env record file = (.ok (), some bytes)) ∨
    ∃ e, store.saveUnlocked lib env record file = (.error e, file) := by
  unfold saveUnlocked
  cases hbytes : lib.toVecPretty record with
  | error source => exact .inr ⟨_, rfl⟩
  | ok bytes =>
    unfold atomicWritePrivate
    cases hwrite : (do env.writeTemporary; env.rename : Except String Unit) with
    | error source => exact .inr ⟨_, rfl⟩
    | ok u => exact .inl ⟨bytes, rfl, by simp [hatomic, Except.mapError]⟩

theorem stored_of_load {file : Option α} {record : StoreRecord}
    (h : store.loadUnlocked lib env file = .ok record) : stored lib file = some record := by
  cases file with
  | none => cases h
  | some bytes =>
    simp only [loadUnlocked, Fallible.bind_eq_ok, Fallible.mapError_eq_ok] at h
    obtain ⟨_, -, _, -, loaded, hloaded, _, -, hrecord⟩ := h
    cases hrecord
    simp [stored, hloaded, Except.toOption]

/-- A successful update: the stored record was edited, validated and saved. -/
structure Updated (lib : StoreLibrary α) (operation : StoreRecord → Except PairingError StoreRecord)
    (file file' : Option α) (new : StoreRecord) : Prop where
  edited : ∃ old, stored lib file = some old ∧ operation old = .ok new
  valid : validateRecord lib new = .ok ()
  saved : stored lib file' = some new

theorem update_cases (hlib : lib.Lawful) (hatomic : env.syncParent = .ok ())
    (operation : StoreRecord → Except PairingError StoreRecord) (file : Option α) :
    (∃ new file', store.update lib env operation file = (.ok new, file') ∧
      Updated lib operation file file' new) ∨
    ∃ e, store.update lib env operation file = (.error e, file) := by
  unfold update
  simp only
  split
  · next e _ => exact .inr ⟨e, rfl⟩
  · next new hedited =>
    simp only [Fallible.bind_eq_ok] at hedited
    obtain ⟨_, -, old, hload, edited, hoperation, _, hvalid, hnew⟩ := hedited
    cases hnew
    rcases saveUnlocked_cases hatomic new file with
      ⟨bytes, hbytes, hsave⟩ | ⟨e, hsave⟩
    · rw [hsave]
      refine .inl ⟨new, some bytes, rfl, ⟨old, stored_of_load hload, hoperation⟩, hvalid, ?_⟩
      simp [stored, hlib.json new bytes hbytes, Except.toOption]
    · rw [hsave]
      exact .inr ⟨e, rfl⟩

/-- What one operation does, by what it returns. -/
inductive Effect (lib : StoreLibrary α) (file : Option α) :
    StoreCall → Option α → StoreReply → Prop where
  | failed {call : StoreCall} {reply : StoreReply} {e : PairingError} :
      reply.error? = some e → Effect lib file call file reply
  | asked {clientId token : String} {result : Bool} :
      Effect lib file (.authorize clientId token) file (.authorized result)
  | created {hostName : String} {file' : Option α} {identity : HostIdentitySnapshot}
      {new : StoreRecord} : file = none → stored lib file' = some new → new.devices = [] →
      Effect lib file (.create hostName) file' (.identity (.ok identity))
  | loaded {file' : Option α} {identity : HostIdentitySnapshot} {old new : StoreRecord} :
      stored lib file = some old → stored lib file' = some new →
      validateRecord lib new = .ok () → SameIdentity old new → new.devices = old.devices →
      Effect lib file .loadIdentity file' (.identity (.ok identity))
  | threadsSet {threadIds : List String} {file' : Option α} {old new : StoreRecord} :
      stored lib file = some old → stored lib file' = some new →
      validateRecord lib new = .ok () → SameIdentity old new → new.devices = old.devices →
      Effect lib file (.setThreadIds threadIds) file' (.done (.ok ()))
  | issued {clientId displayName token : String} {version : Option String} {env : Surroundings}
      {file' : Option α} {old new : StoreRecord} :
      stored lib file = some old → stored lib file' = some new →
      validateRecord lib new = .ok () →
      issue env clientId displayName version (hex (lib.sha256 token).val) old = .ok new →
      Effect lib file (.issueDevice clientId displayName version) file' (.issued (.ok token))
  | revoked {clientId : String} {file' : Option α} {old new : StoreRecord} :
      stored lib file = some old → stored lib file' = some new →
      validateRecord lib new = .ok () → revoke clientId old = .ok new →
      Effect lib file (.revokeDevice clientId) file' (.done (.ok ()))
  | rotated {file' : Option α} {identity : HostIdentitySnapshot} {old new : StoreRecord} :
      stored lib file = some old → stored lib file' = some new →
      validateRecord lib new = .ok () → SameIdentity old new → new.devices = [] →
      Effect lib file .rotateCredentials file' (.identity (.ok identity))

theorem renewLeaf_same {old new : StoreRecord} (h : renewLeaf lib env old = .ok new) :
    SameIdentity old new ∧ new.devices = old.devices := by
  unfold renewLeaf at h
  simp only [Fallible.bind_eq_ok] at h
  obtain ⟨_, -, _, -, _, -, _, -, _, -, _, -, h⟩ := h
  cases h
  exact ⟨⟨rfl, rfl, rfl⟩, rfl⟩

theorem rotate_same {old new : StoreRecord} (h : rotate lib env old = .ok new) :
    SameIdentity old new ∧ new.devices = [] := by
  unfold rotate at h
  simp only [Fallible.bind_eq_ok] at h
  obtain ⟨_, -, h⟩ := h
  cases h
  exact ⟨⟨rfl, rfl, rfl⟩, rfl⟩

/-- The certificates of a new record are base64 texts, so its snapshot succeeds. -/
theorem snapshot_newRecord (hlib : lib.Lawful) {hostName : String} {record : StoreRecord}
    (h : newRecord lib env hostName = .ok record) :
    ∃ identity, snapshot lib record = .ok identity := by
  unfold newRecord generateIdentity at h
  simp only [Fallible.bind_eq_ok] at h
  obtain ⟨certificates, ⟨_, -, _, -, _, -, ⟨_, _, _⟩, -, hcertificates⟩, hrecord⟩ := h
  cases hcertificates
  cases hrecord
  simp [snapshot, hlib.base64, Except.mapError, bind, Except.bind]

theorem create_effect (hlib : lib.Lawful) (hatomic : env.syncParent = .ok ()) (hostName : String)
    (file : Option α) :
    Effect lib file (.create hostName) (store.create lib env hostName file).2
      (.identity (store.create lib env hostName file).1) := by
  unfold create
  simp only
  split
  · next e _ => exact .failed rfl
  · next record hbuilt =>
    simp only [Fallible.bind_eq_ok, require_eq_ok] at hbuilt
    obtain ⟨_, -, _, -, _, habsent, hrecord⟩ := hbuilt
    obtain ⟨identity, hidentity⟩ := snapshot_newRecord hlib hrecord
    rcases saveUnlocked_cases hatomic record file with ⟨bytes, hbytes, hsave⟩ | ⟨e, hsave⟩
    · rw [hsave]
      have hstored : stored lib (some bytes) = some record := by
        simp [stored, hlib.json record bytes hbytes, Except.toOption]
      have hdevices : record.devices = [] := by
        unfold newRecord at hrecord
        simp only [Fallible.bind_eq_ok] at hrecord
        obtain ⟨_, -, hrecord⟩ := hrecord
        cases hrecord
        rfl
      simp only [Except.bind, hidentity]
      exact .created (by simpa using habsent) hstored hdevices
    · rw [hsave]
      exact .failed rfl

theorem loadIdentity_effect (hlib : lib.Lawful) (hatomic : env.syncParent = .ok ())
    (file : Option α) :
    Effect lib file .loadIdentity (store.loadIdentity lib env file).2
      (.identity (store.loadIdentity lib env file).1) := by
  unfold loadIdentity
  rcases update_cases hlib hatomic (fun record =>
      if record.certificates.leafNotAfterUnixSeconds ≤ env.nowUtc + daySeconds leafRenewalDays then
        renewLeaf lib env record
      else .ok record) file with ⟨new, file', hupdate, ⟨old, hold, hoperation⟩, hvalid, hsaved⟩ | ⟨e, hupdate⟩
  · obtain ⟨identity, hidentity⟩ := snapshot_of_valid hvalid
    have hsame : SameIdentity old new ∧ new.devices = old.devices := by
      split at hoperation
      · exact renewLeaf_same hoperation
      · cases hoperation
        exact ⟨⟨rfl, rfl, rfl⟩, rfl⟩
    rw [hupdate]
    simp only [Except.bind, hidentity]
    exact .loaded hold hsaved hvalid hsame.1 hsame.2
  · rw [hupdate]
    exact .failed rfl

theorem setThreadIds_effect (hlib : lib.Lawful) (hatomic : env.syncParent = .ok ())
    (threadIds : List String) (file : Option α) :
    Effect lib file (.setThreadIds threadIds) (store.setThreadIds lib env threadIds file).2
      (.done (store.setThreadIds lib env threadIds file).1) := by
  unfold setThreadIds
  split
  · exact .failed rfl
  · rcases update_cases hlib hatomic
      (fun record => .ok { record with threadIds }) file with
      ⟨new, file', hupdate, ⟨old, hold, hoperation⟩, hvalid, hsaved⟩ | ⟨e, hupdate⟩
    · cases hoperation
      rw [hupdate]
      exact .threadsSet hold hsaved hvalid ⟨rfl, rfl, rfl⟩ rfl
    · rw [hupdate]
      exact .failed rfl

theorem issueDevice_effect (hlib : lib.Lawful) (hatomic : env.syncParent = .ok ())
    (clientId displayName : String) (version : Option String) (file : Option α) :
    Effect lib file (.issueDevice clientId displayName version)
      (store.issueDevice lib env clientId displayName version file).2
      (.issued (store.issueDevice lib env clientId displayName version file).1) := by
  unfold issueDevice
  simp only
  split
  · exact .failed rfl
  · rcases update_cases hlib hatomic
      (issue env clientId displayName version (hex (lib.sha256 (drawnToken lib env)).val)) file with
      ⟨new, file', hupdate, ⟨old, hold, hoperation⟩, hvalid, hsaved⟩ | ⟨e, hupdate⟩
    · rw [hupdate]
      exact .issued hold hsaved hvalid hoperation
    · rw [hupdate]
      exact .failed rfl

theorem revokeDevice_effect (hlib : lib.Lawful) (hatomic : env.syncParent = .ok ())
    (clientId : String) (file : Option α) :
    Effect lib file (.revokeDevice clientId) (store.revokeDevice lib env clientId file).2
      (.done (store.revokeDevice lib env clientId file).1) := by
  unfold revokeDevice
  rcases update_cases hlib hatomic (revoke clientId) file with
    ⟨new, file', hupdate, ⟨old, hold, hoperation⟩, hvalid, hsaved⟩ | ⟨e, hupdate⟩
  · rw [hupdate]
    exact .revoked hold hsaved hvalid hoperation
  · rw [hupdate]
    exact .failed rfl

theorem rotateCredentials_effect (hlib : lib.Lawful) (hatomic : env.syncParent = .ok ())
    (file : Option α) :
    Effect lib file .rotateCredentials (store.rotateCredentials lib env file).2
      (.identity (store.rotateCredentials lib env file).1) := by
  unfold rotateCredentials
  rcases update_cases hlib hatomic (rotate lib env) file with
    ⟨new, file', hupdate, ⟨old, hold, hoperation⟩, hvalid, hsaved⟩ | ⟨e, hupdate⟩
  · obtain ⟨identity, hidentity⟩ := snapshot_of_valid hvalid
    obtain ⟨hsame, hdevices⟩ := rotate_same hoperation
    rw [hupdate]
    simp only [Except.bind, hidentity]
    exact .rotated hold hsaved hvalid hsame hdevices
  · rw [hupdate]
    exact .failed rfl

theorem step_effect (hlib : lib.Lawful) (store : HostCredentialStore) (file : Option α)
    (call : StoreCall × Surroundings) (hatomic : call.2.syncParent = .ok ()) :
    Effect lib file call.1 (step lib store file call).1 (step lib store file call).2 := by
  obtain ⟨call, env⟩ := call
  cases call with
  | create hostName => exact create_effect hlib hatomic hostName file
  | loadIdentity => exact loadIdentity_effect hlib hatomic file
  | setThreadIds threadIds => exact setThreadIds_effect hlib hatomic threadIds file
  | issueDevice clientId displayName version =>
    exact issueDevice_effect hlib hatomic clientId displayName version file
  | revokeDevice clientId => exact revokeDevice_effect hlib hatomic clientId file
  | rotateCredentials => exact rotateCredentials_effect hlib hatomic file
  | authorize clientId token => exact .asked

/-- The devices of the record are the clients whose last word is an issue. -/
structure Agrees (lib : StoreLibrary α) (log : List (StoreCall × StoreReply))
    (record : StoreRecord) : Prop where
  distinct : (record.devices.map (·.clientId)).Nodup
  capacity : record.devices.length ≤ maxDevices
  valid : record.devices = [] ∨ validateRecord lib record = .ok ()
  credentials : ∀ clientId hash, credential record.devices clientId = some hash ↔
    ∃ token, IssuedTo log clientId token ∧ hash = hex (lib.sha256 token).val

/-- What the file holds agrees with the log, also while there is no file. -/
def Consistent (lib : StoreLibrary α) (log : List (StoreCall × StoreReply)) (file : Option α) :
    Prop :=
  match file with
  | none => ∀ clientId token, ¬ IssuedTo log clientId token
  | some _ => ∃ record, stored lib file = some record ∧ Agrees lib log record

theorem Consistent.agrees {log : List (StoreCall × StoreReply)} {file : Option α}
    {record : StoreRecord} (h : Consistent lib log file) (hstored : stored lib file = some record) :
    Agrees lib log record := by
  cases file with
  | none => cases hstored
  | some bytes =>
    obtain ⟨other, hother, hagrees⟩ := h
    have hsame : other = record := Option.some.inj (hother.symm.trans hstored)
    exact hsame ▸ hagrees

theorem consistent_of_agrees {log : List (StoreCall × StoreReply)} {file : Option α}
    {record : StoreRecord} (hstored : stored lib file = some record)
    (h : Agrees lib log record) : Consistent lib log file := by
  cases file with
  | none => cases hstored
  | some bytes => exact ⟨record, hstored, h⟩

/-- A step that is no success for any client leaves the agreement as it is. -/
theorem Consistent.snoc {log : List (StoreCall × StoreReply)} {file : Option α}
    {entry : StoreCall × StoreReply} (h : Consistent lib log file)
    (hsame : ∀ clientId token, IssuedTo (log ++ [entry]) clientId token ↔ IssuedTo log clientId token) :
    Consistent lib (log ++ [entry]) file := by
  cases file with
  | none =>
    intro clientId token
    rw [hsame]
    exact h clientId token
  | some bytes =>
    obtain ⟨record, hstored, hagrees⟩ := h
    refine ⟨record, hstored, hagrees.distinct, hagrees.capacity, hagrees.valid, ?_⟩
    intro clientId hash
    simp only [hsame]
    exact hagrees.credentials clientId hash

/-- A saved record with the devices of the old one. -/
theorem Agrees.sameDevices {log : List (StoreCall × StoreReply)} {old new : StoreRecord}
    {entry : StoreCall × StoreReply} (h : Agrees lib log old)
    (hvalid : validateRecord lib new = .ok ()) (hdevices : new.devices = old.devices)
    (hsame : ∀ clientId token, IssuedTo (log ++ [entry]) clientId token ↔ IssuedTo log clientId token) :
    Agrees lib (log ++ [entry]) new := by
  refine ⟨by rw [hdevices]; exact h.distinct, by rw [hdevices]; exact h.capacity, .inr hvalid, ?_⟩
  intro clientId hash
  simp only [hsame, hdevices]
  exact h.credentials clientId hash

theorem Agrees.issued {log : List (StoreCall × StoreReply)} {old new : StoreRecord}
    {clientId displayName token : String} {version : Option String} {env : Surroundings}
    (h : Agrees lib log old) (hvalid : validateRecord lib new = .ok ())
    (hissue : issue env clientId displayName version (hex (lib.sha256 token).val) old = .ok new) :
    Agrees lib (log ++ [(.issueDevice clientId displayName version, .issued (.ok token))]) new := by
  obtain ⟨hcredential, hdistinct, hcapacity, -⟩ := issue_devices hissue
  refine ⟨hdistinct h.distinct, hcapacity h.capacity, .inr hvalid, ?_⟩
  intro other hash
  rw [hcredential]
  simp only [issuedTo_issue]
  by_cases hother : other = clientId
  · simp [hother, eq_comm]
  · simp only [if_neg hother]
    exact h.credentials other hash

theorem Agrees.revoked {log : List (StoreCall × StoreReply)} {old new : StoreRecord}
    {clientId : String} (h : Agrees lib log old) (hvalid : validateRecord lib new = .ok ())
    (hrevoke : revoke clientId old = .ok new) :
    Agrees lib (log ++ [(.revokeDevice clientId, .done (.ok ()))]) new := by
  have hdevices := congrArg StoreRecord.devices (revoke_devices hrevoke)
  have hsublist : new.devices.Sublist old.devices := by
    rw [hdevices]
    exact List.filter_sublist
  refine ⟨(hsublist.map _).nodup h.distinct, hsublist.length_le.trans h.capacity, .inr hvalid, ?_⟩
  intro other hash
  rw [hdevices]
  simp only [credential_filter, issuedTo_revoke]
  by_cases hother : other = clientId
  · simp [hother]
  · simp only [ne_eq, hother, not_false_eq_true, true_and]
    exact h.credentials other hash

/-- A record without devices agrees with a log in which nobody stands. -/
theorem agrees_of_none {log : List (StoreCall × StoreReply)} {record : StoreRecord}
    (hdevices : record.devices = []) (hnone : ∀ clientId token, ¬ IssuedTo log clientId token) :
    Agrees lib log record := by
  refine ⟨by simp [hdevices], by simp [hdevices], .inl hdevices, ?_⟩
  intro clientId hash
  simp [hdevices, credential_nil, hnone]

/-- The agreement after one operation. -/
theorem Effect.consistent {log : List (StoreCall × StoreReply)} {file file' : Option α}
    {call : StoreCall} {reply : StoreReply} (heffect : Effect lib file call file' reply)
    (h : Consistent lib log file) : Consistent lib (log ++ [(call, reply)]) file' := by
  cases heffect with
  | failed herror => exact h.snoc (issuedTo_failed herror)
  | asked => exact h.snoc (issuedTo_untouched log (.authorize _ _) _ rfl)
  | created hfile hnew hdevices =>
    subst hfile
    refine consistent_of_agrees hnew (agrees_of_none hdevices ?_)
    intro clientId token
    rw [issuedTo_untouched log (.create _) _ rfl]
    exact h clientId token
  | loaded hold hnew hvalid _ hdevices =>
    apply consistent_of_agrees hnew
    exact (h.agrees hold).sameDevices hvalid hdevices (issuedTo_untouched log .loadIdentity _ rfl)
  | threadsSet hold hnew hvalid _ hdevices =>
    apply consistent_of_agrees hnew
    exact (h.agrees hold).sameDevices hvalid hdevices (issuedTo_untouched log (.setThreadIds _) _ rfl)
  | issued hold hnew hvalid hissue =>
    exact consistent_of_agrees hnew ((h.agrees hold).issued hvalid hissue)
  | revoked hold hnew hvalid hrevoke =>
    exact consistent_of_agrees hnew ((h.agrees hold).revoked hvalid hrevoke)
  | rotated hold hnew _ _ hdevices =>
    exact consistent_of_agrees hnew (agrees_of_none hdevices (not_issuedTo_rotate log _))

theorem Effect.sameIdentity {file file' : Option α} {call : StoreCall} {reply : StoreReply}
    (heffect : Effect lib file call file' reply) {old : StoreRecord}
    (hold : stored lib file = some old) :
    ∃ new, stored lib file' = some new ∧ SameIdentity old new := by
  cases heffect with
  | failed _ => exact ⟨old, hold, rfl, rfl, rfl⟩
  | asked => exact ⟨old, hold, rfl, rfl, rfl⟩
  | created hfile _ _ =>
    subst hfile
    cases hold
  | loaded hold' hnew _ hsame _ =>
    cases hold.symm.trans hold'
    exact ⟨_, hnew, hsame⟩
  | threadsSet hold' hnew _ hsame _ =>
    cases hold.symm.trans hold'
    exact ⟨_, hnew, hsame⟩
  | issued hold' hnew _ hissue =>
    cases hold.symm.trans hold'
    have hsame := (issue_devices hissue).2.2.2
    exact ⟨_, hnew, by rw [hsame]; exact ⟨rfl, rfl, rfl⟩⟩
  | revoked hold' hnew _ hrevoke =>
    cases hold.symm.trans hold'
    have hsame := revoke_devices hrevoke
    exact ⟨_, hnew, by rw [hsame]; exact ⟨rfl, rfl, rfl⟩⟩
  | rotated hold' hnew _ hsame _ =>
    cases hold.symm.trans hold'
    exact ⟨_, hnew, hsame⟩

theorem Effect.unchanged {file file' : Option α} {call : StoreCall} {reply : StoreReply}
    (heffect : Effect lib file call file' reply) {e : PairingError}
    (herror : reply.error? = some e) : file' = file := by
  cases heffect with
  | failed _ => rfl
  | asked => rfl
  | _ => cases herror

/-- The operation gets at the file. -/
def Readable (store : HostCredentialStore) (env : Surroundings) : Prop :=
  store.acquire env = .ok () ∧ env.protectFile = .ok () ∧ env.read = .ok ()

theorem loadRecord_eq_ok {file : Option α} {record : StoreRecord} :
    store.loadRecord lib env file = .ok record ↔
      Readable store env ∧ stored lib file = some record ∧ validateRecord lib record = .ok () := by
  unfold loadRecord
  rw [Fallible.bind_eq_ok]
  constructor
  · rintro ⟨u, hacquire, hload⟩
    have hstored := stored_of_load hload
    cases file with
    | none => cases hload
    | some bytes =>
      simp only [loadUnlocked, Fallible.bind_eq_ok, Fallible.mapError_eq_ok] at hload
      obtain ⟨_, hprotect, _, hread, loaded, -, _, hvalid, hrecord⟩ := hload
      cases hrecord
      exact ⟨⟨hacquire, hprotect, hread⟩, hstored, hvalid⟩
  · rintro ⟨⟨hacquire, hprotect, hread⟩, hstored, hvalid⟩
    refine ⟨(), hacquire, ?_⟩
    obtain ⟨bytes, rfl, hbytes⟩ := Option.bind_eq_some_iff.mp hstored
    have hslice : lib.fromSlice bytes = .ok record := by
      cases hresult : lib.fromSlice bytes with
      | error e => simp [hresult, Except.toOption] at hbytes
      | ok other => simpa [hresult, Except.toOption] using hbytes
    simp [loadUnlocked, hprotect, hread, hslice, hvalid, Except.mapError, bind, Except.bind]

theorem authorize_eq_true {file : Option α} {clientId token : String} :
    store.authorize lib env clientId token file = true ↔
      ∃ record hash, store.loadRecord lib env file = .ok record ∧
        credential record.devices clientId = some hash ∧
        decodeHex32 hash = some (lib.sha256 token) := by
  unfold authorize credential
  cases hload : store.loadRecord lib env file with
  | error e => simp
  | ok record =>
    cases hfind : record.devices.find? (·.clientId == clientId) with
    | none => simp [hfind]
    | some device =>
      cases hdecode : decodeHex32 device.tokenSha256 with
      | none => simp [hfind, hdecode]
      | some expected => simp [hfind, hdecode, eq_comm]

/-- A readable file authorizes exactly the standing token of the client. -/
theorem authorize_iff {log : List (StoreCall × StoreReply)} {file : Option α}
    (h : Consistent lib log file) {clientId token : String}
    (hdigest : ∀ issued, IssuedTo log clientId issued →
      lib.sha256 token = lib.sha256 issued → token = issued) :
    store.authorize lib env clientId token file = true ↔
      Readable store env ∧ IssuedTo log clientId token := by
  rw [authorize_eq_true]
  constructor
  · rintro ⟨record, hash, hload, hcredential, hdecode⟩
    obtain ⟨hreadable, hstored, -⟩ := loadRecord_eq_ok.mp hload
    obtain ⟨issued, hissued, rfl⟩ := ((h.agrees hstored).credentials clientId hash).mp hcredential
    rw [decodeHex32_hex] at hdecode
    have hsame := hdigest issued hissued (Option.some.inj hdecode).symm
    exact ⟨hreadable, hsame ▸ hissued⟩
  · rintro ⟨hreadable, hissued⟩
    cases file with
    | none => exact absurd hissued (h clientId token)
    | some bytes =>
      obtain ⟨record, hstored, hagrees⟩ := h
      have hcredential := (hagrees.credentials clientId _).mpr ⟨token, hissued, rfl⟩
      have hvalid : validateRecord lib record = .ok () := by
        rcases hagrees.valid with hnone | hvalid
        · simp [hnone, credential_nil] at hcredential
        · exact hvalid
      exact ⟨record, _, loadRecord_eq_ok.mpr ⟨hreadable, hstored, hvalid⟩, hcredential,
        decodeHex32_hex _⟩

theorem run_consistent (hlib : lib.Lawful) (store : HostCredentialStore)
    (calls : List (StoreCall × Surroundings)) (hatomic : ∀ call ∈ calls, call.2.syncParent = .ok ()) :
    Consistent lib (log lib store calls) (fileAfter lib store calls) := by
  have hrun : ∀ past file, Consistent lib past file →
      Consistent lib
        (past ++ Trace.collected (step lib store) (fun call reply => [(call.1, reply)]) file calls)
        (Trace.final (step lib store) file calls) := by
    induction calls with
    | nil =>
      intro past file h
      simpa [Trace.collected] using h
    | cons call calls ih =>
      intro past file h
      have hnext := (step_effect hlib store file call (hatomic call (by simp))).consistent h
      have hrest := ih (fun other hother => hatomic other (by simp [hother])) _ _ hnext
      simpa [Trace.collected] using hrest
  have hstart : Consistent lib [] none := not_issuedTo_nil
  simpa [log, fileAfter] using hrun [] none hstart

theorem run_sameIdentity (hlib : lib.Lawful) (calls : List (StoreCall × Surroundings))
    (hatomic : ∀ call ∈ calls, call.2.syncParent = .ok ()) (file : Option α) {old : StoreRecord}
    (hold : stored lib file = some old) :
    ∃ new, stored lib (Trace.final (step lib store) file calls) = some new ∧
      SameIdentity old new := by
  induction calls generalizing file old with
  | nil => exact ⟨old, hold, rfl, rfl, rfl⟩
  | cons call calls ih =>
    obtain ⟨middle, hmiddle, hfirst⟩ :=
      (step_effect hlib store file call (hatomic call (by simp))).sameIdentity hold
    obtain ⟨new, hnew, hrest⟩ :=
      ih (fun other hother => hatomic other (by simp [hother])) _ hmiddle
    refine ⟨new, hnew, ?_, ?_, ?_⟩
    · exact hrest.1.trans hfirst.1
    · exact hrest.2.1.trans hfirst.2.1
    · exact hrest.2.2.trans hfirst.2.2

/-- Whatever operations ran, in whatever order: a client is authorized with a
token exactly when the last success among the issues to it, its revocations and
the rotations issued that token. There are at most sixteen devices, no two with
one client identifier; the identity of the host stays; and an operation that
fails leaves the file as it was. SHA-256 is injective on `tokens`. -/
theorem run_authority (hlib : lib.Lawful) (calls : List (StoreCall × Surroundings))
    (hatomic : ∀ call ∈ calls, call.2.syncParent = .ok ()) (tokens : Set String)
    (hdigest : Set.InjOn lib.sha256 tokens)
    (hissued : ∀ clientId token, IssuedTo (log lib store calls) clientId token → token ∈ tokens) :
    (∀ (env : Surroundings) (clientId : String), ∀ token ∈ tokens,
      store.authorize lib env clientId token (fileAfter lib store calls) = true ↔
        Readable store env ∧ IssuedTo (log lib store calls) clientId token) ∧
    (∀ record, stored lib (fileAfter lib store calls) = some record →
      (record.devices.map (·.clientId)).Nodup ∧ record.devices.length ≤ maxDevices) ∧
    (∀ before after, calls = before ++ after →
      ∀ old, stored lib (fileAfter lib store before) = some old →
      ∃ new, stored lib (fileAfter lib store calls) = some new ∧ SameIdentity old new) ∧
    (∀ before call after, calls = before ++ call :: after →
      ∀ e, (step lib store (fileAfter lib store before) call).2.error? = some e →
      fileAfter lib store (before ++ [call]) = fileAfter lib store before) := by
  have hconsistent := run_consistent hlib store calls hatomic
  refine ⟨?_, ?_, ?_, ?_⟩
  · intro env clientId token htoken
    apply authorize_iff hconsistent
    intro issued hstands hsame
    exact hdigest htoken (hissued clientId issued hstands) hsame
  · intro record hstored
    have hagrees := hconsistent.agrees hstored
    exact ⟨hagrees.distinct, hagrees.capacity⟩
  · intro before after hcalls old hold
    subst hcalls
    rw [fileAfter, Trace.final_append]
    exact run_sameIdentity hlib after (fun call hcall => hatomic call (by simp [hcall])) _ hold
  · intro before call after hcalls e herror
    subst hcalls
    have hstep := step_effect hlib store (fileAfter lib store before) call
      (hatomic call (by simp))
    rw [fileAfter, Trace.final_append]
    exact hstep.unchanged herror

end HostCredentialStore

namespace Sample

/-- The token of a secret of zeros. -/
def pairedToken : String := String.ofList (List.replicate 43 'A')

/-- The token of a secret of ones. -/
def otherToken : String := "AQEBAQEBAQEBAQEBAQEBAQEBAQEBAQEBAQEBAQEBAQE"

def pairedId : String := "0198f142-5a00-7000-8000-000000000001"

/-- SHA-256 of these texts. -/
def textDigests : List (String × Digest) :=
  [(pairedToken, ⟨[15, 0, 115, 133, 182, 249, 212, 183, 238, 178, 116, 134, 5, 175, 225, 169,
      132, 160, 163, 191, 163, 240, 20, 208, 158, 42, 120, 76, 233, 229, 205, 26], rfl⟩),
    (otherToken, ⟨[86, 213, 250, 115, 51, 246, 215, 71, 219, 66, 194, 57, 64, 126, 93, 164, 195,
      47, 76, 121, 243, 93, 9, 43, 19, 79, 211, 90, 64, 45, 156, 92], rfl⟩),
    (pairedId, ⟨[211, 170, 42, 98, 103, 136, 132, 28, 177, 192, 142, 205, 162, 3, 89, 198, 2, 93,
      33, 93, 141, 54, 8, 205, 153, 146, 37, 204, 124, 248, 19, 193], rfl⟩)]

/-- Documents are the records themselves, and certificates have no bytes. -/
def pairingLibrary : StoreLibrary StoreRecord where
  toVecPretty := .ok
  fromSlice := .ok
  encodeStandard := Base64.encodePadded .standard
  decodeStandard := fun text =>
    match Base64.decodePadded .standard text with
    | some bytes => .ok bytes
    | none => .error "Invalid padding"
  encodeUrlSafe := Base64.encode .urlSafe
  sha256 := fun text => (textDigests.lookup text).getD (.filled 0)
  uuidError := fun _ => "invalid length"
  newParams := fun names => .ok ⟨names, none, false, [], [], 0, 0⟩
  fromCaCertDer := fun _ => .ok ⟨[], none, true, [], [], 0, 0⟩
  keyPairFromDer := fun der => .ok ⟨der⟩
  selfSigned := fun _ _ => .ok ⟨[]⟩
  signedBy := fun _ _ _ _ => .ok ⟨[]⟩

theorem pairingLibrary_lawful : pairingLibrary.Lawful where
  json := by
    intro record bytes h
    cases h
    rfl
  base64 := by
    intro bytes
    simp [pairingLibrary, Base64.decodePadded_encodePadded]

def pairingStore : HostCredentialStore :=
  ⟨"credentials.json", "credentials.lock", some ""⟩

def pairingSurroundings : Surroundings where
  hostId := (Ident.numbered .session 1).uuid
  providerId := (Ident.numbered .session 2).uuid
  channelId := (Ident.numbered .session 3).uuid
  secret := .filled 0
  caKey := .ok ⟨[]⟩
  leafKey := .ok ⟨[]⟩

def pixel : String := (Ident.numbered .session 4).toString

def pairing : List (StoreCall × Surroundings) :=
  [(.create "Studio Host", pairingSurroundings),
    (.issueDevice pixel "Pixel" none, pairingSurroundings)]

end Sample

/-- A freshly paired device is authorized with its token. -/
theorem HostCredentialStore.run_authority_paired :
    Sample.pairingStore.authorize Sample.pairingLibrary Sample.pairingSurroundings Sample.pixel
      Sample.pairedToken (fileAfter Sample.pairingLibrary Sample.pairingStore Sample.pairing) =
      true := by
  have hatomic : ∀ call ∈ Sample.pairing, call.2.syncParent = .ok () := by decide +kernel
  have hlog : ∃ identity, log Sample.pairingLibrary Sample.pairingStore Sample.pairing =
      [] ++ [(.create "Studio Host", .identity (.ok identity))] ++
        [(.issueDevice Sample.pixel "Pixel" none, .issued (.ok Sample.pairedToken))] := by
    refine ⟨⟨(Ident.numbered .session 1).toString, "Studio Host",
      (Ident.numbered .session 2).toString, (Ident.numbered .session 3).toString,
      (Ident.numbered .session 1).toString ++ ".agentpulse.local", [], [], [], [],
      leafLifetimeDays * 86400⟩, ?_⟩
    decide +kernel
  obtain ⟨identity, hlog⟩ := hlog
  have hstanding : ∀ clientId token,
      IssuedTo (log Sample.pairingLibrary Sample.pairingStore Sample.pairing) clientId token ↔
        clientId = Sample.pixel ∧ token = Sample.pairedToken := by
    intro clientId token
    rw [hlog, issuedTo_issue, issuedTo_untouched [] (.create _) _ rfl]
    have hnone := not_issuedTo_nil clientId token
    by_cases hclient : clientId = Sample.pixel
    · simp [hclient]
    · simp [hclient, hnone]
  have hrun := run_authority Sample.pairingLibrary_lawful Sample.pairing hatomic
    {token | token = Sample.pairedToken} (by simp) (fun clientId token h => ((hstanding clientId token).mp h).2)
  refine (hrun.1 Sample.pairingSurroundings Sample.pixel Sample.pairedToken rfl).mpr ⟨?_, ?_⟩
  · exact ⟨rfl, rfl, rfl⟩
  · exact (hstanding _ _).mpr ⟨rfl, rfl⟩

end AgentPulse

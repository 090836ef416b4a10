import AgentPulse.PairingRun

/-!
# What a failed pairing leaves behind

Between the issue of a credential and the last message a session has four steps that can
fail. Only one of them is made good, by a revocation, and that is right only for a device
that was not paired before.
-/
namespace AgentPulse

open Fallible (bind_eq_ok)
open HostCredentialStore (stored)

namespace HostCredentialStore

variable {α : Type} {lib : StoreLibrary α} {store : HostCredentialStore} {env : Surroundings}

/-- An update that succeeds has loaded a valid record. -/
theorem update_loaded {operation : StoreRecord → Except PairingError StoreRecord}
    {file file' : Option α} {new : StoreRecord}
    (h : store.update lib env operation file = (.ok new, file')) :
    ∃ old, stored lib file = some old ∧ validateRecord lib old = .ok () := by
  unfold update at h
  dsimp only at h
  split at h
  · cases h
  · next record hedited =>
    obtain ⟨⟨⟩, hacquire, hedited⟩ := bind_eq_ok.mp hedited
    obtain ⟨old, hload, -⟩ := bind_eq_ok.mp hedited
    have hrecord : store.loadRecord lib env file = .ok old := bind_eq_ok.mpr ⟨(), hacquire, hload⟩
    obtain ⟨-, hstored, hvalid⟩ := loadRecord_eq_ok.mp hrecord
    exact ⟨old, hstored, hvalid⟩

/-- A file whose record is valid and has the given devices. -/
def Holds (lib : StoreLibrary α) (devices : List DeviceRecord) (file : Option α) : Prop :=
  ∃ record, stored lib file = some record ∧ validateRecord lib record = .ok () ∧
    record.devices = devices

/-- Who can authenticate is a matter of the devices. -/
theorem Holds.authorize_eq {devices : List DeviceRecord} {file file' : Option α}
    (h : Holds lib devices file) (h' : Holds lib devices file') (clientId token : String) :
    store.authorize lib env clientId token file' = store.authorize lib env clientId token file := by
  obtain ⟨old, hold, hvalid, rfl⟩ := h
  obtain ⟨new, hnew, hvalid', hdevices⟩ := h'
  rw [Bool.eq_iff_iff, authorize_eq_true, authorize_eq_true]
  constructor
  · rintro ⟨record, hash, hload, hcredential, hdecode⟩
    obtain ⟨hreadable, hstored, -⟩ := loadRecord_eq_ok.mp hload
    cases hnew.symm.trans hstored
    rw [hdevices] at hcredential
    exact ⟨old, hash, loadRecord_eq_ok.mpr ⟨hreadable, hold, hvalid⟩, hcredential, hdecode⟩
  · rintro ⟨record, hash, hload, hcredential, hdecode⟩
    obtain ⟨hreadable, hstored, -⟩ := loadRecord_eq_ok.mp hload
    cases hold.symm.trans hstored
    rw [← hdevices] at hcredential
    exact ⟨new, hash, loadRecord_eq_ok.mpr ⟨hreadable, hnew, hvalid'⟩, hcredential, hdecode⟩

/-- An issue that succeeds, by the devices before and after it. -/
theorem issueDevice_holds (hlib : lib.Lawful) (hatomic : env.syncParent = .ok ())
    {clientId displayName token : String} {version : Option String} {file issued : Option α}
    (h : store.issueDevice lib env clientId displayName version file = (.ok token, issued)) :
    ∃ devices devices', Holds lib devices file ∧ Holds lib devices' issued ∧
      ((∀ device ∈ devices, device.clientId ≠ clientId) →
        ∃ device, device.clientId = clientId ∧ devices' = devices ++ [device]) ∧
      ∃ device ∈ devices', device.clientId = clientId := by
  have heffect : Effect lib file _ (store.issueDevice lib env clientId displayName version file).2
      (.issued (store.issueDevice lib env clientId displayName version file).1) :=
    issueDevice_effect hlib hatomic clientId displayName version file
  rw [h] at heffect
  have hold : ∃ old, stored lib file = some old ∧ validateRecord lib old = .ok () := by
    unfold issueDevice at h
    dsimp only at h
    split at h
    · cases h
    · rcases hupdate : store.update lib env (issue env clientId displayName version
        (hex (lib.sha256 (drawnToken lib env)).val)) file with ⟨result, file'⟩
      rw [hupdate] at h
      cases result with
      | error e => cases h
      | ok new => exact update_loaded hupdate
  obtain ⟨old, hstored, hvalid⟩ := hold
  cases heffect with
  | failed herror => cases herror
  | @issued _ _ _ _ env' _ old' new hstored' hsaved hvalid' hissue =>
    cases hstored.symm.trans hstored'
    refine ⟨old.devices, new.devices, ⟨old, hstored, hvalid, rfl⟩, ⟨new, hsaved, hvalid', rfl⟩, ?_, ?_⟩
    · intro hnew
      have hnone : old.devices.findIdx? (·.clientId == clientId) = none := by
        rw [List.findIdx?_eq_none_iff]
        intro device hdevice
        simpa using hnew device hdevice
      unfold issue at hissue
      rw [hnone] at hissue
      dsimp only at hissue
      split at hissue
      · cases hissue
      · cases hissue
        exact ⟨_, rfl, rfl⟩
    · have hcredential := (issue_devices hissue).1 clientId
      rw [if_pos rfl] at hcredential
      by_contra hnone
      have habsent : credential new.devices clientId = none := by
        rw [credential_eq_none_iff]
        intro hmem
        obtain ⟨device, hdevice, hclient⟩ := List.mem_map.mp hmem
        exact hnone ⟨device, hdevice, hclient⟩
      rw [habsent] at hcredential
      cases hcredential

variable (store) in
/-- A revocation that succeeds takes the client out; one that fails does nothing. -/
theorem revokeDevice_holds (clientId : String) (hlib : lib.Lawful)
    (hatomic : env.syncParent = .ok ()) {devices : List DeviceRecord} {file : Option α}
    (hfile : Holds lib devices file) :
    match store.revokeDevice lib env clientId file with
    | (.ok (), file') => Holds lib (devices.filter (·.clientId != clientId)) file'
    | (.error _, file') => file' = file := by
  have heffect : Effect lib file _ (store.revokeDevice lib env clientId file).2
      (.done (store.revokeDevice lib env clientId file).1) :=
    revokeDevice_effect hlib hatomic clientId file
  rcases hrevoke : store.revokeDevice lib env clientId file with ⟨result, file'⟩
  rw [hrevoke] at heffect
  obtain ⟨record, hstored, -, rfl⟩ := hfile
  cases result with
  | error e =>
    cases heffect with
    | failed _ => rfl
  | ok u =>
    cases heffect with
    | failed herror => cases herror
    | revoked hold hnew hvalid hdevices =>
      cases hstored.symm.trans hold
      exact ⟨_, hnew, hvalid, congrArg StoreRecord.devices (revoke_devices hdevices)⟩

variable (store) in
theorem loadIdentity_holds (hlib : lib.Lawful) (hatomic : env.syncParent = .ok ())
    {devices : List DeviceRecord} {file : Option α} (hfile : Holds lib devices file) :
    Holds lib devices (store.loadIdentity lib env file).2 := by
  have heffect : Effect lib file _ (store.loadIdentity lib env file).2
      (.identity (store.loadIdentity lib env file).1) := loadIdentity_effect hlib hatomic file
  obtain ⟨record, hstored, hvalid, rfl⟩ := hfile
  rcases hload : store.loadIdentity lib env file with ⟨result, file'⟩
  rw [hload] at heffect
  cases heffect with
  | failed _ => exact ⟨record, hstored, hvalid, rfl⟩
  | loaded hold hnew hvalid' _ hdevices =>
    cases hstored.symm.trans hold
    exact ⟨_, hnew, hvalid', hdevices⟩

end HostCredentialStore

namespace PairingSession

open HostCredentialStore (Holds issueDevice_holds revokeDevice_holds loadIdentity_holds)

section

variable {α : Type} (lib : StoreLibrary α) (codec : PairingCodec) (store : HostCredentialStore)
  (session : PairingSession)

/-- The devices that a file lists. -/
def devicesOf (file : Option α) : Option (List DeviceRecord) := (stored lib file).map (·.devices)

/-- The devices are as before, and so is what each of them can authenticate with. -/
def Unchanged (file file' : Option α) : Prop :=
  devicesOf lib file' = devicesOf lib file ∧ ∀ env clientId token,
    store.authorize lib env clientId token file' = store.authorize lib env clientId token file

/-- The request of the connection gets a credential. -/
structure Issues (connection : PairingConnection) (file : Option α) (request : PairingRequest)
    (token : String) (issued : Option α) : Prop where
  requested : session.readRequest codec connection.reads = some (.ok request)
  matches_ : session.credentialsMatch lib request = true
  pending : sendMessage codec (.pending request.clientId request.displayName)
    connection.pendingSent = .ok ()
  live : connection.decidedAt < session.expiresAt
  approved : connection.approve request = true
  stored : store.issueDevice lib connection.issueEnv request.clientId request.displayName
    request.version file = (.ok token, issued)

/-- What must hold after an issue: a host that does not become ready withdraws the credential
of a device that is new, and any other host delivers it. The rest is the issue of an entry
that the file had before. -/
def MadeGood (connection : PairingConnection) (file : Option α) (request : PairingRequest)
    (token : String) (issued : Option α) : Prop :=
  match connection.ready token with
  | .error _ =>
    match (store.revokeDevice lib connection.revokeEnv request.clientId issued).1 with
    | .ok () => ∀ devices, devicesOf lib file = some devices →
        ∀ device ∈ devices, device.clientId ≠ request.clientId
    | .error _ => devicesOf lib issued = devicesOf lib file
  | .ok () =>
    (∃ identity, (store.loadIdentity lib connection.identityEnv issued).1 = .ok identity ∧
      sendMessage codec (session.succeeded lib identity token) connection.finalSent = .ok ()) ∨
    devicesOf lib issued = devicesOf lib file

/-- Every credential that the connection would get is made good. -/
def Harmless (connection : PairingConnection) (file : Option α) : Prop :=
  ∀ request token issued, session.Issues lib codec store connection file request token issued →
    session.MadeGood lib codec store connection file request token issued

/-- The condition on one round. -/
def HarmlessRound (s : Serving α) (round : PairingRound) : Prop :=
  ∀ attempts connection, s.phase = .serving attempts → round.now < session.expiresAt →
    round.accepted = .socket connection → session.Harmless lib codec store connection s.file

/-- Replaced files are flushed: of the store, only reads fail. -/
def Flushed (rounds : List PairingRound) : Prop :=
  ∀ round ∈ rounds, ∀ connection, round.accepted = .socket connection →
    connection.issueEnv.syncParent = .ok () ∧ connection.revokeEnv.syncParent = .ok () ∧
      connection.identityEnv.syncParent = .ok ()

end

section

variable {α : Type} {lib : StoreLibrary α} {codec : PairingCodec} {store : HostCredentialStore}
  {session : PairingSession}

theorem Unchanged.refl (file : Option α) : Unchanged lib store file file := ⟨rfl, fun _ _ _ => rfl⟩

theorem devicesOf_holds {devices : List DeviceRecord} {file : Option α}
    (h : Holds lib devices file) : devicesOf lib file = some devices := by
  obtain ⟨record, hstored, -, rfl⟩ := h
  rw [devicesOf, hstored]
  rfl

theorem unchanged_iff {devices devices' : List DeviceRecord} {file file' : Option α}
    (h : Holds lib devices file) (h' : Holds lib devices' file') :
    Unchanged lib store file file' ↔ devices' = devices := by
  constructor
  · rintro ⟨hdevices, -⟩
    rw [devicesOf_holds h, devicesOf_holds h'] at hdevices
    exact Option.some.inj hdevices
  · rintro rfl
    refine ⟨by rw [devicesOf_holds h, devicesOf_holds h'], ?_⟩
    exact fun env clientId token => h.authorize_eq h' clientId token

variable (codec) in
theorem refuse_error (connection : PairingConnection) (message : PairingServerMessage)
    (error : PairingError) : ∃ e, refuse codec connection message error = .error e := by
  unfold refuse
  cases hsent : sendMessage codec message connection.finalSent with
  | error e => exact ⟨e, rfl⟩
  | ok u => exact ⟨error, rfl⟩

/-- A failure after the issue leaves everything as it was exactly if the issue is made good. -/
theorem deliver_unchanged (hlib : lib.Lawful) {connection : PairingConnection}
    (hissue : connection.issueEnv.syncParent = .ok ())
    (hrevoke : connection.revokeEnv.syncParent = .ok ())
    (hidentity : connection.identityEnv.syncParent = .ok ()) {file issued : Option α}
    {request : PairingRequest} {token : String}
    (hissued : store.issueDevice lib connection.issueEnv request.clientId request.displayName
      request.version file = (.ok token, issued)) :
    (∀ e, (session.deliver lib codec store connection request token issued).1 = .error e →
      Unchanged lib store file (session.deliver lib codec store connection request token issued).2) ↔
    session.MadeGood lib codec store connection file request token issued := by
  obtain ⟨devices, devices', hold, hnew, hadded, device, hdevice, hclient⟩ :=
    issueDevice_holds hlib hissue hissued
  unfold deliver MadeGood
  cases hready : connection.ready token with
  | error error =>
    dsimp only
    obtain ⟨e, he⟩ := refuse_error codec connection (refusal .internal
      "Host connection could not become ready; please pair again") error
    rw [he]
    have hrevoked := revokeDevice_holds store request.clientId hlib hrevoke hnew
    rcases hresult : store.revokeDevice lib connection.revokeEnv request.clientId issued with
      ⟨result, file'⟩
    rw [hresult] at hrevoked
    cases result with
    | error e' =>
      dsimp only at hrevoked ⊢
      subst hrevoked
      rw [devicesOf_holds hold, devicesOf_holds hnew]
      constructor
      · intro h
        exact congrArg some ((unchanged_iff hold hnew).mp (h e rfl))
      · intro h _ _
        exact (unchanged_iff hold hnew).mpr (Option.some.inj h)
    | ok u =>
      dsimp only at hrevoked ⊢
      constructor
      · intro h found hfound other hother heq
        rw [devicesOf_holds hold] at hfound
        cases hfound
        -- the client was paired before, and is not any more
        have hsame := (unchanged_iff hold hrevoked).mp (h e rfl)
        rw [← hsame, List.mem_filter] at hother
        simp [heq] at hother
      · intro h _ _
        have habsent := h devices (devicesOf_holds hold)
        obtain ⟨added, hadd, rfl⟩ := hadded habsent
        refine (unchanged_iff hold hrevoked).mpr ?_
        rw [List.filter_append, List.filter_eq_self.mpr]
        · simp [hadd]
        · intro other hother
          simpa using habsent other hother
  | ok u =>
    have hloaded := loadIdentity_holds store hlib hidentity hnew
    dsimp only
    rcases hresult : store.loadIdentity lib connection.identityEnv issued with ⟨result, file'⟩
    rw [hresult] at hloaded
    cases result with
    | error e =>
      dsimp only at hloaded ⊢
      rw [devicesOf_holds hold, devicesOf_holds hnew]
      constructor
      · intro h
        exact .inr (congrArg some ((unchanged_iff hold hloaded).mp (h e rfl)))
      · rintro (⟨identity, hfound, -⟩ | h) _ _
        · cases hfound
        · exact (unchanged_iff hold hloaded).mpr (Option.some.inj h)
    | ok identity =>
      dsimp only at hloaded ⊢
      rw [devicesOf_holds hold, devicesOf_holds hnew]
      cases hsent : sendMessage codec (session.succeeded lib identity token) connection.finalSent with
      | ok u =>
        constructor
        · intro _
          exact .inl ⟨identity, rfl, hsent⟩
        · intro _ e hfailed
          cases hfailed
      | error e =>
        constructor
        · intro h
          exact .inr (congrArg some ((unchanged_iff hold hloaded).mp (h e rfl)))
        · rintro (⟨found, hfound, hdelivered⟩ | h) _ _
          · cases hfound
            rw [hsent] at hdelivered
            cases hdelivered
          · exact (unchanged_iff hold hloaded).mpr (Option.some.inj h)

/-- A matching request gets a credential to deliver, or the session fails with the file as it
was. -/
theorem pair_cases (hlib : lib.Lawful) {connection : PairingConnection}
    (hissue : connection.issueEnv.syncParent = .ok ()) (file : Option α)
    {request : PairingRequest}
    (hrequested : session.readRequest codec connection.reads = some (.ok request))
    (hmatch : session.credentialsMatch lib request = true) :
    (∃ token issued, session.Issues lib codec store connection file request token issued ∧
      (session.pair lib codec store connection request file).1 =
        session.deliver lib codec store connection request token issued) ∨
    ((session.pair lib codec store connection request file).1.2 = file ∧
      ∀ token issued, ¬ session.Issues lib codec store connection file request token issued) := by
  unfold pair
  cases hpending : sendMessage codec (.pending request.clientId request.displayName)
      connection.pendingSent with
  | error e =>
    refine .inr ⟨rfl, ?_⟩
    intro token issued h
    cases hpending.symm.trans h.pending
  | ok u =>
    dsimp only
    split
    · next hlate =>
      refine .inr ⟨rfl, ?_⟩
      intro token issued h
      exact absurd h.live (Int.not_lt.mpr hlate)
    · next hlive =>
      split
      · next hdenied =>
        refine .inr ⟨rfl, ?_⟩
        intro token issued h
        rw [h.approved] at hdenied
        cases hdenied
      · next happroved =>
        have heffect : HostCredentialStore.Effect lib file _
            (store.issueDevice lib connection.issueEnv request.clientId request.displayName
              request.version file).2
            (.issued (store.issueDevice lib connection.issueEnv request.clientId request.displayName
              request.version file).1) :=
          HostCredentialStore.issueDevice_effect hlib hissue _ _ _ file
        rcases hstored : store.issueDevice lib connection.issueEnv request.clientId
          request.displayName request.version file with ⟨result, issued⟩
        rw [hstored] at heffect
        cases result with
        | ok token =>
          exact .inl ⟨token, issued, ⟨hrequested, hmatch, hpending, Int.not_le.mp hlive,
            by simpa using happroved, hstored⟩, rfl⟩
        | error e =>
          have hsame : issued = file := heffect.unchanged rfl
          subst hsame
          refine .inr ⟨?_, ?_⟩
          · cases e <;> rfl
          · intro token issued h
            cases hstored.symm.trans h.stored

variable (store) in
theorem pair_unchanged (hlib : lib.Lawful) {connection : PairingConnection}
    (hissue : connection.issueEnv.syncParent = .ok ())
    (hrevoke : connection.revokeEnv.syncParent = .ok ())
    (hidentity : connection.identityEnv.syncParent = .ok ()) (file : Option α)
    {request : PairingRequest}
    (hrequested : session.readRequest codec connection.reads = some (.ok request))
    (hmatch : session.credentialsMatch lib request = true) :
    (∀ e, (session.pair lib codec store connection request file).1.1 = .error e →
      Unchanged lib store file (session.pair lib codec store connection request file).1.2) ↔
    session.Harmless lib codec store connection file := by
  rcases pair_cases hlib hissue file hrequested hmatch with ⟨token, issued, hissues, hpair⟩ |
    ⟨hfile, hnone⟩
  · rw [hpair, deliver_unchanged hlib hissue hrevoke hidentity hissues.stored]
    constructor
    · intro h other token' issued' hother
      cases Except.ok.inj (Option.some.inj (hissues.requested.symm.trans hother.requested))
      cases hissues.stored.symm.trans hother.stored
      exact h
    · exact fun h => h request token issued hissues
  · rw [hfile]
    constructor
    · intro _ other token issued hother
      cases Except.ok.inj (Option.some.inj (hrequested.symm.trans hother.requested))
      exact absurd hother (hnone token issued)
    · exact fun _ _ _ => Unchanged.refl file

variable (codec store session) in
/-- One round, by what it does to the file. -/
theorem step_unchanged (hlib : lib.Lawful) {s : Serving α} {attempts : Nat}
    (hserving : s.phase = .serving attempts) {round : PairingRound}
    (hflushed : ∀ connection, round.accepted = .socket connection →
      connection.issueEnv.syncParent = .ok () ∧ connection.revokeEnv.syncParent = .ok () ∧
        connection.identityEnv.syncParent = .ok ()) :
    ((∀ e, (session.step lib codec store s round).1.phase = .ended (.error e) →
      Unchanged lib store s.file (session.step lib codec store s round).1.file) ↔
        session.HarmlessRound lib codec store s round) ∧
    ((∀ result, (session.step lib codec store s round).1.phase ≠ .ended result) →
      (session.step lib codec store s round).1.file = s.file) := by
  obtain ⟨phase, file⟩ := s
  cases hserving
  -- a round that does not come to a matching request has nothing to make good
  have hquiet : ∀ (t : Serving α), t.file = file →
      (∀ connection, round.now < session.expiresAt → round.accepted = .socket connection →
        session.Harmless lib codec store connection file) →
      ((∀ e, t.phase = .ended (.error e) → Unchanged lib store file t.file) ↔
        session.HarmlessRound lib codec store ⟨.serving attempts, file⟩ round) ∧
      ((∀ result, t.phase ≠ .ended result) → t.file = file) := by
    intro t hfile hharmless
    rw [hfile]
    refine ⟨⟨fun _ => ?_, fun _ _ _ => Unchanged.refl file⟩, fun _ => rfl⟩
    exact fun _ connection _ hnow haccepted => hharmless connection hnow haccepted
  have hfail : (fail attempts file).file = file := by
    unfold fail
    split <;> rfl
  unfold step
  dsimp only
  split
  · next hexpired =>
    exact hquiet _ rfl fun _ hnow _ => absurd hnow (Int.not_lt.mpr hexpired)
  · next hlive =>
    cases haccepted : round.accepted with
    | nothing => exact hquiet _ rfl fun _ _ h => by rw [haccepted] at h; cases h
    | handshake message => exact hquiet _ hfail fun _ _ h => by rw [haccepted] at h; cases h
    | failed source => exact hquiet _ rfl fun _ _ h => by rw [haccepted] at h; cases h
    | socket connection =>
      -- a connection without a matching request issues nothing
      have hharmless : (∀ request token issued,
          ¬ session.Issues lib codec store connection file request token issued) →
          ∀ other, round.now < session.expiresAt → round.accepted = .socket other →
            session.Harmless lib codec store other file := by
        intro hnone other _ hother request token issued hissues
        rw [haccepted] at hother
        cases hother
        exact absurd hissues (hnone request token issued)
      dsimp only
      unfold admitConnection
      split
      · next hreads =>
        refine hquiet _ rfl (hharmless ?_)
        intro request token issued h
        cases hreads.symm.trans h.requested
      · next hreads =>
        refine hquiet _ hfail (hharmless ?_)
        intro request token issued h
        cases hreads.symm.trans h.requested
      · next request hreads =>
        split
        · next hmismatch =>
          refine hquiet _ hfail (hharmless ?_)
          intro other token issued h
          cases Except.ok.inj (Option.some.inj (hreads.symm.trans h.requested))
          rw [h.matches_] at hmismatch
          cases hmismatch
        · next hmatch =>
          obtain ⟨hissue, hrevoke, hidentity⟩ := hflushed connection haccepted
          have hpair := pair_unchanged store hlib hissue hrevoke hidentity file hreads
            (by simpa using hmatch)
          dsimp only
          refine ⟨?_, fun hopen => absurd rfl (hopen _)⟩
          constructor
          · intro h _ other _ _ hother
            cases haccepted.symm.trans hother
            refine hpair.mp ?_
            intro e he
            exact h e (congrArg ServePhase.ended he)
          · intro h e he
            exact hpair.mpr (h attempts connection rfl (Int.not_le.mp hlive) haccepted) e
              (ServePhase.ended.inj he)

theorem harmlessRound_socket {s : Serving α} {connection : PairingConnection} (now : Int)
    (h : session.Harmless lib codec store connection s.file) :
    session.HarmlessRound lib codec store s ⟨now, .socket connection⟩ := by
  intro attempts other _ _ hother
  cases hother
  exact h

theorem step_of_not_serving {s : Serving α} (h : ∀ attempts, s.phase ≠ .serving attempts)
    (round : PairingRound) : session.step lib codec store s round = (s, []) := by
  unfold step
  split
  · next attempts hphase => exact absurd hphase (h attempts)
  · rfl

variable (lib codec store session) in
/-- A session that has ended, or waits for a request, stays as it is. -/
theorem run_of_not_serving {s : Serving α} (h : ∀ attempts, s.phase ≠ .serving attempts)
    (rounds : List PairingRound) :
    Trace.final (session.step lib codec store) s rounds = s ∧
      Trace.Along (session.step lib codec store) (session.HarmlessRound lib codec store) s rounds := by
  induction rounds with
  | nil => exact ⟨rfl, trivial⟩
  | cons round rounds ih =>
    rw [Trace.final_cons, Trace.Along, step_of_not_serving h]
    exact ⟨ih.1, fun attempts _ hserving => absurd hserving (h attempts), ih.2⟩

theorem run_unchanged (hlib : lib.Lawful) {rounds : List PairingRound} (hflushed : Flushed rounds)
    {s : Serving α} {attempts : Nat} (hserving : s.phase = .serving attempts) :
    (∀ e, (Trace.final (session.step lib codec store) s rounds).phase = .ended (.error e) →
      Unchanged lib store s.file (Trace.final (session.step lib codec store) s rounds).file) ↔
    Trace.Along (session.step lib codec store) (session.HarmlessRound lib codec store) s rounds := by
  induction rounds generalizing s attempts with
  | nil =>
    refine ⟨fun _ => trivial, fun _ e he => ?_⟩
    rw [Trace.final_nil, hserving] at he
    cases he
  | cons round rounds ih =>
    rw [Trace.final_cons, Trace.Along]
    obtain ⟨hround, hfile⟩ := step_unchanged codec store session hlib hserving
      (hflushed round (by simp))
    have hrest : Flushed rounds := fun other hother => hflushed other (by simp [hother])
    by_cases hnext : ∃ more, (session.step lib codec store s round).1.phase = .serving more
    · obtain ⟨more, hmore⟩ := hnext
      have hopen : ∀ result, (session.step lib codec store s round).1.phase ≠ .ended result := by
        intro result hended
        rw [hmore] at hended
        cases hended
      have hharmless : session.HarmlessRound lib codec store s round :=
        hround.mp fun e he => absurd he (hopen _)
      rw [← hfile hopen, ih hrest hmore]
      exact (and_iff_right hharmless).symm
    · have hnot := not_exists.mp hnext
      obtain ⟨hfinal, halong⟩ := run_of_not_serving lib codec store session hnot rounds
      rw [hfinal, hround]
      exact (and_iff_left halong).symm

end

end PairingSession

open PairingSession in
/-- A session that fails leaves the devices and their credentials as they were, exactly if
every credential that it issued was made good. -/
theorem pairing_failure_unchanged {α : Type} {lib : StoreLibrary α} (hlib : lib.Lawful)
    (codec : PairingCodec) (store : HostCredentialStore) (session : PairingSession)
    (file : Option α) (rounds : List PairingRound) (hflushed : Flushed rounds) :
    (∀ error, (session.after lib codec store file rounds).phase = .ended (.error error) →
      Unchanged lib store file (session.after lib codec store file rounds).file) ↔
    Trace.Along (session.step lib codec store) (session.HarmlessRound lib codec store)
      ⟨.serving 0, file⟩ rounds :=
  run_unchanged hlib hflushed rfl

namespace Sample

/-- The host with the device already paired. -/
def pairedFile : Option StoreRecord :=
  HostCredentialStore.fileAfter pairingLibrary pairingStore pairing

/-- The host draws another secret and does not become ready. -/
def unreadyConnection : PairingConnection :=
  { pairConnection with
    issueEnv := { pairingSurroundings with secret := .filled 1 }
    ready := fun _ => .error .expired }

def unreadyRounds : List PairingRound := [⟨1, .socket unreadyConnection⟩]

end Sample

open Sample PairingSession in
/-- A new device whose pairing fails is not left in the store. -/
theorem pairing_failure_unchanged_new :
    Unchanged pairingLibrary pairingStore hostFile
      (pairSession.after pairingLibrary pairCodec pairingStore hostFile unreadyRounds).file := by
  have hflushed : Flushed unreadyRounds := by
    intro round hround connection haccepted
    cases List.mem_singleton.mp hround
    cases haccepted
    exact ⟨rfl, rfl, rfl⟩
  have hended : (pairSession.after pairingLibrary pairCodec pairingStore hostFile unreadyRounds).phase =
      .ended (.error .expired) := by decide +kernel
  have hround : HarmlessRound pairingLibrary pairCodec pairingStore pairSession
      ⟨.serving 0, hostFile⟩ ⟨1, .socket unreadyConnection⟩ := by
    apply harmlessRound_socket
    intro request token issued hissues
    have hrequest : pairSession.readRequest pairCodec unreadyConnection.reads =
        some (.ok pairRequest) := by decide +kernel
    have hsame : pairRequest = request :=
      Except.ok.inj (Option.some.inj (hrequest.symm.trans hissues.requested))
    subst hsame
    have hissued := congrArg Prod.snd hissues.stored
    dsimp only at hissued
    have hrevoked : (pairingStore.revokeDevice pairingLibrary unreadyConnection.revokeEnv
        pairRequest.clientId issued).1 = .ok () := by
      rw [← hissued]
      decide +kernel
    have hnobody : devicesOf pairingLibrary hostFile = some [] := by decide +kernel
    unfold MadeGood
    have hunready : unreadyConnection.ready token = .error .expired := rfl
    rw [hunready]
    dsimp only
    rw [hrevoked]
    intro devices hdevices device hdevice
    cases hnobody.symm.trans hdevices
    cases hdevice
  refine (pairing_failure_unchanged pairingLibrary_lawful pairCodec pairingStore pairSession hostFile
    unreadyRounds hflushed).mpr ?_ _ hended
  exact And.intro hround trivial

open Sample PairingSession in
/-- A device that could authenticate before its second pairing failed cannot any more. -/
theorem pairing_failure_revokes :
    (pairSession.after pairingLibrary pairCodec pairingStore pairedFile unreadyRounds).phase =
      .ended (.error .expired) ∧
    pairingStore.authorize pairingLibrary pairingSurroundings pixel pairedToken pairedFile = true ∧
    pairingStore.authorize pairingLibrary pairingSurroundings pixel pairedToken
      (pairSession.after pairingLibrary pairCodec pairingStore pairedFile unreadyRounds).file =
        false :=
  ⟨by decide +kernel, by decide +kernel, by decide +kernel⟩

end AgentPulse

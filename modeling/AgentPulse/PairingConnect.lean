import AgentPulse.NativeRoundTrip
import AgentPulse.PairingFailure

/-!
# A paired device connects

The client identifier of a pairing goes into the store as the device spelled it, and the
native handshake asks for the same text. Pairing takes every spelling that the uuid crate
reads, the handshake only the canonical one.
-/
namespace AgentPulse

open Fallible (bind_eq_ok)

theorem issuedTo_append (past later : List (StoreCall × StoreReply)) (clientId token : String) :
    IssuedTo (past ++ later) clientId token ↔ IssuedTo later clientId token ∨
      ((∀ entry ∈ later, ¬ IssuesTo clientId entry ∧ ¬ Revokes clientId entry) ∧
        IssuedTo past clientId token) := by
  induction later using List.reverseRecOn with
  | nil => simp [not_issuedTo_nil]
  | append_singleton later entry ih =>
    rw [← List.append_assoc, issuedTo_snoc, issuedTo_snoc, ih]
    simp only [List.mem_append, List.mem_singleton]
    constructor
    · rintro (hissue | ⟨hissue, hrevoke, hlater | ⟨hquiet, hpast⟩⟩)
      · exact .inl (.inl hissue)
      · exact .inl (.inr ⟨hissue, hrevoke, hlater⟩)
      · refine .inr ⟨?_, hpast⟩
        rintro other (hother | rfl)
        · exact hquiet other hother
        · exact ⟨hissue, hrevoke⟩
    · rintro ((hissue | ⟨hissue, hrevoke, hlater⟩) | ⟨hquiet, hpast⟩)
      · exact .inl hissue
      · exact .inr ⟨hissue, hrevoke, .inl hlater⟩
      · obtain ⟨hissue, hrevoke⟩ := hquiet entry (.inr rfl)
        exact .inr ⟨hissue, hrevoke, .inr ⟨fun other hother => hquiet other (.inl hother), hpast⟩⟩

theorem issuedTo_unique {log : List (StoreCall × StoreReply)} {clientId token token' : String}
    (h : IssuedTo log clientId token) (h' : IssuedTo log clientId token') : token = token' := by
  induction log using List.reverseRecOn with
  | nil => exact absurd h (not_issuedTo_nil clientId token)
  | append_singleton log entry ih =>
    rw [issuedTo_snoc] at h h'
    rcases h with ⟨hissue, htoken⟩ | ⟨hissue, -, hold⟩
    · rcases h' with ⟨-, htoken'⟩ | ⟨hnot, -⟩
      · cases htoken.symm.trans htoken'
        rfl
      · exact absurd hissue hnot
    · rcases h' with ⟨hissue', -⟩ | ⟨-, -, hold'⟩
      · exact absurd hissue' hissue
      · exact ih hold hold'

/-- Without a revocation, a client that got a token has one. -/
theorem exists_issuedTo {log : List (StoreCall × StoreReply)} {clientId : String}
    (hkept : ∀ entry ∈ log, ¬ Revokes clientId entry) (hissue : ∃ entry ∈ log, IssuesTo clientId entry) :
    ∃ token, IssuedTo log clientId token := by
  induction log using List.reverseRecOn with
  | nil =>
    obtain ⟨entry, hentry, -⟩ := hissue
    cases hentry
  | append_singleton log entry ih =>
    simp only [issuedTo_snoc]
    by_cases hlast : IssuesTo clientId entry
    · obtain ⟨displayName, version, token, rfl⟩ := id hlast
      exact ⟨token, .inl ⟨hlast, rfl⟩⟩
    · obtain ⟨found, hfound, hissues⟩ := hissue
      rcases List.mem_append.mp hfound with hold | hnew
      · obtain ⟨token, htoken⟩ := ih (fun other hother => hkept other (List.mem_append_left _ hother))
          ⟨found, hold, hissues⟩
        exact ⟨token, .inr ⟨hlast, hkept entry (by simp), htoken⟩⟩
      · rw [List.mem_singleton.mp hnew] at hissues
        exact absurd hissues hlast

/-- A token that is not withdrawn stands until another one takes its place. -/
theorem issuedTo_kept {past later : List (StoreCall × StoreReply)} {clientId token : String}
    (hissued : IssuedTo past clientId token) (hkept : ∀ entry ∈ later, ¬ Revokes clientId entry) :
    IssuedTo (past ++ later) clientId token ↔
      ∀ other, IssuedTo later clientId other → other = token := by
  rw [issuedTo_append]
  constructor
  · rintro (hlater | ⟨hquiet, -⟩) other hother
    · exact issuedTo_unique hother hlater
    · obtain ⟨entry, ⟨before, after, hsplit, habout, -⟩, -⟩ := hother
      exact absurd habout (hquiet entry (by rw [hsplit]; simp)).1
  · intro hsame
    by_cases hissue : ∃ entry ∈ later, IssuesTo clientId entry
    · obtain ⟨other, hother⟩ := exists_issuedTo hkept hissue
      exact .inl (hsame other hother ▸ hother)
    · refine .inr ⟨?_, hissued⟩
      intro entry hentry
      exact ⟨fun habout => hissue ⟨entry, hentry, habout⟩, hkept entry hentry⟩

section Hello

variable (codec : NativeCodec) (serde : SerdeJson) (time : Rfc3339) (native : NativeSerde serde.Value)

/-- The frame is a hello of the client, and it would be accepted with some client identifier. -/
def HelloOf (clientId : String) (input : List UInt8) (message : NativeClientMessage) : Prop :=
  ∃ displayName version versions hostRunId cursors parsed,
    NativeWire.Reads serde native.fromValueClient input
      (.clientHello clientId displayName version versions hostRunId cursors) ∧
    parseSessionCursors ∅ cursors = .ok parsed ∧
    message = .hello clientId displayName version versions hostRunId parsed ∧
    ∃ other, validateClientMessage codec
      (.hello other displayName version versions hostRunId parsed) = .ok ()

variable {codec serde time native}

theorem validateUuidV7_of_canonical {field value : String} (h : CanonicalUuidV7 value) :
    validateUuidV7 codec field value = .ok () := by
  obtain ⟨uuid, hparse, hversion, htext⟩ := h
  unfold validateUuidV7
  rw [hparse]
  dsimp only
  rw [if_neg (by rw [hversion, htext]; simp)]

/-- The handshake takes the hello exactly with the canonical spelling. -/
theorem decode_helloOf {clientId : String} {input : List UInt8} {message : NativeClientMessage}
    (h : HelloOf codec serde native clientId input message) :
    NativeWire.decodeClientMessage codec serde time native input = .ok message ↔
      CanonicalUuidV7 clientId := by
  obtain ⟨displayName, version, versions, hostRunId, cursors, parsed, hreads, hcursors, rfl, other,
    hother⟩ := h
  rw [NativeWire.decodeClientMessage_eq_ok]
  constructor
  · rintro ⟨dto, -, -, hvalid⟩
    exact (validateClientMessage_canonical hvalid).1 clientId (by simp [NativeClientMessage.controlIds])
  · intro hcanonical
    refine ⟨_, hreads, bind_eq_ok.mpr ⟨parsed, hcursors, rfl⟩, ?_⟩
    obtain ⟨⟨⟩, -, hrest⟩ := bind_eq_ok.mp hother
    exact bind_eq_ok.mpr ⟨(), validateUuidV7_of_canonical hcanonical, hrest⟩

end Hello

namespace PairingSession

variable {α : Type} {lib : StoreLibrary α} {codec : PairingCodec} {store : HostCredentialStore}
  {session : PairingSession} {request : PairingRequest} {token : String}

/-- The pairing of the request completes, with the token. -/
def Completes (lib : StoreLibrary α) (codec : PairingCodec) (store : HostCredentialStore)
    (session : PairingSession) (file : Option α) (rounds : List PairingRound)
    (request : PairingRequest) (token : String) : Prop :=
  (∃ outcome, (session.after lib codec store file rounds).phase = .ended (.ok outcome)) ∧
    .issue request (.ok token) ∈ session.log lib codec store file rounds

theorem deliver_eq_ok {connection : PairingConnection} {issued : Option α} {outcome : PairingOutcome}
    (h : (session.deliver lib codec store connection request token issued).1 = .ok outcome) :
    (session.deliver lib codec store connection request token issued).2 =
      (store.loadIdentity lib connection.identityEnv issued).2 := by
  unfold deliver at h ⊢
  cases hready : connection.ready token with
  | error error =>
    obtain ⟨e, he⟩ := refuse_error codec connection (refusal .internal
      "Host connection could not become ready; please pair again") error
    rw [hready] at h
    dsimp only at h
    rw [he] at h
    cases h
  | ok u =>
    dsimp only
    cases (store.loadIdentity lib connection.identityEnv issued).1 with
    | error e => rfl
    | ok identity => rfl

/-- A credential comes from a round with a socket, which ends the session. -/
theorem step_issue {s : Serving α} {round : PairingRound}
    (h : .issue request (.ok token) ∈ (session.step lib codec store s round).2) :
    ∃ connection issued, round.accepted = .socket connection ∧
      store.issueDevice lib connection.issueEnv request.clientId request.displayName
        request.version s.file = (.ok token, issued) ∧
      (session.step lib codec store s round).1 =
        ⟨.ended (session.deliver lib codec store connection request token issued).1,
          (session.deliver lib codec store connection request token issued).2⟩ := by
  unfold step at h ⊢
  split at h
  · next attempts _ =>
    split at h
    · cases h
    · split at h
      · cases h
      · simp at h
      · cases h
      · next connection haccepted =>
        unfold admitConnection at h ⊢
        split at h
        · cases h
        · simp at h
        · next read hread =>
          split at h
          · simp at h
          · next hmatch =>
            have hpaired : .issue request (.ok token) ∈
                (session.pair lib codec store connection read s.file).2 := by simpa using h
            unfold pair at hpaired ⊢
            split at hpaired
            · cases hpaired
            · dsimp only at hpaired
              split at hpaired
              · simp at hpaired
              · next hlive =>
                split at hpaired
                · simp at hpaired
                · next happroved =>
                  split at hpaired
                  · next token' issued hstored =>
                    have hsame : request = read ∧ token = token' := by simpa using hpaired
                    obtain ⟨rfl, rfl⟩ := hsame
                    refine ⟨connection, issued, haccepted, hstored, ?_⟩
                    simp [*]
                  · simp at hpaired
                  · simp at hpaired
  · cases h

variable (lib codec store session) in
theorem collected_of_not_serving {s : Serving α} (h : ∀ attempts, s.phase ≠ .serving attempts)
    (rounds : List PairingRound) :
    Trace.collected (session.step lib codec store) (fun _ events => events) s rounds = [] := by
  induction rounds with
  | nil => rfl
  | cons round rounds ih => rw [Trace.collected, step_of_not_serving h, ih, List.append_nil]

/-- The file of a session that completes: the issue, and then the identity for the device. -/
theorem run_completes (hlib : lib.Lawful) {rounds : List PairingRound} (hflushed : Flushed rounds)
    {s : Serving α} {outcome : PairingOutcome}
    (hended : (Trace.final (session.step lib codec store) s rounds).phase = .ended (.ok outcome))
    (hissue : .issue request (.ok token) ∈
      Trace.collected (session.step lib codec store) (fun _ events => events) s rounds) :
    ∃ (connection : PairingConnection) (issued : Option α),
      connection.issueEnv.syncParent = .ok () ∧ connection.identityEnv.syncParent = .ok () ∧
      store.issueDevice lib connection.issueEnv request.clientId request.displayName
        request.version s.file = (.ok token, issued) ∧
      (Trace.final (session.step lib codec store) s rounds).file =
        (store.loadIdentity lib connection.identityEnv issued).2 := by
  induction rounds generalizing s with
  | nil => cases hissue
  | cons round rounds ih =>
    rw [Trace.final_cons] at hended ⊢
    rw [Trace.collected, List.mem_append] at hissue
    rcases hissue with hfirst | hrest
    · obtain ⟨connection, issued, haccepted, hstored, hstep⟩ := step_issue hfirst
      obtain ⟨hissueEnv, -, hidentityEnv⟩ := hflushed round (by simp) connection haccepted
      have hfinal := (run_of_not_serving lib codec store session
        (s := (session.step lib codec store s round).1) (by rw [hstep]; simp) rounds).1
      rw [hfinal, hstep] at hended ⊢
      exact ⟨connection, issued, hissueEnv, hidentityEnv, hstored,
        deliver_eq_ok (ServePhase.ended.inj hended)⟩
    · have hnext : ∃ attempts, (session.step lib codec store s round).1.phase = .serving attempts := by
        by_contra hnone
        rw [collected_of_not_serving lib codec store session (not_exists.mp hnone)] at hrest
        cases hrest
      obtain ⟨more, hmore⟩ := hnext
      obtain ⟨attempts, hserving⟩ : ∃ attempts, s.phase = .serving attempts := by
        by_contra hnone
        rw [step_of_not_serving (not_exists.mp hnone)] at hmore
        exact hnone ⟨more, hmore⟩
      have hkept : (session.step lib codec store s round).1.file = s.file :=
        (step_unchanged codec store session hlib hserving (hflushed round (by simp))).2
          fun result => by rw [hmore]; simp
      rw [← hkept]
      exact ih (fun other hother => hflushed other (by simp [hother])) hended hrest

end PairingSession

namespace HostCredentialStore

variable {α : Type} (lib : StoreLibrary α) (store : HostCredentialStore)

/-- The operations on a file with what each returned. -/
def logFrom (file : Option α) (calls : List (StoreCall × Surroundings)) :
    List (StoreCall × StoreReply) :=
  Trace.collected (step lib store) (fun call reply => [(call.1, reply)]) file calls

end HostCredentialStore

open PairingSession (Flushed Completes run_completes) in
open HostCredentialStore in
/-- A device is paired with a token, and other operations follow. The handshake takes its
hello, and the store authorizes it for as long as nobody withdraws its credential, exactly if
its identifier is spelled canonically and no later pairing of it puts another token in place.
SHA-256 is injective on `tokens`. -/
theorem paired_device_connects {α : Type} {lib : StoreLibrary α} (hlib : lib.Lawful)
    (codec : PairingCodec) (store : HostCredentialStore) (session : PairingSession)
    {calls later : List (StoreCall × Surroundings)}
    (hcalls : ∀ call ∈ calls, call.2.syncParent = .ok ())
    (hlater : ∀ call ∈ later, call.2.syncParent = .ok ()) {rounds : List PairingRound}
    (hflushed : Flushed rounds) {request : PairingRequest} {token : String}
    (hcompletes : Completes lib codec store session (fileAfter lib store calls) rounds request token)
    {nativeCodec : NativeCodec} {serde : SerdeJson} (time : Rfc3339)
    {native : NativeSerde serde.Value} {input : List UInt8} {message : NativeClientMessage}
    (hhello : HelloOf nativeCodec serde native request.clientId input message)
    {env : Surroundings} (hreadable : Readable store env) {tokens : Set String}
    (hdigest : Set.InjOn lib.sha256 tokens) (htoken : token ∈ tokens)
    (hissued : ∀ other, IssuedTo (logFrom lib store
      (session.after lib codec store (fileAfter lib store calls) rounds).file later)
        request.clientId other → other ∈ tokens) :
    let paired := (session.after lib codec store (fileAfter lib store calls) rounds).file
    let kept := ∀ entry ∈ logFrom lib store paired later, ¬ Revokes request.clientId entry
    (NativeWire.decodeClientMessage nativeCodec serde time native input = .ok message ∧
      (kept → store.authorize lib env request.clientId token
        (Trace.final (step lib store) paired later) = true)) ↔
    CanonicalUuidV7 request.clientId ∧ (kept →
      ∀ other, IssuedTo (logFrom lib store paired later) request.clientId other → other = token) := by
  intro paired kept
  obtain ⟨⟨outcome, hended⟩, hissue⟩ := hcompletes
  obtain ⟨connection, issued, hissueEnv, hidentityEnv, hstored, hfile⟩ :=
    run_completes hlib hflushed hended hissue
  -- the session is two more operations of the store
  let pairing : List (StoreCall × Surroundings) :=
    [(.issueDevice request.clientId request.displayName request.version, connection.issueEnv),
      (.loadIdentity, connection.identityEnv)]
  have hissuedFile : (store.issueDevice lib connection.issueEnv request.clientId request.displayName
      request.version (fileAfter lib store calls)).2 = issued := congrArg Prod.snd hstored
  have hissuedToken : (store.issueDevice lib connection.issueEnv request.clientId
      request.displayName request.version (fileAfter lib store calls)).1 = .ok token :=
    congrArg Prod.fst hstored
  have hpaired : fileAfter lib store (calls ++ pairing) = paired := by
    have hloaded : paired = (store.loadIdentity lib connection.identityEnv issued).2 := hfile
    rw [fileAfter, Trace.final_append, hloaded, ← hissuedFile]
    rfl
  have hlog : ∃ identity, log lib store (calls ++ pairing) = log lib store calls ++
      [(.issueDevice request.clientId request.displayName request.version, .issued (.ok token))] ++
        [(.loadIdentity, .identity identity)] := by
    refine ⟨(store.loadIdentity lib connection.identityEnv issued).1, ?_⟩
    rw [log, Trace.collected_append, List.append_assoc, ← hissuedFile, ← hissuedToken]
    rfl
  obtain ⟨identity, hlog⟩ := hlog
  have hstands : ∀ other, IssuedTo (log lib store (calls ++ pairing)) request.clientId other ↔
      other = token := by
    intro other
    rw [hlog, issuedTo_untouched _ .loadIdentity _ rfl, issuedTo_issue, if_pos rfl]
  have hatomic : ∀ call ∈ calls ++ pairing ++ later, call.2.syncParent = .ok () := by
    simp only [pairing, List.mem_append, List.mem_cons, List.not_mem_nil, or_false]
    rintro call ((hcall | rfl | rfl) | hcall)
    · exact hcalls call hcall
    · exact hissueEnv
    · exact hidentityEnv
    · exact hlater call hcall
  have hconsistent := run_consistent hlib store (calls ++ pairing ++ later) hatomic
  have hwhole : log lib store (calls ++ pairing ++ later) =
      log lib store (calls ++ pairing) ++ logFrom lib store paired later := by
    rw [log, Trace.collected_append, logFrom, ← hpaired]
    rfl
  have hfinal : fileAfter lib store (calls ++ pairing ++ later) =
      Trace.final (step lib store) paired later := by
    rw [fileAfter, Trace.final_append, ← hpaired]
    rfl
  rw [hwhole, hfinal] at hconsistent
  have hauthorized : store.authorize lib env request.clientId token
      (Trace.final (step lib store) paired later) = true ↔
        IssuedTo (log lib store (calls ++ pairing) ++ logFrom lib store paired later)
          request.clientId token := by
    rw [authorize_iff hconsistent, and_iff_right hreadable]
    intro other hother hsame
    rw [issuedTo_append, hstands] at hother
    rcases hother with hother | ⟨-, rfl⟩
    · exact hdigest htoken (hissued other hother) hsame
    · rfl
  rw [decode_helloOf hhello]
  refine and_congr_right fun _ => imp_congr_right fun hkept => ?_
  rw [hauthorized]
  exact issuedTo_kept ((hstands token).mpr rfl) hkept

namespace Sample

/-- Here the certificate of the authority has a byte to send. -/
def derLibrary : StoreLibrary StoreRecord :=
  { pairingLibrary with selfSigned := fun _ _ => .ok ⟨[48]⟩ }

theorem derLibrary_lawful : derLibrary.Lawful :=
  ⟨pairingLibrary_lawful.json, pairingLibrary_lawful.base64⟩

def installed : List (StoreCall × Surroundings) := [(.create "Studio Host", pairingSurroundings)]

def derFile : Option StoreRecord := HostCredentialStore.fileAfter derLibrary pairingStore installed

/-- The same identifier without hyphens. -/
def plainPixel : String := String.ofList (pixel.toList.filter (· != '-'))

def plainRequest : PairingRequest := { pairRequest with clientId := plainPixel }

def plainCodec : PairingCodec := tableCodec [envelope plainRequest.serialize]

def plainConnection : PairingConnection :=
  { pairConnection with reads := [(2, .ok (.text (requestText plainPixel)))] }

def plainRounds : List PairingRound := [⟨1, .socket plainConnection⟩]

def pixelHello (clientId : String) : NativeEnvelope (ClientMessageDto Unit) :=
  ⟨3, .clientHello clientId "Pixel" none [2] none []⟩

def pixelHelloText (clientId : String) : String :=
  "\x7b\"native_transport_version\":3,\"message\":\x7b\"type\":\"client_hello\",\"client_id\":\"" ++
    clientId ++ "\",\"display_name\":\"Pixel\",\"supported_protocol_versions\":[2]," ++
    "\"session_cursors\":[]\x7d\x7d"

/-- The library on the hello of one client. -/
def pixelSerde (clientId : String) : SerdeJson where
  Value := Unit
  toVec _ := .error "not listed"
  fromSlice bytes :=
    if bytes = Bytes.utf8 (pixelHelloText clientId) then .ok () else .error "not listed"
  getU64 _ name := if name = "native_transport_version" then some 3 else none
  fromValue _ := .error "not listed"

def pixelNative (clientId : String) : NativeSerde (pixelSerde clientId).Value where
  toVecValue _ := .ok (Bytes.utf8 (pixelHelloText clientId))
  toVecClient _ := .error "not listed"
  toVecServer _ := .error "not listed"
  fromValueClient _ := .ok (pixelHello clientId)
  fromValueServer _ := .error "not listed"

theorem helloOf_pixel (clientId : String) : HelloOf nativeCodec (pixelSerde clientId)
    (pixelNative clientId) clientId (Bytes.utf8 (pixelHelloText clientId))
      (.hello clientId "Pixel" none [2] none ∅) := by
  have hread : (pixelSerde clientId).fromSlice (Bytes.utf8 (pixelHelloText clientId)) = .ok () :=
    if_pos rfl
  refine ⟨"Pixel", none, [2], none, [], ∅, ⟨(), hread, rfl, 3, rfl⟩, rfl, rfl, pixel, ?_⟩
  decide +kernel

theorem socketRound_flushed {connection : PairingConnection} (now : Int)
    (hissue : connection.issueEnv.syncParent = .ok ())
    (hrevoke : connection.revokeEnv.syncParent = .ok ())
    (hidentity : connection.identityEnv.syncParent = .ok ()) :
    PairingSession.Flushed [⟨now, .socket connection⟩] := by
  intro round hround other haccepted
  cases List.mem_singleton.mp hround
  cases haccepted
  exact ⟨hissue, hrevoke, hidentity⟩

end Sample

open Sample in
/-- The device that was paired says hello and is authorized. -/
theorem paired_device_connects_pixel :
    NativeWire.decodeClientMessage nativeCodec (pixelSerde pixel) rfc3339 (pixelNative pixel)
      (Bytes.utf8 (pixelHelloText pixel)) = .ok (.hello pixel "Pixel" none [2] none ∅) ∧
    pairingStore.authorize derLibrary pairingSurroundings pixel pairedToken
      (pairSession.after derLibrary pairCodec pairingStore derFile
        [⟨1, .socket pairConnection⟩]).file = true := by
  have hcompletes : pairSession.Completes derLibrary pairCodec pairingStore derFile
      [⟨1, .socket pairConnection⟩] pairRequest pairedToken :=
    ⟨⟨⟨pixel, "Pixel"⟩, by decide +kernel⟩, by decide +kernel⟩
  have hflushed : PairingSession.Flushed [⟨1, .socket pairConnection⟩] :=
    socketRound_flushed 1 rfl rfl rfl
  have hinstalled : ∀ call ∈ installed, call.2.syncParent = .ok () := by
    intro call hcall
    cases List.mem_singleton.mp hcall
    rfl
  have hcanonical : CanonicalUuidV7 pixel :=
    ⟨(Ident.numbered .session 4).uuid, by decide +kernel, by decide +kernel, rfl⟩
  have hreadable : HostCredentialStore.Readable pairingStore pairingSurroundings := ⟨rfl, rfl, rfl⟩
  -- nothing happens after the pairing
  have hlater : ∀ call ∈ ([] : List (StoreCall × Surroundings)), call.2.syncParent = .ok () := by simp
  obtain ⟨hdecoded, hauthorized⟩ := (paired_device_connects derLibrary_lawful pairCodec
    pairingStore pairSession hinstalled hlater hflushed hcompletes rfc3339 (helloOf_pixel pixel)
    hreadable (Set.injOn_singleton derLibrary.sha256 pairedToken) rfl
    (fun other h => absurd h (not_issuedTo_nil _ other))).mpr
      ⟨hcanonical, fun _ other h => absurd h (not_issuedTo_nil _ other)⟩
  exact ⟨hdecoded, hauthorized fun _ h => nomatch h⟩

open Sample in
/-- A device that writes its identifier without hyphens is paired and can authenticate, but
the handshake refuses its hello. -/
theorem paired_device_refused :
    pairSession.Completes derLibrary plainCodec pairingStore derFile plainRounds plainRequest
      pairedToken ∧
    pairingStore.authorize derLibrary pairingSurroundings plainRequest.clientId pairedToken
      (pairSession.after derLibrary plainCodec pairingStore derFile plainRounds).file = true ∧
    HelloOf nativeCodec (pixelSerde plainPixel) (pixelNative plainPixel) plainRequest.clientId
      (Bytes.utf8 (pixelHelloText plainPixel)) (.hello plainPixel "Pixel" none [2] none ∅) ∧
    (NativeWire.decodeClientMessage nativeCodec (pixelSerde plainPixel) rfc3339
      (pixelNative plainPixel) (Bytes.utf8 (pixelHelloText plainPixel))).isOk = false := by
  refine ⟨⟨⟨⟨plainPixel, "Pixel"⟩, by decide +kernel⟩, by decide +kernel⟩, by decide +kernel,
    helloOf_pixel plainPixel, ?_⟩
  decide +kernel

end AgentPulse

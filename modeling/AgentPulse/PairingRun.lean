import AgentPulse.PairingServer

/-!
# Runs of a pairing session

What one round can do, and from it what a whole session can: a credential is issued at
most once, to a device with the credentials of the bundle and the consent of the user.
-/
namespace AgentPulse

namespace PairingSession

section

variable {α : Type} {lib : StoreLibrary α} {codec : PairingCodec} {store : HostCredentialStore}
  {session : PairingSession}

/-- What follows the examination of a request whose credentials match. -/
inductive Consented (session : PairingSession) (request : PairingRequest) : List ServeEvent → Prop
  | silent : Consented session request []
  | decided {approved : Bool} {now : Int} :
      Consented session request [.decided request approved now]
  | issued {now : Int} {token : Except PairingError String} (hnow : now < session.expiresAt) :
      Consented session request [.decided request true now, .issue request token]

/-- What a round of a session with so many attempts can do. -/
inductive RoundChange (lib : StoreLibrary α) (session : PairingSession) (attempts : Nat) :
    Serving α → List ServeEvent → Prop
  | idle {file} : RoundChange lib session attempts ⟨.serving attempts, file⟩ []
  | reading {file} : RoundChange lib session attempts ⟨.reading, file⟩ []
  | ended {error file} : RoundChange lib session attempts ⟨.ended (.error error), file⟩ []
  | rejected {file} : RoundChange lib session attempts (fail attempts file) [.attempt]
  | mismatched {request file} :
      RoundChange lib session attempts (fail attempts file) [.examined request, .attempt]
  | paired {request result file events} (hmatch : session.credentialsMatch lib request = true)
      (hconsented : Consented session request events) :
      RoundChange lib session attempts ⟨.ended result, file⟩ (.examined request :: events)

theorem pair_consented (connection : PairingConnection) (request : PairingRequest)
    (file : Option α) :
    Consented session request (session.pair lib codec store connection request file).2 := by
  unfold pair
  split
  · exact .silent
  · dsimp only
    split
    · exact .decided
    · next hlive =>
      split
      · exact .decided
      · next happroved =>
        have hyes : connection.approve request = true := by simpa using happroved
        rw [hyes]
        split
        · exact .issued (Int.not_le.mp hlive)
        · exact .issued (Int.not_le.mp hlive)
        · exact .issued (Int.not_le.mp hlive)

theorem step_roundChange {s : Serving α} {attempts : Nat} (h : s.phase = .serving attempts)
    (round : PairingRound) :
    RoundChange lib session attempts (session.step lib codec store s round).1
      (session.step lib codec store s round).2 := by
  obtain ⟨phase, file⟩ := s
  cases h
  unfold step
  dsimp only
  split
  · exact .ended
  · split
    · exact .idle
    · exact .rejected
    · exact .ended
    · next connection _ =>
      unfold admitConnection
      split
      · exact .reading
      · exact .rejected
      · next request _ =>
        split
        · exact .mismatched
        · next hmatch =>
          exact .paired (by simpa using hmatch) (pair_consented connection request file)

/-- After the fifth failed attempt the session does nothing more. -/
def Limited (log : List ServeEvent) : Prop :=
  ∀ before after, log = before ++ after →
    maxPairingAttempts ≤ before.countP ServeEvent.isAttempt → after = []

theorem limited_of_lt {log : List ServeEvent}
    (h : log.countP ServeEvent.isAttempt < maxPairingAttempts) : Limited log := by
  intro before after hlog hcount
  rw [hlog, List.countP_append] at h
  omega

theorem limited_snoc {log : List ServeEvent}
    (h : log.countP ServeEvent.isAttempt < maxPairingAttempts) (event : ServeEvent) :
    Limited (log ++ [event]) := by
  intro before after hlog hcount
  rcases List.eq_nil_or_concat after with rfl | ⟨init, last, rfl⟩
  · rfl
  · rw [List.concat_eq_append, ← List.append_assoc] at hlog
    obtain ⟨hinit, -⟩ := List.append_inj' hlog rfl
    rw [hinit, List.countP_append] at h
    omega

/-- The call stands right after the approval of a request with matching credentials. -/
def Justified (lib : StoreLibrary α) (session : PairingSession) (log : List ServeEvent)
    (request : PairingRequest) (token : Except PairingError String) : Prop :=
  session.credentialsMatch lib request = true ∧ ∃ before after now, now < session.expiresAt ∧
    log = before ++ [.examined request, .decided request true now, .issue request token] ++ after

structure SafeLog (lib : StoreLibrary α) (session : PairingSession) (log : List ServeEvent) :
    Prop where
  once : log.countP ServeEvent.isIssue ≤ 1
  justified : ∀ request token, .issue request token ∈ log → Justified lib session log request token
  limited : Limited log

/-- A session that is still serving has failed less than five times and issued nothing. -/
structure Sound (lib : StoreLibrary α) (session : PairingSession) (log : List ServeEvent)
    (s : Serving α) : Prop where
  safe : SafeLog lib session log
  serving : ∀ attempts, s.phase = .serving attempts → attempts < maxPairingAttempts ∧
    log.countP ServeEvent.isAttempt = attempts ∧ log.countP ServeEvent.isIssue = 0

theorem not_issued {log : List ServeEvent} (h : log.countP ServeEvent.isIssue = 0)
    {request : PairingRequest} {token : Except PairingError String} :
    .issue request token ∉ log := by
  intro hmem
  rw [List.countP_eq_zero] at h
  exact h _ hmem rfl

/-- Events without an issue leave the log without one. -/
theorem safeLog_of_none {log : List ServeEvent} (hnone : log.countP ServeEvent.isIssue = 0)
    (hlimited : Limited log) : SafeLog lib session log where
  once := by omega
  justified _ _ hmem := absurd hmem (not_issued hnone)
  limited := hlimited

theorem Sound.change {log events : List ServeEvent} {attempts : Nat} {s s' : Serving α}
    (h : Sound lib session log s) (hserving : s.phase = .serving attempts)
    (hchange : RoundChange lib session attempts s' events) :
    Sound lib session (log ++ events) s' := by
  obtain ⟨hfew, hcount, hnone⟩ := h.serving attempts hserving
  -- a failed attempt ends the log of this round
  have hfail : ∀ (front : List ServeEvent) (file : Option α),
      front.countP ServeEvent.isAttempt = attempts → front.countP ServeEvent.isIssue = 0 →
      Sound lib session (front ++ [.attempt]) (fail attempts file) := by
    intro front file hfront hissues
    have hissues' : (front ++ [ServeEvent.attempt]).countP ServeEvent.isIssue = 0 := by
      rw [List.countP_append, hissues]
      rfl
    refine ⟨safeLog_of_none hissues' (limited_snoc (by omega) _), ?_⟩
    intro more hmore
    unfold fail at hmore
    split at hmore
    · cases hmore
    · next hless =>
      cases hmore
      rw [List.countP_append, hfront]
      exact ⟨by omega, rfl, hissues'⟩
  cases hchange with
  | idle =>
    rw [List.append_nil]
    refine ⟨h.safe, ?_⟩
    intro more hmore
    cases hmore
    exact ⟨hfew, hcount, hnone⟩
  | reading =>
    rw [List.append_nil]
    exact ⟨h.safe, fun _ hmore => by cases hmore⟩
  | ended =>
    rw [List.append_nil]
    exact ⟨h.safe, fun _ hmore => by cases hmore⟩
  | rejected => exact hfail log _ hcount hnone
  | @mismatched request file =>
    have hsplit : log ++ [.examined request, .attempt] = (log ++ [.examined request]) ++ [.attempt] := by
      simp
    rw [hsplit]
    refine hfail _ file ?_ ?_
    · rw [List.countP_append, hcount]
      rfl
    · rw [List.countP_append, hnone]
      rfl
  | @paired request result file events hmatch hconsented =>
    refine ⟨?_, fun _ hmore => by cases hmore⟩
    have hlimited : Limited (log ++ .examined request :: events) := by
      apply limited_of_lt
      have hevents : (ServeEvent.examined request :: events).countP ServeEvent.isAttempt = 0 := by
        cases hconsented <;> rfl
      rw [List.countP_append, hevents]
      omega
    cases hconsented with
    | silent =>
      refine safeLog_of_none ?_ hlimited
      rw [List.countP_append, hnone]
      rfl
    | decided =>
      refine safeLog_of_none ?_ hlimited
      rw [List.countP_append, hnone]
      rfl
    | @issued now token hnow =>
      refine ⟨?_, ?_, hlimited⟩
      · rw [List.countP_append, hnone]
        exact Nat.le_refl 1
      · intro other reply hmem
        rcases List.mem_append.mp hmem with hold | hnew
        · exact absurd hold (not_issued hnone)
        · simp only [List.mem_cons, reduceCtorEq, ServeEvent.issue.injEq, List.not_mem_nil, or_false,
            false_or] at hnew
          obtain ⟨rfl, rfl⟩ := hnew
          exact ⟨hmatch, log, [], now, hnow, by simp⟩

theorem run_sound (file : Option α) (rounds : List PairingRound) :
    Sound lib session (session.log lib codec store file rounds)
      (session.after lib codec store file rounds) := by
  have hstart : Sound lib session [] (⟨.serving 0, file⟩ : Serving α) := by
    refine ⟨safeLog_of_none rfl (limited_of_lt (by decide)), ?_⟩
    intro attempts hattempts
    cases hattempts
    exact ⟨by decide, rfl, rfl⟩
  have hrun := Trace.collected_invariant (session.step lib codec store) (fun _ events => events)
    (Sound lib session) ?_ [] ⟨.serving 0, file⟩ rounds hstart
  · simpa [log, after] using hrun
  · intro past s round h
    cases hphase : s.phase with
    | serving attempts => exact h.change hphase (step_roundChange hphase round)
    | reading =>
      have hstay : session.step lib codec store s round = (s, []) := by
        unfold step
        rw [hphase]
      rw [hstay, List.append_nil]
      exact h
    | ended result =>
      have hstay : session.step lib codec store s round = (s, []) := by
        unfold step
        rw [hphase]
      rw [hstay, List.append_nil]
      exact h

end

end PairingSession

open PairingSession in
/-- Whatever connections come, and however the user, the clock and the store answer: a
credential is issued at most once, for a request with the credentials of the bundle, right
after it was approved in time; and nothing happens after the fifth failed attempt. SHA-256
is injective on `texts`. -/
theorem pairing_session_safe {α : Type} (lib : StoreLibrary α) (codec : PairingCodec)
    (store : HostCredentialStore) (session : PairingSession) (file : Option α)
    (rounds : List PairingRound) (texts : Set String) (hdigest : Set.InjOn lib.sha256 texts)
    (hbundle : session.bundle.pairingId ∈ texts ∧ session.bundle.bootstrapToken ∈ texts)
    (hexamined : ∀ request, .examined request ∈ session.log lib codec store file rounds →
      request.pairingId ∈ texts ∧ request.bootstrapToken ∈ texts) :
    (session.log lib codec store file rounds).countP ServeEvent.isIssue ≤ 1 ∧
    (∀ request token, .issue request token ∈ session.log lib codec store file rounds →
      request.pairingId = session.bundle.pairingId ∧
      request.bootstrapToken = session.bundle.bootstrapToken ∧
      ∃ before after now, now < session.expiresAt ∧
        session.log lib codec store file rounds = before ++
          [.examined request, .decided request true now, .issue request token] ++ after) ∧
    ∀ before after, session.log lib codec store file rounds = before ++ after →
      maxPairingAttempts ≤ before.countP ServeEvent.isAttempt → after = [] := by
  have hsafe : SafeLog lib session (session.log lib codec store file rounds) :=
    (run_sound file rounds).safe
  refine ⟨hsafe.once, ?_, hsafe.limited⟩
  intro request token hissued
  obtain ⟨hmatch, before, after, now, hnow, hlog⟩ := hsafe.justified request token hissued
  obtain ⟨hpairing, htoken⟩ := hexamined request (by rw [hlog]; simp)
  rw [credentialsMatch, Bool.and_eq_true, credentialMatches, credentialMatches, decide_eq_true_iff,
    decide_eq_true_iff] at hmatch
  exact ⟨hdigest hpairing hbundle.1 hmatch.1, hdigest htoken hbundle.2 hmatch.2, before, after, now,
    hnow, hlog⟩

namespace Sample

def pairRequest : PairingRequest where
  pairingId := pairedId
  bootstrapToken := pairedToken
  clientId := pixel
  displayName := "Pixel"
  version := none

/-- The request of this pairing with one spelling of the client's identifier. -/
def requestText (clientId : String) : String :=
  "\x7b\"pairing_version\":1,\"message\":\x7b\"type\":\"pair_request\",\"pairing_id\":\"" ++
    pairedId ++ "\",\"bootstrap_token\":\"" ++ pairedToken ++ "\",\"client_id\":\"" ++ clientId ++
    "\",\"display_name\":\"Pixel\",\"version\":null\x7d\x7d"

def pairCodec : PairingCodec := tableCodec [envelope pairRequest.serialize]

def pairBundle : PairingBundle where
  pairingVersion := 2
  pairingId := pairRequest.pairingId
  hostId := (Ident.numbered .session 1).toString
  hostName := "Studio Host"
  serverName := "h.local"
  address := "10.0.0.1"
  port := 49321
  leafSha256 := "abababababababababababababababababababababababababababababababab"
  bootstrapToken := pairedToken
  relayEndpoint := ""
  route := some "direct"
  expiresAtUnixSeconds := 4102444800

def pairSession : PairingSession := ⟨pairBundle, "10.0.0.1", 49320, 3, [2], 120⟩

/-- The device sends its request, the user consents, and the host becomes ready. -/
def pairConnection : PairingConnection where
  reads := [(1, .ok .timeout), (2, .ok (.text (requestText pixel)))]
  pendingSent := .ok ()
  approve _ := true
  decidedAt := 30
  issueEnv := pairingSurroundings
  ready _ := .ok ()
  revokeEnv := pairingSurroundings
  identityEnv := pairingSurroundings
  finalSent := .ok ()

def hostFile : Option StoreRecord :=
  HostCredentialStore.fileAfter pairingLibrary pairingStore
    [(.create "Studio Host", pairingSurroundings)]

def pairRounds : List PairingRound :=
  [⟨0, .handshake "bad certificate"⟩, ⟨0, .nothing⟩, ⟨1, .socket pairConnection⟩]

theorem pair_log : pairSession.log pairingLibrary pairCodec pairingStore hostFile pairRounds =
    [.attempt, .examined pairRequest, .decided pairRequest true 30,
      .issue pairRequest (.ok pairedToken)] := by
  decide +kernel

end Sample

open Sample in
/-- The device that was asked for is the one that gets a credential. -/
theorem pairing_session_safe_paired :
    .issue pairRequest (.ok pairedToken) ∈
      pairSession.log pairingLibrary pairCodec pairingStore hostFile pairRounds ∧
    pairRequest.bootstrapToken = pairSession.bundle.bootstrapToken := by
  have hexamined : ∀ request, .examined request ∈
      pairSession.log pairingLibrary pairCodec pairingStore hostFile pairRounds →
      request = pairRequest := by
    intro request hrequest
    rw [pair_log] at hrequest
    simpa using hrequest
  have hissued : .issue pairRequest (.ok pairedToken) ∈
      pairSession.log pairingLibrary pairCodec pairingStore hostFile pairRounds := by
    rw [pair_log]
    simp
  have hsafe := pairing_session_safe pairingLibrary pairCodec pairingStore pairSession hostFile
    pairRounds {pairRequest.pairingId, pairedToken} ?_ ⟨by simp [pairSession, pairBundle],
      by simp [pairSession, pairBundle]⟩ ?_
  · exact ⟨hissued, (hsafe.2.1 pairRequest _ hissued).2.1⟩
  · have hdigests : pairingLibrary.sha256 pairRequest.pairingId ≠ pairingLibrary.sha256 pairedToken := by
      decide +kernel
    rintro a (rfl | rfl) b (rfl | rfl) hsame
    · rfl
    · exact absurd hsame hdigests
    · exact absurd hsame.symm hdigests
    · rfl
  · intro request hrequest
    rw [hexamined request hrequest]
    exact ⟨by simp, by simp [pairRequest]⟩

end AgentPulse

import AgentPulse.CodexPrompt

/-!
# At most one turn/start per session

The worker marks a session while its turn/start is unanswered, and drops the mark
when it sees the session active and then idle. As long as no mark is dropped too
early, an unanswered request is marked, so that no second one is sent, and the
prompts are started in the order of their acceptance. As long as no queue is
emptied while its front is underway, the answer finds the prompt it belongs to.
-/
namespace AgentPulse

namespace Codex

open Std (ExtTreeMap)
open Program (Preserves Triple)
open Interleaved (Holds)
open History (Throughout throughout_snoc)

/-- The session whose turns an entry of the log is about. -/
def Record.about : Record → Option SessionId
  | .picked session _ | .started session _ | .implementing session | .completed session _ _
  | .rejected session _ | .implemented session => some session
  | _ => none

/-- Two logs tell the same about the turns of a session. -/
structure SameLedger (session : SessionId) (log log' : List Record) : Prop where
  outstanding : outstanding session log' = outstanding session log
  nextNumber : nextNumber session log' = nextNumber session log
  opened : opened session log' = opened session log
  underway : underway session log' = underway session log

theorem SameLedger.refl (session : SessionId) (log : List Record) : SameLedger session log log :=
  ⟨rfl, rfl, rfl, rfl⟩

/-- An entry about other sessions, or about none. -/
theorem sameLedger_snoc {session : SessionId} {entry : Record} (log : List Record)
    (h : entry.about ≠ some session) : SameLedger session log (log ++ [entry]) := by
  constructor
  · rw [outstanding_snoc]
    cases entry <;> simp_all [Record.about, Record.opens, Record.settles]
  · rw [nextNumber_snoc]
    cases entry <;> simp_all [Record.about]
  · rw [opened_snoc]
    cases entry <;> simp_all [Record.about]
  · rw [underway_snoc]
    cases entry <;> simp_all [Record.about]

namespace Worker

variable {B : Type}

/-- The prompt of the session is sent and not answered; unless its queue was emptied
meanwhile it still is the front of it. -/
structure Prompting (session : SessionId) (prompt : QueuedPrompt) (w : Worker B) : Prop where
  one : outstanding session w.log = 1
  current : opened session w.log = some prompt
  next : nextNumber session w.log = prompt.number + 1
  held : Unedited w.log →
    underway session w.log = true ∧ (w.controls.waiting session).head? = some prompt

/-- A plan of the session is sent and not answered. -/
structure Planning (session : SessionId) (w : Worker B) : Prop where
  one : outstanding session w.log = 1
  after : ∀ prompt ∈ w.controls.waiting session, nextNumber session w.log ≤ prompt.number

/-- What the answer to a request will find. -/
def Awaits (w : Worker B) : PendingControl → Prop
  | .turnStart session _ prompt => Prompting session prompt w
  | .implementPlan session _ => Planning session w
  | _ => True

/-- An unanswered request of the session is marked, or about to be, and its queue holds
no prompt that was started before. -/
structure Turn (opening : Option SessionId) (session : SessionId) (w : Worker B) : Prop where
  given : nextNumber session w.log ≤ w.controls.accepted
  near : ∀ prompt ∈ w.controls.waiting session, nextNumber session w.log ≤ prompt.number + 1
  rested : outstanding session w.log = 0 →
    ∀ prompt ∈ w.controls.waiting session, nextNumber session w.log ≤ prompt.number
  marked : outstanding session w.log ≠ 0 → opening ≠ some session →
    w.controls.inflightTurns.contains session = true
  awaits : ∀ (id : RequestId) kind, w.pending[id]? = some kind → kind.startsTurn = some session →
    w.Awaits kind
  unique : ∀ (id id' : RequestId) kind kind', w.pending[id]? = some kind → w.pending[id']? = some kind' →
    kind.startsTurn = some session → kind'.startsTurn = some session → id = id'

/-- The turns of all sessions, and what the log shows of them so far. -/
structure Turns (opening : Option SessionId) (w : Worker B) : Prop where
  inOrder : InOrder w.log
  numbered : w.controls.Numbered
  turn : ∀ session, Turn opening session w
  kept : Unedited w.log → ∀ session prompt removed,
    Record.completed session prompt removed ∈ w.log → removed = some prompt

/-- Nothing happened to the turn of a session; its queue grew or was emptied. -/
structure Still (session : SessionId) (w w' : Worker B) : Prop where
  ledger : SameLedger session w.log w'.log
  unedited : Unedited w'.log → Unedited w.log
  mark : w'.controls.inflightTurns.contains session = w.controls.inflightTurns.contains session
  pending : ∀ (id : RequestId) (kind : PendingControl), kind.startsTurn = some session → w'.pending[id]? = some kind →
    w.pending[id]? = some kind
  accepted : w.controls.accepted ≤ w'.controls.accepted
  waiting : ∀ n k, n ≤ w.controls.accepted + k →
    (∀ prompt ∈ w.controls.waiting session, n ≤ prompt.number + k) →
    ∀ prompt ∈ w'.controls.waiting session, n ≤ prompt.number + k
  head : Unedited w'.log → underway session w.log = true →
    ∀ prompt, (w.controls.waiting session).head? = some prompt →
      (w'.controls.waiting session).head? = some prompt

namespace Still

variable {session : SessionId} {w w' : Worker B} (h : Still session w w')
include h

theorem prompting {prompt : QueuedPrompt} (hw : Prompting session prompt w) :
    Prompting session prompt w' where
  one := h.ledger.outstanding.trans hw.one
  current := h.ledger.opened.trans hw.current
  next := h.ledger.nextNumber.trans hw.next
  held hunedited := by
    obtain ⟨hbusy, hhead⟩ := hw.held (h.unedited hunedited)
    exact ⟨h.ledger.underway.trans hbusy, h.head hunedited hbusy prompt hhead⟩

theorem after {n : Nat} (hn : n ≤ w.controls.accepted)
    (hw : ∀ prompt ∈ w.controls.waiting session, n ≤ prompt.number) :
    ∀ prompt ∈ w'.controls.waiting session, n ≤ prompt.number :=
  h.waiting n 0 hn hw

theorem planning (hgiven : nextNumber session w.log ≤ w.controls.accepted)
    (hw : Planning session w) : Planning session w' where
  one := h.ledger.outstanding.trans hw.one
  after := by
    rw [h.ledger.nextNumber]
    exact h.after hgiven hw.after

theorem awaits (hgiven : nextNumber session w.log ≤ w.controls.accepted) {kind : PendingControl}
    (hkind : kind.startsTurn = some session) (hw : w.Awaits kind) : w'.Awaits kind := by
  cases kind <;> simp only [PendingControl.startsTurn, Option.some.injEq, reduceCtorEq] at hkind
  case turnStart other thread prompt =>
    subst hkind
    exact h.prompting hw
  case implementPlan other thread =>
    subst hkind
    exact h.planning hgiven hw

theorem turn {opening : Option SessionId} (hw : Turn opening session w) :
    Turn opening session w' where
  given := by
    rw [h.ledger.nextNumber]
    exact hw.given.trans h.accepted
  near := by
    rw [h.ledger.nextNumber]
    exact h.waiting _ 1 (Nat.le_succ_of_le hw.given) hw.near
  rested hzero := by
    rw [h.ledger.nextNumber]
    rw [h.ledger.outstanding] at hzero
    exact h.after hw.given (hw.rested hzero)
  marked hopen hother := by
    rw [h.mark]
    rw [h.ledger.outstanding] at hopen
    exact hw.marked hopen hother
  awaits id kind hkind hsession :=
    h.awaits hw.given hsession (hw.awaits id kind (h.pending id kind hsession hkind) hsession)
  unique id id' kind kind' hkind hkind' hs hs' :=
    hw.unique id id' kind kind' (h.pending id kind hs hkind) (h.pending id' kind' hs' hkind') hs hs'

end Still

/-- A section that is no part of any turn: at most one entry that is about no session,
and at most what other threads do to the queues. -/
structure Drift (w w' : Worker B) : Prop where
  pending : w'.pending = w.pending
  log : w'.log = w.log ∨ ∃ entry, entry.about = none ∧ entry.timely w.log ∧ w'.log = w.log ++ [entry]
  controls : ∃ cleared, ControlRuntimeState.Admits cleared w.controls w'.controls ∧
    ∀ session, cleared = some session → w'.log = w.log ++ [.cleared session]

theorem inOrder_of_about {entry : Record} (h : entry.about = none) (before : List Record) :
    entry.inOrder before := by
  cases entry <;> trivial

namespace Drift

variable {w w' : Worker B} (h : Drift w w')
include h

theorem ledger (session : SessionId) : SameLedger session w.log w'.log := by
  rcases h.log with hlog | ⟨entry, habout, -, hlog⟩
  · rw [hlog]
    exact SameLedger.refl _ _
  · rw [hlog]
    apply sameLedger_snoc
    rw [habout]
    exact nofun

theorem unedited (hw : Unedited w'.log) : Unedited w.log := by
  rcases h.log with hlog | ⟨entry, -, -, hlog⟩
  · rwa [hlog] at hw
  · rw [hlog] at hw
    exact hw.snoc_left

theorem timely : Timely w'.log ↔ Timely w.log := by
  rcases h.log with hlog | ⟨entry, -, htimely, hlog⟩
  · rw [hlog]
  · rw [hlog]
    exact throughout_snoc.trans (and_iff_left htimely)

theorem still (session : SessionId) : Still session w w' := by
  obtain ⟨cleared, hadmits, hcleared⟩ := h.controls
  constructor
  · exact h.ledger session
  · exact h.unedited
  · rw [hadmits.inflightTurns]
  · intro id kind _ hkind
    rwa [h.pending] at hkind
  · exact hadmits.accepted
  · exact fun n k hn hbound => hadmits.bound_waiting hn hbound
  · intro hunedited hbusy prompt hhead
    apply hadmits.head _ hhead
    intro hgone
    rw [hcleared session hgone] at hunedited
    have hidle : underway session w.log = false := hunedited.last
    rw [hbusy] at hidle
    cases hidle

theorem turns {opening : Option SessionId} (hw : Turns opening w) : Turns opening w' := by
  obtain ⟨cleared, hadmits, -⟩ := h.controls
  constructor
  · rcases h.log with hlog | ⟨entry, habout, -, hlog⟩
    · rw [hlog]
      exact hw.inOrder
    · rw [hlog]
      exact throughout_snoc.mpr ⟨hw.inOrder, inOrder_of_about habout _⟩
  · exact hadmits.numbered hw.numbered
  · exact fun session => (h.still session).turn (hw.turn session)
  · intro hunedited session prompt removed hmem
    apply hw.kept (h.unedited hunedited) session prompt removed
    rcases h.log with hlog | ⟨entry, habout, -, hlog⟩
    · rwa [hlog] at hmem
    · rw [hlog] at hmem
      rcases List.mem_append.mp hmem with hold | hnew
      · exact hold
      · cases List.mem_singleton.mp hnew
        cases habout

end Drift

/-- Nothing that concerns turns changed. -/
theorem Drift.of_same {w w' : Worker B} (hpending : w'.pending = w.pending) (hlog : w'.log = w.log)
    (hcontrols : SameTurns w.controls w'.controls) : Drift w w' where
  pending := hpending
  log := .inl hlog
  controls := ⟨none, .of_prompts hcontrols.prompts hcontrols.inflightTurns hcontrols.accepted _,
    nofun⟩

theorem Drift.of_record (w : Worker B) {entry : Record} (habout : entry.about = none)
    (htimely : entry.timely w.log) : Drift w (w.record entry) where
  pending := rfl
  log := .inr ⟨entry, habout, htimely, rfl⟩
  controls := ⟨none, .of_prompts rfl rfl rfl _, nofun⟩

/-- Whatever another thread does is no part of a turn. -/
theorem drift_foreign (host : ProviderHost B) (route : ApprovalRoute) (step : Foreign B)
    (w : Worker B) : Drift w (w.foreign host route step) := by
  cases step with
  | accept command =>
    have hadmits := w.controls.admits_accept command
    show Drift w (w.accept command)
    unfold Worker.accept
    cases hcleared : clearedSession command with
    | none =>
      rw [hcleared] at hadmits
      exact ⟨rfl, .inl rfl, none, hadmits, nofun⟩
    | some session =>
      rw [hcleared] at hadmits
      refine ⟨rfl, .inr ⟨.cleared session, rfl, trivial, rfl⟩, some session, hadmits, ?_⟩
      rintro other ⟨⟩
      rfl
  | claimLocal response => exact .of_same rfl rfl ⟨rfl, rfl, rfl⟩
  | mapping op => exact .of_same rfl rfl ⟨rfl, rfl, rfl⟩
  | host f => exact .of_same rfl rfl ⟨rfl, rfl, rfl⟩
  | approval op =>
    show Drift w (w.approval route op)
    unfold Worker.approval
    split
    · exact ⟨rfl, .inr ⟨.lost _, rfl, trivial, rfl⟩, none, .of_prompts rfl rfl rfl _, nofun⟩
    · exact .of_same rfl rfl ⟨rfl, rfl, rfl⟩

/-- An entry about another session, with the queue and the mark of this one as before. -/
theorem still_other {session : SessionId} {entry : Record} {w w' : Worker B}
    (habout : entry.about ≠ some session) (hlog : w'.log = w.log ++ [entry])
    (hmark : w'.controls.inflightTurns.contains session = w.controls.inflightTurns.contains session)
    (haccepted : w'.controls.accepted = w.controls.accepted)
    (hwaiting : w'.controls.waiting session = w.controls.waiting session)
    (hpending : ∀ (id : RequestId) (kind : PendingControl), kind.startsTurn = some session →
      w'.pending[id]? = some kind → w.pending[id]? = some kind) : Still session w w' where
  ledger := by
    rw [hlog]
    exact sameLedger_snoc _ habout
  unedited hunedited := by
    rw [hlog] at hunedited
    exact hunedited.snoc_left
  mark := hmark
  pending := hpending
  accepted := by rw [haccepted]
  waiting n k _ hbound := by
    rw [hwaiting]
    exact hbound
  head _ _ prompt hhead := by
    rw [hwaiting]
    exact hhead

/-- An inserted request of another session. -/
theorem pending_insert_other {pending : ExtTreeMap RequestId PendingControl} {id : RequestId}
    {kind : PendingControl} {session : SessionId} (hother : kind.startsTurn ≠ some session)
    (found : RequestId) (other : PendingControl) (hsession : other.startsTurn = some session)
    (h : (pending.insert id kind)[found]? = some other) : pending[found]? = some other := by
  rw [OrderedMap.getElem?_insert] at h
  split at h
  · cases h
    exact absurd hsession hother
  · exact h

theorem Turn.weaken {session : SessionId} {w : Worker B} (h : Turn none session w)
    (opening : Option SessionId) : Turn opening session w :=
  { h with marked := fun hopen _ => h.marked hopen nofun }

/-- A session without an unanswered request has none pending. -/
theorem Turn.no_pending {opening : Option SessionId} {session : SessionId} {w : Worker B}
    (h : Turn opening session w) (hzero : outstanding session w.log = 0) (id : RequestId)
    (kind : PendingControl) (hkind : w.pending[id]? = some kind) :
    kind.startsTurn ≠ some session := by
  intro hsession
  have hone : outstanding session w.log = 1 := by
    have hawaits := h.awaits id kind hkind hsession
    cases kind <;> simp only [PendingControl.startsTurn, Option.some.injEq, reduceCtorEq] at hsession
    case turnStart other thread prompt =>
      subst hsession
      exact hawaits.one
    case implementPlan other thread =>
      subst hsession
      exact hawaits.one
  omega

/-- No session of the list has an unanswered request. -/
def AllAnswered (sessions : List SessionId) (w : Worker B) : Prop :=
  ∀ session ∈ sessions, outstanding session w.log = 0

/-- The front prompt of a session is read and about to be sent; nothing of the given
sessions is unanswered. -/
structure Ready (session : SessionId) (prompt : QueuedPrompt) (rest : List SessionId)
    (w : Worker B) : Prop where
  turns : Turns none w
  answered : AllAnswered (session :: rest) w
  next : nextNumber session w.log ≤ prompt.number
  given : prompt.number < w.controls.accepted
  first : ∀ later ∈ w.controls.waiting session, prompt.number ≤ later.number
  held : Unedited w.log →
    underway session w.log = true ∧ (w.controls.waiting session).head? = some prompt

theorem Drift.answered {w w' : Worker B} (h : Drift w w') {sessions : List SessionId}
    (hw : AllAnswered sessions w) : AllAnswered sessions w' :=
  fun session hsession => (h.ledger session).outstanding.trans (hw session hsession)

theorem Drift.ready {w w' : Worker B} (h : Drift w w') {session : SessionId}
    {prompt : QueuedPrompt} {rest : List SessionId} (hw : Ready session prompt rest w) :
    Ready session prompt rest w' where
  turns := h.turns hw.turns
  answered := h.answered hw.answered
  next := by
    rw [(h.ledger session).nextNumber]
    exact hw.next
  given := Nat.lt_of_lt_of_le hw.given (h.still session).accepted
  first := (h.still session).after (Nat.le_of_lt hw.given) hw.first
  held hunedited := by
    obtain ⟨hbusy, hhead⟩ := hw.held (h.unedited hunedited)
    exact ⟨(h.ledger session).underway.trans hbusy,
      (h.still session).head hunedited hbusy prompt hhead⟩

/-- Reading the front prompt. -/
theorem ready_picked {session : SessionId} {prompt : QueuedPrompt} {rest : List SessionId}
    {w : Worker B} (hw : Turns none w) (hanswered : AllAnswered (session :: rest) w)
    (hfront : w.controls.frontPrompt session = some prompt) :
    Ready session prompt rest (w.record (.picked session prompt)) := by
  rw [ControlRuntimeState.frontPrompt_eq] at hfront
  have hmem : prompt ∈ w.controls.waiting session := List.mem_of_head? hfront
  have hturn := hw.turn session
  have hzero := hanswered session (by simp)
  have hsame : ∀ other, outstanding other (w.log ++ [.picked session prompt]) =
      outstanding other w.log := by
    intro other
    rw [outstanding_snoc]
    rfl
  have hnext : ∀ other, nextNumber other (w.log ++ [.picked session prompt]) =
      nextNumber other w.log := fun other => nextNumber_snoc _ _ _
  constructor
  · constructor
    · exact throughout_snoc.mpr ⟨hw.inOrder, trivial⟩
    · exact hw.numbered
    · intro other
      by_cases hother : session = other
      · subst hother
        constructor
        · exact (hnext session).symm ▸ hturn.given
        · exact (hnext session).symm ▸ hturn.near
        · exact fun _ => (hnext session).symm ▸ hturn.rested hzero
        · intro hopen
          exact absurd ((hsame session).trans hzero) hopen
        · intro id kind hkind hsession
          exact absurd hsession (hturn.no_pending hzero id kind hkind)
        · exact hturn.unique
      · have habout : (Record.picked session prompt).about ≠ some other := by
          simpa [Record.about] using hother
        have hstill : Still other w (w.record (.picked session prompt)) :=
          still_other habout rfl rfl rfl rfl fun _ _ _ hkind => hkind
        exact hstill.turn (hw.turn other)
    · intro hunedited other found removed hmem
      rcases List.mem_append.mp hmem with hold | hnew
      · exact hw.kept hunedited.snoc_left other found removed hold
      · cases List.mem_singleton.mp hnew
  · exact fun other hother => (hsame other).trans (hanswered other hother)
  · exact (hnext session).symm ▸ hturn.rested hzero prompt hmem
  · exact hw.numbered.given session prompt hmem
  · intro later hlater
    obtain ⟨rest, hcons⟩ := List.head?_eq_some_iff.mp hfront
    have hascending := hw.numbered.ascending session
    have hlater' : later ∈ w.controls.waiting session := hlater
    rw [hcons] at hascending hlater'
    rcases List.mem_cons.mp hlater' with rfl | hrest
    · exact Nat.le_refl _
    · exact Nat.le_of_lt ((List.pairwise_cons.mp hascending).1 later hrest)
  · intro _
    refine ⟨?_, hfront⟩
    show underway session (w.log ++ [.picked session prompt]) = true
    rw [underway_snoc]
    exact if_pos rfl

/-- The turns after a request of one session was written: that session is described, the
others are as before. -/
theorem turns_opened {session : SessionId} {kind : PendingControl} {entry : Record} {w : Worker B}
    (hw : Turns none w) (hzero : outstanding session w.log = 0) (id : RequestId)
    (hkind : kind.startsTurn = some session) (hopens : entry.opens = some session)
    (hentry : entry.about = some session) (hinOrder : entry.inOrder w.log)
    (hgiven : nextNumber session (w.log ++ [entry]) ≤ w.controls.accepted)
    (hnear : ∀ prompt ∈ w.controls.waiting session,
      nextNumber session (w.log ++ [entry]) ≤ prompt.number + 1)
    (hawaits : Awaits ({ w with pending := w.pending.insert id kind }.record entry) kind) :
    Turns (some session) ({ w with pending := w.pending.insert id kind }.record entry) := by
  have hone : outstanding session (w.log ++ [entry]) = 1 := by
    rw [outstanding_opens _ hopens, hzero]
  have hturn := hw.turn session
  have hsole : ∀ (found : RequestId) (other : PendingControl),
      (w.pending.insert id kind)[found]? = some other → other.startsTurn = some session →
      found = id ∧ other = kind := by
    intro found other hfound hsession
    rw [OrderedMap.getElem?_insert] at hfound
    split at hfound
    · next hid => exact ⟨hid.symm, (Option.some.inj hfound).symm⟩
    · exact absurd hsession (hturn.no_pending hzero found other hfound)
  constructor
  · exact throughout_snoc.mpr ⟨hw.inOrder, hinOrder⟩
  · exact hw.numbered
  · intro other
    by_cases hother : session = other
    · subst hother
      constructor
      · exact hgiven
      · exact hnear
      · intro hnone
        exact absurd (hnone.symm.trans hone) (by decide)
      · exact fun _ hopening => absurd rfl hopening
      · intro found found' hfound hsession
        obtain ⟨rfl, rfl⟩ := hsole found found' hfound hsession
        exact hawaits
      · intro found found' other other' hfound hfound' hsession hsession'
        exact (hsole found other hfound hsession).1.trans
          (hsole found' other' hfound' hsession').1.symm
    · have habout : entry.about ≠ some other := by simpa [hentry] using hother
      have hstill : Still other w ({ w with pending := w.pending.insert id kind }.record entry) :=
        still_other habout rfl rfl rfl rfl
          (pending_insert_other (by simpa [hkind] using hother))
      exact (hstill.turn (hw.turn other)).weaken _
  · intro hunedited other found removed hmem
    rcases List.mem_append.mp hmem with hold | hnew
    · exact hw.kept hunedited.snoc_left other found removed hold
    · cases List.mem_singleton.mp hnew
      cases hopens

/-- Writing the request of a prompt that is ready. -/
theorem turns_started {session : SessionId} {prompt : QueuedPrompt} {rest : List SessionId}
    {w : Worker B} (hw : Ready session prompt rest w) (id : RequestId) (thread : String) :
    Turns (some session) ({ w with
      pending := w.pending.insert id (.turnStart session thread prompt) }.record
        (.started session prompt)) := by
  have hzero := hw.answered session (by simp)
  have hone : outstanding session (w.log ++ [.started session prompt]) = 1 := by
    rw [outstanding_opens _ rfl, hzero]
  have hnext : nextNumber session (w.log ++ [.started session prompt]) = prompt.number + 1 := by
    rw [nextNumber_snoc]
    exact if_pos rfl
  have hinOrder : (Record.started session prompt).inOrder w.log := ⟨hzero, hw.next⟩
  apply turns_opened hw.turns hzero id rfl rfl rfl hinOrder
  · rw [hnext]
    exact hw.given
  · intro later hlater
    rw [hnext]
    exact Nat.succ_le_succ (hw.first later hlater)
  · refine ⟨hone, ?_, hnext, ?_⟩
    · show opened session (w.log ++ [.started session prompt]) = some prompt
      rw [opened_snoc]
      exact if_pos rfl
    · intro hunedited
      obtain ⟨hbusy, hhead⟩ := hw.held hunedited.snoc_left
      refine ⟨?_, hhead⟩
      show underway session (w.log ++ [.started session prompt]) = true
      rw [underway_snoc]
      exact hbusy

/-- Writing the request of a plan. -/
theorem turns_implementing {session : SessionId} {w : Worker B} (hw : Turns none w)
    (hzero : outstanding session w.log = 0) (id : RequestId) (thread : String) :
    Turns (some session) ({ w with
      pending := w.pending.insert id (.implementPlan session thread) }.record
        (.implementing session)) := by
  have hone : outstanding session (w.log ++ [.implementing session]) = 1 := by
    rw [outstanding_opens _ rfl, hzero]
  have hnext : nextNumber session (w.log ++ [.implementing session]) = nextNumber session w.log :=
    nextNumber_snoc _ _ _
  have hturn := hw.turn session
  have hinOrder : (Record.implementing session).inOrder w.log := hzero
  apply turns_opened hw hzero id rfl rfl rfl hinOrder
  · rw [hnext]
    exact hturn.given
  · rw [hnext]
    exact hturn.near
  · refine ⟨hone, ?_⟩
    show ∀ prompt ∈ w.controls.waiting session, nextNumber session (w.log ++ _) ≤ prompt.number
    rw [hnext]
    exact hturn.rested hzero

theorem Awaits.congr {w w' : Worker B} {kind : PendingControl} (h : w.Awaits kind)
    (hlog : w'.log = w.log)
    (hwaiting : ∀ session, w'.controls.waiting session = w.controls.waiting session) :
    w'.Awaits kind := by
  cases kind with
  | turnStart session thread prompt =>
    have hprompting : Prompting session prompt w := h
    refine ⟨?_, ?_, ?_, ?_⟩
    · rw [hlog]
      exact hprompting.one
    · rw [hlog]
      exact hprompting.current
    · rw [hlog]
      exact hprompting.next
    · rw [hlog, hwaiting]
      exact hprompting.held
  | implementPlan session thread =>
    have hplanning : Planning session w := h
    refine ⟨?_, ?_⟩
    · rw [hlog]
      exact hplanning.one
    · rw [hlog, hwaiting]
      exact hplanning.after
  | _ => trivial

/-- Marks may change as long as every unanswered request keeps or gets one. -/
theorem turns_remarked {opening : Option SessionId} {w : Worker B}
    (controls : ControlRuntimeState) (hw : Turns opening w) (hprompts : controls.prompts = w.controls.prompts)
    (haccepted : controls.accepted = w.controls.accepted)
    (hmarks : ∀ session, outstanding session w.log ≠ 0 →
      (opening ≠ some session → w.controls.inflightTurns.contains session = true) →
      controls.inflightTurns.contains session = true) :
    Turns none { w with controls := controls } := by
  have hwaiting := ControlRuntimeState.waiting_congr hprompts
  constructor
  · exact hw.inOrder
  · constructor
    · intro session
      rw [hwaiting]
      exact hw.numbered.ascending session
    · intro session
      rw [hwaiting, haccepted]
      exact hw.numbered.given session
  · intro session
    have hturn := hw.turn session
    constructor
    · exact haccepted.symm ▸ hturn.given
    · exact (hwaiting session).symm ▸ hturn.near
    · exact fun hzero => (hwaiting session).symm ▸ hturn.rested hzero
    · exact fun hopen _ => hmarks session hopen (hturn.marked hopen)
    · exact fun id kind hkind hsession => (hturn.awaits id kind hkind hsession).congr rfl hwaiting
    · exact hturn.unique
  · exact hw.kept

/-- The mark that a written request gets. -/
theorem turns_marked {session : SessionId} {w : Worker B} (hw : Turns (some session) w) :
    Turns none { w with controls := w.controls.markTurnInflight session } := by
  apply turns_remarked (w.controls.markTurnInflight session) hw rfl rfl
  intro other _ hmarked
  show (w.controls.inflightTurns.insert session false).contains other = true
  rw [ExtTreeMap.contains_insert, Bool.or_eq_true]
  by_cases hother : session = other
  · exact .inl (by simpa using hother)
  · exact .inr (hmarked (by simpa using hother))

/-- The mark of a session without an unanswered request may go. -/
theorem turns_unmarked {session : SessionId} {w : Worker B} (controls : ControlRuntimeState)
    (hw : Turns none w) (hzero : outstanding session w.log = 0)
    (hprompts : controls.prompts = w.controls.prompts)
    (haccepted : controls.accepted = w.controls.accepted)
    (herased : controls.inflightTurns = w.controls.inflightTurns.erase session) :
    Turns none { w with controls := controls } := by
  apply turns_remarked controls hw hprompts haccepted
  intro other hopen hmarked
  have hother : session ≠ other := by
    rintro rfl
    exact hopen hzero
  rw [herased, ExtTreeMap.contains_erase]
  simpa [hother] using hmarked nofun

/-- A taken request: its answer finds what it waits for, and no other request of its
session is pending. -/
structure Claimed (kind : PendingControl) (w : Worker B) : Prop where
  awaits : w.Awaits kind
  sole : ∀ session, kind.startsTurn = some session → ∀ (id : RequestId) other,
    w.pending[id]? = some other → other.startsTurn ≠ some session

theorem turns_taken {w : Worker B} (hw : Turns none w) {id : RequestId} {kind : PendingControl}
    (hkind : w.pending[id]? = some kind) :
    Turns none { w with pending := w.pending.erase id } ∧
    Claimed kind { w with pending := w.pending.erase id } := by
  have herase : ∀ (found : RequestId) (other : PendingControl),
      (w.pending.erase id)[found]? = some other → found ≠ id ∧ w.pending[found]? = some other := by
    intro found other hfound
    rw [OrderedMap.getElem?_erase] at hfound
    split at hfound
    · cases hfound
    · next hid => exact ⟨fun hsame => hid hsame.symm, hfound⟩
  constructor
  · refine ⟨hw.inOrder, hw.numbered, ?_, hw.kept⟩
    intro session
    have hturn := hw.turn session
    refine ⟨hturn.given, hturn.near, hturn.rested, hturn.marked, ?_, ?_⟩
    · intro found other hfound hsession
      exact (hturn.awaits found other (herase found other hfound).2 hsession).congr rfl fun _ => rfl
    · intro found found' other other' hfound hfound' hsession hsession'
      exact hturn.unique found found' other other' (herase found other hfound).2
        (herase found' other' hfound').2 hsession hsession'
  · constructor
    · cases hstarts : kind.startsTurn with
      | none => cases kind <;> trivial
      | some session =>
        exact ((hw.turn session).awaits id kind hkind hstarts).congr rfl fun _ => rfl
    · intro session hsession found other hfound hother
      obtain ⟨hne, hold⟩ := herase found other hfound
      exact hne ((hw.turn session).unique found id other kind hold hkind hother hsession)

/-- The turns after the request of one session was answered. -/
theorem turns_settled {session : SessionId} {w : Worker B} (controls : ControlRuntimeState)
    (entry : Record) (hw : Turns none w)
    (hone : outstanding session w.log = 1)
    (hsole : ∀ (id : RequestId) kind, w.pending[id]? = some kind → kind.startsTurn ≠ some session)
    (hsettles : entry.settles = some session) (hentry : entry.about = some session)
    (hinOrder : entry.inOrder w.log) (hnumbered : controls.Numbered)
    (haccepted : controls.accepted = w.controls.accepted)
    (hmarks : ∀ other, session ≠ other → controls.inflightTurns.contains other =
      w.controls.inflightTurns.contains other)
    (hqueues : ∀ other, session ≠ other → controls.waiting other = w.controls.waiting other)
    (hgiven : nextNumber session (w.log ++ [entry]) ≤ w.controls.accepted)
    (hafter : ∀ prompt ∈ controls.waiting session,
      nextNumber session (w.log ++ [entry]) ≤ prompt.number)
    (hkept : Unedited w.log → ∀ other prompt removed,
      entry = .completed other prompt removed → removed = some prompt) :
    Turns none ({ w with controls := controls }.record entry) := by
  have hzero : outstanding session (w.log ++ [entry]) = 0 := by
    rw [outstanding_settles _ hsettles, hone]
  constructor
  · exact throughout_snoc.mpr ⟨hw.inOrder, hinOrder⟩
  · exact hnumbered
  · intro other
    by_cases hother : session = other
    · subst hother
      constructor
      · exact haccepted.symm ▸ hgiven
      · exact fun prompt hprompt => Nat.le_succ_of_le (hafter prompt hprompt)
      · exact fun _ => hafter
      · exact fun hopen => absurd hzero hopen
      · exact fun id kind hkind hsession => absurd hsession (hsole id kind hkind)
      · exact (hw.turn session).unique
    · have habout : entry.about ≠ some other := by simpa [hentry] using hother
      have hstill : Still other w ({ w with controls := controls }.record entry) :=
        still_other habout rfl (hmarks other hother) haccepted (hqueues other hother)
          fun _ _ _ hkind => hkind
      exact hstill.turn (hw.turn other)
  · intro hunedited other prompt removed hmem
    have hbefore : Unedited w.log := hunedited.snoc_left
    rcases List.mem_append.mp hmem with hold | hnew
    · exact hw.kept hbefore other prompt removed hold
    · exact hkept hbefore other prompt removed (List.mem_singleton.mp hnew).symm

/-- The answer to an accepted prompt takes the front of the queue. -/
theorem turns_completed {session : SessionId} {thread : String} {prompt : QueuedPrompt}
    {w : Worker B} (hw : Turns none w) (hclaimed : Claimed (.turnStart session thread prompt) w) :
    Turns none ({ w with controls := (w.controls.popPrompt session).2 }.record
      (.completed session prompt (w.controls.popPrompt session).1)) := by
  have hprompting : Prompting session prompt w := hclaimed.awaits
  obtain ⟨hhead, hmarks, haccepted, hwaiting⟩ := w.controls.popPrompt_eq session
  have hmine : (w.controls.popPrompt session).2.waiting session =
      (w.controls.waiting session).tail := by
    rw [hwaiting, if_pos rfl]
  have hothers : ∀ other, session ≠ other → (w.controls.popPrompt session).2.waiting other =
      w.controls.waiting other := by
    intro other hother
    rw [hwaiting, if_neg hother]
  have hnext : nextNumber session (w.log ++ [.completed session prompt
      (w.controls.popPrompt session).1]) = nextNumber session w.log := nextNumber_snoc _ _ _
  have hsublist : ∀ other, ((w.controls.popPrompt session).2.waiting other).Sublist
      (w.controls.waiting other) := by
    intro other
    rw [hwaiting]
    split
    · next hsame => exact hsame ▸ List.tail_sublist _
    · exact List.Sublist.refl _
  apply turns_settled _ (.completed session prompt _) hw hprompting.one
    (hclaimed.sole session rfl) rfl rfl trivial
  · constructor
    · exact fun other => (hw.numbered.ascending other).sublist (hsublist other)
    · intro other later hlater
      rw [haccepted]
      exact hw.numbered.given other later ((hsublist other).subset hlater)
  · exact haccepted
  · intro other _
    rw [hmarks]
  · exact hothers
  · rw [hnext]
    exact (hw.turn session).given
  · -- What is left in the queue comes after its front, and the front may be the prompt itself.
    intro later hlater
    rw [hnext]
    rw [hmine] at hlater
    cases hqueue : w.controls.waiting session with
    | nil =>
      rw [hqueue] at hlater
      cases hlater
    | cons front rest =>
      have hascending := hw.numbered.ascending session
      have hnear := (hw.turn session).near front (by rw [hqueue]; exact List.mem_cons_self)
      rw [hqueue] at hlater hascending
      have hless := (List.pairwise_cons.mp hascending).1 later hlater
      omega
  · intro hunedited other found removed hentry
    cases hentry
    rw [hhead]
    exact (hprompting.held hunedited).2

/-- The answer to a refused prompt pauses its queue and drops the mark. -/
theorem turns_rejected {session : SessionId} {thread : String} {prompt : QueuedPrompt}
    {w : Worker B} (hw : Turns none w) (hclaimed : Claimed (.turnStart session thread prompt) w) :
    Turns none ({ w with
      controls := (w.controls.clearTurnInflight session).pausePrompts session }.record
        (.rejected session prompt)) := by
  have hprompting : Prompting session prompt w := hclaimed.awaits
  have hwaiting : ∀ other, ((w.controls.clearTurnInflight session).pausePrompts session).waiting
      other = w.controls.waiting other := by
    intro other
    unfold ControlRuntimeState.pausePrompts
    rw [ControlRuntimeState.waiting_setQueue]
    split
    · next hsame =>
      rw [← hsame]
      rfl
    · rfl
  have hnext : nextNumber session (w.log ++ [.rejected session prompt]) = prompt.number := by
    rw [nextNumber_snoc]
    exact if_pos rfl
  have hlast := hprompting.next
  apply turns_settled _ (.rejected session prompt) hw hprompting.one
    (hclaimed.sole session rfl) rfl rfl hprompting.current
  · constructor
    · intro other
      rw [hwaiting]
      exact hw.numbered.ascending other
    · intro other
      rw [hwaiting]
      exact hw.numbered.given other
  · rfl
  · intro other hother
    show (w.controls.inflightTurns.erase session).contains other = _
    rw [ExtTreeMap.contains_erase]
    simp [hother]
  · exact fun other _ => hwaiting other
  · have hgiven := (hw.turn session).given
    omega
  · intro later hlater
    rw [hwaiting] at hlater
    have hnear := (hw.turn session).near later hlater
    omega
  · exact fun _ _ _ _ hentry => nomatch hentry

/-- The answer to a plan. -/
theorem turns_implemented {session : SessionId} {thread : String} {w : Worker B}
    (hw : Turns none w) (hclaimed : Claimed (.implementPlan session thread) w) :
    Turns none (w.record (.implemented session)) ∧
    AllAnswered [session] (w.record (.implemented session)) := by
  have hplanning : Planning session w := hclaimed.awaits
  have hnext : nextNumber session (w.log ++ [.implemented session]) = nextNumber session w.log :=
    nextNumber_snoc _ _ _
  constructor
  · apply turns_settled w.controls (.implemented session) hw hplanning.one
      (hclaimed.sole session rfl) rfl rfl trivial hw.numbered rfl (fun _ _ => rfl) (fun _ _ => rfl)
    · rw [hnext]
      exact (hw.turn session).given
    · rw [hnext]
      exact hplanning.after
    · exact fun _ _ _ _ hentry => nomatch hentry
  · intro other hother
    cases List.mem_singleton.mp hother
    show outstanding session (w.log ++ [.implemented session]) = 0
    rw [outstanding_settles _ rfl, hplanning.one]

theorem Drift.claimed {w w' : Worker B} (h : Drift w w') (hw : Turns none w)
    {kind : PendingControl} (hclaimed : Claimed kind w) : Claimed kind w' := by
  constructor
  · cases hstarts : kind.startsTurn with
    | none => cases kind <;> trivial
    | some session => exact (h.still session).awaits (hw.turn session).given hstarts hclaimed.awaits
  · intro session hsession id other hother
    rw [h.pending] at hother
    exact hclaimed.sole session hsession id other hother

end Worker

end Codex

end AgentPulse

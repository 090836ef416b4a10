import AgentPulse.CodexHeard
import AgentPulse.Mirror

/-!
# What a thread makes of its notifications

A thread seen without its host: the fields that its notifications read and
write, and the keys remembered so far. A report is what one notification says.
A report that was delivered before is settled and changes nothing, with one
exception: a status is compared with nothing but the present one.
-/
namespace AgentPulse

namespace Codex

inductive TurnEnding where
  | completed | interrupted
  | failed (error : NonEmptyText)
  deriving DecidableEq, Repr

/-- The text of a completed message or plan. -/
structure ItemText where
  content : NonEmptyText
  plan : Bool
  final : Bool
  deriving DecidableEq, Repr

/-- What a notification of a thread says; a thread that is not loaded has no state. -/
inductive ThreadReport where
  | status (loaded : Option AgentState)
  | turnStarted (turn : String)
  | itemStarted (turn : String)
  | itemCompleted (turn item : String) (text : Option ItemText)
  | turnCompleted (turn : String) (ending : TurnEnding)
  deriving DecidableEq, Repr

namespace ThreadReport

def turn : ThreadReport → Option String
  | .status _ => none
  | .turnStarted turn => some turn
  | .itemStarted turn => some turn
  | .itemCompleted turn _ _ => some turn
  | .turnCompleted turn _ => some turn

/-- What the mapper remembers the notification by, if it may. -/
def subject (thread : String) : ThreadReport → Option Subject
  | .turnStarted turn => some (.started thread turn)
  | .itemCompleted turn item _ => some (.item thread turn item)
  | .turnCompleted turn _ => some (.completed thread turn)
  | _ => none

end ThreadReport

structure ThreadView where
  state : AgentState
  connection : ConnectionState
  activeTurnId : Option String
  lastMessage : Option NonEmptyText
  lastFinalMessage : Option NonEmptyText
  proposedPlan : Option String
  planReady : Bool
  keys : List String
  deriving DecidableEq, Repr

namespace ThreadView

variable (thread : String)

/-- The key of the subject is remembered. -/
def Knows (self : ThreadView) (subject : Subject) : Prop := subject.key ∈ self.keys

instance (self : ThreadView) (subject : Subject) : Decidable (self.Knows subject) :=
  inferInstanceAs (Decidable (subject.key ∈ self.keys))

/-- The turn of the report is over, or the report itself is remembered. -/
def Drops (self : ThreadView) (report : ThreadReport) : Prop :=
  (∃ turn ∈ report.turn, self.Knows (.completed thread turn)) ∨
    ∃ subject ∈ report.subject thread, self.Knows subject

/-- No other turn is running. -/
def Fits (self : ThreadView) (report : ThreadReport) : Prop :=
  ∀ turn ∈ report.turn, self.activeTurnId = none ∨ self.activeTurnId = some turn

instance (self : ThreadView) (report : ThreadReport) : Decidable (self.Drops thread report) :=
  inferInstanceAs (Decidable (_ ∨ _))

instance (self : ThreadView) (report : ThreadReport) : Decidable (self.Fits report) :=
  inferInstanceAs (Decidable (∀ turn ∈ report.turn, _))

/-- The report starts the running turn again. -/
def Restarts (self : ThreadView) : ThreadReport → Prop
  | .turnStarted turn => self.activeTurnId = some turn
  | _ => False

instance (self : ThreadView) : (report : ThreadReport) → Decidable (self.Restarts report)
  | .turnStarted turn => inferInstanceAs (Decidable (self.activeTurnId = some turn))
  | .status _ | .itemStarted _ | .itemCompleted .. | .turnCompleted .. =>
    inferInstanceAs (Decidable False)

/-- The report changes nothing that only turns change. -/
def Ignores (self : ThreadView) (report : ThreadReport) : Prop :=
  self.Drops thread report ∨ ¬ self.Fits report ∨ self.Restarts report

instance (self : ThreadView) (report : ThreadReport) : Decidable (self.Ignores thread report) :=
  inferInstanceAs (Decidable (_ ∨ _ ∨ _))

/-- A thread with a plan to decide is shown as waiting instead of idle. -/
def presented (self : ThreadView) (loaded : AgentState) : AgentState :=
  if loaded = .idle ∧ self.planReady then .waitingForInteraction else loaded

def outcome (self : ThreadView) : TurnEnding → SessionOutcome
  | .completed => .completed (self.lastFinalMessage.or self.lastMessage)
  | .interrupted => .cancelled none
  | .failed error => .failed error

/-- The turn completed with a plan. -/
def Proposes (self : ThreadView) (ending : TurnEnding) : Prop :=
  ending = .completed ∧ self.proposedPlan.isSome

instance (self : ThreadView) (ending : TurnEnding) : Decidable (self.Proposes ending) :=
  inferInstanceAs (Decidable (_ ∧ _))

/-- The state that a report shows, if it shows one. -/
def shows (self : ThreadView) (report : ThreadReport) : Option AgentState :=
  if self.Ignores thread report then none
  else
    match report with
    | .status loaded => loaded.map self.presented
    | .turnStarted _ => some .running
    | .itemStarted _ => none
    | .itemCompleted .. => none
    | .turnCompleted _ ending =>
      some (if self.Proposes ending then .waitingForInteraction
        else outcomeAgentState (self.outcome ending))

/-- The connection that a report shows, if it shows one. -/
def connects : ThreadReport → Option ConnectionState
  | .status none => some .disconnected
  | .status (some _) => some .connected
  | _ => none

/-- What is told of a report: a message, or the end of the turn. -/
def tells (self : ThreadView) (report : ThreadReport) : List AgentEventPayload :=
  if self.Ignores thread report then []
  else
    match report with
    | .itemCompleted _ _ (some text) => [.message ⟨.assistant, .info, text.content⟩]
    | .turnCompleted _ ending =>
      if self.Proposes ending then [] else [.sessionEnded (self.outcome ending)]
    | _ => []

/-- The text of a completed item, with the key of the item. -/
def read (self : ThreadView) (turn item : String) (text : ItemText) : ThreadView :=
  { self with
    lastMessage := some text.content
    proposedPlan := if text.plan then some text.content.asStr else self.proposedPlan
    lastFinalMessage := if text.final then some text.content else self.lastFinalMessage
    keys := self.keys ++ [(Subject.item thread turn item).key] }

/-- The turn that a report leaves running, and what is known of it. -/
def takes (self : ThreadView) : ThreadReport → ThreadView
  | .status _ => self
  | .turnStarted turn =>
    { self with
      activeTurnId := some turn
      lastMessage := none
      lastFinalMessage := none
      proposedPlan := none
      planReady := false
      -- a turn that starts while the thread is running is not remembered
      keys := if self.state ≠ .running then self.keys ++ [(Subject.started thread turn).key]
        else self.keys }
  | .itemStarted turn => { self with activeTurnId := some turn }
  | .itemCompleted turn _ none => { self with activeTurnId := some turn }
  | .itemCompleted turn item (some text) =>
    { self with activeTurnId := some turn }.read thread turn item text
  | .turnCompleted turn ending =>
    { self with
      activeTurnId := none
      planReady := decide (self.Proposes ending)
      keys := self.keys ++ [(Subject.completed thread turn).key] }

/-- The view after a report. -/
def hear (self : ThreadView) (report : ThreadReport) : ThreadView :=
  { (if self.Ignores thread report then self else self.takes thread report) with
    state := (self.shows thread report).getD self.state
    connection := (connects report).getD self.connection }

/-- The view after a sequence of reports. -/
def hearAll (self : ThreadView) (reports : List ThreadReport) : ThreadView :=
  reports.foldl (hear thread) self

/-- What is told of a sequence of reports. -/
def tellsAll (self : ThreadView) : List ThreadReport → List AgentEventPayload
  | [] => []
  | report :: rest => self.tells thread report ++ (self.hear thread report).tellsAll rest

variable {thread}
variable {view other : ThreadView} {report next : ThreadReport}

theorem started_ne_completed (turn turn' : String) :
    (Subject.started thread turn).key ≠ (Subject.completed thread turn').key := by
  intro h
  have hlist := congrArg String.toList h
  simp [Subject.key_started, Subject.key_completed, toString, String.toList_append] at hlist

theorem started_ne_item (turn turn' item : String) :
    (Subject.started thread turn).key ≠ (Subject.item thread turn' item).key := by
  intro h
  have hlist := congrArg String.toList h
  simp [Subject.key_started, Subject.key_item, toString, String.toList_append] at hlist

theorem keys_hear (view : ThreadView) (report : ThreadReport) :
    (view.hear thread report).keys =
      if view.Ignores thread report then view.keys else (view.takes thread report).keys := by
  unfold hear
  split <;> rfl

theorem active_hear (view : ThreadView) (report : ThreadReport) :
    (view.hear thread report).activeTurnId =
      if view.Ignores thread report then view.activeTurnId
      else (view.takes thread report).activeTurnId := by
  unfold hear
  split <;> rfl

variable (thread) in
/-- Nothing is forgotten. -/
theorem keys_subset (view : ThreadView) (report : ThreadReport) :
    view.keys ⊆ (view.hear thread report).keys := by
  rw [keys_hear]
  split
  · exact fun _ h => h
  · unfold takes
    intro key hkey
    cases report with
    | status loaded => exact hkey
    | turnStarted turn =>
      dsimp only
      split
      · exact List.mem_append_left _ hkey
      · exact hkey
    | itemStarted turn => exact hkey
    | itemCompleted turn item text =>
      cases text with
      | none => exact hkey
      | some text => exact List.mem_append_left _ hkey
    | turnCompleted turn ending => exact List.mem_append_left _ hkey

/-- A report whose notification can only be a repetition. -/
def Settled (thread : String) (self : ThreadView) : ThreadReport → Prop
  | .status _ => True
  | .turnStarted turn => self.Knows (.completed thread turn) ∨
      self.Knows (.started thread turn) ∨ self.activeTurnId = some turn
  | .itemStarted turn => self.Knows (.completed thread turn) ∨ self.activeTurnId = some turn
  | .itemCompleted turn item text => self.Knows (.completed thread turn) ∨
      self.Knows (.item thread turn item) ∨ text = none ∧ self.activeTurnId = some turn
  | .turnCompleted turn _ => self.Knows (.completed thread turn)

/-- Another turn becomes active only when none is. -/
theorem active_of_hear {turn : String} (h : view.activeTurnId = some turn) :
    (view.hear thread report).activeTurnId = some turn ∨
      (view.hear thread report).Knows (.completed thread turn) := by
  rw [active_hear]
  unfold Knows
  rw [keys_hear]
  split
  · exact .inl h
  · next hheard =>
    simp only [Ignores, not_or, not_not] at hheard
    have hfits : ∀ found ∈ report.turn, found = turn := by
      intro found hfound
      rcases hheard.2.1 found hfound with hnone | hsome
      · rw [h] at hnone
        cases hnone
      · rw [h] at hsome
        exact (Option.some.inj hsome).symm
    cases report with
    | status loaded => exact .inl h
    | turnStarted found => exact .inl (by rw [takes, hfits found rfl])
    | itemStarted found => exact .inl (by rw [takes, hfits found rfl])
    | itemCompleted found item text =>
      cases text with
      | none => exact .inl (by rw [takes, hfits found rfl])
      | some text => exact .inl (by rw [takes, read, hfits found rfl])
    | turnCompleted found ending =>
      right
      rw [takes, hfits found rfl]
      simp

theorem Settled.hear (h : view.Settled thread report) (next : ThreadReport) :
    (view.hear thread next).Settled thread report := by
  have hkeys := keys_subset thread view next
  cases report with
  | status loaded => trivial
  | turnStarted turn =>
    rcases h with hknown | hknown | hactive
    · exact .inl (hkeys hknown)
    · exact .inr (.inl (hkeys hknown))
    · exact (active_of_hear hactive).symm.imp_right .inr
  | itemStarted turn =>
    rcases h with hknown | hactive
    · exact .inl (hkeys hknown)
    · exact (active_of_hear hactive).symm
  | itemCompleted turn item text =>
    rcases h with hknown | hknown | ⟨htext, hactive⟩
    · exact .inl (hkeys hknown)
    · exact .inr (.inl (hkeys hknown))
    · exact (active_of_hear hactive).symm.imp_right fun hsame => .inr ⟨htext, hsame⟩
  | turnCompleted turn ending => exact hkeys h

/-- A report that fits is settled once it was heard. -/
theorem settled_hear (hfits : view.Drops thread report ∨ view.Fits report) :
    (view.hear thread report).Settled thread report := by
  by_cases hdrops : view.Drops thread report
  · have hkeys := keys_subset thread view report
    rcases hdrops with ⟨turn, hturn, hknown⟩ | ⟨subject, hsubject, hknown⟩
    · have hover := hkeys hknown
      cases report <;> cases hturn
      · exact .inl hover
      · exact .inl hover
      · exact .inl hover
      · exact hover
    · have hover := hkeys hknown
      cases report <;> cases hsubject
      · exact .inr (.inl hover)
      · exact .inr (.inl hover)
      · exact hover
  · have hfits := hfits.resolve_left hdrops
    by_cases hrestarts : view.Restarts report
    · have hignored : view.Ignores thread report := .inr (.inr hrestarts)
      cases report with
      | turnStarted turn =>
        right
        right
        rw [active_hear, if_pos hignored]
        exact hrestarts
      | status loaded => trivial
      | itemStarted turn => exact hrestarts.elim
      | itemCompleted turn item text => exact hrestarts.elim
      | turnCompleted turn ending => exact hrestarts.elim
    · have hheard : ¬ view.Ignores thread report := by
        rintro (h | h | h)
        · exact hdrops h
        · exact h hfits
        · exact hrestarts h
      cases report with
      | status loaded => trivial
      | turnStarted turn => exact .inr (.inr (by rw [active_hear, if_neg hheard, takes]))
      | itemStarted turn => exact .inr (by rw [active_hear, if_neg hheard, takes])
      | itemCompleted turn item text =>
        right
        cases text with
        | none => exact .inr ⟨rfl, by rw [active_hear, if_neg hheard, takes]⟩
        | some text =>
          left
          unfold Knows
          rw [keys_hear, if_neg hheard, takes, read]
          simp
      | turnCompleted turn ending =>
        show (Subject.completed thread turn).key ∈ _
        rw [keys_hear, if_neg hheard, takes]
        simp

theorem hear_of_ignores (h : view.Ignores thread report) (hturn : report.turn ≠ none) :
    view.hear thread report = view ∧ view.tells thread report = [] ∧
      view.shows thread report = none := by
  have hconnects : connects report = none := by
    cases report with
    | status loaded => exact absurd rfl hturn
    | _ => rfl
  have hshows : view.shows thread report = none := if_pos h
  refine ⟨?_, if_pos h, hshows⟩
  unfold hear
  rw [if_pos h, hshows, hconnects]
  rfl

/-- The notification of a turn is a repetition of no effect. -/
theorem hear_of_settled (h : view.Settled thread report) (hturn : report.turn ≠ none) :
    view.hear thread report = view ∧ view.tells thread report = [] ∧
      view.shows thread report = none := by
  by_cases hignored : view.Ignores thread report
  · exact hear_of_ignores hignored hturn
  · have hover : ∀ turn ∈ report.turn, ¬ view.Knows (.completed thread turn) :=
      fun turn hmem hknown => hignored (.inl (.inl ⟨turn, hmem, hknown⟩))
    have hnew : ∀ subject ∈ report.subject thread, ¬ view.Knows subject :=
      fun subject hmem hknown => hignored (.inl (.inr ⟨subject, hmem, hknown⟩))
    -- what remains names the running turn, and carries no text
    cases report with
    | status loaded => exact absurd rfl hturn
    | turnStarted turn =>
      rcases h with hknown | hknown | hactive
      · exact absurd hknown (hover turn rfl)
      · exact absurd hknown (hnew _ rfl)
      · exact absurd (.inr (.inr hactive)) hignored
    | itemStarted turn =>
      have hactive := h.resolve_left (hover turn rfl)
      refine ⟨?_, if_neg hignored, if_neg hignored⟩
      simp only [hear, if_neg hignored, takes, shows, connects, Option.getD_none, ← hactive]
    | itemCompleted turn item text =>
      obtain ⟨rfl, hactive⟩ := (h.resolve_left (hover turn rfl)).resolve_left (hnew _ rfl)
      refine ⟨?_, if_neg hignored, if_neg hignored⟩
      simp only [hear, if_neg hignored, takes, shows, connects, Option.getD_none, ← hactive]
    | turnCompleted turn ending => exact absurd h (hover turn rfl)

/-- What is remembered of a report that is not ignored. -/
def leaves (thread : String) (self : ThreadView) : ThreadReport → Option Subject
  | .turnStarted turn => if self.state ≠ .running then some (.started thread turn) else none
  | .itemCompleted turn item (some _) => some (.item thread turn item)
  | .turnCompleted turn _ => some (.completed thread turn)
  | _ => none

theorem keys_takes (view : ThreadView) (report : ThreadReport) :
    (view.takes thread report).keys =
      view.keys ++ ((view.leaves thread report).map Subject.key).toList := by
  cases report with
  | status loaded => simp [takes, leaves]
  | turnStarted turn =>
    simp only [takes, leaves]
    split <;> simp
  | itemStarted turn => simp [takes, leaves]
  | itemCompleted turn item text => cases text <;> simp [takes, leaves, read]
  | turnCompleted turn ending => simp [takes, leaves]

theorem knows_hear {subject : Subject} :
    (view.hear thread report).Knows subject ↔ view.Knows subject ∨
      ¬ view.Ignores thread report ∧
        ∃ left, view.leaves thread report = some left ∧ left.key = subject.key := by
  unfold Knows
  rw [keys_hear]
  split
  · next hignored => simp [hignored]
  · next hheard => simp [keys_takes, hheard, eq_comm]

theorem started_inj {turn turn' : String}
    (h : (Subject.started thread turn).key = (Subject.started thread turn').key) :
    turn = turn' := by
  have hlist := congrArg String.toList h
  simp only [Subject.key_started, toString, String.toList_append, List.append_cancel_left_eq,
    String.toList_inj] at hlist
  exact hlist

theorem started_of_leaves {left : Subject} {turn : String}
    (hleaves : view.leaves thread report = some left)
    (hkey : left.key = (Subject.started thread turn).key) : report = .turnStarted turn := by
  cases report with
  | status loaded => cases hleaves
  | turnStarted found =>
    simp only [leaves, Option.ite_none_right_eq_some, Option.some.injEq] at hleaves
    obtain ⟨-, rfl⟩ := hleaves
    rw [started_inj hkey]
  | itemStarted found => cases hleaves
  | itemCompleted found item text =>
    cases text with
    | none => cases hleaves
    | some text =>
      cases hleaves
      exact absurd hkey.symm (started_ne_item turn found item)
  | turnCompleted found ending =>
    cases hleaves
    exact absurd hkey.symm (started_ne_completed turn found)

/-- What is left besides starts is left by every view. -/
theorem leaves_iff (view other : ThreadView) {subject : Subject}
    (hsubject : ∀ turn, (Subject.started thread turn).key ≠ subject.key) :
    (∃ left, view.leaves thread report = some left ∧ left.key = subject.key) ↔
      ∃ left, other.leaves thread report = some left ∧ left.key = subject.key := by
  cases report with
  | turnStarted turn =>
    have hnone : ∀ view : ThreadView, ¬ ∃ left,
        view.leaves thread (.turnStarted turn) = some left ∧ left.key = subject.key := by
      rintro view ⟨left, hleaves, hkey⟩
      simp only [leaves, Option.ite_none_right_eq_some, Option.some.injEq] at hleaves
      obtain ⟨-, rfl⟩ := hleaves
      exact hsubject turn hkey
    exact iff_of_false (hnone view) (hnone other)
  | itemCompleted turn item text => cases text <;> rfl
  | _ => rfl

/-- The views agree in what only turns change. -/
structure SameTurn (view other : ThreadView) : Prop where
  active : view.activeTurnId = other.activeTurnId
  lastMessage : view.lastMessage = other.lastMessage
  lastFinalMessage : view.lastFinalMessage = other.lastFinalMessage
  proposedPlan : view.proposedPlan = other.proposedPlan
  planReady : view.planReady = other.planReady

namespace SameTurn

theorem symm (h : SameTurn view other) : SameTurn other view :=
  ⟨h.active.symm, h.lastMessage.symm, h.lastFinalMessage.symm, h.proposedPlan.symm,
    h.planReady.symm⟩

theorem trans {third : ThreadView} (h : SameTurn view other) (h' : SameTurn other third) :
    SameTurn view third :=
  ⟨h.active.trans h'.active, h.lastMessage.trans h'.lastMessage,
    h.lastFinalMessage.trans h'.lastFinalMessage, h.proposedPlan.trans h'.proposedPlan,
    h.planReady.trans h'.planReady⟩

end SameTurn

variable (thread) in
theorem sameTurn_hear (view : ThreadView) (report : ThreadReport) :
    (view.hear thread report).SameTurn
      (if view.Ignores thread report then view else view.takes thread report) :=
  ⟨rfl, rfl, rfl, rfl, rfl⟩

/-- The keys of turns and items are remembered by both or by neither. A start that one of them alone
remembers belongs to a turn that is running or over. -/
structure Agree (thread : String) (view other : ThreadView) : Prop extends
    SameTurn view other where
  completed : ∀ turn, view.Knows (.completed thread turn) ↔ other.Knows (.completed thread turn)
  item : ∀ turn item, view.Knows (.item thread turn item) ↔ other.Knows (.item thread turn item)
  begun : ∀ turn, view.Knows (.started thread turn) → other.Settled thread (.turnStarted turn)
  begun' : ∀ turn, other.Knows (.started thread turn) → view.Settled thread (.turnStarted turn)

namespace Agree

theorem refl (view : ThreadView) : Agree thread view view where
  toSameTurn := ⟨rfl, rfl, rfl, rfl, rfl⟩
  completed _ := Iff.rfl
  item _ _ := Iff.rfl
  begun _ h := .inr (.inl h)
  begun' _ h := .inr (.inl h)

theorem symm (h : Agree thread view other) : Agree thread other view where
  toSameTurn := h.toSameTurn.symm
  completed turn := (h.completed turn).symm
  item turn item := (h.item turn item).symm
  begun := h.begun'
  begun' := h.begun

theorem settled (h : Agree thread view other) (hsettled : view.Settled thread report) :
    other.Settled thread report := by
  cases report with
  | status loaded => trivial
  | turnStarted turn =>
    rcases hsettled with hknown | hknown | hactive
    · exact .inl ((h.completed turn).mp hknown)
    · exact h.begun turn hknown
    · exact .inr (.inr (h.active ▸ hactive))
  | itemStarted turn => exact hsettled.imp (h.completed turn).mp fun hactive => h.active ▸ hactive
  | itemCompleted turn item text =>
    exact hsettled.imp (h.completed turn).mp
      (Or.imp (h.item turn item).mp fun hsilent => ⟨hsilent.1, h.active ▸ hsilent.2⟩)
  | turnCompleted turn ending => exact (h.completed turn).mp hsettled

theorem ignores_of (h : Agree thread view other) (hignored : view.Ignores thread report) :
    other.Ignores thread report := by
  have hfits : other.Fits report ↔ view.Fits report := by
    unfold Fits
    rw [h.active]
  rcases hignored with (⟨turn, hturn, hknown⟩ | ⟨subject, hsubject, hknown⟩) | hother | hrestarts
  · exact .inl (.inl ⟨turn, hturn, (h.completed turn).mp hknown⟩)
  · cases report with
    | turnStarted turn =>
      cases hsubject
      rcases h.begun turn hknown with hover | hbegun | hactive
      · exact .inl (.inl ⟨turn, rfl, hover⟩)
      · exact .inl (.inr ⟨_, rfl, hbegun⟩)
      · exact .inr (.inr hactive)
    | itemCompleted turn item text =>
      cases hsubject
      exact .inl (.inr ⟨_, rfl, (h.item turn item).mp hknown⟩)
    | turnCompleted turn ending =>
      cases hsubject
      exact .inl (.inr ⟨_, rfl, (h.completed turn).mp hknown⟩)
    | status loaded => cases hsubject
    | itemStarted turn => cases hsubject
  · exact .inr (.inl fun hfit => hother (hfits.mp hfit))
  · cases report with
    | turnStarted turn => exact .inr (.inr (h.active.symm.trans hrestarts))
    | _ => exact hrestarts.elim

theorem ignores (h : Agree thread view other) (report : ThreadReport) :
    view.Ignores thread report ↔ other.Ignores thread report :=
  ⟨h.ignores_of, h.symm.ignores_of⟩

theorem outcome (h : Agree thread view other) : view.outcome = other.outcome := by
  funext ending
  cases ending <;> simp [ThreadView.outcome, h.lastMessage, h.lastFinalMessage]

theorem proposes (h : Agree thread view other) (ending : TurnEnding) :
    view.Proposes ending ↔ other.Proposes ending := by
  rw [Proposes, Proposes, h.proposedPlan]

theorem presented (h : Agree thread view other) : view.presented = other.presented := by
  funext loaded
  simp [ThreadView.presented, h.planReady]

theorem shows (h : Agree thread view other) (report : ThreadReport) :
    view.shows thread report = other.shows thread report := by
  simp only [ThreadView.shows, h.ignores report, h.presented, h.proposes, h.outcome]

theorem tells (h : Agree thread view other) (report : ThreadReport) :
    view.tells thread report = other.tells thread report := by
  simp only [ThreadView.tells, h.ignores report, h.proposes, h.outcome]

/-- Hearing the same report keeps the agreement. -/
theorem hear (h : Agree thread view other) (report : ThreadReport) :
    Agree thread (view.hear thread report) (other.hear thread report) := by
  have hbegun : ∀ {view other : ThreadView}, Agree thread view other → ∀ turn,
      (view.hear thread report).Knows (.started thread turn) →
      (other.hear thread report).Settled thread (.turnStarted turn) := by
    intro view other h turn hknown
    rcases knows_hear.mp hknown with hbefore | ⟨hheard, subject, hleaves, hkey⟩
    · exact (h.begun turn hbefore).hear report
    · obtain rfl := started_of_leaves hleaves hkey
      have hother : ¬ other.Ignores thread (.turnStarted turn) :=
        fun hignored => hheard ((h.ignores _).mpr hignored)
      exact .inr (.inr (by rw [active_hear, if_neg hother, takes]))
  have hkeys : ∀ subject : Subject, (∀ turn, (Subject.started thread turn).key ≠ subject.key) →
      (view.Knows subject ↔ other.Knows subject) →
      ((view.hear thread report).Knows subject ↔ (other.hear thread report).Knows subject) := by
    intro subject hsubject hbefore
    rw [knows_hear, knows_hear, hbefore, h.ignores report, leaves_iff view other hsubject]
  have htakes : view.SameTurn other → (view.takes thread report).SameTurn
      (other.takes thread report) := by
    intro ⟨hactive, hlast, hfinal, hplan, hready⟩
    cases report with
    | status loaded => exact ⟨hactive, hlast, hfinal, hplan, hready⟩
    | turnStarted turn => exact ⟨rfl, rfl, rfl, rfl, rfl⟩
    | itemStarted turn => exact ⟨rfl, hlast, hfinal, hplan, hready⟩
    | itemCompleted turn item text =>
      cases text with
      | none => exact ⟨rfl, hlast, hfinal, hplan, hready⟩
      | some text => exact ⟨rfl, rfl, by simp [takes, read, hfinal], by simp [takes, read, hplan],
          hready⟩
    | turnCompleted turn ending =>
      exact ⟨rfl, hlast, hfinal, hplan, by simp only [takes, h.proposes]⟩
  have hsame : (view.hear thread report).SameTurn (other.hear thread report) := by
    by_cases hignored : view.Ignores thread report
    · have hother := (h.ignores report).mp hignored
      have hview := sameTurn_hear thread view report
      have hsecond := sameTurn_hear thread other report
      rw [if_pos hignored] at hview
      rw [if_pos hother] at hsecond
      exact (hview.trans h.toSameTurn).trans hsecond.symm
    · have hother : ¬ other.Ignores thread report :=
        fun hother => hignored ((h.ignores report).mpr hother)
      have hview := sameTurn_hear thread view report
      have hsecond := sameTurn_hear thread other report
      rw [if_neg hignored] at hview
      rw [if_neg hother] at hsecond
      exact (hview.trans (htakes h.toSameTurn)).trans hsecond.symm
  exact ⟨hsame, fun turn => hkeys _ (fun _ => started_ne_completed _ turn) (h.completed turn),
    fun turn item => hkeys _ (fun _ => started_ne_item _ turn item) (h.item turn item),
    hbegun h, hbegun h.symm⟩

/-- A status changes nothing that two views have to agree in. -/
theorem hear_status (h : Agree thread view other) (loaded : Option AgentState) :
    Agree thread (view.hear thread (.status loaded)) other := by
  have hkeys : (view.hear thread (.status loaded)).keys = view.keys := by
    rw [keys_hear]
    split <;> rfl
  have hsame : (view.hear thread (.status loaded)).SameTurn view := by
    have hview := sameTurn_hear thread view (.status loaded)
    rwa [takes, ite_self] at hview
  have hknows : ∀ subject, (view.hear thread (.status loaded)).Knows subject ↔
      view.Knows subject := fun subject => by rw [Knows, hkeys, Knows]
  exact ⟨hsame.trans h.toSameTurn, fun turn => (hknows _).trans (h.completed turn),
    fun turn item => (hknows _).trans (h.item turn item),
    fun turn hknown => h.begun turn ((hknows _).mp hknown),
    fun turn hknown => (h.begun' turn hknown).hear _⟩

end Agree

end ThreadView

end Codex

end AgentPulse

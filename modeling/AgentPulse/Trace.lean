import Mathlib

/-!
# Runs of a state-passing step function

A step takes a state and an input and returns the next state with an output.
`final` and `outputs` fold it over a finite list of inputs; `selected` keeps
the inputs whose output satisfies a test, in order. The rules below lift what
one step preserves to whole runs. `LatestSince` is the history predicate that
such an invariant usually states.
-/
namespace Trace

variable {σ τ ι ο : Type}

def final (step : σ → ι → σ × ο) : σ → List ι → σ
  | s, [] => s
  | s, i :: is => final step (step s i).1 is

def outputs (step : σ → ι → σ × ο) : σ → List ι → List ο
  | _, [] => []
  | s, i :: is => (step s i).2 :: outputs step (step s i).1 is

/-- The inputs of a run whose own output passes the test. -/
def selected (step : σ → ι → σ × ο) (test : ο → Bool) : σ → List ι → List ι
  | _, [] => []
  | s, i :: is =>
    if test (step s i).2 then i :: selected step test (step s i).1 is
    else selected step test (step s i).1 is

/-- What the steps of a run contribute to a history, in order. -/
def collected {κ : Type} (step : σ → ι → σ × ο) (contribution : ι → ο → List κ) :
    σ → List ι → List κ
  | _, [] => []
  | s, i :: is => contribution i (step s i).2 ++ collected step contribution (step s i).1 is

@[simp] theorem final_nil (step : σ → ι → σ × ο) (s : σ) : final step s [] = s := rfl
@[simp] theorem final_cons (step : σ → ι → σ × ο) (s : σ) (i : ι) (is : List ι) :
    final step s (i :: is) = final step (step s i).1 is := rfl
@[simp] theorem outputs_nil (step : σ → ι → σ × ο) (s : σ) : outputs step s [] = [] := rfl
@[simp] theorem outputs_cons (step : σ → ι → σ × ο) (s : σ) (i : ι) (is : List ι) :
    outputs step s (i :: is) = (step s i).2 :: outputs step (step s i).1 is := rfl
@[simp] theorem selected_nil (step : σ → ι → σ × ο) (test : ο → Bool) (s : σ) :
    selected step test s [] = [] := rfl

theorem final_append (step : σ → ι → σ × ο) (s : σ) (xs ys : List ι) :
    final step s (xs ++ ys) = final step (final step s xs) ys := by
  induction xs generalizing s with
  | nil => rfl
  | cons i is ih => simpa using ih (step s i).1

theorem outputs_append (step : σ → ι → σ × ο) (s : σ) (xs ys : List ι) :
    outputs step s (xs ++ ys) = outputs step s xs ++ outputs step (final step s xs) ys := by
  induction xs generalizing s with
  | nil => rfl
  | cons i is ih => simp [ih (step s i).1]

/-- One-step preservation is preservation along every finite run. -/
theorem final_invariant (step : σ → ι → σ × ο) (Inv : σ → Prop)
    (hstep : ∀ s i, Inv s → Inv (step s i).1) (s : σ) (is : List ι) (hs : Inv s) :
    Inv (final step s is) := by
  induction is generalizing s with
  | nil => exact hs
  | cons i is ih => exact ih (step s i).1 (hstep s i hs)

/-- What the states of a run say of their outputs holds of every output. -/
theorem outputs_invariant (step : σ → ι → σ × ο) (Inv : σ → Prop) (P : ο → Prop)
    (hstep : ∀ s i, Inv s → Inv (step s i).1) (hout : ∀ s i, Inv s → P (step s i).2) {s : σ}
    {is : List ι} (hs : Inv s) {o : ο} (ho : o ∈ outputs step s is) : P o := by
  induction is generalizing s with
  | nil => simp at ho
  | cons i is ih =>
    rcases List.mem_cons.mp ho with rfl | ho
    · exact hout s i hs
    · exact ih (hstep s i hs) ho

/-- Every step of the run satisfies a condition on its state and input. -/
def Along (step : σ → ι → σ × ο) (P : σ → ι → Prop) : σ → List ι → Prop
  | _, [] => True
  | s, i :: is => P s i ∧ Along step P (step s i).1 is

instance decidableAlong (step : σ → ι → σ × ο) (P : σ → ι → Prop) [∀ s i, Decidable (P s i)] :
    ∀ (s : σ) (is : List ι), Decidable (Along step P s is)
  | _, [] => isTrue trivial
  | s, i :: is =>
    have := decidableAlong step P (step s i).1 is
    inferInstanceAs (Decidable (P s i ∧ Along step P (step s i).1 is))

theorem along_append (step : σ → ι → σ × ο) (P : σ → ι → Prop) (s : σ) (xs ys : List ι) :
    Along step P s (xs ++ ys) ↔ Along step P s xs ∧ Along step P (final step s xs) ys := by
  induction xs generalizing s with
  | nil => simp [Along]
  | cons i is ih => simp [Along, ih, and_assoc]

theorem along_mono (step : σ → ι → σ × ο) {P Q : σ → ι → Prop} (hPQ : ∀ s i, P s i → Q s i)
    {s : σ} {is : List ι} (h : Along step P s is) : Along step Q s is := by
  induction is generalizing s with
  | nil => trivial
  | cons i is ih => exact ⟨hPQ s i h.1, ih h.2⟩

theorem along_and {step : σ → ι → σ × ο} {P Q : σ → ι → Prop} {s : σ} {is : List ι}
    (hP : Along step P s is) (hQ : Along step Q s is) : Along step (fun s i => P s i ∧ Q s i) s is := by
  induction is generalizing s with
  | nil => trivial
  | cons i is ih => exact ⟨⟨hP.1, hQ.1⟩, ih hP.2 hQ.2⟩

/-- Preservation by the steps that satisfy the condition is preservation along
every run of such steps. -/
theorem along_invariant (step : σ → ι → σ × ο) (P : σ → ι → Prop) (Inv : σ → Prop)
    (hstep : ∀ s i, Inv s → P s i → Inv (step s i).1) {s : σ} {is : List ι}
    (h : Along step P s is) (hs : Inv s) : Inv (final step s is) := by
  induction is generalizing s with
  | nil => exact hs
  | cons i is ih => exact ih h.2 (hstep s i hs h.1)

/-- The same rule for an invariant that speaks of the inputs so far. -/
theorem along_history (step : σ → ι → σ × ο) (P : σ → ι → Prop) (Inv : List ι → σ → Prop)
    (hstep : ∀ past s i, Inv past s → P s i → Inv (past ++ [i]) (step s i).1) {s : σ} {is : List ι}
    (h : Along step P s is) (past : List ι) (hs : Inv past s) : Inv (past ++ is) (final step s is) := by
  induction is generalizing past s with
  | nil => simpa using hs
  | cons i is ih =>
    have hnext := ih h.2 (past ++ [i]) (hstep past s i hs h.1)
    simpa [List.append_assoc] using hnext

/-- A preorder that every step respects relates the ends of every run. -/
theorem final_monotone (step : σ → ι → σ × ο) (R : σ → σ → Prop) (hrefl : ∀ s, R s s)
    (htrans : ∀ s t u, R s t → R t u → R s u) (hstep : ∀ s i, R s (step s i).1)
    (s : σ) (is : List ι) : R s (final step s is) := by
  induction is generalizing s with
  | nil => exact hrefl s
  | cons i is ih => exact htrans _ _ _ (hstep s i) (ih (step s i).1)

/-- A history invariant: it is extended by the selected inputs and kept by all
others. `past` is the history before the run. -/
theorem selected_invariant (step : σ → ι → σ × ο) (test : ο → Bool)
    (Inv : List ι → σ → Prop)
    (htaken : ∀ past s i, Inv past s → test (step s i).2 = true → Inv (past ++ [i]) (step s i).1)
    (hskip : ∀ past s i, Inv past s → test (step s i).2 = false → Inv past (step s i).1)
    (past : List ι) (s : σ) (is : List ι) (hs : Inv past s) :
    Inv (past ++ selected step test s is) (final step s is) := by
  induction is generalizing past s with
  | nil => simpa using hs
  | cons i is ih =>
    cases ht : test (step s i).2 with
    | true =>
      have h := ih (past ++ [i]) (step s i).1 (htaken past s i hs ht)
      simpa [selected, ht, List.append_assoc] using h
    | false =>
      have h := ih past (step s i).1 (hskip past s i hs ht)
      simpa [selected, ht] using h

theorem collected_append {κ : Type} (step : σ → ι → σ × ο) (contribution : ι → ο → List κ) (s : σ)
    (xs ys : List ι) :
    collected step contribution s (xs ++ ys) =
      collected step contribution s xs ++ collected step contribution (final step s xs) ys := by
  induction xs generalizing s with
  | nil => rfl
  | cons i is ih => simp [collected, ih]

/-- A history invariant that each step extends by its own contribution. -/
theorem collected_invariant {κ : Type} (step : σ → ι → σ × ο) (contribution : ι → ο → List κ)
    (Inv : List κ → σ → Prop)
    (hstep : ∀ past s i, Inv past s → Inv (past ++ contribution i (step s i).2) (step s i).1)
    (past : List κ) (s : σ) (is : List ι) (hs : Inv past s) :
    Inv (past ++ collected step contribution s is) (final step s is) := by
  induction is generalizing past s with
  | nil => simpa [collected] using hs
  | cons i is ih =>
    have h := ih (past ++ contribution i (step s i).2) (step s i).1 (hstep past s i hs)
    simpa [collected, List.append_assoc] using h

/-- Two machines related by a bisimulation return the same outputs and end in
related states. -/
theorem run_related (step : σ → ι → σ × ο) (step' : τ → ι → τ × ο) (R : σ → τ → Prop)
    (hstep : ∀ s t i, R s t → R (step s i).1 (step' t i).1 ∧ (step s i).2 = (step' t i).2)
    (s : σ) (t : τ) (is : List ι) (h : R s t) :
    R (final step s is) (final step' t is) ∧ outputs step s is = outputs step' t is := by
  induction is generalizing s t with
  | nil => exact ⟨h, rfl⟩
  | cons i is ih =>
    obtain ⟨hr, ho⟩ := hstep s t i h
    obtain ⟨hf, hos⟩ := ih _ _ hr
    exact ⟨hf, by simp [ho, hos]⟩

/-- `x` is the last entry of the history that is `about` something, and no
entry after it is `ended`. -/
def LatestSince (about ended : ι → Prop) (history : List ι) (x : ι) : Prop :=
  ∃ before after, history = before ++ x :: after ∧ about x ∧ ∀ y ∈ after, ¬ about y ∧ ¬ ended y

theorem latestSince_nil (about ended : ι → Prop) (x : ι) : ¬ LatestSince about ended [] x := by
  rintro ⟨before, after, h, -⟩
  simp at h

/-- The recursion of `LatestSince` on the newest entry. -/
theorem latestSince_snoc (about ended : ι → Prop) (history : List ι) (y x : ι) :
    LatestSince about ended (history ++ [y]) x ↔
      (about y ∧ x = y) ∨ (¬ about y ∧ ¬ ended y ∧ LatestSince about ended history x) := by
  constructor
  · rintro ⟨before, after, h, hx, hafter⟩
    rcases List.eq_nil_or_concat after with rfl | ⟨init, z, rfl⟩
    · obtain ⟨rfl, hyx⟩ := List.append_inj' h rfl
      cases hyx
      exact .inl ⟨hx, rfl⟩
    · have hsplit : history ++ [y] = (before ++ x :: init) ++ [z] := by simpa using h
      obtain ⟨hh, hyz⟩ := List.append_inj' hsplit rfl
      cases hyz
      have hy := hafter y (by simp)
      exact .inr ⟨hy.1, hy.2, before, init, hh, hx, fun w hw => hafter w (by simp [hw])⟩
  · rintro (⟨hy, rfl⟩ | ⟨hy, he, before, after, rfl, hx, hafter⟩)
    · exact ⟨history, [], rfl, hy, by simp⟩
    · refine ⟨before, after ++ [y], by simp, hx, ?_⟩
      intro w hw
      rcases List.mem_append.mp hw with hw | hw
      · exact hafter w hw
      · rw [List.mem_singleton.mp hw]
        exact ⟨hy, he⟩

/-- A query on the latest entry, after one more entry. -/
theorem exists_latestSince_snoc (about ended query : ι → Prop) (history : List ι) (y : ι) :
    (∃ x, LatestSince about ended (history ++ [y]) x ∧ query x) ↔
      (about y ∧ query y) ∨
        (¬ about y ∧ ¬ ended y ∧ ∃ x, LatestSince about ended history x ∧ query x) := by
  simp only [latestSince_snoc]
  constructor
  · rintro ⟨x, ⟨hy, rfl⟩ | ⟨hy, he, hx⟩, hq⟩
    · exact .inl ⟨hy, hq⟩
    · exact .inr ⟨hy, he, x, hx, hq⟩
  · rintro (⟨hy, hq⟩ | ⟨hy, he, x, hx, hq⟩)
    · exact ⟨y, .inl ⟨hy, rfl⟩, hq⟩
    · exact ⟨x, .inr ⟨hy, he, hx⟩, hq⟩

end Trace

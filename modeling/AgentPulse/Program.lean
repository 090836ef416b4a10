import Mathlib

/-!
# Programs that keep their state when they fail

A program runs from a state to a result or an error, and in both cases leaves a
state behind: a mutation made before the failure stays made. `Preserves` is the
rule for an invariant that every exit of a program respects, `Triple` the rule
for what holds before a program and after each kind of exit.
-/

/-- A computation with mutable state whose failures do not roll back. -/
def Program (σ ε α : Type) : Type := σ → Except ε α × σ

namespace Program

variable {σ τ ε α β : Type}

instance : Monad (Program σ ε) where
  pure a := fun s => (.ok a, s)
  bind x f := fun s =>
    match x s with
    | (.ok a, s) => f a s
    | (.error e, s) => (.error e, s)

def fail (e : ε) : Program σ ε α := fun s => (.error e, s)

/-- The `?` of a pure fallible computation. -/
def ofExcept (x : Except ε α) : Program σ ε α := fun s => (x, s)

def reads (f : σ → α) : Program σ ε α := fun s => (.ok (f s), s)

def update (f : σ → α × σ) : Program σ ε α := fun s => (.ok (f s).1, (f s).2)

def modify (f : σ → σ) : Program σ ε Unit := fun s => (.ok (), f s)

/-- The outcome of a program as a value, with the state it left. -/
def attempt (x : Program σ ε α) : Program σ ε (Except ε α) := fun s => (.ok (x s).1, (x s).2)

def forEach (body : α → Program σ ε Unit) : List α → Program σ ε Unit
  | [] => pure ()
  | a :: rest => body a >>= fun _ => forEach body rest

/-- A step that is taken only under a condition. -/
def when (c : Prop) [Decidable c] (x : Program σ ε Unit) : Program σ ε Unit :=
  if c then x else pure ()

/-- A program on a part of the state. -/
def zoom (view : σ → τ) (put : σ → τ → σ) (x : Program τ ε α) : Program σ ε α :=
  fun s => ((x (view s)).1, put s (x (view s)).2)

theorem pure_apply (a : α) (s : σ) : (pure a : Program σ ε α) s = (.ok a, s) := rfl

theorem bind_apply (x : Program σ ε α) (f : α → Program σ ε β) (s : σ) :
    (x >>= f) s =
      match x s with
      | (.ok a, s) => f a s
      | (.error e, s) => (.error e, s) := rfl

theorem bind_assoc {γ : Type} (x : Program σ ε α) (f : α → Program σ ε β) (g : β → Program σ ε γ) :
    (x >>= f) >>= g = x >>= fun a => f a >>= g := by
  funext s
  rw [bind_apply, bind_apply, bind_apply]
  rcases x s with ⟨result, t⟩
  cases result <;> rfl

theorem pure_bind (a : α) (f : α → Program σ ε β) : pure a >>= f = f a := rfl

theorem ofExcept_ok_bind {x : Except ε α} {a : α} (h : x = .ok a) (f : α → Program σ ε β) :
    ofExcept x >>= f = f a := by
  subst h
  rfl

/-- A program without a result of its own. -/
theorem bind_unit (x : Program σ ε Unit) : (x >>= fun _ => pure ()) = x := by
  funext s
  rw [bind_apply]
  rcases x s with ⟨result, t⟩
  cases result <;> rfl

theorem ite_apply (c : Prop) [Decidable c] (x y : Program σ ε α) (s : σ) :
    (if c then x else y) s = if c then x s else y s := by
  split <;> rfl

/-- Sequencing after a step whose result is known. -/
theorem bind_of_ok {x : Program σ ε α} {f : α → Program σ ε β} {s s' : σ} {a : α}
    (h : x s = (.ok a, s')) : (x >>= f) s = f a s' := by
  rw [bind_apply, h]

theorem bind_of_error {x : Program σ ε α} {f : α → Program σ ε β} {s s' : σ} {e : ε}
    (h : x s = (.error e, s')) : (x >>= f) s = (.error e, s') := by
  rw [bind_apply, h]

/-- Dropping the result of a program leaves its state. -/
theorem discard_state (x : Program σ ε α) (s : σ) :
    ((x >>= fun _ => pure ()) s).2 = (x s).2 := by
  rw [bind_apply]
  rcases x s with ⟨result, t⟩
  cases result <;> rfl

/-- A sequence returns when both parts do. -/
theorem bind_eq_ok {x : Program σ ε α} {f : α → Program σ ε β} {s s' : σ} {b : β}
    (h : (x >>= f) s = (.ok b, s')) : ∃ a t, x s = (.ok a, t) ∧ f a t = (.ok b, s') := by
  rw [bind_apply] at h
  rcases hx : x s with ⟨result, t⟩
  rw [hx] at h
  cases result with
  | error e => simp at h
  | ok a => exact ⟨a, t, rfl, h⟩

theorem ofExcept_eq_ok {x : Except ε α} {s s' : σ} {a : α}
    (h : (ofExcept x : Program σ ε α) s = (.ok a, s')) : x = .ok a ∧ s' = s := by
  obtain ⟨hx, hs⟩ := Prod.mk.inj h
  exact ⟨hx, hs.symm⟩

/-- Whatever the outcome, the program leaves the invariant as it found it. -/
structure Preserves (I : σ → Prop) (x : Program σ ε α) : Prop where
  holds : ∀ s, I s → I (x s).2

namespace Preserves

variable {I : σ → Prop}

theorem pure (a : α) : Preserves I (Pure.pure a : Program σ ε α) := ⟨fun _ hs => hs⟩

theorem fail (e : ε) : Preserves I (Program.fail e : Program σ ε α) := ⟨fun _ hs => hs⟩

theorem ofExcept (x : Except ε α) : Preserves I (Program.ofExcept x : Program σ ε α) :=
  ⟨fun _ hs => hs⟩

theorem reads (f : σ → α) : Preserves I (Program.reads f : Program σ ε α) := ⟨fun _ hs => hs⟩

theorem modify {f : σ → σ} (h : ∀ s, I s → I (f s)) :
    Preserves I (Program.modify f : Program σ ε Unit) := ⟨h⟩

theorem update {f : σ → α × σ} (h : ∀ s, I s → I (f s).2) :
    Preserves I (Program.update f : Program σ ε α) := ⟨h⟩

theorem attempt {x : Program σ ε α} (h : Preserves I x) : Preserves I (Program.attempt x) :=
  ⟨h.holds⟩

theorem bind {x : Program σ ε α} {f : α → Program σ ε β} (hx : Preserves I x)
    (hf : ∀ a, Preserves I (f a)) : Preserves I (x >>= f) := by
  constructor
  intro s hs
  have hmid := hx.holds s hs
  rw [bind_apply]
  rcases h : x s with ⟨result, s'⟩
  rw [h] at hmid
  cases result with
  | error e => exact hmid
  | ok a => exact (hf a).holds s' hmid

/-- What follows a successful pure step may use that it succeeded. -/
theorem ofExcept_bind {x : Except ε α} {f : α → Program σ ε β}
    (h : ∀ a, x = .ok a → Preserves I (f a)) : Preserves I (Program.ofExcept x >>= f) := by
  constructor
  intro s hs
  cases hx : x with
  | error e => exact hs
  | ok a => exact (h a hx).holds s hs

/-- What follows a read may use what holds in the state that was read. -/
theorem reads_bind {g : σ → α} {f : α → Program σ ε β} (h : ∀ s, I s → Preserves I (f (g s))) :
    Preserves I (Program.reads g >>= f) :=
  ⟨fun s hs => (h s hs).holds s hs⟩

theorem ite {c : Prop} [Decidable c] {x y : Program σ ε α} (hx : c → Preserves I x)
    (hy : ¬ c → Preserves I y) : Preserves I (if c then x else y) := by
  split
  · next h => exact hx h
  · next h => exact hy h

theorem when {c : Prop} [Decidable c] {x : Program σ ε Unit} (hx : c → Preserves I x) :
    Preserves I (Program.when c x) :=
  ite hx fun _ => pure ()

theorem forEach {body : α → Program σ ε Unit} {xs : List α}
    (h : ∀ a ∈ xs, Preserves I (body a)) : Preserves I (Program.forEach body xs) := by
  induction xs with
  | nil => exact pure ()
  | cons a rest ih =>
    exact bind (h a (by simp)) fun _ => ih fun b hb => h b (by simp [hb])

theorem zoom {view : σ → τ} {put : σ → τ → σ} {x : Program τ ε α} {J : τ → Prop}
    (hx : Preserves J x) (hview : ∀ s, I s → J (view s))
    (hput : ∀ s t, I s → J t → I (put s t)) : Preserves I (Program.zoom view put x) :=
  ⟨fun s hs => hput s _ hs (hx.holds _ (hview s hs))⟩

end Preserves

/-- From a state of the precondition, a value is returned in a state of `Q` and an
error in a state of `E`. -/
structure Triple (P : σ → Prop) (x : Program σ ε α) (Q : α → σ → Prop) (E : ε → σ → Prop) :
    Prop where
  returns : ∀ s a s', P s → x s = (.ok a, s') → Q a s'
  fails : ∀ s e s', P s → x s = (.error e, s') → E e s'

namespace Triple

variable {P : σ → Prop} {Q : α → σ → Prop} {E : ε → σ → Prop}

theorem of_preserves {I : σ → Prop} {x : Program σ ε α} (h : Preserves I x) :
    Triple I x (fun _ => I) fun _ => I where
  returns s a s' hs hx := by
    have hI := h.holds s hs
    rw [hx] at hI
    exact hI
  fails s e s' hs hx := by
    have hI := h.holds s hs
    rw [hx] at hI
    exact hI

theorem preserves {I : σ → Prop} {x : Program σ ε α}
    (h : Triple I x (fun _ => I) fun _ => I) : Preserves I x := by
  constructor
  intro s hs
  rcases hx : x s with ⟨result, s'⟩
  cases result with
  | ok a => exact h.returns s a s' hs hx
  | error e => exact h.fails s e s' hs hx

theorem bind {x : Program σ ε α} {f : α → Program σ ε β} {R : β → σ → Prop} (hx : Triple P x Q E)
    (hf : ∀ a, Triple (Q a) (f a) R E) : Triple P (x >>= f) R E where
  returns s b s' hs h := by
    obtain ⟨a, t, ha, hb⟩ := bind_eq_ok h
    exact (hf a).returns t b s' (hx.returns s a t hs ha) hb
  fails s e s' hs h := by
    rw [bind_apply] at h
    rcases hxs : x s with ⟨result, t⟩
    rw [hxs] at h
    cases result with
    | error found =>
      cases h
      exact hx.fails s e s' hs hxs
    | ok a => exact (hf a).fails t e s' (hx.returns s a t hs hxs) h

theorem pure {a : α} (h : ∀ s, P s → Q a s) : Triple P (Pure.pure a : Program σ ε α) Q E where
  returns s b s' hs hb := by
    cases hb
    exact h s hs
  fails s e s' hs he := by cases he

theorem fail {e : ε} (h : ∀ s, P s → E e s) : Triple P (Program.fail e : Program σ ε α) Q E where
  returns s b s' hs hb := by cases hb
  fails s found s' hs he := by
    cases he
    exact h s hs

theorem reads {f : σ → α} (h : ∀ s, P s → Q (f s) s) :
    Triple P (Program.reads f : Program σ ε α) Q E where
  returns s b s' hs hb := by
    cases hb
    exact h s hs
  fails s e s' hs he := by cases he

theorem update {f : σ → α × σ} (h : ∀ s, P s → Q (f s).1 (f s).2) :
    Triple P (Program.update f : Program σ ε α) Q E where
  returns s b s' hs hb := by
    cases hb
    exact h s hs
  fails s e s' hs he := by cases he

theorem modify {f : σ → σ} {Q : Unit → σ → Prop} (h : ∀ s, P s → Q () (f s)) :
    Triple P (Program.modify f : Program σ ε Unit) Q E where
  returns s b s' hs hb := by
    cases hb
    exact h s hs
  fails s e s' hs he := by cases he

theorem ofExcept {x : Except ε α} (hok : ∀ a s, x = .ok a → P s → Q a s)
    (herror : ∀ e s, x = .error e → P s → E e s) :
    Triple P (Program.ofExcept x : Program σ ε α) Q E where
  returns s a s' hs h := by
    obtain ⟨hx, rfl⟩ := ofExcept_eq_ok h
    exact hok a s' hx hs
  fails s e s' hs h := by
    obtain ⟨hx, rfl⟩ := Prod.mk.inj h
    exact herror e s hx hs

/-- What follows a successful pure step may use that it succeeded. -/
theorem ofExcept_bind {x : Except ε α} {f : α → Program σ ε β} {R : β → σ → Prop}
    (hok : ∀ a, x = .ok a → Triple P (f a) R E) (herror : ∀ e s, P s → E e s) :
    Triple P (Program.ofExcept x >>= f) R E := by
  cases hx : x with
  | error e =>
    constructor
    · intro s b s' hs hb
      cases hb
    · intro s found s' hs he
      cases he
      exact herror e s hs
  | ok a =>
    have hf := hok a hx
    exact ⟨fun s b s' hs hb => hf.returns s b s' hs hb, fun s e s' hs he => hf.fails s e s' hs he⟩

/-- What holds in every state of the precondition may be used. -/
theorem of_fact {x : Program σ ε α} {p : Prop} (hp : ∀ s, P s → p) (h : p → Triple P x Q E) :
    Triple P x Q E where
  returns s a s' hs hx := (h (hp s hs)).returns s a s' hs hx
  fails s e s' hs hx := (h (hp s hs)).fails s e s' hs hx

/-- One invariant for every exit. -/
theorem of_exits {x : Program σ ε α} {I : σ → Prop} (h : ∀ s, P s → I (x s).2) :
    Triple P x (fun _ => I) fun _ => I where
  returns s a s' hs hx := by
    have hI := h s hs
    rw [hx] at hI
    exact hI
  fails s e s' hs hx := by
    have hI := h s hs
    rw [hx] at hI
    exact hI

/-- A program that cannot fail returns. -/
theorem exists_return {x : Program σ ε α} (h : Triple P x Q fun _ _ => False) {s : σ} (hs : P s) :
    ∃ a s', x s = (.ok a, s') ∧ Q a s' := by
  rcases hx : x s with ⟨result, s'⟩
  cases result with
  | ok a => exact ⟨a, s', rfl, h.returns s a s' hs hx⟩
  | error e => exact (h.fails s e s' hs hx).elim

/-- The exits of a program in one state. -/
theorem exits {x : Program σ ε α} {I : σ → Prop} (h : Triple P x (fun _ => I) fun _ => I) {s : σ}
    (hs : P s) : I (x s).2 := by
  rcases hx : x s with ⟨result, s'⟩
  cases result with
  | ok a => exact h.returns s a s' hs hx
  | error e => exact h.fails s e s' hs hx

theorem ite {c : Prop} [Decidable c] {x y : Program σ ε α} (hx : c → Triple P x Q E)
    (hy : ¬ c → Triple P y Q E) : Triple P (if c then x else y) Q E := by
  split
  · next h => exact hx h
  · next h => exact hy h

theorem attempt {x : Program σ ε α} {R : Except ε α → σ → Prop} {E' : ε → σ → Prop}
    (h : Triple P x Q E) (hok : ∀ a s, Q a s → R (.ok a) s) (herror : ∀ e s, E e s → R (.error e) s) :
    Triple P (Program.attempt x) R E' where
  returns s result s' hs hrun := by
    obtain ⟨hresult, rfl⟩ := Prod.mk.inj hrun
    cases Except.ok.inj hresult
    rcases hx : x s with ⟨result, t⟩
    cases result with
    | ok a => exact hok a t (h.returns s a t hs hx)
    | error e => exact herror e t (h.fails s e t hs hx)
  fails s e s' hs hrun := by cases hrun

/-- The same program under a stronger precondition and weaker postconditions. -/
theorem weaken {x : Program σ ε α} {P' : σ → Prop} {Q' : α → σ → Prop} {E' : ε → σ → Prop}
    (h : Triple P x Q E) (hP : ∀ s, P' s → P s) (hQ : ∀ a s, Q a s → Q' a s)
    (hE : ∀ e s, E e s → E' e s) : Triple P' x Q' E' where
  returns s a s' hs hx := hQ a s' (h.returns s a s' (hP s hs) hx)
  fails s e s' hs hx := hE e s' (h.fails s e s' (hP s hs) hx)

/-- A loop over a list with an assertion for what is left of it. -/
theorem forEach {body : α → Program σ ε Unit} {I : List α → σ → Prop}
    (h : ∀ a rest, Triple (I (a :: rest)) (body a) (fun _ => I rest) E) (xs : List α) :
    Triple (I xs) (Program.forEach body xs) (fun _ => I []) E := by
  induction xs with
  | nil => exact pure fun _ hs => hs
  | cons a rest ih => exact bind (h a rest) fun _ => ih

end Triple

end Program

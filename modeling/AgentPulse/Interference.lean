import AgentPulse.Program

/-!
# Programs among other threads

A thread that takes a lock finds whatever the other threads did since it last
held one. The schedule lists what they do: one batch of their steps before each
section of this thread. A statement for every schedule is one for every
interleaving of the sections.
-/

/-- A state with the steps that other threads are going to take. -/
structure Interleaved (σ ι : Type) where
  state : σ
  schedule : List (List ι)

namespace Interleaved

open Program (Preserves Triple)

variable {σ τ ι ε α : Type} (apply : ι → σ → σ)

/-- The steps of the next batch, in order. -/
def advance (s : Interleaved σ ι) : Interleaved σ ι :=
  match s.schedule with
  | [] => s
  | batch :: rest => ⟨batch.foldl (fun state step => apply step state) s.state, rest⟩

/-- A part of this thread that takes no lock. -/
def locally (x : Program σ ε α) : Program (Interleaved σ ι) ε α :=
  Program.zoom state (fun s t => { s with state := t }) x

/-- One section: the others move first. -/
def atomically (x : Program σ ε α) : Program (Interleaved σ ι) ε α := do
  Program.modify (advance apply)
  locally x

/-- What holds of the shared state, whatever is scheduled. -/
def Holds (I : σ → Prop) (s : Interleaved σ ι) : Prop := I s.state

variable {apply} {I : σ → Prop}

theorem holds_advance (h : ∀ step s, I s → I (apply step s)) {s : Interleaved σ ι}
    (hs : Holds I s) : Holds I (advance apply s) := by
  have hbatch : ∀ (batch : List ι) (t : σ), I t →
      I (batch.foldl (fun state step => apply step state) t) := by
    intro batch
    induction batch with
    | nil => exact fun t ht => ht
    | cons step rest ih => exact fun t ht => ih _ (h step t ht)
  unfold advance
  cases hschedule : s.schedule with
  | nil => exact hs
  | cons batch rest => exact hbatch batch s.state hs

theorem preserves_locally {x : Program σ ε α} (hx : Preserves I x) :
    Preserves (Holds I) (locally x : Program (Interleaved σ ι) ε α) :=
  ⟨fun s hs => hx.holds s.state hs⟩

/-- A section keeps what it keeps itself and the others keep too. -/
theorem preserves_atomically (h : ∀ step s, I s → I (apply step s)) {x : Program σ ε α}
    (hx : Preserves I x) :
    Preserves (Holds I) (atomically apply x : Program (Interleaved σ ι) ε α) := by
  apply Preserves.bind
  · exact Preserves.modify fun s hs => holds_advance h hs
  · exact fun _ => preserves_locally hx

theorem triple_locally {x : Program σ ε α} {P : σ → Prop} {Q : α → σ → Prop} {E : ε → σ → Prop}
    (hx : Triple P x Q E) :
    Triple (Holds P) (locally x : Program (Interleaved σ ι) ε α) (fun a => Holds (Q a))
      fun e => Holds (E e) where
  returns s a s' hs h := by
    obtain ⟨hresult, rfl⟩ := Prod.mk.inj h
    exact hx.returns s.state a _ hs (Prod.ext hresult rfl)
  fails s e s' hs h := by
    obtain ⟨hresult, rfl⟩ := Prod.mk.inj h
    exact hx.fails s.state e _ hs (Prod.ext hresult rfl)

theorem triple_atomically {x : Program σ ε α} {P : σ → Prop} {Q : α → σ → Prop}
    {E : ε → σ → Prop} (h : ∀ step s, P s → P (apply step s)) (hx : Triple P x Q E) :
    Triple (Holds P) (atomically apply x : Program (Interleaved σ ι) ε α) (fun a => Holds (Q a))
      fun e => Holds (E e) := by
  have hmove : Triple (Holds P) (Program.modify (advance apply) :
      Program (Interleaved σ ι) ε Unit) (fun _ => Holds P) fun e => Holds (E e) :=
    Triple.modify fun s hs => holds_advance h hs
  exact Triple.bind hmove fun _ => triple_locally hx

/-- The steps that the others are still going to take. -/
def stepsLeft (s : Interleaved σ ι) : Nat := (s.schedule.map List.length).sum

/-- A property that may speak of the number of steps left. -/
def Remaining (P : Nat → σ → Prop) (s : Interleaved σ ι) : Prop := P (stepsLeft s) s.state

theorem remaining_advance {P : Nat → σ → Prop}
    (h : ∀ n step s, P (n + 1) s → P n (apply step s)) {s : Interleaved σ ι}
    (hs : Remaining P s) : Remaining P (advance apply s) := by
  have hbatch : ∀ (batch : List ι) (n : Nat) (t : σ), P (batch.length + n) t →
      P n (batch.foldl (fun state step => apply step state) t) := by
    intro batch
    induction batch with
    | nil => exact fun n t ht => by simpa using ht
    | cons step rest ih =>
      intro n t ht
      apply ih n (apply step t)
      apply h
      have hlength : (step :: rest).length + n = rest.length + n + 1 := by
        simp
        omega
      exact hlength ▸ ht
  obtain ⟨state, schedule⟩ := s
  cases schedule with
  | nil => exact hs
  | cons batch rest =>
    have hleft : P (batch.length + stepsLeft (⟨state, rest⟩ : Interleaved σ ι)) state := by
      simpa [Remaining, stepsLeft] using hs
    exact hbatch batch _ state hleft

theorem triple_remaining_locally {x : Program σ ε α} {P : Nat → σ → Prop}
    {Q : α → Nat → σ → Prop} {E : ε → Prop}
    (hx : ∀ n, Triple (P n) x (fun a => Q a n) fun e _ => E e) :
    Triple (Remaining P) (locally x : Program (Interleaved σ ι) ε α)
      (fun a => Remaining (Q a)) fun e _ => E e where
  returns s a s' hs h := by
    obtain ⟨hresult, rfl⟩ := Prod.mk.inj h
    exact (hx _).returns s.state a _ hs (Prod.ext hresult rfl)
  fails s e s' hs h := by
    obtain ⟨hresult, rfl⟩ := Prod.mk.inj h
    exact (hx _).fails s.state e _ hs (Prod.ext hresult rfl)

/-- A section in which every step of the others uses up one of those left. -/
theorem triple_remaining_atomically {x : Program σ ε α} {P : Nat → σ → Prop}
    {Q : α → Nat → σ → Prop} {E : ε → Prop} (h : ∀ n step s, P (n + 1) s → P n (apply step s))
    (hx : ∀ n, Triple (P n) x (fun a => Q a n) fun e _ => E e) :
    Triple (Remaining P) (atomically apply x : Program (Interleaved σ ι) ε α)
      (fun a => Remaining (Q a)) fun e _ => E e := by
  have hmove : Triple (Remaining P) (Program.modify (advance apply) :
      Program (Interleaved σ ι) ε Unit) (fun _ => Remaining P) fun e _ => E e :=
    Triple.modify fun s hs => remaining_advance h hs
  exact Triple.bind hmove fun _ => triple_remaining_locally hx

end Interleaved

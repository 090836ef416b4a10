import Mathlib

/-!
# Who waits for whom

Threads wait for locks and hold locks. A deadlock is a thread that waits for
itself through any number of others. There is none where waiting leads down a
rank, and then some thread of every group that waits only for its own members
can go on.
-/
namespace Waiting

variable {T L : Type} (waits : T → Option L) (holder : L → Option T)

def WaitsFor (t t' : T) : Prop := ∃ l, waits t = some l ∧ holder l = some t'

def Deadlock : Prop := ∃ t, Relation.TransGen (WaitsFor waits holder) t t

variable {waits holder} {rank : T → Nat}

theorem rank_lt_of_transGen (h : ∀ t t', WaitsFor waits holder t t' → rank t' < rank t) {t t' : T}
    (hpath : Relation.TransGen (WaitsFor waits holder) t t') : rank t' < rank t := by
  induction hpath with
  | single hstep => exact h _ _ hstep
  | tail hpath hstep ih => exact lt_trans (h _ _ hstep) ih

theorem not_deadlock_of_rank (h : ∀ t t', WaitsFor waits holder t t' → rank t' < rank t) :
    ¬ Deadlock waits holder := by
  rintro ⟨t, hcycle⟩
  exact lt_irrefl _ (rank_lt_of_transGen h hcycle)

/-- A group that waits for its own members only has a member that waits for none. -/
theorem exists_unblocked (h : ∀ t t', WaitsFor waits holder t t' → rank t' < rank t)
    {group : T → Prop} (hgroup : ∀ t t', group t → WaitsFor waits holder t t' → group t')
    (hsome : ∃ t, group t) : ∃ t, group t ∧ ∀ t', ¬ WaitsFor waits holder t t' := by
  obtain ⟨t₀, ht₀⟩ := hsome
  induction hrank : rank t₀ using Nat.strong_induction_on generalizing t₀ with
  | _ n ih =>
    by_cases hblocked : ∃ t', WaitsFor waits holder t₀ t'
    · obtain ⟨t', hwaits⟩ := hblocked
      have hlt : rank t' < n := by
        rw [← hrank]
        exact h _ _ hwaits
      exact ih _ hlt t' (hgroup _ _ ht₀ hwaits) rfl
    · exact ⟨t₀, ht₀, fun t' hwaits => hblocked ⟨t', hwaits⟩⟩

end Waiting

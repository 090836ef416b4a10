import Mathlib

/-!
# Conditions on a growing history

A condition on each entry of a history that may look at the entries before it.
It holds of a history exactly when it holds of the history without its last
entry and of that entry, so an invariant may assume it and be proved entry by
entry.
-/
namespace History

variable {ε : Type}

/-- Every entry satisfies the condition over the entries before it. -/
def Throughout (P : List ε → ε → Prop) (log : List ε) : Prop :=
  ∀ before entry, before ++ [entry] <+: log → P before entry

theorem throughout_nil (P : List ε → ε → Prop) : Throughout P [] := by
  intro before entry h
  have hlength := h.length_le
  simp at hlength

/-- A log is extended by an entry that meets the condition over it. -/
theorem throughout_snoc {P : List ε → ε → Prop} {log : List ε} {entry : ε} :
    Throughout P (log ++ [entry]) ↔ Throughout P log ∧ P log entry := by
  constructor
  · intro h
    exact ⟨fun before e hbefore => h before e (hbefore.trans (List.prefix_append _ _)),
      h log entry (List.prefix_refl _)⟩
  · rintro ⟨hlog, hlast⟩ before e hbefore
    rcases List.prefix_concat_iff.mp hbefore with heq | hshorter
    · obtain ⟨rfl, he⟩ := List.append_inj' heq rfl
      cases he
      exact hlast
    · exact hlog before e hshorter

theorem Throughout.snoc_left {P : List ε → ε → Prop} {log : List ε} {entry : ε}
    (h : Throughout P (log ++ [entry])) : Throughout P log :=
  (throughout_snoc.mp h).1

theorem Throughout.last {P : List ε → ε → Prop} {log : List ε} {entry : ε}
    (h : Throughout P (log ++ [entry])) : P log entry :=
  (throughout_snoc.mp h).2

theorem Throughout.of_mem {P : List ε → ε → Prop} {log : List ε} (h : Throughout P log) {entry : ε}
    (hmem : entry ∈ log) : ∃ before, before ++ [entry] <+: log ∧ P before entry := by
  obtain ⟨before, after, rfl⟩ := List.append_of_mem hmem
  have hprefix : before ++ [entry] <+: before ++ entry :: after := ⟨after, by simp⟩
  exact ⟨before, hprefix, h before entry hprefix⟩

instance decidableThroughout (P : List ε → ε → Prop) [∀ before entry, Decidable (P before entry)]
    (log : List ε) : Decidable (Throughout P log) :=
  decidable_of_iff (∀ i : Fin log.length, P (log.take i) (log.get i)) (by
    constructor
    · intro h before entry hbefore
      have hlt : before.length < log.length := by
        have := hbefore.length_le
        simp at this
        omega
      have hget := h ⟨before.length, hlt⟩
      obtain ⟨rest, rfl⟩ := hbefore
      simpa using hget
    · intro h i
      apply h
      have htake : log.take i ++ [log.get i] = log.take (i + 1) := by
        rw [List.take_succ_eq_append_getElem i.isLt]
        rfl
      rw [htake]
      exact List.take_prefix _ _)

end History

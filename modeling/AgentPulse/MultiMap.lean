import AgentPulse.OrderedMap

/-!
# Maps from a key to a set of members

A relation between keys and members, stored as an ordered map to ordered sets.
Removal drops a set once it is empty, so a stored set always has a member.
Every operation is specified by the relation `contains` it leaves behind.
-/
namespace MultiMap

open Std (ExtTreeMap ExtTreeSet TransOrd LawfulEqOrd)

variable {α β : Type} [Ord α] [TransOrd α] [Ord β] [TransOrd β]

def contains (m : ExtTreeMap α (ExtTreeSet β)) (k : α) (v : β) : Bool :=
  match m[k]? with
  | none => false
  | some set => set.contains v

/-- The members of a key in their own order. -/
def members (m : ExtTreeMap α (ExtTreeSet β)) (k : α) : List β :=
  match m[k]? with
  | none => []
  | some set => set.toList

def add (m : ExtTreeMap α (ExtTreeSet β)) (k : α) (v : β) : ExtTreeMap α (ExtTreeSet β) :=
  m.insert k ((m[k]?.getD ∅).insert v)

/-- What remains of a set without one member; nothing once it is empty. -/
def without (v : β) (set : ExtTreeSet β) : Option (ExtTreeSet β) :=
  if (set.erase v).isEmpty then none else some (set.erase v)

def remove (m : ExtTreeMap α (ExtTreeSet β)) (k : α) (v : β) : ExtTreeMap α (ExtTreeSet β) :=
  match m[k]? with
  | none => m
  | some set =>
    match without v set with
    | none => m.erase k
    | some rest => m.insert k rest

/-- Takes a member out from under every key. -/
def removeMember (m : ExtTreeMap α (ExtTreeSet β)) (v : β) : ExtTreeMap α (ExtTreeSet β) :=
  m.filterMap fun _ set => without v set

def NoEmptySets (m : ExtTreeMap α (ExtTreeSet β)) : Prop :=
  ∀ (k : α) (set : ExtTreeSet β), m[k]? = some set → set ≠ ∅

omit [TransOrd β] in
theorem noEmptySets_empty : NoEmptySets (∅ : ExtTreeMap α (ExtTreeSet β)) := by
  intro k set h
  simp at h

theorem contains_iff {m : ExtTreeMap α (ExtTreeSet β)} {k : α} {v : β} :
    contains m k v = true ↔ ∃ set, m[k]? = some set ∧ v ∈ set := by
  unfold contains
  cases m[k]? with
  | none => simp
  | some set => simp

@[simp] theorem contains_empty (k : α) (v : β) :
    contains (∅ : ExtTreeMap α (ExtTreeSet β)) k v = false := by
  simp [contains]

theorem mem_members [LawfulEqOrd β] {m : ExtTreeMap α (ExtTreeSet β)} {k : α} {v : β} :
    v ∈ members m k ↔ contains m k v = true := by
  unfold members contains
  cases m[k]? with
  | none => simp
  | some set => simp

/-- Members are listed once and in increasing order. -/
theorem members_ordered (m : ExtTreeMap α (ExtTreeSet β)) (k : α) :
    (members m k).Pairwise fun a b => compare a b = .lt := by
  unfold members
  cases m[k]? with
  | none => exact List.Pairwise.nil
  | some set => exact ExtTreeSet.ordered_toList

theorem members_nodup (m : ExtTreeMap α (ExtTreeSet β)) (k : α) : (members m k).Nodup := by
  refine (members_ordered m k).imp ?_
  rintro a b hlt rfl
  simp at hlt

/-- A key with a stored set has a member. -/
theorem exists_member {m : ExtTreeMap α (ExtTreeSet β)} (h : NoEmptySets m) {k : α}
    {set : ExtTreeSet β} (hget : m[k]? = some set) : ∃ v, contains m k v = true := by
  have hne := h k set hget
  rw [Ne, ExtTreeSet.eq_empty_iff_forall_not_mem, not_forall] at hne
  obtain ⟨v, hv⟩ := hne
  exact ⟨v, contains_iff.mpr ⟨set, hget, not_not.mp hv⟩⟩

theorem without_ne_empty {v : β} {set rest : ExtTreeSet β} (h : without v set = some rest) :
    rest ≠ ∅ := by
  unfold without at h
  split at h
  · cases h
  · next hempty =>
    cases h
    exact fun he => hempty (ExtTreeSet.isEmpty_iff.mpr he)

section Lawful

variable [LawfulEqOrd α] [LawfulEqOrd β]

theorem mem_of_without {v w : β} {set rest : ExtTreeSet β} (h : without v set = some rest) :
    w ∈ rest ↔ w ∈ set ∧ w ≠ v := by
  unfold without at h
  split at h
  · cases h
  · cases h
    rw [ExtTreeSet.mem_erase, Ne, Std.compare_eq_iff_eq]
    constructor
    · rintro ⟨hne, hmem⟩
      exact ⟨hmem, fun hw => hne hw.symm⟩
    · rintro ⟨hmem, hne⟩
      exact ⟨fun hw => hne hw.symm, hmem⟩

theorem eq_of_without_none {v w : β} {set : ExtTreeSet β} (h : without v set = none)
    (hw : w ∈ set) : w = v := by
  unfold without at h
  split at h
  · next hempty =>
    by_contra hne
    have hmem : w ∈ set.erase v := by
      rw [ExtTreeSet.mem_erase, Ne, Std.compare_eq_iff_eq]
      exact ⟨fun hv => hne hv.symm, hw⟩
    rw [ExtTreeSet.isEmpty_iff.mp hempty] at hmem
    simp at hmem
  · cases h

/-- Adding a member adds this member under this key only. -/
theorem contains_add [DecidableEq α] (m : ExtTreeMap α (ExtTreeSet β)) (k k' : α) (v v' : β) :
    contains (add m k v) k' v' = true ↔ contains m k' v' = true ∨ (k' = k ∧ v' = v) := by
  rw [contains_iff, contains_iff]
  simp only [add, OrderedMap.getElem?_insert]
  by_cases hk : k = k'
  · subst hk
    simp only [if_true, Option.some.injEq, exists_eq_left', ExtTreeSet.mem_insert,
      Std.compare_eq_iff_eq, true_and]
    cases m[k]? with
    | none => simp [eq_comm]
    | some set => simp [eq_comm, or_comm]
  · have hk' : ¬ k' = k := fun h => hk h.symm
    simp [hk, hk']

omit [LawfulEqOrd β] in
theorem noEmptySets_add [DecidableEq α] {m : ExtTreeMap α (ExtTreeSet β)} (h : NoEmptySets m) (k : α) (v : β) :
    NoEmptySets (add m k v) := by
  intro k' set hget
  unfold add at hget
  rw [OrderedMap.getElem?_insert] at hget
  by_cases hk : k = k'
  · rw [if_pos hk] at hget
    cases hget
    exact ExtTreeSet.insert_ne_empty
  · rw [if_neg hk] at hget
    exact h k' set hget

omit [LawfulEqOrd β] in
theorem getElem?_remove [DecidableEq α] (m : ExtTreeMap α (ExtTreeSet β)) (k k' : α) (v : β) :
    (remove m k v)[k']? = if k = k' then m[k]?.bind (without v) else m[k']? := by
  unfold remove
  cases hset : m[k]? with
  | none =>
    by_cases hk : k = k'
    · subst hk
      simp [hset]
    · simp [hk]
  | some set =>
    simp only [Option.bind_some]
    cases without v set with
    | none => exact OrderedMap.getElem?_erase m k k'
    | some rest => exact OrderedMap.getElem?_insert m k k' rest

/-- Removing a member removes it under this key only. -/
theorem contains_remove [DecidableEq α] (m : ExtTreeMap α (ExtTreeSet β)) (k k' : α) (v v' : β) :
    contains (remove m k v) k' v' = true ↔ contains m k' v' = true ∧ ¬ (k' = k ∧ v' = v) := by
  rw [contains_iff, contains_iff]
  simp only [getElem?_remove]
  by_cases hk : k = k'
  · subst hk
    simp only [if_true, true_and, Option.bind_eq_some_iff]
    constructor
    · rintro ⟨rest, ⟨set, hget, hw⟩, hmem⟩
      have hiff := (mem_of_without hw).mp hmem
      exact ⟨⟨set, hget, hiff.1⟩, hiff.2⟩
    · rintro ⟨⟨set, hget, hmem⟩, hne⟩
      cases hw : without v set with
      | none => exact absurd (eq_of_without_none hw hmem) hne
      | some rest => exact ⟨rest, ⟨set, hget, hw⟩, (mem_of_without hw).mpr ⟨hmem, hne⟩⟩
  · have hk' : ¬ k' = k := fun h => hk h.symm
    simp [hk, hk']

omit [LawfulEqOrd β] in
/-- A key whose last member goes is removed with it. -/
theorem noEmptySets_remove [DecidableEq α] {m : ExtTreeMap α (ExtTreeSet β)} (h : NoEmptySets m)
    (k : α) (v : β) :
    NoEmptySets (remove m k v) := by
  intro k' set hget
  rw [getElem?_remove] at hget
  by_cases hk : k = k'
  · rw [if_pos hk, Option.bind_eq_some_iff] at hget
    obtain ⟨stored, -, hw⟩ := hget
    exact without_ne_empty hw
  · rw [if_neg hk] at hget
    exact h k' set hget

theorem contains_removeMember (m : ExtTreeMap α (ExtTreeSet β)) (k : α) (v v' : β) :
    contains (removeMember m v) k v' = true ↔ contains m k v' = true ∧ v' ≠ v := by
  rw [contains_iff, contains_iff]
  simp only [removeMember, ExtTreeMap.getElem?_filterMap', Option.bind_eq_some_iff]
  constructor
  · rintro ⟨rest, ⟨set, hget, hw⟩, hmem⟩
    have hiff := (mem_of_without hw).mp hmem
    exact ⟨⟨set, hget, hiff.1⟩, hiff.2⟩
  · rintro ⟨⟨set, hget, hmem⟩, hne⟩
    cases hw : without v set with
    | none => exact absurd (eq_of_without_none hw hmem) hne
    | some rest => exact ⟨rest, ⟨set, hget, hw⟩, (mem_of_without hw).mpr ⟨hmem, hne⟩⟩

omit [LawfulEqOrd β] in
theorem noEmptySets_removeMember (m : ExtTreeMap α (ExtTreeSet β)) (v : β) :
    NoEmptySets (removeMember m v) := by
  intro k set hget
  simp only [removeMember, ExtTreeMap.getElem?_filterMap', Option.bind_eq_some_iff] at hget
  obtain ⟨stored, -, hw⟩ := hget
  exact without_ne_empty hw

end Lawful

end MultiMap

import Mathlib

/-!
# Ordered maps and sets

The ordered collections of the source are Lean's extensional tree maps and
sets. This module adds the few laws that the models use and that the library
does not state: overwriting with the stored value, removing an absent key,
inserting a list of entries, and the entries in key order.
-/
namespace OrderedMap

open Std (ExtTreeMap TransOrd LawfulEqOrd)

variable {α β : Type} [Ord α] [TransOrd α]

section Lookup

variable [LawfulEqOrd α] [DecidableEq α]

theorem getElem?_insert (m : ExtTreeMap α β) (k a : α) (v : β) :
    (m.insert k v)[a]? = if k = a then some v else m[a]? := by
  rw [ExtTreeMap.getElem?_insert]
  simp only [Std.compare_eq_iff_eq]

theorem getElem?_erase (m : ExtTreeMap α β) (k a : α) :
    (m.erase k)[a]? = if k = a then none else m[a]? := by
  rw [ExtTreeMap.getElem?_erase]
  simp only [Std.compare_eq_iff_eq]

/-- Writing back the stored value changes nothing. -/
theorem insert_self {m : ExtTreeMap α β} {k : α} {v : β} (h : m[k]? = some v) :
    m.insert k v = m := by
  apply ExtTreeMap.ext_getElem?
  intro a
  rw [getElem?_insert]
  split
  · next he => rw [← he, h]
  · rfl

/-- Removing an absent key changes nothing. -/
theorem erase_absent {m : ExtTreeMap α β} {k : α} (h : m[k]? = none) : m.erase k = m := by
  apply ExtTreeMap.ext_getElem?
  intro a
  rw [getElem?_erase]
  split
  · next he => rw [← he, h]
  · rfl

/-- Entries that are inserted under keys of their own are all found again. -/
theorem getElem?_insertAll {entries : List (α × β)} (hunique : (entries.map Prod.fst).Nodup)
    {m : ExtTreeMap α β} {k : α} {v : β}
    (h : (k, v) ∈ entries ∨ m[k]? = some v ∧ k ∉ entries.map Prod.fst) :
    (entries.foldl (fun m entry => m.insert entry.1 entry.2) m)[k]? = some v := by
  induction entries generalizing m with
  | nil =>
    rcases h with hmem | ⟨hfound, -⟩
    · cases hmem
    · exact hfound
  | cons entry rest ih =>
    rw [List.map_cons, List.nodup_cons] at hunique
    apply ih hunique.2
    rcases h with hmem | ⟨hfound, hnew⟩
    · rcases List.mem_cons.mp hmem with rfl | hrest
      · exact .inr ⟨by rw [getElem?_insert, if_pos rfl], hunique.1⟩
      · exact .inl hrest
    · rw [List.map_cons, List.mem_cons, not_or] at hnew
      refine .inr ⟨?_, hnew.2⟩
      rw [getElem?_insert, if_neg (Ne.symm hnew.1)]
      exact hfound

end Lookup

/-- The stored values in key order. -/
def values (m : ExtTreeMap α β) : List β := m.toList.map Prod.snd

theorem mem_values [LawfulEqOrd α] {m : ExtTreeMap α β} {v : β} : v ∈ values m ↔ ∃ k : α, m[k]? = some v := by
  unfold values
  constructor
  · intro h
    obtain ⟨⟨k, w⟩, hk, rfl⟩ := List.mem_map.mp h
    exact ⟨k, ExtTreeMap.mem_toList_iff_getElem?_eq_some.mp hk⟩
  · rintro ⟨k, hk⟩
    exact List.mem_map.mpr ⟨(k, v), ExtTreeMap.mem_toList_iff_getElem?_eq_some.mpr hk, rfl⟩

/-- A map holds at least as many entries as any list of distinct keys of it. -/
theorem length_le_size [LawfulEqOrd α] {m : ExtTreeMap α β} {keys : List α} (hnodup : keys.Nodup)
    (hmem : ∀ k ∈ keys, k ∈ m) : keys.length ≤ m.size := by
  rw [← ExtTreeMap.length_keys]
  have hsubset : keys ⊆ m.keys := fun k hk => ExtTreeMap.mem_keys.mpr (hmem k hk)
  exact (List.subperm_of_subset hnodup hsubset).length_le

end OrderedMap

import AgentPulse.OrderedMap

/-!
# Sums over ordered maps

The values of a map are those of its keys, in whatever order they are summed up: an
insertion replaces the weight of what was stored under the key.
-/
namespace OrderedMap

open Std (ExtTreeMap TransOrd LawfulEqOrd)

variable {α β : Type} [Ord α] [TransOrd α] [LawfulEqOrd α]

theorem nodup_toList (m : ExtTreeMap α β) : m.toList.Nodup :=
  ExtTreeMap.distinct_keys_toList.imp fun hkeys heq => hkeys (by rw [heq, Std.compare_self])

variable [DecidableEq α]

/-- The values after an insertion are the new one and those of the other keys. -/
theorem values_insert_perm (m : ExtTreeMap α β) (k : α) (v : β) :
    (values (m.insert k v)).Perm (v :: values (m.erase k)) := by
  have hentries : (m.insert k v).toList.Perm ((k, v) :: (m.erase k).toList) := by
    have hnew : (k, v) ∉ (m.erase k).toList := by
      rw [ExtTreeMap.mem_toList_iff_getElem?_eq_some, getElem?_erase, if_pos rfl]
      nofun
    apply (List.perm_ext_iff_of_nodup (nodup_toList _)
      (List.nodup_cons.mpr ⟨hnew, nodup_toList _⟩)).mpr
    rintro ⟨a, w⟩
    rw [List.mem_cons, ExtTreeMap.mem_toList_iff_getElem?_eq_some,
      ExtTreeMap.mem_toList_iff_getElem?_eq_some, getElem?_insert, getElem?_erase, Prod.mk.injEq]
    split
    · next hsame => simp [hsame, eq_comm]
    · next hother => simp [Ne.symm hother]
  exact hentries.map Prod.snd

/-- What a value weighs goes over from the one that was stored under the key. -/
theorem sum_values_insert (weight : β → Nat) (m : ExtTreeMap α β) (k : α) (v : β) :
    ((values (m.insert k v)).map weight).sum + (m[k]?.map weight).getD 0 =
      ((values m).map weight).sum + weight v := by
  have hinsert := ((values_insert_perm m k v).map weight).sum_eq
  rw [List.map_cons, List.sum_cons] at hinsert
  cases hold : m[k]? with
  | none =>
    rw [erase_absent hold] at hinsert
    rw [hinsert]
    simp [Nat.add_comm]
  | some old =>
    have hsame := ((values_insert_perm m k old).map weight).sum_eq
    rw [insert_self hold, List.map_cons, List.sum_cons] at hsame
    rw [hinsert, hsame]
    simp only [Option.map_some, Option.getD_some]
    omega

end OrderedMap

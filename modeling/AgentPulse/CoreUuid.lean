import AgentPulse.CoreValue

/-!
# The text of an identifier

An identifier is written as thirty-two hexadecimal digits in five groups and
reads back as itself.
-/
namespace AgentPulse

namespace Uuid

theorem hexValue_hexDigit {n : Nat} (h : n < 16) : hexValue (hexDigit n) = some n := by
  have hall : ∀ m < 16, hexValue (hexDigit m) = some m := by decide
  exact hall n h

/-- Reading the digits of a list of nibbles folds the nibbles. -/
theorem foldl_hexDigit {nibbles : List Nat} (h : ∀ n ∈ nibbles, n < 16) (acc : Nat) :
    (nibbles.map hexDigit).foldl
      (fun acc c => acc.bind fun n => (hexValue c).map (16 * n + ·)) (some acc) =
      some (nibbles.foldl (fun acc n => 16 * acc + n) acc) := by
  induction nibbles generalizing acc with
  | nil => rfl
  | cons n nibbles ih =>
    have hrest := ih (fun m hm => h m (List.mem_cons_of_mem n hm)) (16 * acc + n)
    simp only [List.map_cons, List.foldl_cons, Option.bind_some,
      hexValue_hexDigit (h n List.mem_cons_self), Option.map_some]
    exact hrest

def nibble (u : Uuid) (i : Nat) : Nat := (u.value >>> (4 * (31 - i))).toNat % 16

theorem nibble_lt (u : Uuid) (i : Nat) : u.nibble i < 16 := Nat.mod_lt _ (by decide)

theorem digits_eq (u : Uuid) (first count : Nat) :
    u.digits first count = ((List.range count).map fun i => u.nibble (first + i)).map hexDigit := by
  rw [List.map_map]
  rfl

theorem digits_append (u : Uuid) (first count more : Nat) :
    u.digits first count ++ u.digits (first + count) more = u.digits first (count + more) := by
  rw [digits, digits, digits, List.range_add, List.map_append, List.map_map]
  congr 2
  funext i
  simp [Nat.add_assoc]

theorem length_digits (u : Uuid) (first count : Nat) : (u.digits first count).length = count := by
  simp [digits]

/-- The leading nibbles are the value without its trailing ones. -/
theorem foldl_nibbles (u : Uuid) {count : Nat} (h : count ≤ 32) :
    ((List.range count).map u.nibble).foldl (fun acc n => 16 * acc + n) 0 =
      u.value.toNat / 2 ^ (4 * (32 - count)) := by
  induction count with
  | zero =>
    have hlt : u.value.toNat < 2 ^ (4 * (32 - 0)) := u.value.isLt
    rw [Nat.div_eq_of_lt hlt]
    rfl
  | succ count ih =>
    have hsplit : 4 * (32 - count) = 4 * (31 - count) + 4 := by omega
    have hnext : 32 - (count + 1) = 31 - count := by omega
    rw [List.range_succ, List.map_append, List.foldl_append, ih (by omega)]
    simp only [List.map_cons, List.map_nil, List.foldl_cons, List.foldl_nil, nibble,
      BitVec.toNat_ushiftRight, Nat.shiftRight_eq_div_pow, hsplit, hnext, Nat.pow_add]
    rw [← Nat.div_div_eq_div_mul]
    omega

theorem parseSimple_digits (u : Uuid) : parseSimple (u.digits 0 32) = some u := by
  have hsmall : ∀ n ∈ (List.range 32).map u.nibble, n < 16 := by
    intro n hn
    obtain ⟨i, -, rfl⟩ := List.mem_map.mp hn
    exact u.nibble_lt i
  have hfold := foldl_hexDigit hsmall 0
  rw [foldl_nibbles u (Nat.le_refl 32)] at hfold
  have hdigits : u.digits 0 32 = ((List.range 32).map u.nibble).map hexDigit := by
    rw [digits_eq]
    simp only [Nat.zero_add]
  rw [parseSimple, if_pos (length_digits u 0 32), hdigits, hfold]
  simp

theorem getElem?_middle {α : Type} {xs : List α} {n : Nat} (h : xs.length = n) (y : α) (ys : List α) :
    (xs ++ y :: ys)[n]? = some y := by
  rw [List.getElem?_append_right (Nat.le_of_eq h), h, Nat.sub_self]
  rfl

theorem drop_middle {α : Type} {xs : List α} {n : Nat} (h : xs.length = n) (y : α) (ys : List α) :
    (xs ++ y :: ys).drop (n + 1) = ys := by
  subst h
  induction xs with
  | nil => rfl
  | cons x xs ih => exact ih

/-- Five groups between four hyphens read as one row of digits. -/
theorem parseHyphenated_groups {a b c d e : List Char} (ha : a.length = 8) (hb : b.length = 4)
    (hc : c.length = 4) (hd : d.length = 4) (he : e.length = 12) :
    parseHyphenated (a ++ '-' :: b ++ '-' :: c ++ '-' :: d ++ '-' :: e) =
      parseSimple (a ++ b ++ c ++ d ++ e) := by
  generalize htext : a ++ '-' :: b ++ '-' :: c ++ '-' :: d ++ '-' :: e = text
  have h₁ : text = a ++ '-' :: (b ++ '-' :: c ++ '-' :: d ++ '-' :: e) := by simp [← htext]
  have h₂ : text = (a ++ '-' :: b) ++ '-' :: (c ++ '-' :: d ++ '-' :: e) := by simp [← htext]
  have h₃ : text = (a ++ '-' :: b ++ '-' :: c) ++ '-' :: (d ++ '-' :: e) := by simp [← htext]
  have h₄ : text = (a ++ '-' :: b ++ '-' :: c ++ '-' :: d) ++ '-' :: e := by simp [← htext]
  have hlength : text.length = 36 := by
    rw [h₄]
    simp [ha, hb, hc, hd, he]
  have hhyphens : text[8]? = some '-' ∧ text[13]? = some '-' ∧ text[18]? = some '-' ∧
      text[23]? = some '-' := by
    refine ⟨?_, ?_, ?_, ?_⟩
    · rw [h₁]; exact getElem?_middle ha _ _
    · rw [h₂]; exact getElem?_middle (by simp [ha, hb]) _ _
    · rw [h₃]; exact getElem?_middle (by simp [ha, hb, hc]) _ _
    · rw [h₄]; exact getElem?_middle (by simp [ha, hb, hc, hd]) _ _
  have hgroup₁ : text.take 8 = a := by rw [h₁]; exact List.take_left' ha
  have hgroup₂ : (text.drop 9).take 4 = b := by
    have hdrop : text.drop 9 = b ++ '-' :: c ++ '-' :: d ++ '-' :: e := by
      rw [h₁]
      exact drop_middle ha _ _
    rw [hdrop]
    simp only [List.append_assoc]
    exact List.take_left' hb
  have hgroup₃ : (text.drop 14).take 4 = c := by
    have hdrop : text.drop 14 = c ++ '-' :: d ++ '-' :: e := by
      rw [h₂]
      exact drop_middle (by simp [ha, hb]) _ _
    rw [hdrop]
    simp only [List.append_assoc]
    exact List.take_left' hc
  have hgroup₄ : (text.drop 19).take 4 = d := by
    have hdrop : text.drop 19 = d ++ '-' :: e := by
      rw [h₃]
      exact drop_middle (by simp [ha, hb, hc]) _ _
    rw [hdrop]
    exact List.take_left' hd
  have hgroup₅ : text.drop 24 = e := by
    rw [h₄]
    exact drop_middle (by simp [ha, hb, hc, hd]) _ _
  rw [parseHyphenated, if_pos ⟨hlength, hhyphens⟩, hgroup₁, hgroup₂, hgroup₃, hgroup₄, hgroup₅]

theorem parseStr_toString (u : Uuid) : parseStr u.toString = some u := by
  have hgroups := parseHyphenated_groups (u.length_digits 0 8) (u.length_digits 8 4)
    (u.length_digits 12 4) (u.length_digits 16 4) (u.length_digits 20 12)
  have hdigits : u.digits 0 8 ++ u.digits 8 4 ++ u.digits 12 4 ++ u.digits 16 4 ++
      u.digits 20 12 = u.digits 0 32 := by
    rw [digits_append u 0 8 4, digits_append u 0 12 4, digits_append u 0 16 4,
      digits_append u 0 20 12]
  rw [hdigits, parseSimple_digits] at hgroups
  have hlength : u.toString.toList.length = 36 := by
    simp [toString, length_digits]
  rw [parseStr]
  simp only [hlength]
  simpa [toString] using hgroups

end Uuid

/-- An identifier reads back from its text. -/
theorem Ident.fromStr_toString {k : IdKind} (id : Ident k) :
    Ident.fromStr k id.toString = .ok id := by
  rw [fromStr, Ident.toString, Uuid.parseStr_toString]
  exact dif_pos id.version7

end AgentPulse

import Mathlib

/-!
# Decimal numerals and separated texts

A numeral without a leading zero is the one that its value is written as. A text is
put together again from the parts between its separators.
-/
namespace Numerals

theorem digitChar_value {c : Char} (h : c.isDigit = true) :
    c.toNat - '0'.toNat < 10 ∧ Nat.digitChar (c.toNat - '0'.toNat) = c := by
  have hrange : 48 ≤ c.toNat ∧ c.toNat ≤ 57 := by
    rw [Char.isDigit, Bool.and_eq_true, decide_eq_true_eq, decide_eq_true_eq] at h
    exact h
  have hvalue : c.toNat - '0'.toNat < 10 := by
    have hzero : '0'.toNat = 48 := rfl
    omega
  refine ⟨hvalue, ?_⟩
  apply Char.toNat_inj.mp
  rw [Nat.toNat_digitChar_of_lt_ten hvalue]
  have hzero : '0'.toNat = 48 := rfl
  omega

/-- Reading further digits behind a positive value writes them behind its numeral. -/
theorem toDigits_ofDigitChars {digits : List Char} (hdigits : digits.all Char.isDigit = true)
    {value : Nat} (hvalue : 0 < value) :
    Nat.toDigits 10 (Nat.ofDigitChars 10 digits value) = Nat.toDigits 10 value ++ digits := by
  induction digits generalizing value with
  | nil => simp
  | cons c digits ih =>
    rw [List.all_cons, Bool.and_eq_true] at hdigits
    obtain ⟨hsmall, hchar⟩ := digitChar_value hdigits.1
    have hstep := Nat.toDigits_append_toDigits (b := 10) (by decide) hvalue hsmall
    rw [Nat.toDigits_of_lt_base hsmall, hchar] at hstep
    calc Nat.toDigits 10 (Nat.ofDigitChars 10 (c :: digits) value)
        = Nat.toDigits 10 (10 * value + (c.toNat - '0'.toNat)) ++ digits := by
          rw [Nat.ofDigitChars_cons]
          exact ih hdigits.2 (by omega)
      _ = Nat.toDigits 10 value ++ c :: digits := by rw [← hstep, List.append_assoc]; rfl

/-- Digits without a leading zero are how their value is written. -/
theorem toDigits_of_leading {digits : List Char} (hdigits : digits.all Char.isDigit = true)
    (hsome : digits ≠ []) (hleading : digits.head? ≠ some '0') :
    Nat.toDigits 10 (Nat.ofDigitChars 10 digits 0) = digits := by
  cases digits with
  | nil => exact absurd rfl hsome
  | cons c digits =>
    rw [List.all_cons, Bool.and_eq_true] at hdigits
    obtain ⟨hsmall, hchar⟩ := digitChar_value hdigits.1
    have hpositive : 0 < c.toNat - '0'.toNat := by
      refine Nat.pos_of_ne_zero fun hzero => hleading ?_
      rw [hzero] at hchar
      rw [List.head?_cons, ← hchar]
      rfl
    calc Nat.toDigits 10 (Nat.ofDigitChars 10 (c :: digits) 0)
        = Nat.toDigits 10 (Nat.ofDigitChars 10 digits (c.toNat - '0'.toNat)) := by
          rw [Nat.ofDigitChars_cons, Nat.mul_zero, Nat.zero_add]
      _ = Nat.toDigits 10 (c.toNat - '0'.toNat) ++ digits :=
          toDigits_ofDigitChars hdigits.2 hpositive
      _ = c :: digits := by rw [Nat.toDigits_of_lt_base hsmall, hchar]; rfl

theorem all_isDigit_toDigits (value : Nat) : (Nat.toDigits 10 value).all Char.isDigit = true := by
  rw [List.all_eq_true]
  intro c hc
  exact Nat.isDigit_of_mem_toDigits (by decide) (by decide) hc

/-- The numeral of a positive value has no leading zero. -/
theorem head_toDigits {value : Nat} (h : 0 < value) :
    (Nat.toDigits 10 value).head? ≠ some '0' := by
  induction value using Nat.strong_induction_on with
  | _ value ih =>
    rw [Nat.toDigits_eq_if (by decide)]
    split
    case isTrue hsmall =>
      rw [List.head?_cons, ne_eq, Option.some.injEq, Nat.digitChar_eq_zero]
      omega
    case isFalse hlarge =>
      have hfront := ih (value / 10) (by omega) (by omega)
      rw [List.head?_append_of_ne_nil _ Nat.toDigits_ne_nil]
      exact hfront

variable {α : Type} [BEq α] [LawfulBEq α]

/-- An element of a list is a separator or stands between two. -/
theorem mem_part (separator : α) {text : List α} {c : α} (h : c ∈ text) :
    c = separator ∨ ∃ part ∈ text.splitOn separator, c ∈ part := by
  induction text with
  | nil => cases h
  | cons first text ih =>
    rw [List.splitOn_cons_eq_if_modifyHead]
    obtain ⟨part, parts, hparts⟩ := List.exists_cons_of_ne_nil (List.splitOn_ne_nil separator text)
    rw [hparts] at ih ⊢
    by_cases hfirst : (first == separator) = true
    · rw [if_pos hfirst]
      rcases List.mem_cons.mp h with rfl | hrest
      · exact .inl (LawfulBEq.eq_of_beq hfirst)
      · exact (ih hrest).imp_right fun ⟨p, hp, hc⟩ => ⟨p, List.mem_cons_of_mem _ hp, hc⟩
    · rw [if_neg hfirst, List.modifyHead_cons]
      rcases List.mem_cons.mp h with rfl | hrest
      · exact .inr ⟨_, List.mem_cons_self, List.mem_cons_self⟩
      · refine (ih hrest).imp_right fun ⟨p, hp, hc⟩ => ?_
        rcases List.mem_cons.mp hp with rfl | htail
        · exact ⟨_, List.mem_cons_self, List.mem_cons_of_mem _ hc⟩
        · exact ⟨p, List.mem_cons_of_mem _ htail, hc⟩

/-- A separator at the end leaves an empty part behind it. -/
theorem nil_mem_splitOn {separator : α} {text : List α} (h : text.getLast? = some separator) :
    [] ∈ text.splitOn separator := by
  obtain ⟨front, rfl⟩ := List.getLast?_eq_some_iff.mp h
  rw [List.splitOn_append_cons_self]
  simp

end Numerals

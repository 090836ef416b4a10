import AgentPulse.Bytes

/-!
# Base64

Three bytes are four digits, and what is left at the end is two or three. A text is
decoded only if it is the one that its bytes are encoded as, so that neither another
length nor unused bits nor missing padding is taken.
-/
namespace Base64

open Bytes (utf8 ascii)

/-- The ASCII codes of letters and figures. -/
def alphanumeric (byte : UInt8) : Bool :=
  65 ≤ byte.toNat && byte.toNat ≤ 90 || 97 ≤ byte.toNat && byte.toNat ≤ 122 ||
    48 ≤ byte.toNat && byte.toNat ≤ 57

theorem alphanumeric_iff {byte : UInt8} :
    alphanumeric byte = true ↔ 65 ≤ byte.toNat ∧ byte.toNat ≤ 90 ∨
      97 ≤ byte.toNat ∧ byte.toNat ≤ 122 ∨ 48 ≤ byte.toNat ∧ byte.toNat ≤ 57 := by
  simp [alphanumeric, or_assoc]

/-- The two codes beyond letters and figures. The padding is 61. -/
structure Alphabet where
  plus : UInt8
  slash : UInt8
  plus_other : alphanumeric plus = false ∧ plus ≠ 61 ∧ plus.toNat < 128
  slash_other : alphanumeric slash = false ∧ slash ≠ 61 ∧ slash.toNat < 128
  distinct : plus ≠ slash

namespace Alphabet

def standard : Alphabet := ⟨43, 47, by decide, by decide, by decide⟩

def urlSafe : Alphabet := ⟨45, 95, by decide, by decide, by decide⟩

def digit (self : Alphabet) (value : Nat) : UInt8 :=
  if value < 26 then .ofNat (value + 65)
  else if value < 52 then .ofNat (value + 71)
  else if value < 62 then .ofNat (value - 4)
  else if value = 62 then self.plus
  else self.slash

def value (self : Alphabet) (byte : UInt8) : Option Nat :=
  if byte = self.plus then some 62
  else if byte = self.slash then some 63
  else if 65 ≤ byte.toNat ∧ byte.toNat ≤ 90 then some (byte.toNat - 65)
  else if 97 ≤ byte.toNat ∧ byte.toNat ≤ 122 then some (byte.toNat - 71)
  else if 48 ≤ byte.toNat ∧ byte.toNat ≤ 57 then some (byte.toNat + 4)
  else none

theorem toNat_ofNat {code : Nat} (h : code < 128) : (UInt8.ofNat code).toNat = code := by
  rw [UInt8.toNat_ofNat_of_lt' (by have : UInt8.size = 256 := rfl; omega)]

/-- A letter or figure, or one of the two others. -/
theorem digit_cases (self : Alphabet) (value : Nat) :
    (value < 26 ∧ (self.digit value).toNat = value + 65) ∨
    (26 ≤ value ∧ value < 52 ∧ (self.digit value).toNat = value + 71) ∨
    (52 ≤ value ∧ value < 62 ∧ (self.digit value).toNat = value - 4) ∨
    (value = 62 ∧ self.digit value = self.plus) ∨ (62 < value ∧ self.digit value = self.slash) := by
  unfold digit
  split_ifs with h26 h52 h62 hplus
  · exact .inl ⟨h26, toNat_ofNat (by omega)⟩
  · exact .inr (.inl ⟨by omega, h52, toNat_ofNat (by omega)⟩)
  · exact .inr (.inr (.inl ⟨by omega, h62, toNat_ofNat (by omega)⟩))
  · exact .inr (.inr (.inr (.inl ⟨hplus, rfl⟩)))
  · exact .inr (.inr (.inr (.inr ⟨by omega, rfl⟩)))

theorem ne_of_alphanumeric {byte other : UInt8} (h : alphanumeric byte = true)
    (hother : alphanumeric other = false) : byte ≠ other := by
  rintro rfl
  rw [h] at hother
  cases hother

theorem value_of_alphanumeric (self : Alphabet) {byte : UInt8} (h : alphanumeric byte = true) :
    self.value byte =
      if 65 ≤ byte.toNat ∧ byte.toNat ≤ 90 then some (byte.toNat - 65)
      else if 97 ≤ byte.toNat ∧ byte.toNat ≤ 122 then some (byte.toNat - 71)
      else if 48 ≤ byte.toNat ∧ byte.toNat ≤ 57 then some (byte.toNat + 4)
      else none := by
  rw [value, if_neg (ne_of_alphanumeric h self.plus_other.1),
    if_neg (ne_of_alphanumeric h self.slash_other.1)]

theorem value_digit (self : Alphabet) {value : Nat} (h : value < 64) :
    self.value (self.digit value) = some value := by
  rcases self.digit_cases value with ⟨hvalue, hcode⟩ | ⟨hlow, hvalue, hcode⟩ |
    ⟨hlow, hvalue, hcode⟩ | ⟨hvalue, hbyte⟩ | ⟨hvalue, hbyte⟩
  · rw [self.value_of_alphanumeric (alphanumeric_iff.mpr (by omega)), hcode,
      if_pos ⟨by omega, by omega⟩, Nat.add_sub_cancel]
  · rw [self.value_of_alphanumeric (alphanumeric_iff.mpr (by omega)), hcode, if_neg (by omega),
      if_pos ⟨by omega, by omega⟩, Nat.add_sub_cancel]
  · rw [self.value_of_alphanumeric (alphanumeric_iff.mpr (by omega)), hcode, if_neg (by omega),
      if_neg (by omega), if_pos ⟨by omega, by omega⟩, Nat.sub_add_cancel (by omega)]
  · rw [hbyte, Alphabet.value, if_pos rfl, hvalue]
  · rw [hbyte, Alphabet.value, if_neg self.distinct.symm, if_pos rfl, Option.some.injEq]
    omega

/-- A digit is an ASCII code other than the padding. -/
theorem digit_plain (self : Alphabet) {value : Nat} (h : value < 64) :
    self.digit value ≠ 61 ∧ (self.digit value).toNat < 128 := by
  have hpad : (61 : UInt8).toNat = 61 := rfl
  rcases self.digit_cases value with ⟨hvalue, hcode⟩ | ⟨hlow, hvalue, hcode⟩ |
    ⟨hlow, hvalue, hcode⟩ | ⟨hvalue, hbyte⟩ | ⟨hvalue, hbyte⟩
  · exact ⟨fun heq => by rw [heq, hpad] at hcode; omega, by omega⟩
  · exact ⟨fun heq => by rw [heq, hpad] at hcode; omega, by omega⟩
  · exact ⟨fun heq => by rw [heq, hpad] at hcode; omega, by omega⟩
  · rw [hbyte]
    exact self.plus_other.2
  · rw [hbyte]
    exact self.slash_other.2

end Alphabet

/-- The digits of the bytes, most significant first. -/
def digits : List UInt8 → List Nat
  | [] => []
  | [a] => [a.toNat / 4, a.toNat % 4 * 16]
  | [a, b] => [a.toNat / 4, a.toNat % 4 * 16 + b.toNat / 16, b.toNat % 16 * 4]
  | a :: b :: c :: rest =>
    a.toNat / 4 :: (a.toNat % 4 * 16 + b.toNat / 16) :: (b.toNat % 16 * 4 + c.toNat / 64) ::
      c.toNat % 64 :: digits rest

/-- The bytes of the digits, without the bits that fill no byte. -/
def bytes : List Nat → List UInt8
  | w :: x :: y :: z :: rest =>
    .ofNat (w * 4 + x / 16) :: .ofNat (x % 16 * 16 + y / 4) :: .ofNat (y % 4 * 64 + z) :: bytes rest
  | [w, x, y] => [.ofNat (w * 4 + x / 16), .ofNat (x % 16 * 16 + y / 4)]
  | [w, x] => [.ofNat (w * 4 + x / 16)]
  | _ => []

theorem digits_lt (data : List UInt8) : ∀ digit ∈ digits data, digit < 64 := by
  induction data using digits.induct with
  | case1 => simp [digits]
  | case2 a =>
    have ha := a.toNat_lt
    simp only [digits, List.mem_cons, List.not_mem_nil, or_false, forall_eq_or_imp, forall_eq]
    omega
  | case3 a b =>
    have ha := a.toNat_lt
    have hb := b.toNat_lt
    simp only [digits, List.mem_cons, List.not_mem_nil, or_false, forall_eq_or_imp, forall_eq]
    omega
  | case4 a b c rest ih =>
    have ha := a.toNat_lt
    have hb := b.toNat_lt
    have hc := c.toNat_lt
    simp only [digits, List.mem_cons, forall_eq_or_imp]
    exact ⟨by omega, by omega, by omega, by omega, ih⟩

theorem ofNat_of_eq {a : UInt8} {n : Nat} (h : n = a.toNat) : UInt8.ofNat n = a := by
  rw [h, UInt8.ofNat_toNat]

theorem bytes_digits (data : List UInt8) : bytes (digits data) = data := by
  induction data using digits.induct with
  | case1 => rfl
  | case2 a =>
    have ha := a.toNat_lt
    rw [digits, bytes, List.cons.injEq]
    exact ⟨ofNat_of_eq (by omega), rfl⟩
  | case3 a b =>
    have ha := a.toNat_lt
    have hb := b.toNat_lt
    rw [digits, bytes, List.cons.injEq, List.cons.injEq]
    exact ⟨ofNat_of_eq (by omega), ofNat_of_eq (by omega), rfl⟩
  | case4 a b c rest ih =>
    have ha := a.toNat_lt
    have hb := b.toNat_lt
    have hc := c.toNat_lt
    rw [digits, bytes, ih, List.cons.injEq, List.cons.injEq, List.cons.injEq]
    exact ⟨ofNat_of_eq (by omega), ofNat_of_eq (by omega), ofNat_of_eq (by omega), rfl⟩

variable (alphabet : Alphabet)

/-- The codes of the digits. -/
def codes (data : List UInt8) : List UInt8 := (digits data).map alphabet.digit

/-- The bytes that a text of digits stands for. -/
def read (text : List UInt8) : Option (List UInt8) := (text.mapM alphabet.value).map bytes

def encode (data : List UInt8) : String := ascii (codes alphabet data)

def decode (text : String) : Option (List UInt8) :=
  (read alphabet (utf8 text)).filter fun data => encode alphabet data = text

theorem codes_plain {data : List UInt8} {code : UInt8} (h : code ∈ codes alphabet data) :
    code ≠ 61 ∧ code.toNat < 128 := by
  obtain ⟨digit, hdigit, rfl⟩ := List.mem_map.mp h
  exact alphabet.digit_plain (digits_lt data digit hdigit)

theorem utf8_encode (data : List UInt8) : utf8 (encode alphabet data) = codes alphabet data :=
  Bytes.utf8_ascii fun _ hcode => (codes_plain alphabet hcode).2

theorem mapM_digit {values : List Nat} (h : ∀ value ∈ values, value < 64) :
    (values.map alphabet.digit).mapM alphabet.value = some values := by
  induction values with
  | nil => rfl
  | cons first rest ih =>
    rw [List.map_cons, List.mapM_cons, alphabet.value_digit (h first (by simp)),
      ih fun value hvalue => h value (by simp [hvalue])]
    rfl

theorem read_codes (data : List UInt8) : read alphabet (codes alphabet data) = some data := by
  rw [read, codes, mapM_digit alphabet (digits_lt data), Option.map_some, bytes_digits]

theorem decode_encode (data : List UInt8) : decode alphabet (encode alphabet data) = some data := by
  rw [decode, utf8_encode, read_codes]
  simp

theorem encode_of_decode {text : String} {data : List UInt8} (h : decode alphabet text = some data) :
    encode alphabet data = text := by
  have hsame := (Option.filter_eq_some_iff.mp h).2
  simpa using hsame

/-- Two texts with the same bytes are one. -/
theorem decode_injective {text text' : String} {data : List UInt8}
    (h : decode alphabet text = some data) (h' : decode alphabet text' = some data) :
    text = text' :=
  (encode_of_decode alphabet h).symm.trans (encode_of_decode alphabet h')

/-- What fills the last group of four. -/
def padding (data : List UInt8) : List UInt8 := List.replicate ((3 - data.length % 3) % 3) 61

def encodePadded (data : List UInt8) : String := ascii (codes alphabet data ++ padding data)

def decodePadded (text : String) : Option (List UInt8) :=
  (read alphabet ((utf8 text).filter (· ≠ 61))).filter fun data => encodePadded alphabet data = text

theorem utf8_encodePadded (data : List UInt8) :
    utf8 (encodePadded alphabet data) = codes alphabet data ++ padding data := by
  refine Bytes.utf8_ascii ?_
  intro code hcode
  rcases List.mem_append.mp hcode with hdigit | hpad
  · exact (codes_plain alphabet hdigit).2
  · rw [List.eq_of_mem_replicate hpad]
    decide

theorem decodePadded_encodePadded (data : List UInt8) :
    decodePadded alphabet (encodePadded alphabet data) = some data := by
  have hkept : (codes alphabet data).filter (· ≠ 61) = codes alphabet data :=
    List.filter_eq_self.mpr fun code hcode => by simpa using (codes_plain alphabet hcode).1
  have hdropped : (padding data).filter (· ≠ 61) = [] := by simp [padding]
  rw [decodePadded, utf8_encodePadded, List.filter_append, hkept, hdropped, List.append_nil,
    read_codes]
  simp

end Base64

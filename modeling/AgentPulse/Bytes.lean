import Mathlib

/-!
# Byte strings

Texts as their UTF-8 bytes and numbers as a fixed count of bytes, most
significant first. Both encodings are injective, and a fixed width makes a
concatenation readable from the left.
-/
namespace Bytes

/-- The UTF-8 encoding of a text. -/
def utf8 (text : String) : List UInt8 := text.toByteArray.data.toList

theorem utf8_injective : Function.Injective utf8 := by
  intro a b h
  have hbytes : a.toByteArray = b.toByteArray := ByteArray.ext (Array.toList_inj.mp h)
  exact String.toByteArray_inj.mp hbytes

theorem utf8_ofList (chars : List Char) :
    utf8 (String.ofList chars) = chars.flatMap String.utf8EncodeChar := by
  induction chars with
  | nil => rfl
  | cons c rest ih =>
    rw [utf8, String.toByteArray_ofList] at ih ⊢
    rw [List.utf8Encode_cons, List.utf8Encode_singleton, ByteArray.data_append,
      Array.toList_append, ih, List.flatMap_cons, List.data_toByteArray]

/-- The text whose characters are these bytes. -/
def ascii (bytes : List UInt8) : String :=
  String.ofList (bytes.map fun byte => Char.ofNat byte.toNat)

theorem utf8_ascii {bytes : List UInt8} (h : ∀ byte ∈ bytes, byte.toNat < 128) :
    utf8 (ascii bytes) = bytes := by
  rw [ascii, utf8_ofList, List.flatMap_map]
  induction bytes with
  | nil => rfl
  | cons byte rest ih =>
    have hbyte : byte.toNat < 128 := h byte (by simp)
    have hcode : (Char.ofNat byte.toNat).val.toNat = byte.toNat := by
      show (Char.ofNat byte.toNat).toNat = byte.toNat
      rw [Char.toNat_ofNat, if_pos (.inl (by omega))]
    have hone : String.utf8EncodeChar (Char.ofNat byte.toNat) = [byte] := by
      rw [String.utf8EncodeChar, hcode, if_pos (by omega), UInt8.ofNat_toNat]
    rw [List.flatMap_cons, hone, ih fun other hother => h other (by simp [hother])]
    rfl

/-- The lowest `width` bytes of a number, most significant first. -/
def bigEndian : Nat → Nat → List UInt8
  | 0, _ => []
  | width + 1, n => UInt8.ofNat (n / 256 ^ width) :: bigEndian width (n % 256 ^ width)

@[simp] theorem length_bigEndian (width n : Nat) : (bigEndian width n).length = width := by
  induction width generalizing n with
  | zero => rfl
  | succ width ih => rw [bigEndian, List.length_cons, ih]

/-- A number that fits is read back from its bytes. -/
theorem bigEndian_injective {width n m : Nat} (hn : n < 256 ^ width) (hm : m < 256 ^ width)
    (h : bigEndian width n = bigEndian width m) : n = m := by
  induction width generalizing n m with
  | zero =>
    rw [Nat.pow_zero] at hn hm
    omega
  | succ width ih =>
    rw [bigEndian, bigEndian] at h
    obtain ⟨hhigh, hlow⟩ := List.cons.inj h
    have hpos : 0 < 256 ^ width := Nat.pow_pos (by decide)
    have hrest : n % 256 ^ width = m % 256 ^ width :=
      ih (Nat.mod_lt n hpos) (Nat.mod_lt m hpos) hlow
    have hn' : n / 256 ^ width < 256 := Nat.div_lt_of_lt_mul (by rwa [Nat.pow_succ] at hn)
    have hm' : m / 256 ^ width < 256 := Nat.div_lt_of_lt_mul (by rwa [Nat.pow_succ] at hm)
    have hfirst : n / 256 ^ width = m / 256 ^ width := by
      have htoNat := congrArg UInt8.toNat hhigh
      rw [UInt8.toNat_ofNat_of_lt' hn', UInt8.toNat_ofNat_of_lt' hm'] at htoNat
      exact htoNat
    rw [← Nat.div_add_mod n (256 ^ width), ← Nat.div_add_mod m (256 ^ width), hfirst, hrest]

/-- The number that bytes stand for, most significant first. -/
def ofBigEndian (bytes : List UInt8) : Nat := bytes.foldl (fun n byte => n * 256 + byte.toNat) 0

theorem foldl_bigEndian (width : Nat) {n : Nat} (hn : n < 256 ^ width) (front : Nat) :
    (bigEndian width n).foldl (fun n byte => n * 256 + byte.toNat) front =
      front * 256 ^ width + n := by
  induction width generalizing n front with
  | zero =>
    rw [Nat.pow_zero] at hn
    simp [bigEndian]
    omega
  | succ width ih =>
    have hpos : 0 < 256 ^ width := Nat.pow_pos (by decide)
    have hhigh : n / 256 ^ width < 256 := Nat.div_lt_of_lt_mul (by rwa [Nat.pow_succ] at hn)
    have hdigits := Nat.div_add_mod n (256 ^ width)
    rw [bigEndian, List.foldl_cons, ih (Nat.mod_lt n hpos), UInt8.toNat_ofNat_of_lt' hhigh,
      Nat.pow_succ]
    calc (front * 256 + n / 256 ^ width) * 256 ^ width + n % 256 ^ width
        = front * (256 ^ width * 256) + (256 ^ width * (n / 256 ^ width) + n % 256 ^ width) := by
          ring
      _ = front * (256 ^ width * 256) + n := by rw [hdigits]

@[simp] theorem ofBigEndian_bigEndian {width n : Nat} (hn : n < 256 ^ width) :
    ofBigEndian (bigEndian width n) = n := by
  rw [ofBigEndian, foldl_bigEndian width hn, Nat.zero_mul, Nat.zero_add]

end Bytes

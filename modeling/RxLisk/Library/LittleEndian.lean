import Mathlib.Data.Nat.Digits.Lemmas
import Mathlib.Tactic.Ring

/-!
# Fixed-width little-endian byte strings

A natural number below `256 ^ width` is stored as exactly `width` bytes, least significant
first.  `encode` and `value` are mutually inverse on such numbers and byte strings, so the
encoding is injective.  Reading a reversed byte string with `value` is the big-endian reading.
-/

namespace LittleEndian

/-- The `width` lowest bytes of `number`, least significant first. -/
def encode : (width number : ℕ) → List UInt8
  | 0, _ => []
  | width + 1, number => UInt8.ofNat number :: encode width (number / 256)

/-- The number whose base-256 digits are the given bytes, least significant first. -/
def value (bytes : List UInt8) : ℕ :=
  Nat.ofDigits 256 (bytes.map UInt8.toNat)

@[simp]
theorem value_nil : value [] = 0 := rfl

@[simp]
theorem value_cons (byte : UInt8) (bytes : List UInt8) :
    value (byte :: bytes) = byte.toNat + 256 * value bytes := by
  simp [value, Nat.ofDigits_cons]

@[simp]
theorem length_encode (width number : ℕ) : (encode width number).length = width := by
  induction width generalizing number with
  | zero => rfl
  | succ width ih => rw [encode, List.length_cons, ih]

/-- Reading an encoding back returns the number modulo the capacity of the width. -/
theorem value_encode (width number : ℕ) :
    value (encode width number) = number % 256 ^ width := by
  induction width generalizing number with
  | zero => simp [encode, Nat.mod_one]
  | succ width ih =>
    rw [encode, value_cons, ih, pow_succ', Nat.mod_mul]
    simp

theorem value_encode_of_lt {width number : ℕ} (h : number < 256 ^ width) :
    value (encode width number) = number := by
  rw [value_encode, Nat.mod_eq_of_lt h]

theorem value_lt (bytes : List UInt8) : value bytes < 256 ^ bytes.length := by
  have h := Nat.ofDigits_lt_base_pow_length (b := 256) (l := bytes.map UInt8.toNat)
    (by norm_num) (by
      intro digit hdigit
      obtain ⟨byte, _, rfl⟩ := List.mem_map.mp hdigit
      exact byte.toNat_lt)
  simpa only [value, List.length_map] using h

/-- Every byte string is the encoding of its own value. -/
theorem encode_value (bytes : List UInt8) : encode bytes.length (value bytes) = bytes := by
  induction bytes with
  | nil => rfl
  | cons byte bytes ih =>
    have hbyte : byte.toNat < 256 := byte.toNat_lt
    have hhead : UInt8.ofNat (byte.toNat + 256 * value bytes) = byte := by
      apply UInt8.toNat_inj.mp
      rw [UInt8.toNat_ofNat', Nat.add_mul_mod_self_left, Nat.mod_eq_of_lt hbyte]
    have htail : (byte.toNat + 256 * value bytes) / 256 = value bytes := by omega
    rw [List.length_cons, value_cons, encode, hhead, htail, ih]

theorem encode_value_of_length {width : ℕ} {bytes : List UInt8} (h : bytes.length = width) :
    encode width (value bytes) = bytes := by
  rw [← h, encode_value]

theorem encode_injective {width left right : ℕ} (hleft : left < 256 ^ width)
    (hright : right < 256 ^ width) (h : encode width left = encode width right) :
    left = right := by
  have hvalue := congrArg value h
  rwa [value_encode_of_lt hleft, value_encode_of_lt hright] at hvalue

end LittleEndian

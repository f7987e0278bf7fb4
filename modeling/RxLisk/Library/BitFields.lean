import RxLisk.Library.LittleEndian
import Mathlib.Algebra.BigOperators.Intervals
import Mathlib.Data.Nat.Bitwise

/-!
# Bit fields of a number

A field is a run of consecutive binary digits, read as a number.  Fields of fields are fields,
neighbouring fields join, and the bytes of the little-endian form are the fields of eight bits.  A
conversion between two splittings of one number into fields is thereby checked field by field.
-/

namespace BitFields

/-- The digits `start, …, start + length - 1`. -/
def bitField (number start length : ℕ) : ℕ := number / 2 ^ start % 2 ^ length

theorem bitField_lt (number start length : ℕ) : bitField number start length < 2 ^ length :=
  Nat.mod_lt _ (by positivity)

theorem bitField_zero (number length : ℕ) : bitField number 0 length = number % 2 ^ length := by
  rw [bitField, pow_zero, Nat.div_one]

theorem bitField_eq_div {number start length : ℕ} (h : number < 2 ^ (start + length)) :
    bitField number start length = number / 2 ^ start := by
  rw [bitField, Nat.mod_eq_of_lt]
  rw [pow_add] at h
  exact Nat.div_lt_of_lt_mul h

theorem bitField_mod {number start length modulus : ℕ} (h : start + length ≤ modulus) :
    bitField (number % 2 ^ modulus) start length = bitField number start length := by
  obtain ⟨rest, rfl⟩ := Nat.exists_eq_add_of_le h
  rw [bitField, bitField, add_assoc, pow_add, Nat.mod_mul_right_div_self, pow_add,
    Nat.mod_mul_right_mod]

theorem bitField_bitField {number start length start' length' : ℕ}
    (h : start' + length' ≤ length) :
    bitField (bitField number start length) start' length' =
      bitField number (start + start') length' := by
  change bitField (number / 2 ^ start % 2 ^ length) start' length' = _
  rw [bitField_mod h, bitField, bitField, Nat.div_div_eq_div_mul, ← pow_add]

/-- The upper part of a field. -/
theorem bitField_div {number start length : ℕ} (shift : ℕ) :
    bitField number start (shift + length) / 2 ^ shift =
      bitField number (start + shift) length := by
  rw [bitField, pow_add, Nat.mod_mul_right_div_self, Nat.div_div_eq_div_mul, ← pow_add, bitField]

theorem bitField_add (number start length length' : ℕ) :
    bitField number start length + 2 ^ length * bitField number (start + length) length' =
      bitField number start (length + length') := by
  rw [bitField, bitField, bitField, pow_add, ← Nat.div_div_eq_div_mul, ← Nat.mod_mul, ← pow_add]

/-- Neighbouring fields of one width join to the field that they cover. -/
theorem sum_bitField (number width count : ℕ) :
    ∑ i ∈ Finset.range count, 2 ^ (width * i) * bitField number (width * i) width =
      bitField number 0 (width * count) := by
  induction count with
  | zero => simp [bitField, Nat.mod_one]
  | succ count ih =>
    have hjoin := bitField_add number 0 (width * count) width
    rw [zero_add] at hjoin
    rw [Finset.sum_range_succ, ih, Nat.mul_succ, hjoin]

/-- Joining two fields by a bitwise or, the way it is done in machine words. -/
theorem bitField_or (number start length length' : ℕ) :
    bitField number start length ||| bitField number (start + length) length' <<< length =
      bitField number start (length + length') := by
  rw [Nat.lor_comm, ← Nat.shiftLeft_add_eq_or_of_lt (bitField_lt number start length),
    Nat.shiftLeft_eq, mul_comm, add_comm, bitField_add]

/-- The lowest digits of two neighbouring fields, the lower one shifted out in part. -/
theorem bitField_or_mod {number start shift kept length width : ℕ} (hkept : kept ≤ width)
    (hlength : width - kept ≤ length) :
    (bitField number start (shift + kept) / 2 ^ shift |||
        bitField number (start + (shift + kept)) length <<< kept) % 2 ^ width =
      bitField number (start + shift) width := by
  obtain ⟨rest, rfl⟩ := Nat.exists_eq_add_of_le hkept
  have hlow : bitField number (start + shift) kept % 2 ^ (kept + rest) =
      bitField number (start + shift) kept :=
    Nat.mod_eq_of_lt ((bitField_lt _ _ _).trans_le (Nat.pow_le_pow_right (by norm_num) hkept))
  have hhigh : bitField number (start + (shift + kept)) length <<< kept % 2 ^ (kept + rest) =
      bitField number (start + shift + kept) rest <<< kept := by
    rw [Nat.shiftLeft_eq, mul_comm, pow_add, Nat.mul_mod_mul_left, ← bitField_zero,
      bitField_bitField (by omega), Nat.shiftLeft_eq, mul_comm, add_zero, add_assoc]
  rw [bitField_div, Nat.or_mod_two_pow, hlow, hhigh, bitField_or]

/-! ## Joining fields -/

/-- The number whose consecutive fields, of the given lengths, are the given numbers. -/
def joined : List (ℕ × ℕ) → ℕ
  | [] => 0
  | (field, length) :: rest => field + 2 ^ length * joined rest

/-- The start of the field with the given index. -/
def fieldStart (fields : List (ℕ × ℕ)) (index : ℕ) : ℕ := ((fields.take index).map Prod.snd).sum

theorem bitField_add_mul {low length high start width : ℕ} (hlow : low < 2 ^ length) :
    bitField (low + 2 ^ length * high) (length + start) width = bitField high start width := by
  rw [bitField, pow_add, ← Nat.div_div_eq_div_mul, Nat.add_mul_div_left _ _ (by positivity),
    Nat.div_eq_of_lt hlow, zero_add, bitField]

/-- Fields in range are recovered from the number that they form. -/
theorem bitField_joined {fields : List (ℕ × ℕ)} (h : ∀ field ∈ fields, field.1 < 2 ^ field.2)
    {index : ℕ} (hindex : index < fields.length) :
    bitField (joined fields) (fieldStart fields index) fields[index].2 = fields[index].1 := by
  induction fields generalizing index with
  | nil => simp at hindex
  | cons field rest ih =>
    obtain ⟨number, length⟩ := field
    have hnumber : number < 2 ^ length := h _ (List.mem_cons_self ..)
    cases index with
    | zero =>
      rw [fieldStart, List.take_zero, List.map_nil, List.sum_nil, bitField_zero, joined]
      simp [Nat.mod_eq_of_lt hnumber]
    | succ index =>
      rw [fieldStart, List.take_succ_cons, List.map_cons, List.sum_cons, joined,
        bitField_add_mul hnumber, List.getElem_cons_succ]
      exact ih (fun other hother ↦ h other (List.mem_cons_of_mem _ hother)) _

/-! ## Bytes -/

open LittleEndian

theorem value_drop (bytes : List UInt8) (count : ℕ) :
    value (bytes.drop count) = value bytes / 2 ^ (8 * count) := by
  induction count generalizing bytes with
  | zero => simp
  | succ count ih =>
    cases bytes with
    | nil => simp
    | cons byte bytes =>
      have hbyte := byte.toNat_lt
      have hdiv : (byte.toNat + 256 * value bytes) / 2 ^ 8 = value bytes := by omega
      rw [List.drop_succ_cons, ih, value_cons, Nat.mul_succ, add_comm (8 * count), pow_add,
        ← Nat.div_div_eq_div_mul, hdiv]

theorem value_take (bytes : List UInt8) (count : ℕ) :
    value (bytes.take count) = value bytes % 2 ^ (8 * count) := by
  induction count generalizing bytes with
  | zero => simp [Nat.mod_one]
  | succ count ih =>
    cases bytes with
    | nil => simp
    | cons byte bytes =>
      have hbyte := byte.toNat_lt
      have hmod : (byte.toNat + 256 * value bytes) % 2 ^ 8 = byte.toNat := by omega
      have hdiv : (byte.toNat + 256 * value bytes) / 2 ^ 8 = value bytes := by omega
      rw [List.take_succ_cons, value_cons, ih, value_cons, Nat.mul_succ, add_comm (8 * count),
        pow_add, Nat.mod_mul, hmod, hdiv]
      rfl

/-- Consecutive bytes hold a field. -/
theorem value_take_drop (bytes : List UInt8) (start count : ℕ) :
    value ((bytes.drop start).take count) = bitField (value bytes) (8 * start) (8 * count) := by
  rw [value_take, value_drop, bitField]

theorem toNat_getElem (bytes : List UInt8) {i : ℕ} (hi : i < bytes.length) :
    bytes[i].toNat = bitField (value bytes) (8 * i) 8 := by
  have hbyte : (bytes.drop i).take 1 = [bytes[i]] := by
    rw [List.drop_eq_getElem_cons hi]
    rfl
  have hfield := value_take_drop bytes i 1
  rw [hbyte] at hfield
  simpa using hfield

/-- Bytes that are the fields of a number are its little-endian form. -/
theorem eq_encode_of_forall {bytes : List UInt8} {number : ℕ}
    (h : ∀ i (hi : i < bytes.length), bytes[i].toNat = bitField number (8 * i) 8) :
    bytes = encode bytes.length number := by
  apply List.ext_getElem (length_encode _ _).symm
  intro i hi hi'
  apply UInt8.toNat_inj.mp
  have hwidth : 8 * i + 8 ≤ 8 * bytes.length := by omega
  rw [h i hi, toNat_getElem _ hi', value_encode, ← bitField_mod hwidth, pow_mul]
  norm_num

end BitFields

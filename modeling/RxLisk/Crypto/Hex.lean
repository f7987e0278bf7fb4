import RxLisk.Foundation.Text
import Mathlib.Data.List.Induction

/-!
# Hexadecimal text of byte strings

`hexString` prints each byte as two lower-case digits, and `hexBytes` walks over the characters in
pairs, reading each pair with the integer parser.  Printed bytes are read back exactly.

In the other direction the bytes account for the text, up to the case of its letters, exactly when
the text is made of whole pairs of hexadecimal digits.
-/

namespace RxLisk

open SwiftString

/-- `String(format: "%02hhx", byte)`: hexadecimal digits, zero-padded to width two. -/
def hexDigits (byte : UInt8) : List Char :=
  (Nat.toDigits 16 byte.toNat).leftpad 2 '0'

def hexString (bytes : List UInt8) : SwiftString :=
  bytes.flatMap fun byte ↦ ofScalars (hexDigits byte)

/-- The byte read from the pair of characters at index `i`; pairs that are no number give zero. -/
def hexByteAt (string : SwiftString) (i : ℕ) : UInt8 :=
  let indexStart := i * 2
  let indexEnd := indexStart + 2
  let substring := (string.take indexEnd).drop indexStart
  (toUInt8 substring 16).getD 0

def hexBytes (string : SwiftString) : List UInt8 :=
  (List.range (string.length / 2)).foldl (fun res i ↦ res ++ [hexByteAt string i]) []

theorem hexBytes_eq_map (string : SwiftString) :
    hexBytes string = (List.range (string.length / 2)).map (hexByteAt string) := by
  have happend (indices : List ℕ) (res : List UInt8) :
      indices.foldl (fun res i ↦ res ++ [hexByteAt string i]) res =
        res ++ indices.map (hexByteAt string) := by
    induction indices generalizing res with
    | nil => simp
    | cons i indices ih => simp [ih]
  exact happend (List.range (string.length / 2)) []

@[simp]
theorem length_hexBytes (string : SwiftString) : (hexBytes string).length = string.length / 2 := by
  simp [hexBytes_eq_map]

/-- The first pair of characters is read into the first byte. -/
theorem hexBytes_cons_cons (first second : Character) (rest : SwiftString) :
    hexBytes (first :: second :: rest) =
      (toUInt8 [first, second] 16).getD 0 :: hexBytes rest := by
  have hhalf : (first :: second :: rest).length / 2 = rest.length / 2 + 1 := by
    simp only [List.length_cons]
    omega
  have hshift (i : ℕ) : hexByteAt (first :: second :: rest) (i + 1) = hexByteAt rest i := by
    simp only [hexByteAt, show (i + 1) * 2 = i * 2 + 2 by omega, List.take_succ_cons,
      List.drop_succ_cons]
  rw [hexBytes_eq_map, hexBytes_eq_map, hhalf, List.range_succ_eq_map, List.map_cons, List.map_map]
  congr 1
  apply List.map_congr_left
  intro i _
  exact hshift i

@[simp]
theorem length_hexDigits (byte : UInt8) : (hexDigits byte).length = 2 := by
  have hshort : (Nat.toDigits 16 byte.toNat).length ≤ 2 :=
    (Nat.length_toDigits_le_iff (by norm_num) (by norm_num)).mpr byte.toNat_lt
  simp only [hexDigits, List.leftpad, List.length_append, List.length_replicate]
  omega

theorem toUInt8_hexDigits (byte : UInt8) :
    toUInt8 (ofScalars (hexDigits byte)) 16 = some byte := by
  have hparse := parseInteger_numeral (by norm_num) (le_refl 16)
    (byte.toNat_lt : byte.toNat < 2 ^ 8) (2 - (Nat.toDigits 16 byte.toNat).length)
  simp [toUInt8, hexDigits, List.leftpad, hparse]

@[simp]
theorem length_hexString (bytes : List UInt8) : (hexString bytes).length = 2 * bytes.length := by
  induction bytes with
  | nil => rfl
  | cons byte bytes ih =>
    rw [hexString, List.flatMap_cons, List.length_append, length_ofScalars, length_hexDigits]
    rw [hexString] at ih
    rw [ih, List.length_cons]
    omega

/-- Every byte string is read back from its hexadecimal text. -/
@[simp]
theorem hexBytes_hexString (bytes : List UInt8) : hexBytes (hexString bytes) = bytes := by
  induction bytes with
  | nil => rfl
  | cons byte bytes ih =>
    have hread := toUInt8_hexDigits byte
    have hpair := length_hexDigits byte
    obtain ⟨high, low, hdigits⟩ := List.length_eq_two.mp hpair
    have hstring : hexString (byte :: bytes) = ⟨high, []⟩ :: ⟨low, []⟩ :: hexString bytes := by
      simp [hexString, hdigits, ofScalars]
    rw [hdigits] at hread
    rw [hstring, hexBytes_cons_cons, ih]
    congr 1
    simpa [ofScalars] using congrArg (fun read ↦ read.getD 0) hread

theorem hexString_injective : Function.Injective hexString :=
  Function.LeftInverse.injective hexBytes_hexString

/-! ## Hexadecimal text -/

/-- The string with `A`-`Z` replaced by `a`-`z`. -/
def asciiLowercased (string : SwiftString) : SwiftString :=
  string.map fun character ↦ { character with scalar := character.scalar.toLower }

/-- The character is the digit of this value, in either case. -/
def IsDigitOf (value : ℕ) (character : Character) : Prop :=
  value < 16 ∧ (character = ⟨value.digitChar, []⟩ ∨ character = ⟨value.digitChar.toUpper, []⟩)

/-- Whole pairs of hexadecimal digits. -/
def IsHexText (string : SwiftString) : Prop :=
  string.length % 2 = 0 ∧ ∀ character ∈ string, ∃ value, IsDigitOf value character

theorem IsDigitOf.lowercased {value : ℕ} {character : Character} (h : IsDigitOf value character) :
    asciiLowercased [character] = [⟨value.digitChar, []⟩] := by
  obtain ⟨hvalue, rfl | rfl⟩ := h
  · interval_cases value <;> rfl
  · interval_cases value <;> rfl

/-- A digit has one code unit, no sign, from which its value is read. -/
theorem IsDigitOf.codeUnit {value : ℕ} {character : Character} (h : IsDigitOf value character) :
    ∃ codeUnit, utf8 [character] = [codeUnit] ∧ codeUnit ≠ 43 ∧ codeUnit ≠ 45 ∧
      asDigit 16 codeUnit = some value := by
  obtain ⟨hvalue, rfl | rfl⟩ := h
  · refine ⟨value.digitChar.toUInt8, ?_⟩
    interval_cases value <;> decide
  · refine ⟨value.digitChar.toUpper.toUInt8, ?_⟩
    interval_cases value <;> decide

theorem toUInt8_pair {high low : ℕ} {first second : Character} (hfirst : IsDigitOf high first)
    (hsecond : IsDigitOf low second) :
    toUInt8 [first, second] 16 = some (UInt8.ofNat (high * 16 + low)) := by
  obtain ⟨firstUnit, hfirstUnit, hplus, hminus, hhigh⟩ := hfirst.codeUnit
  obtain ⟨secondUnit, hsecondUnit, -, -, hlow⟩ := hsecond.codeUnit
  have hcodes : utf8 [first, second] = [firstUnit, secondUnit] := by
    rw [← List.singleton_append, utf8_append, hfirstUnit, hsecondUnit, List.singleton_append]
  have hhighLt : high < 16 := hfirst.1
  have hlowLt : low < 16 := hsecond.1
  have hshifted : ¬ 256 ≤ high * 16 := by omega
  have hsum : ¬ 256 ≤ high * 16 + low := by omega
  have hdigit : ¬ 256 ≤ high := by omega
  simp [toUInt8, parseInteger, hcodes, hplus, hminus, parseDigits, hhigh, hlow, hshifted, hsum,
    hdigit]

theorem hexDigits_pair {high low : ℕ} (hhigh : high < 16) (hlow : low < 16) :
    hexDigits (UInt8.ofNat (high * 16 + low)) = [high.digitChar, low.digitChar] := by
  have hnumber : (UInt8.ofNat (high * 16 + low)).toNat = high * 16 + low :=
    Nat.mod_eq_of_lt (by omega)
  rw [hexDigits, hnumber]
  by_cases hzero : high = 0
  · subst hzero
    rw [Nat.zero_mul, Nat.zero_add, Nat.toDigits_of_lt_base hlow]
    rfl
  · have hlarge : ¬ high * 16 + low < 16 := by omega
    have hquotient : (high * 16 + low) / 16 = high := by omega
    have hremainder : (high * 16 + low) % 16 = low := by omega
    rw [Nat.toDigits_eq_if (by norm_num), if_neg hlarge, hquotient, hremainder,
      Nat.toDigits_of_lt_base hhigh]
    rfl

/-- Text that is made of whole pairs of digits is printed again, in lower case. -/
theorem hexString_hexBytes {string : SwiftString} (h : IsHexText string) :
    hexString (hexBytes string) = asciiLowercased string := by
  induction string using List.twoStepInduction with
  | nil => rfl
  | singleton character => exact absurd h.1 (by simp)
  | cons_cons first second rest ih _ =>
    obtain ⟨heven, hdigits⟩ := h
    obtain ⟨high, hfirst⟩ := hdigits first (by simp)
    obtain ⟨low, hsecond⟩ := hdigits second (by simp)
    have hrest : IsHexText rest := by
      refine ⟨?_, fun character hmem ↦ hdigits character (by simp [hmem])⟩
      rw [List.length_cons, List.length_cons] at heven
      omega
    have hpair : hexString [UInt8.ofNat (high * 16 + low)] = asciiLowercased [first, second] := by
      calc
        hexString [UInt8.ofNat (high * 16 + low)] = ofScalars [high.digitChar, low.digitChar] := by
          rw [hexString, List.flatMap_singleton, hexDigits_pair hfirst.1 hsecond.1]
        _ = asciiLowercased [first] ++ asciiLowercased [second] := by
          rw [hfirst.lowercased, hsecond.lowercased]
          rfl
        _ = asciiLowercased [first, second] := rfl
    rw [hexBytes_cons_cons, toUInt8_pair hfirst hsecond, Option.getD_some]
    calc
      hexString (UInt8.ofNat (high * 16 + low) :: hexBytes rest) =
          hexString [UInt8.ofNat (high * 16 + low)] ++ hexString (hexBytes rest) := by
        simp [hexString]
      _ = asciiLowercased [first, second] ++ asciiLowercased rest := by
        rw [hpair, ih hrest]
      _ = asciiLowercased (first :: second :: rest) := rfl

/-! ## What the bytes account for -/

theorem exists_digit_of_mem_hexString {bytes : List UInt8} {character : Character}
    (h : character ∈ hexString bytes) : ∃ value < 16, character = ⟨value.digitChar, []⟩ := by
  obtain ⟨byte, -, hmem⟩ := List.mem_flatMap.mp h
  obtain ⟨scalar, hscalar, rfl⟩ := List.mem_map.mp hmem
  rw [hexDigits, List.leftpad] at hscalar
  rcases List.mem_append.mp hscalar with hzero | hdigit
  · exact ⟨0, by norm_num, by rw [List.eq_of_mem_replicate hzero]; rfl⟩
  · obtain ⟨value, hvalue, rfl⟩ := exists_digit_of_mem_toDigits (by norm_num) hdigit
    exact ⟨value, hvalue, rfl⟩

/-- Lower-casing changes a scalar only if upper-casing changes it back. -/
theorem eq_toLower_or_eq_toUpper (scalar : Char) :
    scalar = scalar.toLower ∨ scalar = scalar.toLower.toUpper := by
  by_cases hupper : scalar.val ≥ 'A'.val ∧ scalar.val ≤ 'Z'.val
  · right
    have hlower : scalar.toLower.val = scalar.val + ('a'.val - 'A'.val) := by
      delta Char.toLower
      rw [dif_pos hupper]
    have hrange : 'a'.val ≤ scalar.toLower.val ∧ scalar.toLower.val ≤ 'z'.val := by
      rw [hlower]
      obtain ⟨hlow, hhigh⟩ := hupper
      rw [ge_iff_le, UInt32.le_iff_toNat_le] at hlow
      rw [UInt32.le_iff_toNat_le] at hhigh
      rw [UInt32.le_iff_toNat_le, UInt32.le_iff_toNat_le, UInt32.toNat_add]
      change 65 ≤ scalar.val.toNat at hlow
      change scalar.val.toNat ≤ 90 at hhigh
      change 97 ≤ (scalar.val.toNat + 32) % 2 ^ 32 ∧ (scalar.val.toNat + 32) % 2 ^ 32 ≤ 122
      omega
    have hback : scalar.toLower.toUpper.val = scalar.toLower.val + ('A'.val - 'a'.val) := by
      delta Char.toUpper
      rw [dif_pos hrange]
    apply Char.ext
    rw [hback, hlower, UInt32.add_assoc]
    exact (UInt32.add_zero scalar.val).symm
  · left
    delta Char.toLower
    rw [dif_neg hupper]

theorem isDigitOf_of_toLower {value : ℕ} {character : Character} (hvalue : value < 16)
    (h : { character with scalar := character.scalar.toLower } = (⟨value.digitChar, []⟩ : Character)) :
    IsDigitOf value character := by
  obtain ⟨scalar, extending⟩ := character
  injection h with hscalar hextending
  change extending = [] at hextending
  change scalar.toLower = value.digitChar at hscalar
  subst hextending
  refine ⟨hvalue, ?_⟩
  rcases eq_toLower_or_eq_toUpper scalar with heq | heq
  · left
    rw [heq, hscalar]
  · right
    rw [heq, hscalar]

theorem hexString_hexBytes_iff (string : SwiftString) :
    hexString (hexBytes string) = asciiLowercased string ↔ IsHexText string := by
  refine ⟨?_, hexString_hexBytes⟩
  intro h
  constructor
  · have hlength := congrArg List.length h
    rw [length_hexString, length_hexBytes, asciiLowercased, List.length_map] at hlength
    omega
  · intro character hmem
    have hprinted : { character with scalar := character.scalar.toLower } ∈
        hexString (hexBytes string) := by
      rw [h]
      exact List.mem_map_of_mem hmem
    obtain ⟨value, hvalue, hdigit⟩ := exists_digit_of_mem_hexString hprinted
    exact ⟨value, isDigitOf_of_toLower hvalue hdigit⟩

/-- Two such texts with the same bytes differ in the case of letters only. -/
theorem asciiLowercased_eq_of_hexBytes_eq {left right : SwiftString} (hleft : IsHexText left)
    (hright : IsHexText right) (h : hexBytes left = hexBytes right) :
    asciiLowercased left = asciiLowercased right := by
  rw [← hexString_hexBytes hleft, ← hexString_hexBytes hright, h]

/-- The digits that `hexString` prints. -/
def lowercaseDigits : SwiftString := ofScalars "0123456789abcdef".toList

theorem isDigitOf_of_mem_lowercaseDigits {character : Character} (h : character ∈ lowercaseDigits) :
    (∃ value, IsDigitOf value character) ∧
      { character with scalar := character.scalar.toLower } = character := by
  have hall : ∀ digit ∈ lowercaseDigits, (∃ value < 16, digit = ⟨value.digitChar, []⟩) ∧
      { digit with scalar := digit.scalar.toLower } = digit := by
    decide
  obtain ⟨⟨value, hvalue, hdigit⟩, hlower⟩ := hall character h
  exact ⟨⟨value, hvalue, Or.inl hdigit⟩, hlower⟩

/-- Printing and reading are inverse on byte strings and on lower-case text of even length. -/
theorem hexBytes_hexString_inverse (bytes : List UInt8) {string : SwiftString}
    (heven : string.length % 2 = 0) (hdigits : ∀ character ∈ string, character ∈ lowercaseDigits) :
    hexBytes (hexString bytes) = bytes ∧ hexString (hexBytes string) = string := by
  have htext : IsHexText string :=
    ⟨heven, fun character hmem ↦ (isDigitOf_of_mem_lowercaseDigits (hdigits character hmem)).1⟩
  have hlower : asciiLowercased string = string := by
    apply (List.map_congr_left _).trans (List.map_id string)
    intro character hmem
    exact (isDigitOf_of_mem_lowercaseDigits (hdigits character hmem)).2
  refine ⟨hexBytes_hexString bytes, ?_⟩
  rw [hexString_hexBytes htext, hlower]

theorem hexBytes_hexString_inverse_00ff :
    hexBytes (hexString [0, 255]) = [0, 255] ∧
      hexString (hexBytes (ofScalars "00ff".toList)) = ofScalars "00ff".toList :=
  hexBytes_hexString_inverse [0, 255] (by decide) (by decide)

end RxLisk

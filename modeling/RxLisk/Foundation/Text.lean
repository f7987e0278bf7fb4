import Mathlib.Data.Nat.Digits.Lemmas
import Mathlib.Tactic.IntervalCases

/-!
# Strings and integer literals of the Swift standard library

A `String` is a sequence of characters, and a character is an extended grapheme cluster: one
scalar together with the scalars that extend it.  `count` and indices step over characters, while
`utf8` and the integer parsers read the encoded scalars.

The parser behind `UInt64(_:)` and `UInt8(_:radix:)` accepts one leading sign, needs at least one
digit and stops at the first overflow.  It reads back every number printed without a sign, with or
without leading zeros.
-/

namespace RxLisk

/-- An extended grapheme cluster: its first scalar and the scalars that extend it. -/
structure Character where
  scalar : Char
  extending : List Char := []
deriving DecidableEq

abbrev SwiftString := List Character

namespace SwiftString

def ofScalars (scalars : List Char) : SwiftString :=
  scalars.map fun scalar ↦ ⟨scalar, []⟩

/-- The `utf8` view: the encodings of all scalars, in order. -/
def utf8 (string : SwiftString) : List UInt8 :=
  string.flatMap fun character ↦
    (character.scalar :: character.extending).flatMap String.utf8EncodeChar

/-- `replacingOccurrences(of:with:)` with a single character and the empty replacement. -/
def removingOccurrences (character : Character) (string : SwiftString) : SwiftString :=
  string.filter (· ≠ character)

/-- `joined(separator:)` with a single character. -/
def joined (separator : Character) (strings : List SwiftString) : SwiftString :=
  [separator].intercalate strings

/-- `split(separator:)`: the pieces between the separators, empty pieces omitted. -/
def split (separator : Character) (string : SwiftString) : List SwiftString :=
  (string.splitOn separator).filter (· ≠ [])

/-- Interpolation of an unsigned integer: its decimal digits without leading zeros. -/
def decimal (number : ℕ) : SwiftString :=
  ofScalars (Nat.toDigits 10 number)

/-- `String(data:encoding: .utf8)`: the scalars of the text, or none when the bytes are no UTF-8. -/
def scalarsOfData (data : List UInt8) : Option (List Char) :=
  data.toByteArray.utf8Decode?.map Array.toList

/-- The bytes encode some text. -/
def IsUtf8 (data : List UInt8) : Prop :=
  ∃ scalars : List Char, data = scalars.flatMap String.utf8EncodeChar

/-! ## The integer parser -/

/-- The value of one code unit as a digit: `0`-`9`, then `A`-`Z` and `a`-`z` from ten on. -/
def asDigit (radix : ℕ) (codeUnit : UInt8) : Option ℕ :=
  let digit : Option ℕ :=
    if 48 ≤ codeUnit ∧ codeUnit ≤ 57 then some (codeUnit.toNat - 48)
    else if 65 ≤ codeUnit ∧ codeUnit ≤ 90 then some (codeUnit.toNat - 65 + 10)
    else if 97 ≤ codeUnit ∧ codeUnit ≤ 122 then some (codeUnit.toNat - 97 + 10)
    else none
  digit.filter (· < radix)

/-- Accumulate digits into an unsigned integer below `bound`, failing on overflow.  After a minus
sign each digit is subtracted, so only zeros survive. -/
def parseDigits (radix bound : ℕ) (positive : Bool) : ℕ → List UInt8 → Option ℕ
  | result, [] => some result
  | result, codeUnit :: rest =>
    match asDigit radix codeUnit with
    | none => none
    | some digit =>
      if bound ≤ result * radix then none
      else if positive then
        if bound ≤ result * radix + digit then none
        else parseDigits radix bound positive (result * radix + digit) rest
      else if result * radix < digit then none
      else parseDigits radix bound positive (result * radix - digit) rest

/-- `init?(_:radix:)` of an unsigned integer type with `bound` values. -/
def parseInteger (radix bound : ℕ) (text : SwiftString) : Option ℕ :=
  match utf8 text with
  | [] => none
  | first :: rest =>
    -- 43 and 45 are the plus and the minus sign
    if first = 43 ∨ first = 45 then
      if rest = [] then none else parseDigits radix bound (first = 43) 0 rest
    else parseDigits radix bound true 0 (first :: rest)

/-- `UInt64(_:)` on a string. -/
def toUInt64 (text : SwiftString) : Option UInt64 :=
  (parseInteger 10 (2 ^ 64) text).map UInt64.ofNat

/-- `UInt8(_:radix:)` on a string. -/
def toUInt8 (text : SwiftString) (radix : ℕ) : Option UInt8 :=
  (parseInteger radix (2 ^ 8) text).map UInt8.ofNat

/-! ## Decoding of UTF-8 -/

theorem isSome_scalarsOfData_iff (data : List UInt8) :
    (scalarsOfData data).isSome ↔ IsUtf8 data := by
  rw [scalarsOfData, Option.isSome_map, ByteArray.isSome_utf8Decode?_iff]
  constructor
  · rintro ⟨scalars, h⟩
    have hdata := congrArg (fun bytes ↦ bytes.data.toList) h
    rw [List.toList_data_toByteArray, List.utf8Encode, List.toList_data_toByteArray] at hdata
    exact ⟨scalars, hdata⟩
  · rintro ⟨scalars, rfl⟩
    exact ⟨scalars, rfl⟩

/-! ## Encodings of ASCII scalars -/

@[simp]
theorem length_ofScalars (scalars : List Char) : (ofScalars scalars).length = scalars.length := by
  simp [ofScalars]

theorem ofScalars_append (left right : List Char) :
    ofScalars (left ++ right) = ofScalars left ++ ofScalars right := by
  simp [ofScalars]

theorem utf8_append (left right : SwiftString) : utf8 (left ++ right) = utf8 left ++ utf8 right := by
  simp [utf8]

/-- An ASCII string has one code unit for each scalar. -/
theorem utf8_ofScalars {scalars : List Char} (h : ∀ scalar ∈ scalars, scalar.utf8Size = 1) :
    utf8 (ofScalars scalars) = scalars.map Char.toUInt8 := by
  induction scalars with
  | nil => rfl
  | cons scalar scalars ih =>
    have hhead := String.utf8EncodeChar_eq_singleton (h scalar (by simp))
    have htail := ih fun other hother ↦ h other (by simp [hother])
    simp only [ofScalars, utf8, List.map_cons, List.flatMap_cons] at htail ⊢
    simp [hhead, htail]

theorem utf8Size_digitChar {digit : ℕ} (h : digit < 16) : digit.digitChar.utf8Size = 1 := by
  interval_cases digit <;> rfl

/-- Every character of a numeral is the character of one of its digits. -/
theorem exists_digit_of_mem_toDigits {radix number : ℕ} (hradix : 1 < radix) {scalar : Char}
    (h : scalar ∈ Nat.toDigits radix number) : ∃ digit < radix, scalar = digit.digitChar := by
  induction number using Nat.strong_induction_on with
  | _ number ih =>
    rw [Nat.toDigits_eq_if hradix] at h
    split at h
    · exact ⟨number, ‹_›, List.mem_singleton.mp h⟩
    · rename_i hlarge
      rcases List.mem_append.mp h with h | h
      · exact ih (number / radix) (Nat.div_lt_self (by omega) hradix) h
      · exact ⟨number % radix, Nat.mod_lt _ (by omega), List.mem_singleton.mp h⟩

theorem utf8_numeral {radix : ℕ} (hradix : 1 < radix) (hsmall : radix ≤ 16) (number : ℕ) :
    utf8 (ofScalars (Nat.toDigits radix number)) =
      (Nat.toDigits radix number).map Char.toUInt8 := by
  apply utf8_ofScalars
  intro scalar hscalar
  obtain ⟨digit, hdigit, rfl⟩ := exists_digit_of_mem_toDigits hradix hscalar
  exact utf8Size_digitChar (hdigit.trans_le hsmall)

/-! ## Joined strings are split again -/

theorem split_joined {separator : Character} {strings : List SwiftString}
    (h : ∀ string ∈ strings, string ≠ [] ∧ separator ∉ string) :
    split separator (joined separator strings) = strings := by
  by_cases hempty : strings = []
  · subst hempty
    rfl
  · have hpieces := List.splitOn_intercalate separator (fun string hmem ↦ (h string hmem).2) hempty
    rw [split, joined, hpieces]
    apply List.filter_eq_self.mpr
    intro string hmem
    simpa using (h string hmem).1

/-! ## Printed numbers are read back -/

theorem asDigit_digitChar {radix digit : ℕ} (hdigit : digit < radix) (hsmall : radix ≤ 16) :
    asDigit radix digit.digitChar.toUInt8 = some digit := by
  have hvalue : asDigit 16 digit.digitChar.toUInt8 = some digit := by
    have : digit < 16 := by omega
    interval_cases digit <;> decide
  unfold asDigit at hvalue ⊢
  rw [Option.filter_eq_some_iff] at hvalue ⊢
  exact ⟨hvalue.1, by simpa using hdigit⟩

theorem parseDigits_append (radix bound : ℕ) (positive : Bool) (result : ℕ)
    (left right : List UInt8) :
    parseDigits radix bound positive result (left ++ right) =
      (parseDigits radix bound positive result left).bind
        fun value ↦ parseDigits radix bound positive value right := by
  induction left generalizing result with
  | nil => rfl
  | cons codeUnit left ih =>
    simp only [List.cons_append, parseDigits]
    cases asDigit radix codeUnit with
    | none => rfl
    | some digit =>
      simp only [ih]
      split_ifs <;> rfl

/-- Leading zeros do not change what is read. -/
theorem parseDigits_replicate_zero {radix bound : ℕ} (hradix : 0 < radix) (hbound : 0 < bound)
    (zeros : ℕ) (rest : List UInt8) :
    parseDigits radix bound true 0 (List.replicate zeros 48 ++ rest) =
      parseDigits radix bound true 0 rest := by
  have hdigit : asDigit radix 48 = some 0 := by
    simp [asDigit, hradix, show (48 : UInt8) ≤ 57 by decide]
  induction zeros with
  | zero => rfl
  | succ zeros ih =>
    have hzero : ¬ bound ≤ 0 := by omega
    simp [List.replicate_succ, parseDigits, hdigit, hzero, ih]

theorem parseDigits_numeral {radix bound number : ℕ} (hradix : 1 < radix) (hsmall : radix ≤ 16)
    (hnumber : number < bound) :
    parseDigits radix bound true 0
      ((Nat.toDigits radix number).map Char.toUInt8) = some number := by
  induction number using Nat.strong_induction_on with
  | _ number ih =>
    rw [Nat.toDigits_eq_if hradix]
    split
    · rename_i hlt
      have hzero : ¬ bound ≤ 0 := by omega
      have hfits : ¬ bound ≤ number := by omega
      simp [parseDigits, asDigit_digitChar hlt hsmall, hzero, hfits]
    · rename_i hge
      have hquotient : number / radix < number := Nat.div_lt_self (by omega) hradix
      have hsplit : number / radix * radix + number % radix = number := Nat.div_add_mod' _ _
      have hlast := asDigit_digitChar (Nat.mod_lt number (by omega : 0 < radix)) hsmall
      have hfits : ¬ bound ≤ number / radix * radix := by omega
      have hsum : ¬ bound ≤ number := by omega
      rw [List.map_append, parseDigits_append, ih _ hquotient (by omega)]
      simp [parseDigits, hlast, hfits, hsplit, hsum]

/-- A numeral with any number of leading zeros parses to the number it was printed from. -/
theorem parseInteger_numeral {radix bound number : ℕ} (hradix : 1 < radix) (hsmall : radix ≤ 16)
    (hnumber : number < bound) (zeros : ℕ) :
    parseInteger radix bound
      (ofScalars (List.replicate zeros '0' ++ Nat.toDigits radix number)) = some number := by
  have hutf8 : utf8 (ofScalars (List.replicate zeros '0' ++ Nat.toDigits radix number)) =
      List.replicate zeros 48 ++
        (Nat.toDigits radix number).map Char.toUInt8 := by
    rw [ofScalars_append, utf8_append, utf8_numeral hradix hsmall, utf8_ofScalars]
    · rw [List.map_replicate]
      rfl
    · intro scalar hscalar
      rw [List.eq_of_mem_replicate hscalar]
      rfl
  have hparse := parseDigits_numeral hradix hsmall hnumber
  rw [← parseDigits_replicate_zero (by omega : 0 < radix) (by omega : 0 < bound) zeros] at hparse
  have hunsigned : ∀ codeUnit ∈ List.replicate zeros (48 : UInt8) ++
      (Nat.toDigits radix number).map Char.toUInt8,
      codeUnit ≠ 43 ∧ codeUnit ≠ 45 := by
    intro codeUnit hmem
    rcases List.mem_append.mp hmem with hmem | hmem
    · rw [List.eq_of_mem_replicate hmem]
      decide
    · obtain ⟨scalar, hscalar, rfl⟩ := List.mem_map.mp hmem
      obtain ⟨digit, hdigit, rfl⟩ := exists_digit_of_mem_toDigits hradix hscalar
      have : digit < 16 := hdigit.trans_le hsmall
      interval_cases digit <;> decide
  unfold parseInteger
  rw [hutf8]
  -- the first code unit is a digit, so neither sign branch is taken
  cases hcodes : List.replicate zeros (48 : UInt8) ++
      (Nat.toDigits radix number).map Char.toUInt8 with
  | nil =>
    have hempty := (List.append_eq_nil_iff.mp hcodes).2
    exact absurd (List.map_eq_nil_iff.mp hempty) Nat.toDigits_ne_nil
  | cons first rest =>
    rw [hcodes] at hparse hunsigned
    have hfirst := hunsigned first (by simp)
    simp [hfirst.1, hfirst.2, hparse]

theorem parseInteger_decimal {bound number : ℕ} (hnumber : number < bound) :
    parseInteger 10 bound (decimal number) = some number := by
  exact parseInteger_numeral (by norm_num) (by norm_num) hnumber 0

@[simp]
theorem toUInt64_decimal (number : UInt64) : toUInt64 (decimal number.toNat) = some number := by
  simp [toUInt64, parseInteger_decimal number.toNat_lt]

theorem decimal_injective : Function.Injective decimal := by
  intro left right h
  have hleft : parseInteger 10 (left + right + 1) (decimal left) = some left :=
    parseInteger_decimal (by omega)
  have hright : parseInteger 10 (left + right + 1) (decimal right) = some right :=
    parseInteger_decimal (by omega)
  rw [h, hright] at hleft
  exact (Option.some.inj hleft).symm

/-- Stripping a non-digit suffix from a printed number returns the number. -/
theorem removingOccurrences_decimal_append {scalar : Char} (number : ℕ)
    (h : ∀ digit < 10, scalar ≠ digit.digitChar) :
    removingOccurrences ⟨scalar, []⟩ (decimal number ++ [⟨scalar, []⟩]) = decimal number := by
  have hdigits : ∀ character ∈ decimal number, character ≠ ⟨scalar, []⟩ := by
    intro character hmem heq
    obtain ⟨other, hother, rfl⟩ := List.mem_map.mp hmem
    obtain ⟨digit, hdigit, rfl⟩ := exists_digit_of_mem_toDigits (by norm_num) hother
    exact h digit hdigit (congrArg Character.scalar heq).symm
  rw [removingOccurrences, List.filter_append, List.filter_eq_self.mpr]
  · simp
  · simpa using hdigits

end SwiftString

end RxLisk

import RxLisk.CEd25519.FieldElement
import RxLisk.Library.SignedDigits

/-!
# Scalars as signed digits

A factor that is public is recoded into digits that are zero or odd, up to 15 in absolute value,
with long runs of zeros; one that is secret, into 64 digits from -8 to 8.  Both recodings keep the
number.
-/

namespace RxLisk

namespace CEd25519

open LimbSteps BitFields

/-! ## Sliding windows -/

/-- The binary digits of the bytes. -/
def slideBits (a : Vector UInt8 32) : List ℤ :=
  (List.finRange 256).map fun i ↦ ((1 &&& a[i.val / 8] >>> UInt8.ofNat (i.val % 8)).toNat : ℤ)

/-- Adds one to the digits from `r[k]` on.  A carry out of the last digit is lost. -/
def slideCarry : List ℤ → List ℤ
  | [] => []
  | digit :: rest => if digit = 0 then 1 :: rest else 0 :: slideCarry rest

/-- The loop over `b`, with `count` rounds left: absorbs the digits from `r[i + b]` on into the
digit `r[i]`. -/
def slideWindow : ℕ → ℤ → ℕ → List ℤ → ℤ × List ℤ
  | 0, digit, _, rest => (digit, rest)
  | _ + 1, digit, _, [] => (digit, [])
  | count + 1, digit, b, next :: rest =>
    if next = 0 then
      let (digit', rest') := slideWindow count digit (b + 1) rest
      (digit', next :: rest')
    else if digit + next * 2 ^ b ≤ 15 then
      let (digit', rest') := slideWindow count (digit + next * 2 ^ b) (b + 1) rest
      (digit', 0 :: rest')
    else if -15 ≤ digit - next * 2 ^ b then
      let (digit', rest') := slideWindow count (digit - next * 2 ^ b) (b + 1) (slideCarry rest)
      (digit', 0 :: rest')
    else (digit, next :: rest)

/-- The loop over `i`, on the digits from `r[i]` on. -/
def slideFrom : ℕ → List ℤ → List ℤ
  | 0, digits => digits
  | _ + 1, [] => []
  | count + 1, digit :: rest =>
    if digit = 0 then digit :: slideFrom count rest
    else
      let (digit', rest') := slideWindow 6 digit 1 rest
      digit' :: slideFrom count rest'

def slide (a : Vector UInt8 32) : List ℤ := slideFrom 256 (slideBits a)

section Slide

open SignedDigits

theorem slideCarry_spec {digits : List ℤ} (hbits : Bits digits)
    (hroom : value digits + 1 < 2 ^ digits.length) :
    (slideCarry digits).length = digits.length ∧ Bits (slideCarry digits) ∧
      value (slideCarry digits) = value digits + 1 := by
  induction digits with
  | nil => simp at hroom
  | cons digit rest ih =>
    obtain ⟨hdigit, hrest⟩ := bits_cons.mp hbits
    rw [value_cons, List.length_cons, pow_succ] at hroom
    unfold slideCarry
    split
    · rename_i hzero
      refine ⟨rfl, bits_cons.mpr ⟨.inr rfl, hrest⟩, ?_⟩
      rw [value_cons, value_cons]
      omega
    · obtain ⟨hlength, hcarried, hvalue⟩ := ih hrest (by omega)
      refine ⟨by simp [hlength], bits_cons.mpr ⟨.inl rfl, hcarried⟩, ?_⟩
      rw [value_cons, value_cons, hvalue]
      omega

/-- What is left of the digits from `r[i]` on when the loop over `b` has reached `b`: the number is
kept, the digit `r[i]` is in range, and the rest needs no more than half of its places. -/
structure Windowed (digit : ℤ) (b : ℕ) (rest : List ℤ) (result : ℤ × List ℤ) : Prop where
  length_eq : result.2.length = rest.length
  bits : Bits result.2
  odd : Odd result.1
  abs_le : |result.1| ≤ 15
  value_eq : result.1 + 2 ^ b * value result.2 = digit + 2 ^ b * value rest
  room : 2 * (2 ^ b * value result.2) ≤ 2 ^ (b + rest.length)

/-- One round that clears the digit `r[i + b]`. -/
theorem Windowed.cons {digit digit' next : ℤ} {b : ℕ} {rest rest' : List ℤ}
    {result : ℤ × List ℤ} (h : Windowed digit' (b + 1) rest' result)
    (hlength : rest'.length = rest.length)
    (hvalue : digit' + 2 ^ (b + 1) * value rest' = digit + 2 ^ b * value (next :: rest)) :
    Windowed digit b (next :: rest) (result.1, 0 :: result.2) := by
  have hfinal := h.value_eq
  have hroom := h.room
  rw [hvalue, pow_succ] at hfinal
  rw [hlength, pow_succ] at hroom
  refine ⟨by simp [h.length_eq, hlength], bits_cons.mpr ⟨.inl rfl, h.bits⟩, h.odd, h.abs_le, ?_, ?_⟩
  · rw [← hfinal, value_cons]
    ring
  · rw [value_cons, List.length_cons, show b + (rest.length + 1) = b + 1 + rest.length by ring]
    refine (le_of_eq ?_).trans hroom
    ring

/-- Leaving the loop at `b` is safe when the digit is more than `-2^b`. -/
theorem Windowed.stop {digit : ℤ} {b : ℕ} {rest : List ℤ} (hbits : Bits rest) (hodd : Odd digit)
    (habs : |digit| ≤ 15) (hroom : 2 * (digit + 2 ^ b * value rest) ≤ 2 ^ (b + rest.length))
    (hdigit : 0 < digit + 2 ^ b) : Windowed digit b rest (digit, rest) := by
  refine ⟨rfl, hbits, hodd, habs, rfl, ?_⟩
  cases rest with
  | nil => simp
  | cons next rest =>
    dsimp only
    have hplace : (0 : ℤ) < 2 ^ b := by positivity
    rw [List.length_cons, pow_add, pow_succ] at hroom ⊢
    have hhalf : value (next :: rest) ≤ 2 ^ rest.length := by
      by_contra hlt
      have hmul := mul_le_mul_of_nonneg_left (not_le.mp hlt) hplace.le
      rw [mul_add_one] at hmul
      linarith
    have hmul := mul_le_mul_of_nonneg_left hhalf hplace.le
    linarith

/-- A carry does not leave the array: it would need a negative digit that a positive one absorbs. -/
theorem value_lt_of_carry {digit : ℤ} {b : ℕ} {rest : List ℤ} (hbits : Bits rest)
    (hroom : 2 * (digit + 2 ^ b * value (1 :: rest)) ≤ 2 ^ (b + (1 :: rest).length))
    (hadd : 15 < digit + 2 ^ b) (hsub : -15 ≤ digit - 2 ^ b) :
    value rest + 1 < 2 ^ rest.length := by
  have hlt := hbits.value_lt
  have hplace : (0 : ℤ) < 2 ^ b := by positivity
  have hlength : (1 : ℤ) ≤ 2 ^ rest.length := one_le_pow₀ (by norm_num)
  rw [value_cons, List.length_cons, pow_add, pow_succ] at hroom
  by_contra hfull
  have hvalue : value rest = 2 ^ rest.length - 1 := by omega
  have hmul := mul_le_mul_of_nonneg_left hlength hplace.le
  rw [hvalue] at hroom
  linarith

theorem slideWindow_spec {count b : ℕ} {digit : ℤ} {rest : List ℤ} (hb : 1 ≤ b)
    (hcount : count + b = 7) (hbits : Bits rest) (hodd : Odd digit) (habs : |digit| ≤ 15)
    (hroom : 2 * (digit + 2 ^ b * value rest) ≤ 2 ^ (b + rest.length)) :
    Windowed digit b rest (slideWindow count digit b rest) := by
  induction count generalizing b digit rest with
  | zero =>
    obtain rfl : b = 7 := by omega
    exact .stop hbits hodd habs hroom (by linarith [(abs_le.mp habs).1])
  | succ count ih =>
    cases rest with
    | nil => exact ⟨rfl, hbits, hodd, habs, rfl, by simp [slideWindow]⟩
    | cons next rest =>
      obtain ⟨hnext, hrest⟩ := bits_cons.mp hbits
      have heven : Even ((2 : ℤ) ^ b) := even_two.pow_of_ne_zero (by omega)
      rw [List.length_cons, show b + (rest.length + 1) = b + 1 + rest.length by ring] at hroom
      unfold slideWindow
      split_ifs with hzero hadd hsub
      · subst hzero
        have hsame : digit + 2 ^ (b + 1) * value rest = digit + 2 ^ b * value (0 :: rest) := by
          rw [value_cons, pow_succ]
          ring
        exact (ih (by omega) (by omega) hrest hodd habs (hsame ▸ hroom)).cons rfl hsame
      · obtain rfl : next = 1 := hnext.resolve_left hzero
        rw [one_mul] at hadd ⊢
        have hmerged : digit + 2 ^ b + 2 ^ (b + 1) * value rest =
            digit + 2 ^ b * value (1 :: rest) := by
          rw [value_cons, pow_succ]
          ring
        have hplace : (0 : ℤ) < 2 ^ b := by positivity
        have habs' : |digit + 2 ^ b| ≤ 15 := by
          rw [abs_le] at habs ⊢
          constructor <;> linarith
        exact (ih (by omega) (by omega) hrest (hodd.add_even heven) habs'
          (hmerged ▸ hroom)).cons rfl hmerged
      · obtain rfl : next = 1 := hnext.resolve_left hzero
        rw [one_mul] at hadd hsub ⊢
        have hlt := value_lt_of_carry hrest
          (by rwa [List.length_cons, show b + (rest.length + 1) = b + 1 + rest.length by ring])
          (not_le.mp hadd) hsub
        obtain ⟨hlength, hcarried, hvalue⟩ := slideCarry_spec hrest hlt
        have hborrowed : digit - 2 ^ b + 2 ^ (b + 1) * value (slideCarry rest) =
            digit + 2 ^ b * value (1 :: rest) := by
          rw [hvalue, value_cons, pow_succ]
          ring
        have hplace : (0 : ℤ) < 2 ^ b := by positivity
        have habs' : |digit - 2 ^ b| ≤ 15 := by
          rw [abs_le] at habs ⊢
          constructor <;> linarith
        exact (ih (by omega) (by omega) hcarried (hodd.sub_even heven) habs'
          (by rw [hborrowed, hlength]; exact hroom)).cons hlength hborrowed
      · obtain rfl : next = 1 := hnext.resolve_left hzero
        rw [one_mul] at hadd
        exact .stop hbits hodd habs
          (by rwa [List.length_cons, show b + (rest.length + 1) = b + 1 + rest.length by ring])
          (by linarith)

/-- A digit for a table of odd multiples. -/
def SlideDigit (digit : ℤ) : Prop := digit = 0 ∨ Odd digit ∧ |digit| ≤ 15

theorem slideFrom_spec {count : ℕ} {digits : List ℤ} (hcount : digits.length ≤ count)
    (hbits : Bits digits) (hroom : 2 * value digits ≤ 2 ^ digits.length) :
    (slideFrom count digits).length = digits.length ∧
      value (slideFrom count digits) = value digits ∧
      ∀ digit ∈ slideFrom count digits, SlideDigit digit := by
  induction count generalizing digits with
  | zero =>
    obtain rfl : digits = [] := List.length_eq_zero_iff.mp (by omega)
    simp [slideFrom]
  | succ count ih =>
    cases digits with
    | nil => simp [slideFrom]
    | cons digit rest =>
      obtain ⟨hdigit, hrest⟩ := bits_cons.mp hbits
      rw [List.length_cons] at hcount
      unfold slideFrom
      split_ifs with hzero
      · rw [hzero, value_cons, List.length_cons, pow_succ] at hroom
        obtain ⟨hlength, hvalue, hall⟩ := ih (by omega) hrest (by linarith)
        refine ⟨by simp [hlength], by rw [value_cons, value_cons, hvalue], ?_⟩
        exact List.forall_mem_cons.mpr ⟨.inl hzero, hall⟩
      · obtain rfl : digit = 1 := hdigit.resolve_left hzero
        have hroom' : 2 * (1 + 2 ^ 1 * value rest) ≤ 2 ^ (1 + rest.length) := by
          rw [value_cons, List.length_cons] at hroom
          rw [pow_one, add_comm 1 rest.length]
          exact hroom
        have hwindow : Windowed 1 1 rest (slideWindow 6 1 1 rest) :=
          slideWindow_spec le_rfl rfl hrest odd_one (by norm_num) hroom'
        generalize slideWindow 6 1 1 rest = result at hwindow
        obtain ⟨digit', rest'⟩ := result
        obtain ⟨hlength', hbits', hodd, habs, hvalue', hroom''⟩ := hwindow
        dsimp only at hlength' hbits' hodd habs hvalue' hroom'' ⊢
        rw [pow_add, pow_one, ← hlength'] at hroom''
        obtain ⟨hlength, hvalue, hall⟩ := ih (by omega) hbits' (by linarith)
        refine ⟨by simp [hlength, hlength'], ?_, ?_⟩
        · rw [value_cons, hvalue, value_cons]
          linarith
        · exact List.forall_mem_cons.mpr ⟨.inr ⟨hodd, habs⟩, hall⟩

theorem toNat_slideBit (a : Vector UInt8 32) (i : Fin 256) :
    (1 &&& a[i.val / 8] >>> UInt8.ofNat (i.val % 8)).toNat =
      bitField (LittleEndian.value a.toList) i.val 1 := by
  have hshift : (UInt8.ofNat (i.val % 8)).toNat % 8 = i.val % 8 := by
    rw [UInt8.toNat_ofNat', Nat.mod_mod_of_dvd _ (by norm_num), Nat.mod_mod]
  have hone : (1 : UInt8).toNat = 2 ^ 1 - 1 := rfl
  have hfield :
      bitField (bitField (LittleEndian.value a.toList) (8 * (i.val / 8)) 8) (i.val % 8) 1 =
        bitField (LittleEndian.value a.toList) (8 * (i.val / 8) + i.val % 8) 1 :=
    bitField_bitField (by omega)
  rw [Nat.div_add_mod] at hfield
  rw [UInt8.toNat_and, UInt8.toNat_shiftRight, hshift, hone, Nat.and_comm,
    Nat.and_two_pow_sub_one_eq_mod, Nat.shiftRight_eq_div_pow, toNat_getElem_vector a]
  exact hfield

theorem slideBits_spec (a : Vector UInt8 32) :
    Bits (slideBits a) ∧ value (slideBits a) = LittleEndian.value a.toList := by
  let bit (i : ℕ) : ℤ := bitField (LittleEndian.value a.toList) i 1
  have hbits : slideBits a = (List.range 256).map bit := by
    rw [← List.map_coe_finRange_eq_range, List.map_map]
    apply List.map_congr_left
    intro i _
    rw [toNat_slideBit]
    rfl
  have hlt := LittleEndian.value_lt a.toList
  rw [Vector.length_toList] at hlt
  have hsum := sum_bitField (LittleEndian.value a.toList) 1 256
  rw [bitField_zero, one_mul, Nat.mod_eq_of_lt (by omega)] at hsum
  simp only [one_mul] at hsum
  constructor
  · rw [hbits]
    intro digit hdigit
    obtain ⟨i, _, rfl⟩ := List.mem_map.mp hdigit
    have hbit := bitField_lt (LittleEndian.value a.toList) i 1
    change (bitField _ i 1 : ℤ) = 0 ∨ (bitField _ i 1 : ℤ) = 1
    omega
  · rw [hbits, value_map_range, ← hsum, Nat.cast_sum]
    apply Finset.sum_congr rfl
    intro i _
    rw [Nat.cast_mul, Nat.cast_pow, Nat.cast_ofNat]

/-- The digits form the same number, and each is zero or odd and at most 15 in absolute value. -/
theorem slide_spec {a : Vector UInt8 32} (ha : LittleEndian.value a.toList ≤ 2 ^ 255) :
    (slide a).length = 256 ∧ value (slide a) = LittleEndian.value a.toList ∧
      ∀ digit ∈ slide a, SlideDigit digit := by
  obtain ⟨hbits, hvalue⟩ := slideBits_spec a
  have hlength : (slideBits a).length = 256 := by simp [slideBits]
  have hroom : 2 * value (slideBits a) ≤ 2 ^ (slideBits a).length := by
    rw [hvalue, hlength]
    exact_mod_cast (Nat.mul_le_mul_left 2 ha)
  obtain ⟨hlength', hvalue', hall⟩ := slideFrom_spec hlength.le hbits hroom
  exact ⟨hlength'.trans hlength, hvalue'.trans hvalue, hall⟩

end Slide

/-! ## Sixteenths -/

/-- The hexadecimal digits of the bytes. -/
def nibbles (a : Vector UInt8 32) : Vector Int8 64 :=
  Vector.ofFn fun i ↦
    if i.val % 2 = 0 then (a[i.val / 2] >>> 0 &&& 15).toInt8 else (a[i.val / 2] >>> 4 &&& 15).toInt8

/-- The carry out of a digit, rounded to the nearest. -/
def nibbleCarry (i : Fin 64) : Step 64 where
  source := i
  shift := 4
  round := 8
  targets := [(i + 1, 1)]

/-- The digits `e` of a secret factor. -/
def signedNibbles (a : Vector UInt8 32) : Vector Int8 64 :=
  run ((List.finRange 63).map fun i ↦ nibbleCarry i.castSucc) (nibbles a)

def nibbleWeight (i : Fin 64) : ℤ := 2 ^ (4 * i.val)

/-- The digits as they are loaded, of a number below `2^255`. -/
def nibblesBox : Vector Interval 64 :=
  Vector.ofFn fun i ↦ if i.val = 63 then ⟨0, 7⟩ else ⟨0, 15⟩

def signedNibblesBox : Vector Interval 64 := Vector.ofFn fun _ ↦ ⟨-8, 8⟩

theorem toInt_toInt8 {byte : UInt8} (h : byte.toNat < 2 ^ 7) : toInt byte.toInt8 = byte.toNat := by
  change byte.toBitVec.toInt = _
  rw [BitVec.toInt_eq_toNat_of_lt]
  · rfl
  · change 2 * byte.toNat < 2 ^ 8
    omega

/-- Half of a byte. -/
theorem toNat_nibble (a : Vector UInt8 32) {i : ℕ} (hi : i < 32) {half : ℕ} (hhalf : half ≤ 1)
    {shift : UInt8} (hshift : shift.toNat = 4 * half) :
    (a[i] >>> shift &&& 15).toNat =
      bitField (LittleEndian.value a.toList) (4 * (2 * i + half)) 4 := by
  have hmask : (15 : UInt8).toNat = 2 ^ 4 - 1 := rfl
  have hfield : bitField (bitField (LittleEndian.value a.toList) (8 * i) 8) (4 * half) 4 =
      bitField (LittleEndian.value a.toList) (8 * i + 4 * half) 4 :=
    bitField_bitField (by omega)
  rw [UInt8.toNat_and, UInt8.toNat_shiftRight, hshift, hmask, Nat.and_two_pow_sub_one_eq_mod,
    Nat.shiftRight_eq_div_pow, Nat.mod_eq_of_lt (show 4 * half < 8 by omega), toNat_getElem_vector a,
    show 4 * (2 * i + half) = 8 * i + 4 * half by ring]
  exact hfield

theorem toInt_nibbles (a : Vector UInt8 32) (i : Fin 64) :
    toInt ((nibbles a).get i) = bitField (LittleEndian.value a.toList) (4 * i.val) 4 := by
  have hlt := bitField_lt (LittleEndian.value a.toList) (4 * i.val) 4
  have hi : i.val / 2 < 32 := by omega
  have hdigit : (nibbles a).get i = if i.val % 2 = 0 then (a[i.val / 2] >>> 0 &&& 15).toInt8
      else (a[i.val / 2] >>> 4 &&& 15).toInt8 := Vector.getElem_ofFn _
  rw [hdigit]
  split_ifs with heven
  · have hnat : (a[i.val / 2] >>> 0 &&& 15).toNat =
        bitField (LittleEndian.value a.toList) (4 * (2 * (i.val / 2) + 0)) 4 :=
      toNat_nibble a hi zero_le_one rfl
    rw [show 2 * (i.val / 2) + 0 = i.val by omega] at hnat
    rw [toInt_toInt8 (by omega), hnat]
  · have hnat : (a[i.val / 2] >>> 4 &&& 15).toNat =
        bitField (LittleEndian.value a.toList) (4 * (2 * (i.val / 2) + 1)) 4 :=
      toNat_nibble a hi le_rfl rfl
    rw [show 2 * (i.val / 2) + 1 = i.val by omega] at hnat
    rw [toInt_toInt8 (by omega), hnat]

theorem balanced_nibbleCarry (i : Fin 63) : (nibbleCarry i.castSucc).Balanced 0 nibbleWeight := by
  revert i
  decide

theorem signedNibbles_endsIn :
    EndsIn (2 ^ 7) ((List.finRange 63).map fun i ↦ nibbleCarry i.castSucc) nibblesBox
      signedNibblesBox := by
  decide

/-- The digits form the same number, and each is between -8 and 8. -/
theorem signedNibbles_spec {a : Vector UInt8 32} (ha : LittleEndian.value a.toList < 2 ^ 255) :
    Within signedNibblesBox (signedNibbles a) ∧
      value nibbleWeight (signedNibbles a) = LittleEndian.value a.toList := by
  have hbalanced : ∀ step ∈ (List.finRange 63).map fun i ↦ nibbleCarry i.castSucc,
      step.Balanced 0 nibbleWeight := by
    intro step hstep
    obtain ⟨i, _, rfl⟩ := List.mem_map.mp hstep
    exact balanced_nibbleCarry i
  have hwithin : Within nibblesBox (nibbles a) := by
    intro i
    have hlt := bitField_lt (LittleEndian.value a.toList) (4 * i.val) 4
    change toInt ((nibbles a).get i) ∈ nibblesBox[i]
    rw [toInt_nibbles, Fin.getElem_fin, nibblesBox, Vector.getElem_ofFn, Interval.mem_iff]
    split_ifs with htop
    · rw [Fin.eta] at htop
      have htopLt : bitField (LittleEndian.value a.toList) (4 * i.val) 4 < 8 := by
        rw [htop, bitField_eq_div (by omega)]
        omega
      constructor <;> dsimp only <;> omega
    · constructor <;> dsimp only <;> omega
  have hnumber : value nibbleWeight (nibbles a) = LittleEndian.value a.toList := by
    have hsum := sum_bitField (LittleEndian.value a.toList) 4 64
    rw [bitField_zero, Nat.mod_eq_of_lt (by omega), Finset.sum_range] at hsum
    rw [value, ← hsum, Nat.cast_sum]
    apply Finset.sum_congr rfl
    intro i _
    change nibbleWeight i * toInt ((nibbles a).get i) = _
    rw [toInt_nibbles, nibbleWeight, Nat.cast_mul, Nat.cast_pow, Nat.cast_ofNat]
  obtain ⟨hbox, hvalue⟩ := run_spec hbalanced hwithin signedNibbles_endsIn
  exact ⟨hbox, (Int.modEq_zero_iff.mp hvalue).trans hnumber⟩

end CEd25519

end RxLisk

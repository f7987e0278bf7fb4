import RxLisk.Foundation.Double
import Mathlib.Data.Nat.Log

/-!
# Amounts in beddows

A decimal amount reaches the library as a `Double` and leaves it as a 64-bit number of beddows:
`fixedPoint` multiplies by `10 ^ 8` and truncates.  Both the literal and the product are rounded,
so the product can fall below the intended integer and lose a beddow.

For an intended amount of `k` beddows with `2 ^ e ≤ k < 2 ^ (e + 1)` the outcome is decided by the
remainder of `k * 2 ^ (78 - e)` modulo `10 ^ 8`, and only where `k` lies in the part of its binade
from which the quotient by `10 ^ 8` does not drop to a finer grid.
-/

namespace RxLisk

open BinaryRounding

namespace LiskConstants

/-- `pow(10, 8)`. -/
def fixedPoint : Double := .nearest (10 ^ 8)

end LiskConstants

/-- The fixed-point value of an amount; traps when it is not a `UInt64`. -/
def Double.fixedPoint (amount : Double) : Option UInt64 :=
  (amount * LiskConstants.fixedPoint).toUInt64

/-! ## The rounded quotient and the rounded product -/

theorem LiskConstants.fixedPoint_eq :
    ∃ number, LiskConstants.fixedPoint = .finite number ∧ number.value = 10 ^ 8 := by
  have hround : binary64.round (10 ^ 8) = 10 ^ 8 :=
    binary64.round_of_representable
      ⟨10 ^ 8, 0, by norm_num [binary64], by norm_num [binary64], by norm_num⟩
  obtain ⟨number, hnumber, hvalue⟩ := Double.nearest_eq_finite (x := 10 ^ 8)
    (by rw [hround]; exact Double.lt_overflow (by norm_num))
  exact ⟨number, hnumber, by rw [hvalue, hround]⟩

/-- A product in range is rounded once more and truncated. -/
theorem fixedPoint_nearest {x product : ℚ} (hx : |binary64.round x| < 2 ^ 1024)
    (hproduct : binary64.round (binary64.round x * 10 ^ 8) = product)
    (hnonneg : 0 ≤ product) (hlt : product < 2 ^ 64) :
    (Double.nearest x).fixedPoint = some (UInt64.ofNat ⌊product⌋₊) := by
  obtain ⟨number, hnumber, hvalue⟩ := Double.nearest_eq_finite hx
  obtain ⟨scale, hscale, hscaleValue⟩ := LiskConstants.fixedPoint_eq
  have hrange : |binary64.round (number.value * scale.value)| < 2 ^ 1024 := by
    rw [hvalue, hscaleValue, hproduct, abs_of_nonneg hnonneg]
    exact Double.lt_overflow hlt
  obtain ⟨result, hresult, hresultValue⟩ := Double.nearest_eq_finite hrange
  rw [hvalue, hscaleValue, hproduct] at hresultValue
  have hmul : Double.nearest x * LiskConstants.fixedPoint = .finite result := by
    rw [hnumber, hscale]
    exact hresult
  have hfits : -1 < product ∧ product < ((2 ^ 64 : ℕ) : ℚ) := by
    refine ⟨by linarith, ?_⟩
    push_cast
    exact hlt
  rw [Double.fixedPoint, hmul, Double.toUInt64, Double.toUnsigned, hresultValue, if_pos hfits]
  rfl

section Rounding

variable {k e g shift : ℕ}

/-- The double nearest to the decimal amount, on the grid of its binade. -/
theorem round_quotient (hlow : 2 ^ 52 * 10 ^ 8 ≤ k * 2 ^ shift)
    (hhigh : k * 2 ^ shift < 2 ^ 53 * 10 ^ 8) (hshift : shift ≤ 79) :
    binary64.round (k / 10 ^ 8) =
      nearestEven ((k * 2 ^ shift : ℕ) / (10 ^ 8 : ℕ)) * 2 ^ (-(shift : ℤ)) := by
  have hlowRat : (2 : ℚ) ^ 52 * 10 ^ 8 ≤ k * 2 ^ shift := by exact_mod_cast hlow
  have hhighRat : (k : ℚ) * 2 ^ shift < 2 ^ 53 * 10 ^ 8 := by exact_mod_cast hhigh
  have hpow : (0 : ℚ) < 2 ^ shift := by positivity
  have hscaled : (k : ℚ) / 10 ^ 8 / 2 ^ (-(shift : ℤ)) = (k * 2 ^ shift : ℕ) / (10 ^ 8 : ℕ) := by
    rw [zpow_neg, zpow_natCast]
    simp only [Nat.cast_mul, Nat.cast_pow, Nat.cast_ofNat]
    field_simp
  rw [binary64.round_eq_of_binade (52 - shift) (-shift), hscaled]
  · rw [zpow_sub₀ (by norm_num), zpow_natCast, div_le_div_iff₀ hpow (by norm_num)]
    exact hlowRat
  · rw [show (52 : ℤ) - shift + 1 = 53 - shift by ring, zpow_sub₀ (by norm_num), zpow_natCast,
      div_lt_div_iff₀ (by norm_num) hpow]
    exact hhighRat
  · simp only [binary64]
    push_cast
    ring
  · simp only [binary64]
    omega

/-- The product is rounded on the grid of the binade of `k`. -/
theorem round_product (significand : ℤ) (hshift : shift + e = 52 + g)
    (hlow : 2 ^ (52 + g) ≤ significand * 10 ^ 8) (hhigh : significand * 10 ^ 8 < 2 ^ (53 + g)) :
    binary64.round (significand * 2 ^ (-(shift : ℤ)) * 10 ^ 8) =
      nearestEven (significand * 10 ^ 8 / 2 ^ g) * 2 ^ ((e : ℤ) - 52) := by
  have hlowRat : (2 : ℚ) ^ (52 + g) ≤ significand * 10 ^ 8 := by exact_mod_cast hlow
  have hhighRat : (significand : ℚ) * 10 ^ 8 < 2 ^ (53 + g) := by exact_mod_cast hhigh
  have hpow : (0 : ℚ) < 2 ^ shift := by positivity
  have hproduct : (significand : ℚ) * 2 ^ (-(shift : ℤ)) * 10 ^ 8 =
      significand * 10 ^ 8 / 2 ^ shift := by
    rw [zpow_neg, zpow_natCast]
    ring
  have hscaled : (significand : ℚ) * 2 ^ (-(shift : ℤ)) * 10 ^ 8 / 2 ^ ((e : ℤ) - 52) =
      significand * 10 ^ 8 / 2 ^ g := by
    have hsplit : (2 : ℚ) ^ g * 2 ^ 52 = 2 ^ shift * 2 ^ e := by
      rw [← pow_add, ← pow_add]
      congr 1
      omega
    rw [hproduct, zpow_sub₀ (by norm_num), zpow_natCast, div_div, ← mul_div_assoc, ← hsplit]
    congr 1
    rw [show (2 : ℚ) ^ (52 : ℤ) = 2 ^ 52 by norm_cast, mul_div_assoc, div_self (by norm_num),
      mul_one]
  rw [binary64.round_eq_of_binade e (e - 52), hscaled]
  · rw [hproduct, zpow_natCast, le_div_iff₀ hpow, ← pow_add, show e + shift = 52 + g by omega]
    exact hlowRat
  · rw [hproduct, show (e : ℤ) + 1 = ((e + 1 : ℕ) : ℤ) by push_cast; rfl, zpow_natCast,
      div_lt_iff₀ hpow, ← pow_add, show e + 1 + shift = 53 + g by omega]
    exact hhighRat
  · simp only [binary64]
    push_cast
    ring
  · simp only [binary64]
    omega

/-- The significand of the rounded quotient, by the remainder of the scaled amount.  A scaled amount
is a multiple of `256`, so its remainder is never one half of `10 ^ 8`. -/
theorem exists_significand {number : ℕ} (h : 256 ∣ number) :
    ∃ significand : ℤ, nearestEven (number / (10 ^ 8 : ℕ)) = significand ∧
      (number % 10 ^ 8 < 5 * 10 ^ 7 ∧
          significand * 10 ^ 8 = number - (number % 10 ^ 8 : ℕ) ∨
        5 * 10 ^ 7 < number % 10 ^ 8 ∧
          significand * 10 ^ 8 = number + (10 ^ 8 - (number % 10 ^ 8 : ℕ))) := by
  have hdivide := Nat.div_add_mod' number (10 ^ 8)
  rcases lt_trichotomy (2 * (number % 10 ^ 8)) (10 ^ 8) with hlt | heq | hgt
  · refine ⟨_, nearestEven_div_of_lt hlt, Or.inl ⟨by omega, ?_⟩⟩
    push_cast
    omega
  · omega
  · refine ⟨_, nearestEven_div_of_gt (by norm_num) hgt, Or.inr ⟨by omega, ?_⟩⟩
    push_cast
    omega

/-- Both roundings together: the product is `k` plus an offset of the scaled quotient, rounded on
the grid of the binade of `k`. -/
theorem round_round (hg : g = 26 ∨ g = 27) (he : e ≤ 52) (hshift : shift + e = 52 + g)
    (hlow : 2 ^ 52 * 10 ^ 8 ≤ k * 2 ^ shift) (hhigh : k * 2 ^ shift < 2 ^ 53 * 10 ^ 8)
    (hbinade : 2 ^ e ≤ k ∧ k < 2 ^ (e + 1)) {significand offset : ℤ}
    (hsignificand : nearestEven ((k * 2 ^ shift : ℕ) / (10 ^ 8 : ℕ)) = significand)
    (hoffset : significand * 10 ^ 8 = (k * 2 ^ shift : ℕ) + offset)
    (hsmall : |offset| ≤ 5 * 10 ^ 7) (hpower : k = 2 ^ e → 0 ≤ offset) :
    binary64.round (binary64.round (k / 10 ^ 8) * 10 ^ 8) =
      nearestEven (((k * 2 ^ (52 - e) : ℕ) : ℤ) + offset / (2 * (2 ^ (g - 1) : ℤ))) *
        2 ^ ((e : ℤ) - 52) := by
  have hunits : k * 2 ^ shift = k * 2 ^ (52 - e) * 2 ^ g := by
    rw [mul_assoc, ← pow_add]
    congr 2
    omega
  -- `k` is at least one unit away from both ends of its binade, or a power of two
  have hunitsLow : 2 ^ 52 ≤ k * 2 ^ (52 - e) := by
    calc
      2 ^ 52 = 2 ^ e * 2 ^ (52 - e) := by rw [← pow_add]; congr 1; omega
      _ ≤ k * 2 ^ (52 - e) := Nat.mul_le_mul_right _ hbinade.1
  have hunitsHigh : k * 2 ^ (52 - e) < 2 ^ 53 := by
    calc
      k * 2 ^ (52 - e) < 2 ^ (e + 1) * 2 ^ (52 - e) :=
        Nat.mul_lt_mul_of_pos_right hbinade.2 (by positivity)
      _ = 2 ^ 53 := by rw [← pow_add]; congr 1; omega
  have hend : k * 2 ^ (52 - e) = 2 ^ 52 → 0 ≤ offset := by
    intro h
    apply hpower
    have hsplit : 2 ^ 52 = 2 ^ e * 2 ^ (52 - e) := by rw [← pow_add]; congr 1; omega
    rw [hsplit] at h
    exact Nat.eq_of_mul_eq_mul_right (by positivity) h
  have hbounds := abs_le.mp hsmall
  generalize hK : k * 2 ^ (52 - e) = units at hunits hunitsLow hunitsHigh hend ⊢
  have hquotient := round_quotient hlow hhigh (by omega)
  rw [hsignificand] at hquotient
  rw [hunits] at hoffset
  have hproduct := round_product significand hshift
    (by rcases hg with rfl | rfl <;> push_cast at hoffset ⊢ <;> omega)
    (by rcases hg with rfl | rfl <;> push_cast at hoffset ⊢ <;> omega)
  rw [hquotient, hproduct]
  congr 3
  have hcast : (significand : ℚ) * 10 ^ 8 = units * 2 ^ g + offset := by
    have h := congrArg (fun number : ℤ ↦ (number : ℚ)) hoffset
    push_cast at h
    exact h
  have htwo : (2 : ℚ) * 2 ^ (g - 1) = 2 ^ g := by
    rw [← pow_succ']
    congr 1
    omega
  rw [hcast]
  push_cast
  rw [htwo]
  field_simp

end Rounding

/-! ## The amounts that are converted exactly -/

/-- The remainder that decides the conversion of `k` beddows. -/
def decimalRemainder (k : ℕ) : ℕ :=
  k * 2 ^ (78 - k.log2) % 10 ^ 8

/-- The amounts whose conversion misses them.  They lie in the upper part of their binade, and the
literal is rounded by more than a quarter of the grid of its own binade: downwards, or in either
direction once the grid of the product is as coarse as one beddow. -/
def Misconverts (k : ℕ) : Prop :=
  10 ^ 8 * 2 ^ k.log2 ≤ k * 2 ^ 26 ∧
    (2 ^ 25 < decimalRemainder k ∧ decimalRemainder k < 5 * 10 ^ 7 ∨
      2 ^ 52 ≤ k ∧
        (5 * 10 ^ 7 < decimalRemainder k ∧ decimalRemainder k + 2 ^ 25 < 10 ^ 8 ∨
          k % 2 = 1 ∧ (decimalRemainder k = 2 ^ 25 ∨ decimalRemainder k + 2 ^ 25 = 10 ^ 8)))

instance (k : ℕ) : Decidable (Misconverts k) :=
  inferInstanceAs (Decidable (_ ∧ _))

/-- The error of the rounded literal, in units of the last place of its own grid over `10 ^ 8`. -/
def quotientError (k : ℕ) : ℤ :=
  if decimalRemainder k < 5 * 10 ^ 7 then -decimalRemainder k else 10 ^ 8 - decimalRemainder k

/-- The error of the rounded product, in units of the last place of `k`. -/
def productError (k : ℕ) : ℤ :=
  if 10 ^ 8 * 2 ^ k.log2 ≤ k * 2 ^ 26 then
    if 2 ^ 25 < quotientError k ∨ quotientError k = 2 ^ 25 ∧ 2 ^ 52 ≤ k ∧ k % 2 = 1 then 1
    else if quotientError k < -2 ^ 25 ∨ quotientError k = -2 ^ 25 ∧ 2 ^ 52 ≤ k ∧ k % 2 = 1 then -1
    else 0
  else 0

section Units

variable {k : ℕ}

theorem log2_lt (hk : k < 2 ^ 53) : k.log2 < 53 := by
  rcases Nat.eq_zero_or_pos k with rfl | hpos
  · decide
  · exact (Nat.log2_lt hpos.ne').mpr hk

theorem log2_binade (hpos : 0 < k) : 2 ^ k.log2 ≤ k ∧ k < 2 ^ (k.log2 + 1) :=
  ⟨Nat.log2_self_le hpos.ne', Nat.lt_log2_self⟩

theorem dvd_scaled (hk : k < 2 ^ 53) : 256 ∣ k * 2 ^ (78 - k.log2) := by
  have hlog := log2_lt hk
  exact Dvd.dvd.mul_left (pow_dvd_pow 2 (by omega : 8 ≤ 78 - k.log2)) k

theorem decimalRemainder_lt (k : ℕ) : decimalRemainder k < 10 ^ 8 :=
  Nat.mod_lt _ (by norm_num)

theorem decimalRemainder_ne_half (hk : k < 2 ^ 53) : decimalRemainder k ≠ 5 * 10 ^ 7 := by
  have hdivides : 256 ∣ k * 2 ^ (78 - k.log2) := dvd_scaled hk
  unfold decimalRemainder
  omega

theorem abs_quotientError_le (k : ℕ) : |quotientError k| ≤ 5 * 10 ^ 7 := by
  have hremainder := decimalRemainder_lt k
  rw [abs_le]
  unfold quotientError
  split_ifs <;> omega

theorem misconverts_iff (hk : k < 2 ^ 53) :
    Misconverts k ↔ productError k = -1 ∨ productError k = 1 ∧ 2 ^ 52 ≤ k := by
  have hremainder := decimalRemainder_lt k
  have hhalf := decimalRemainder_ne_half hk
  have herror : decimalRemainder k < 5 * 10 ^ 7 ∧ quotientError k = -decimalRemainder k ∨
      5 * 10 ^ 7 < decimalRemainder k ∧ quotientError k = 10 ^ 8 - decimalRemainder k := by
    unfold quotientError
    split_ifs <;> omega
  unfold Misconverts productError
  generalize 2 ^ k.log2 = low
  constructor
  · rintro ⟨hupper, hremainders⟩
    rw [if_pos hupper]
    split_ifs <;> omega
  · rintro (h | ⟨h, hlarge⟩) <;> split_ifs at h <;> exact ⟨by omega, by omega⟩

/-- A number of units of the last place is odd only when the unit is one. -/
theorem units_odd_iff (hpos : 0 < k) (hk : k < 2 ^ 53) :
    ((k * 2 ^ (52 - k.log2) : ℕ) : ℤ) % 2 = 1 ↔ 2 ^ 52 ≤ k ∧ k % 2 = 1 := by
  have hlog := log2_lt hk
  rcases Nat.lt_or_ge k.log2 52 with hlt | hge
  · have hsmall : k < 2 ^ 52 := (Nat.log2_lt hpos.ne').mp hlt
    obtain ⟨rest, hrest⟩ := Nat.exists_eq_add_of_lt hlt
    have heven : k * 2 ^ (52 - k.log2) = 2 * (k * 2 ^ rest) := by
      rw [show 52 - k.log2 = rest + 1 by omega, pow_succ]
      ring
    omega
  · have hone : k * 2 ^ (52 - k.log2) = k := by
      rw [show 52 - k.log2 = 0 by omega, pow_zero, mul_one]
    have hlarge : 2 ^ 52 ≤ k := (Nat.le_log2 hpos.ne').mp hge
    rw [hone]
    omega

/-- In the upper part of its binade one unit of `k` is `2 ^ 26` units of the error. -/
theorem round_round_of_upper (hpos : 0 < k) (hk : k < 2 ^ 53)
    (hupper : 10 ^ 8 * 2 ^ k.log2 ≤ k * 2 ^ 26) :
    binary64.round (binary64.round (k / 10 ^ 8) * 10 ^ 8) =
      nearestEven (((k * 2 ^ (52 - k.log2) : ℕ) : ℤ) + quotientError k / (2 * (2 ^ 25 : ℤ))) *
        2 ^ ((k.log2 : ℤ) - 52) := by
  have hlog := log2_lt hk
  have hbinade := log2_binade hpos
  have hlow : 2 ^ 52 * 10 ^ 8 ≤ k * 2 ^ (78 - k.log2) := by
    calc
      2 ^ 52 * 10 ^ 8 = 10 ^ 8 * 2 ^ k.log2 * 2 ^ (52 - k.log2) := by
        rw [mul_assoc, ← pow_add, show k.log2 + (52 - k.log2) = 52 by omega, mul_comm]
      _ ≤ k * 2 ^ 26 * 2 ^ (52 - k.log2) := Nat.mul_le_mul_right _ hupper
      _ = k * 2 ^ (78 - k.log2) := by
        rw [mul_assoc, ← pow_add, show 26 + (52 - k.log2) = 78 - k.log2 by omega]
  have hhigh : k * 2 ^ (78 - k.log2) < 2 ^ 53 * 10 ^ 8 := by
    calc
      k * 2 ^ (78 - k.log2) < 2 ^ (k.log2 + 1) * 2 ^ (78 - k.log2) :=
        Nat.mul_lt_mul_of_pos_right hbinade.2 (by positivity)
      _ = 2 ^ 79 := by rw [← pow_add, show k.log2 + 1 + (78 - k.log2) = 79 by omega]
      _ < 2 ^ 53 * 10 ^ 8 := by norm_num
  obtain ⟨significand, hsignificand, hcases⟩ := exists_significand (dvd_scaled hk)
  change decimalRemainder k < _ ∧ _ = _ - ((decimalRemainder k : ℕ) : ℤ) ∨
    _ < decimalRemainder k ∧ _ = _ + (_ - ((decimalRemainder k : ℕ) : ℤ)) at hcases
  have hoffset : significand * 10 ^ 8 = (k * 2 ^ (78 - k.log2) : ℕ) + quotientError k := by
    unfold quotientError
    split_ifs <;> omega
  -- a power of two is in the lower part
  have hpower : k = 2 ^ k.log2 → 0 ≤ quotientError k := by
    intro h
    generalize 2 ^ k.log2 = low at h hupper
    omega
  exact round_round (g := 26) (Or.inl rfl) (by omega) (by omega) hlow hhigh hbinade hsignificand
    hoffset (abs_quotientError_le k) hpower

/-- In the lower part the literal is rounded on a grid twice as fine, and its error is always less
than half a unit of `k`. -/
theorem round_round_of_lower (hpos : 0 < k) (hk : k < 2 ^ 53)
    (hlower : k * 2 ^ 26 < 10 ^ 8 * 2 ^ k.log2) :
    binary64.round (binary64.round (k / 10 ^ 8) * 10 ^ 8) =
      ((k * 2 ^ (52 - k.log2) : ℕ) : ℤ) * 2 ^ ((k.log2 : ℤ) - 52) := by
  have hlog := log2_lt hk
  have hbinade := log2_binade hpos
  have hlow : 2 ^ 52 * 10 ^ 8 ≤ k * 2 ^ (79 - k.log2) := by
    calc
      2 ^ 52 * 10 ^ 8 ≤ 2 ^ 79 := by norm_num
      _ = 2 ^ k.log2 * 2 ^ (79 - k.log2) := by
        rw [← pow_add, show k.log2 + (79 - k.log2) = 79 by omega]
      _ ≤ k * 2 ^ (79 - k.log2) := Nat.mul_le_mul_right _ hbinade.1
  have hhigh : k * 2 ^ (79 - k.log2) < 2 ^ 53 * 10 ^ 8 := by
    calc
      k * 2 ^ (79 - k.log2) = k * 2 ^ 26 * 2 ^ (53 - k.log2) := by
        rw [mul_assoc, ← pow_add, show 26 + (53 - k.log2) = 79 - k.log2 by omega]
      _ < 10 ^ 8 * 2 ^ k.log2 * 2 ^ (53 - k.log2) :=
        Nat.mul_lt_mul_of_pos_right hlower (by positivity)
      _ = 2 ^ 53 * 10 ^ 8 := by
        rw [mul_assoc, ← pow_add, show k.log2 + (53 - k.log2) = 53 by omega, mul_comm]
  have hdivides : 256 ∣ k * 2 ^ (79 - k.log2) :=
    Dvd.dvd.mul_left (pow_dvd_pow 2 (by omega : 8 ≤ 79 - k.log2)) k
  obtain ⟨significand, hsignificand, hcases⟩ := exists_significand hdivides
  obtain ⟨offset, hoffset⟩ : ∃ offset : ℤ,
      significand * 10 ^ 8 = (k * 2 ^ (79 - k.log2) : ℕ) + offset :=
    ⟨significand * 10 ^ 8 - (k * 2 ^ (79 - k.log2) : ℕ), by ring⟩
  have hsmall : |offset| ≤ 5 * 10 ^ 7 := by
    rw [abs_le]
    omega
  -- the scaled power of two is `2 ^ 79`, which is rounded up
  have hpower : k = 2 ^ k.log2 → 0 ≤ offset := by
    intro h
    have hnumber : k * 2 ^ (79 - k.log2) = 2 ^ 79 := by
      calc
        k * 2 ^ (79 - k.log2) = 2 ^ k.log2 * 2 ^ (79 - k.log2) := congrArg (· * _) h
        _ = 2 ^ 79 := by rw [← pow_add, show k.log2 + (79 - k.log2) = 79 by omega]
    rw [hnumber] at hcases hoffset
    omega
  rw [round_round (g := 27) (Or.inr rfl) (by omega) (by omega) hlow hhigh hbinade hsignificand
    hoffset hsmall hpower]
  congr 2
  have hbounds := abs_le.mp hsmall
  have hrounded := nearestEven_add_offset ((k * 2 ^ (52 - k.log2) : ℕ) : ℤ) offset (2 ^ 26)
    (by norm_num) (hsmall.trans (by norm_num))
  rw [if_neg (by omega), if_neg (by omega)] at hrounded
  exact hrounded

/-- The twice rounded amount misses `k` by `productError k` units of its last place. -/
theorem round_round_eq (hpos : 0 < k) (hk : k < 2 ^ 53) :
    binary64.round (binary64.round (k / 10 ^ 8) * 10 ^ 8) =
      (((k * 2 ^ (52 - k.log2) : ℕ) + productError k : ℤ) : ℚ) * 2 ^ ((k.log2 : ℤ) - 52) := by
  rcases le_or_gt (10 ^ 8 * 2 ^ k.log2) (k * 2 ^ 26) with hupper | hlower
  · rw [round_round_of_upper hpos hk hupper,
      nearestEven_add_offset _ _ _ (by norm_num) ((abs_quotientError_le k).trans (by norm_num))]
    have hodd := units_odd_iff hpos hk
    congr 2
    unfold productError
    rw [if_pos hupper]
    simp only [hodd]
    split_ifs <;> ring
  · rw [round_round_of_lower hpos hk hlower]
    have hzero : productError k = 0 := if_neg (not_le.mpr hlower)
    rw [hzero, add_zero]

theorem productError_cases (k : ℕ) :
    productError k = -1 ∨ productError k = 0 ∨ productError k = 1 := by
  unfold productError
  split_ifs <;> simp only [true_or, or_true]

theorem productError_zero : productError 0 = 0 := by
  decide

/-- What is stored for `k` beddows. -/
def storedAmount (k : ℕ) : ℕ :=
  if productError k = -1 then k - 1
  else if productError k = 1 ∧ 2 ^ 52 ≤ k then k + 1
  else k

theorem storedAmount_eq_iff (hk : k < 2 ^ 53) : storedAmount k = k ↔ ¬Misconverts k := by
  have hzero : k = 0 → productError k = 0 := by
    rintro rfl
    exact productError_zero
  rw [misconverts_iff hk]
  unfold storedAmount
  split_ifs <;> omega

/-- The unit of the last place of `k`. -/
def lastPlace (k : ℕ) : ℚ :=
  (2 ^ (52 - k.log2))⁻¹

theorem lastPlace_pos (k : ℕ) : 0 < lastPlace k := by
  unfold lastPlace
  positivity

theorem lastPlace_le_one (k : ℕ) : lastPlace k ≤ 1 :=
  inv_le_one_of_one_le₀ (one_le_pow₀ (by norm_num))

theorem lastPlace_lt_one (hpos : 0 < k) (hk : k < 2 ^ 52) : lastPlace k < 1 := by
  have hlog := (Nat.log2_lt hpos.ne').mpr hk
  exact inv_lt_one_of_one_lt₀ (one_lt_pow₀ (by norm_num) (by omega))

theorem lastPlace_eq_one (hk : 2 ^ 52 ≤ k) : lastPlace k = 1 := by
  have hlog := (Nat.le_log2 (by omega : k ≠ 0)).mpr hk
  rw [lastPlace, show 52 - k.log2 = 0 by omega, pow_zero, inv_one]

theorem round_round_eq_add (hpos : 0 < k) (hk : k < 2 ^ 53) :
    binary64.round (binary64.round (k / 10 ^ 8) * 10 ^ 8) =
      k + productError k * lastPlace k := by
  have hlog := log2_lt hk
  have hunit : (2 : ℚ) ^ ((k.log2 : ℤ) - 52) = lastPlace k := by
    rw [lastPlace, ← zpow_natCast, ← zpow_neg]
    congr 1
    omega
  rw [round_round_eq hpos hk, hunit]
  push_cast
  rw [add_mul, lastPlace, mul_inv_cancel_right₀ (by positivity)]

/-- Truncation takes a whole beddow for any error below `k`; above it, only an error of a whole
beddow is seen. -/
theorem floor_product (hpos : 0 < k) :
    ⌊(k : ℚ) + productError k * lastPlace k⌋₊ = storedAmount k := by
  have hunitPos := lastPlace_pos k
  have hunitLe := lastPlace_le_one k
  have hone : (1 : ℚ) ≤ k := by exact_mod_cast hpos
  unfold storedAmount
  rcases productError_cases k with herror | herror | herror <;> rw [herror]
  · rw [if_pos rfl, Nat.floor_eq_iff (by push_cast; linarith)]
    push_cast [hpos]
    constructor <;> linarith
  · rw [if_neg (by norm_num), if_neg (by norm_num), Int.cast_zero, zero_mul, add_zero,
      Nat.floor_natCast]
  · rw [if_neg (by norm_num), Nat.floor_eq_iff (by push_cast; linarith)]
    rcases Nat.lt_or_ge k (2 ^ 52) with hsmall | hlarge
    · have hunitLt := lastPlace_lt_one hpos hsmall
      rw [if_neg (by omega)]
      push_cast
      constructor <;> linarith
    · rw [if_pos ⟨rfl, hlarge⟩, lastPlace_eq_one hlarge]
      push_cast
      constructor <;> linarith

/-- What the conversion of a decimal amount of `k` beddows gives. -/
theorem fixedPoint_decimal (hk : k < 2 ^ 53) :
    (Double.nearest (k / 10 ^ 8)).fixedPoint = some (UInt64.ofNat (storedAmount k)) := by
  have hkRat : (k : ℚ) < 2 ^ 53 := by exact_mod_cast hk
  have hquotient : |binary64.round (k / 10 ^ 8)| < 2 ^ 1024 := by
    apply Double.lt_overflow
    have hzero : binary64.Representable 0 :=
      ⟨0, 0, by norm_num, by norm_num [binary64], by norm_num⟩
    have hnear := binary64.abs_sub_round_le (x := (k : ℚ) / 10 ^ 8) hzero
    rw [sub_zero, abs_of_nonneg (by positivity : (0 : ℚ) ≤ k / 10 ^ 8), abs_le] at hnear
    rw [abs_lt]
    constructor <;> linarith
  rcases Nat.eq_zero_or_pos k with rfl | hpos
  · have hround : binary64.round 0 = 0 :=
      binary64.round_of_representable ⟨0, 0, by norm_num, by norm_num [binary64], by norm_num⟩
    have hproduct : binary64.round (binary64.round ((0 : ℕ) / 10 ^ 8) * 10 ^ 8) = 0 := by
      rw [Nat.cast_zero, zero_div, hround, zero_mul, hround]
    rw [fixedPoint_nearest hquotient hproduct le_rfl (by positivity), Nat.floor_zero, storedAmount,
      productError_zero]
    rfl
  · have hone : (1 : ℚ) ≤ k := by exact_mod_cast hpos
    have hunitPos := lastPlace_pos k
    have hunitLe := lastPlace_le_one k
    have hbounds : 0 ≤ (k : ℚ) + productError k * lastPlace k ∧
        (k : ℚ) + productError k * lastPlace k < 2 ^ 64 := by
      rcases productError_cases k with herror | herror | herror <;> rw [herror] <;> push_cast <;>
        constructor <;> linarith
    rw [← floor_product hpos]
    exact fixedPoint_nearest hquotient (round_round_eq_add hpos hk) hbounds.1 hbounds.2

/-- The amounts that reach a transaction unchanged. -/
theorem fixedPoint_decimal_eq_iff (hk : k < 2 ^ 53) :
    (Double.nearest (k / 10 ^ 8)).fixedPoint = some (UInt64.ofNat k) ↔ ¬Misconverts k := by
  have hamount : k < 2 ^ 64 := by omega
  have hstored : storedAmount k < 2 ^ 64 := by
    unfold storedAmount
    split_ifs <;> omega
  rw [fixedPoint_decimal hk, ← storedAmount_eq_iff hk, Option.some_inj, ← UInt64.toNat_inj,
    UInt64.toNat_ofNat_of_lt' hstored, UInt64.toNat_ofNat_of_lt' hamount]

end Units

end RxLisk

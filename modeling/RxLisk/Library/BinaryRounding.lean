import Mathlib.Data.Int.Log
import Mathlib.Data.Rat.Floor
import Mathlib.Algebra.Order.Field.Power
import Mathlib.Algebra.Order.Floor.Ring
import Mathlib.Data.Sign.Basic
import Mathlib.Tactic.Linarith
import Mathlib.Tactic.Positivity
import Mathlib.Tactic.FieldSimp
import Mathlib.Tactic.Ring

/-!
# Rounding to a binary floating-point format

A format keeps `precision` significant bits and no exponent below `minExponent`; its exponents are
not bounded above.  `round` divides by the quantum of its argument, takes the nearest integer with
ties to even and scales back.  The result is representable, no representable number is nearer to
the argument, and representable numbers are left alone.
-/

namespace BinaryRounding

/-! ## Nearest integers -/

/-- The nearest integer, or the even one of two equally near integers. -/
def nearestEven (x : ℚ) : ℤ :=
  let low := ⌊x⌋
  if x - low < 1 / 2 then low
  else if 1 / 2 < x - low then low + 1
  else if low % 2 = 0 then low else low + 1

theorem abs_sub_nearestEven_le (x : ℚ) : |x - nearestEven x| ≤ 1 / 2 := by
  have hlow := Int.floor_le x
  have hhigh := Int.lt_floor_add_one x
  unfold nearestEven
  dsimp only
  rw [abs_le]
  split_ifs <;> push_cast <;> constructor <;> linarith

theorem nearestEven_eq_of_abs_sub_lt {x : ℚ} {n : ℤ} (h : |x - n| < 1 / 2) :
    nearestEven x = n := by
  have hnear := abs_sub_nearestEven_le x
  rw [abs_lt] at h
  rw [abs_le] at hnear
  have hupper : (nearestEven x : ℚ) < n + 1 := by linarith
  have hlower : (n : ℚ) < nearestEven x + 1 := by linarith
  have hupperInt : nearestEven x < n + 1 := by exact_mod_cast hupper
  have hlowerInt : n < nearestEven x + 1 := by exact_mod_cast hlower
  omega

@[simp]
theorem nearestEven_intCast (n : ℤ) : nearestEven n = n :=
  nearestEven_eq_of_abs_sub_lt (by norm_num)

/-- Halfway between two integers the even one is taken. -/
theorem nearestEven_add_half (n : ℤ) :
    nearestEven (n + 1 / 2) = if n % 2 = 0 then n else n + 1 := by
  have hfloor : ⌊(n : ℚ) + 1 / 2⌋ = n := by
    rw [Int.floor_eq_iff]
    constructor <;> linarith
  have hrest : (n : ℚ) + 1 / 2 - n = 1 / 2 := by ring
  simp only [nearestEven, hfloor, hrest, lt_irrefl, if_false]

/-- Rounding an integer with an offset of at most one unit: the integer moves when the offset is
more than half a unit, or exactly half a unit from an odd integer. -/
theorem nearestEven_add_offset (n offset half : ℤ) (hhalf : 0 < half)
    (hoffset : |offset| ≤ 2 * half) :
    nearestEven (n + offset / (2 * half)) =
      if half < offset ∨ offset = half ∧ n % 2 = 1 then n + 1
      else if offset < -half ∨ offset = -half ∧ n % 2 = 1 then n - 1
      else n := by
  have hpos : (0 : ℚ) < 2 * half := by exact_mod_cast (by omega : 0 < 2 * half)
  have hbound := abs_le.mp hoffset
  -- away from the ties the distance to the chosen integer is below one half
  have hnear (m : ℤ) (h : |offset - 2 * half * (m - n)| < half) :
      nearestEven (n + offset / (2 * half)) = m := by
    apply nearestEven_eq_of_abs_sub_lt
    have hdistance : (n : ℚ) + offset / (2 * half) - m =
        ((offset - 2 * half * (m - n) : ℤ) : ℚ) / (2 * half) := by
      push_cast
      field_simp
      ring
    have hcast : |((offset - 2 * half * (m - n) : ℤ) : ℚ)| < half := by exact_mod_cast h
    rw [hdistance, abs_div, abs_of_pos hpos, div_lt_iff₀ hpos]
    linarith
  have htie : (half : ℚ) / (2 * half) = 1 / 2 := by
    rw [div_eq_div_iff hpos.ne' (by norm_num)]
    ring
  rcases lt_trichotomy offset half with hlt | rfl | hgt
  · rcases lt_trichotomy offset (-half) with hbelow | rfl | habove
    · rw [hnear (n - 1) (by rw [abs_lt]; constructor <;> linarith)]
      rw [if_neg (by omega), if_pos (Or.inl hbelow)]
    · have hshift : (n : ℚ) + ((-half : ℤ) : ℚ) / (2 * half) = ((n - 1 : ℤ) : ℚ) + 1 / 2 := by
        rw [← htie]
        push_cast
        field_simp
        ring
      rw [hshift, nearestEven_add_half]
      split_ifs <;> omega
    · rw [hnear n (by rw [abs_lt]; constructor <;> linarith)]
      rw [if_neg (by omega), if_neg (by omega)]
  · rw [htie, nearestEven_add_half]
    split_ifs <;> omega
  · rw [hnear (n + 1) (by rw [abs_lt]; constructor <;> linarith)]
    rw [if_pos (Or.inl hgt)]

/-- No integer is nearer than the rounded one. -/
theorem abs_sub_nearestEven_le_abs_sub (x : ℚ) (n : ℤ) : |x - nearestEven x| ≤ |x - n| := by
  by_cases h : |x - n| < 1 / 2
  · rw [nearestEven_eq_of_abs_sub_lt h]
  · exact (abs_sub_nearestEven_le x).trans (not_lt.mp h)

/-- A quotient of natural numbers with a remainder below one half is rounded down. -/
theorem nearestEven_div_of_lt {number divisor : ℕ} (h : 2 * (number % divisor) < divisor) :
    nearestEven (number / divisor) = (number / divisor : ℕ) := by
  have hpos : (0 : ℚ) < divisor := by exact_mod_cast (show 0 < divisor by omega)
  have hsplit : (number : ℚ) = (number / divisor : ℕ) * divisor + (number % divisor : ℕ) := by
    exact_mod_cast (Nat.div_add_mod' number divisor).symm
  have hlt : 2 * ((number % divisor : ℕ) : ℚ) < divisor := by exact_mod_cast h
  apply nearestEven_eq_of_abs_sub_lt
  have hdifference : (number : ℚ) / divisor - ((number / divisor : ℕ) : ℤ) =
      (number % divisor : ℕ) / divisor := by
    rw [Int.cast_natCast, eq_div_iff hpos.ne', sub_mul, div_mul_cancel₀ _ hpos.ne']
    linarith
  rw [hdifference, abs_of_nonneg (by positivity), div_lt_iff₀ hpos]
  linarith

/-- A quotient of natural numbers with a remainder above one half is rounded up. -/
theorem nearestEven_div_of_gt {number divisor : ℕ} (hpositive : 0 < divisor)
    (h : divisor < 2 * (number % divisor)) :
    nearestEven (number / divisor) = (number / divisor : ℕ) + 1 := by
  have hpos : (0 : ℚ) < divisor := by exact_mod_cast hpositive
  have hsplit : (number : ℚ) = (number / divisor : ℕ) * divisor + (number % divisor : ℕ) := by
    exact_mod_cast (Nat.div_add_mod' number divisor).symm
  have hgt : (divisor : ℚ) < 2 * (number % divisor : ℕ) := by exact_mod_cast h
  have hmod : ((number % divisor : ℕ) : ℚ) < divisor := by
    exact_mod_cast Nat.mod_lt number hpositive
  apply nearestEven_eq_of_abs_sub_lt
  have hdifference : (number : ℚ) / divisor - (((number / divisor : ℕ) + 1 : ℤ) : ℚ) =
      ((number % divisor : ℕ) - divisor) / divisor := by
    rw [Int.cast_add, Int.cast_natCast, Int.cast_one, eq_div_iff hpos.ne', sub_mul,
      div_mul_cancel₀ _ hpos.ne']
    linarith
  rw [hdifference, abs_of_nonpos (div_nonpos_of_nonpos_of_nonneg (by linarith) hpos.le),
    ← neg_div, div_lt_iff₀ hpos]
  linarith

/-! ## Formats -/

/-- A binary format with gradual underflow and no upper bound on the exponents. -/
structure Format where
  precision : ℕ
  minExponent : ℤ
  precision_pos : 0 < precision

namespace Format

variable (format : Format)

def Representable (x : ℚ) : Prop :=
  ∃ significand exponent : ℤ, |significand| < 2 ^ format.precision ∧
    format.minExponent ≤ exponent ∧ x = significand * 2 ^ exponent

/-- The exponent of the last bit that the format keeps of `x`. -/
def quantumExponent (x : ℚ) : ℤ :=
  max (Int.log 2 |x| + 1 - format.precision) format.minExponent

def round (x : ℚ) : ℚ :=
  nearestEven (x / 2 ^ format.quantumExponent x) * 2 ^ format.quantumExponent x

theorem log_eq_of_binade {x : ℚ} {exponent : ℤ} (hlow : 2 ^ exponent ≤ x)
    (hhigh : x < 2 ^ (exponent + 1)) : Int.log 2 x = exponent := by
  have hpos : 0 < x := lt_of_lt_of_le (by positivity) hlow
  have hge := (Int.zpow_le_iff_le_log (b := 2) (by norm_num) hpos).mp (by exact_mod_cast hlow)
  have hlt := (Int.lt_zpow_iff_log_lt (b := 2) (by norm_num) hpos).mp (by exact_mod_cast hhigh)
  omega

/-- On a positive binade above the underflow range the quantum is constant. -/
theorem round_eq_of_binade {x : ℚ} (exponent quantum : ℤ) (hlow : 2 ^ exponent ≤ x)
    (hhigh : x < 2 ^ (exponent + 1)) (hquantum : quantum = exponent + 1 - format.precision)
    (hmin : format.minExponent ≤ quantum) :
    format.round x = nearestEven (x / 2 ^ quantum) * 2 ^ quantum := by
  have hpos : 0 < x := lt_of_lt_of_le (by positivity) hlow
  have hexponent : format.quantumExponent x = quantum := by
    rw [quantumExponent, abs_of_pos hpos, log_eq_of_binade hlow hhigh, ← hquantum]
    exact max_eq_left hmin
  rw [round, hexponent]

/-- Multiples of the quantum are left alone. -/
theorem round_eq_self_of_multiple {x : ℚ} {k : ℤ} (h : x = k * 2 ^ format.quantumExponent x) :
    format.round x = x := by
  have hquotient : x / 2 ^ format.quantumExponent x = k := by
    rw [div_eq_iff (by positivity)]
    exact h
  rw [round, hquotient, nearestEven_intCast]
  exact h.symm

/-- A number with a quantum below the exponent it is written with is a multiple of the quantum. -/
theorem exists_eq_mul_quantum (m : ℤ) {exponent quantum : ℤ} (h : quantum ≤ exponent) :
    ∃ k : ℤ, (m : ℚ) * 2 ^ exponent = k * 2 ^ quantum := by
  obtain ⟨shift, hshift⟩ := Int.eq_ofNat_of_zero_le (sub_nonneg.mpr h)
  refine ⟨m * 2 ^ shift, ?_⟩
  have hsplit : exponent = (shift : ℤ) + quantum := by omega
  rw [hsplit, zpow_add₀ (by norm_num), zpow_natCast]
  push_cast
  ring

theorem abs_lt_zpow_of_significand {m : ℤ} (exponent : ℤ) (h : |m| < 2 ^ format.precision) :
    |(m : ℚ) * 2 ^ exponent| < 2 ^ ((format.precision : ℤ) + exponent) := by
  have hcast : |(m : ℚ)| < 2 ^ format.precision := by exact_mod_cast h
  rw [abs_mul, abs_of_pos (by positivity : (0 : ℚ) < 2 ^ exponent), zpow_add₀ (by norm_num),
    zpow_natCast]
  exact mul_lt_mul_of_pos_right hcast (by positivity)

theorem abs_lt_zpow_log (x : ℚ) : |x| < 2 ^ (Int.log 2 |x| + 1) := by
  have h := Int.lt_zpow_succ_log_self (b := 2) (by norm_num) |x|
  exact_mod_cast h

theorem zpow_log_le_abs {x : ℚ} (hx : x ≠ 0) : 2 ^ Int.log 2 |x| ≤ |x| := by
  have h := Int.zpow_log_le_self (b := 2) (by norm_num) (abs_pos.mpr hx)
  exact_mod_cast h

theorem quantumExponent_le {x : ℚ} (hx : x ≠ 0) {m exponent : ℤ}
    (hm : |m| < 2 ^ format.precision) (hmin : format.minExponent ≤ exponent)
    (h : x = m * 2 ^ exponent) : format.quantumExponent x ≤ exponent := by
  have hlt := format.abs_lt_zpow_of_significand exponent hm
  rw [← h] at hlt
  have hlog : Int.log 2 |x| < format.precision + exponent :=
    (zpow_lt_zpow_iff_right₀ (by norm_num : (1 : ℚ) < 2)).mp ((zpow_log_le_abs hx).trans_lt hlt)
  exact max_le (by omega) hmin

/-- Representable numbers are left alone. -/
theorem round_of_representable {x : ℚ} (h : format.Representable x) : format.round x = x := by
  obtain ⟨m, exponent, hm, hmin, rfl⟩ := h
  by_cases hzero : (m : ℚ) * 2 ^ exponent = 0
  · exact format.round_eq_self_of_multiple (k := 0) (by simp [hzero])
  · obtain ⟨k, hk⟩ := exists_eq_mul_quantum m (format.quantumExponent_le hzero hm hmin rfl)
    exact format.round_eq_self_of_multiple hk

/-- Rounding gives a representable number. -/
theorem representable_round (x : ℚ) : format.Representable (format.round x) := by
  let quantum := format.quantumExponent x
  let k := nearestEven (x / 2 ^ quantum)
  have hmin : format.minExponent ≤ quantum := le_max_right _ _
  -- the scaled argument is below `2 ^ precision`, so the rounded one is at most that
  have hscaled : |x / 2 ^ quantum| < 2 ^ format.precision := by
    have hlog : Int.log 2 |x| + 1 ≤ format.precision + quantum := by
      have := le_max_left (Int.log 2 |x| + 1 - format.precision) format.minExponent
      change _ ≤ quantum at this
      omega
    have hbound : |x| < 2 ^ ((format.precision : ℤ) + quantum) :=
      (abs_lt_zpow_log x).trans_le (zpow_le_zpow_right₀ (by norm_num) hlog)
    rw [abs_div, abs_of_pos (by positivity : (0 : ℚ) < 2 ^ quantum), div_lt_iff₀ (by positivity)]
    rwa [zpow_add₀ (by norm_num), zpow_natCast] at hbound
  have hk : |k| ≤ 2 ^ format.precision := by
    have hnear := abs_sub_nearestEven_le (x / 2 ^ quantum)
    have htriangle : |(k : ℚ)| ≤ |x / 2 ^ quantum| + |x / 2 ^ quantum - k| := by
      have := abs_sub_abs_le_abs_sub (k : ℚ) (x / 2 ^ quantum)
      rw [abs_sub_comm] at this
      linarith
    have hlt : |(k : ℚ)| < 2 ^ format.precision + 1 := by linarith
    have hltInt : |k| < 2 ^ format.precision + 1 := by exact_mod_cast hlt
    omega
  rcases hk.lt_or_eq with hlt | heq
  · exact ⟨k, quantum, hlt, hmin, rfl⟩
  · -- a carry into the next binade: halve the significand
    obtain ⟨p, hp⟩ := Nat.exists_eq_add_of_lt format.precision_pos
    rw [Nat.zero_add] at hp
    obtain ⟨sign, hsign, hk⟩ : ∃ sign : ℤ, |sign| = 1 ∧ k = sign * 2 ^ format.precision := by
      rcases abs_choice k with h | h
      · exact ⟨1, by norm_num, by omega⟩
      · exact ⟨-1, by norm_num, by omega⟩
    refine ⟨sign * 2 ^ p, quantum + 1, ?_, by omega, ?_⟩
    · rw [abs_mul, hsign, one_mul, abs_of_pos (by positivity), hp]
      exact pow_lt_pow_right₀ (by norm_num) (Nat.lt_succ_self p)
    · change (k : ℚ) * 2 ^ quantum = _
      rw [hk, hp, zpow_add₀ (by norm_num), zpow_one]
      push_cast
      ring

/-- No representable number is nearer than the rounded one. -/
theorem abs_sub_round_le {x y : ℚ} (hy : format.Representable y) :
    |x - format.round x| ≤ |x - y| := by
  let quantum := format.quantumExponent x
  have hpos : (0 : ℚ) < 2 ^ quantum := by positivity
  have hgrid (k : ℤ) : |x - format.round x| ≤ |x - k * 2 ^ quantum| := by
    have hscale (k : ℤ) : |x - k * 2 ^ quantum| = |x / 2 ^ quantum - k| * 2 ^ quantum := by
      rw [← abs_of_pos hpos, ← abs_mul, abs_of_pos hpos, sub_mul, div_mul_cancel₀ _ hpos.ne']
    change |x - nearestEven (x / 2 ^ quantum) * 2 ^ quantum| ≤ _
    rw [hscale, hscale]
    exact mul_le_mul_of_nonneg_right (abs_sub_nearestEven_le_abs_sub _ k) hpos.le
  by_cases hx : x = 0
  · have hself := hgrid 0
    subst hx
    simp only [Int.cast_zero, zero_mul, sub_zero, abs_zero] at hself
    exact hself.trans (abs_nonneg _)
  obtain ⟨m, exponent, hm, hmin, rfl⟩ := hy
  by_cases hfine : quantum ≤ exponent
  · obtain ⟨k, hk⟩ := exists_eq_mul_quantum m hfine
    rw [hk]
    exact hgrid k
  · -- `y` is on a finer grid, hence below the binade of `x`, whose lower end is on the grid
    let exponentOfX := Int.log 2 |x|
    have hquantum : quantum = exponentOfX + 1 - format.precision := by
      rcases max_choice (exponentOfX + 1 - format.precision) format.minExponent with h | h
      · exact h
      · change quantum = _ at h
        omega
    have hsmall : |(m : ℚ) * 2 ^ exponent| ≤ 2 ^ exponentOfX :=
      (format.abs_lt_zpow_of_significand exponent hm).le.trans
        (zpow_le_zpow_right₀ (by norm_num) (by omega))
    have hprecision := format.precision_pos
    obtain ⟨k, hk⟩ := exists_eq_mul_quantum (SignType.sign x : ℤ)
      (show quantum ≤ exponentOfX by omega)
    have hend : |x - (SignType.sign x : ℤ) * 2 ^ exponentOfX| = |x| - 2 ^ exponentOfX := by
      have hle : 2 ^ exponentOfX ≤ |x| := zpow_log_le_abs hx
      rcases lt_or_gt_of_ne hx with hneg | hpos
      · rw [abs_of_neg hneg] at hle ⊢
        simp only [sign_neg hneg, SignType.coe_neg_one, Int.cast_neg, Int.cast_one]
        rw [abs_of_nonpos (by linarith)]
        ring
      · rw [abs_of_pos hpos] at hle ⊢
        simp only [sign_pos hpos, SignType.coe_one, Int.cast_one, one_mul]
        rw [abs_of_nonneg (by linarith)]
    calc
      |x - format.round x| ≤ |x - k * 2 ^ quantum| := hgrid k
      _ = |x| - 2 ^ exponentOfX := by rw [← hk, hend]
      _ ≤ |x| - |(m : ℚ) * 2 ^ exponent| := by linarith
      _ ≤ |x - m * 2 ^ exponent| := abs_sub_abs_le_abs_sub _ _

end Format

end BinaryRounding

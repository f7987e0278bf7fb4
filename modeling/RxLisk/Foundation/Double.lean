import RxLisk.Library.BinaryRounding

/-!
# `Double` and its conversions to unsigned integers

A finite `Double` is a number of the binary64 format below `2 ^ 1024`.  An arithmetic operation
rounds its exact result, and overflows to an infinity where the rounded result is out of range.
Signed zeros and payloads of NaNs are not distinguished; no conversion to an integer sees them.
-/

namespace RxLisk

def binary64 : BinaryRounding.Format where
  precision := 53
  minExponent := -1074
  precision_pos := by norm_num

/-- A finite value: a number that the format represents. -/
structure FiniteDouble where
  value : ℚ
  round_eq : binary64.round value = value
  abs_lt : |value| < 2 ^ 1024
deriving DecidableEq

inductive Double where
  | finite (number : FiniteDouble)
  | infinity (negative : Bool)
  | nan
deriving DecidableEq

namespace Double

/-- The `Double` nearest to an exact number, as a literal or an operation gives it. -/
def nearest (x : ℚ) : Double :=
  if h : |binary64.round x| < 2 ^ 1024 then
    .finite
      { value := binary64.round x
        round_eq := binary64.round_of_representable (binary64.representable_round x)
        abs_lt := h }
  else .infinity (x < 0)

def neg : Double → Double
  | .finite number => nearest (-number.value)
  | .infinity negative => .infinity !negative
  | .nan => .nan

def add : Double → Double → Double
  | .nan, _ => .nan
  | _, .nan => .nan
  | .finite left, .finite right => nearest (left.value + right.value)
  | .infinity left, .infinity right => if left = right then .infinity left else .nan
  | .infinity negative, .finite _ => .infinity negative
  | .finite _, .infinity negative => .infinity negative

def mul : Double → Double → Double
  | .nan, _ => .nan
  | _, .nan => .nan
  | .finite left, .finite right => nearest (left.value * right.value)
  | .infinity left, .infinity right => .infinity (left != right)
  | .infinity negative, .finite number =>
    if number.value = 0 then .nan else .infinity (negative != decide (number.value < 0))
  | .finite number, .infinity negative =>
    if number.value = 0 then .nan else .infinity (negative != decide (number.value < 0))

def div : Double → Double → Double
  | .nan, _ => .nan
  | _, .nan => .nan
  | .finite left, .finite right =>
    if right.value = 0 then if left.value = 0 then .nan else .infinity (left.value < 0)
    else nearest (left.value / right.value)
  | .infinity _, .infinity _ => .nan
  | .infinity negative, .finite number => .infinity (negative != decide (number.value < 0))
  | .finite _, .infinity _ => nearest 0

instance : Add Double := ⟨add⟩

instance : Mul Double := ⟨mul⟩

instance : Div Double := ⟨div⟩

instance : Sub Double := ⟨fun left right ↦ add left (neg right)⟩

/-- Conversion to an unsigned integer type with `bound` values: truncation toward zero, and a trap
when the result does not fit. -/
def toUnsigned (bound : ℕ) : Double → Option ℕ
  | .finite number =>
    if -1 < number.value ∧ number.value < bound then some ⌊number.value⌋₊ else none
  | .infinity _ => none
  | .nan => none

def toUInt64 (double : Double) : Option UInt64 :=
  (toUnsigned (2 ^ 64) double).map UInt64.ofNat

def toUInt32 (double : Double) : Option UInt32 :=
  (toUnsigned (2 ^ 32) double).map UInt32.ofNat

/-- No finite `Double` is nearer to the exact number than the one that is chosen. -/
theorem abs_sub_nearest_le {x : ℚ} {number : FiniteDouble} (h : nearest x = .finite number)
    (other : FiniteDouble) : |x - number.value| ≤ |x - other.value| := by
  have hvalue : number.value = binary64.round x := by
    unfold nearest at h
    split at h
    · cases h
      rfl
    · cases h
  have hother : binary64.Representable other.value := by
    have hround := binary64.representable_round other.value
    rwa [other.round_eq] at hround
  rw [hvalue]
  exact binary64.abs_sub_round_le hother

/-- Numbers below `2 ^ 64` are far from overflow. -/
theorem lt_overflow {x : ℚ} (h : x < 2 ^ 64) : x < 2 ^ 1024 :=
  h.trans (pow_lt_pow_right₀ (by norm_num) (by norm_num))

/-- The rounded value is found in the result when it is in range. -/
theorem nearest_eq_finite {x : ℚ} (h : |binary64.round x| < 2 ^ 1024) :
    ∃ number, nearest x = .finite number ∧ number.value = binary64.round x :=
  ⟨_, dif_pos h, rfl⟩

end Double

end RxLisk

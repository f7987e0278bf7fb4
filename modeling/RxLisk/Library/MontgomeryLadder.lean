import RxLisk.Library.TwistedEdwards
import Mathlib.Algebra.Module.NatInt
import Mathlib.Data.Nat.BinaryRec
import Mathlib.Tactic.Module

/-!
# The Montgomery ladder

The coordinate `u = (1 + y) / (1 - y)` of a multiple of a point depends on the coordinate of the
point only.  The ladder keeps this coordinate, as a fraction, for two neighbouring multiples, and
takes in the digits of the factor from the highest down.
-/

namespace MontgomeryLadder

open TwistedEdwards

variable {F : Type*} [Field F]

/-! ## The steps -/

/-- The fraction of the double. -/
def double (a : F) (p : F × F) : F × F :=
  let sum := (p.1 + p.2) ^ 2
  let difference := (p.1 - p.2) ^ 2
  (sum * difference, (sum - difference) * (difference + a * (sum - difference)))

/-- The fraction of the sum, given the coordinate of the difference. -/
def diffAdd (u : F) (p q : F × F) : F × F :=
  let left := (q.1 - q.2) * (p.1 + p.2)
  let right := (q.1 + q.2) * (p.1 - p.2)
  ((left + right) ^ 2, u * (left - right) ^ 2)

/-- One digit: the first fraction is doubled, or the second for the digit one. -/
def rung (a u : F) (pair : (F × F) × (F × F)) (digit : Bool) : (F × F) × (F × F) :=
  if digit then (diffAdd u pair.2 pair.1, double a pair.2)
  else (double a pair.1, diffAdd u pair.1 pair.2)

/-- The two fractions after the digits. -/
def ladder (a u : F) (digits : List Bool) : (F × F) × (F × F) :=
  digits.foldl (rung a u) ((1, 0), (u, 1))

/-- The number with the digits, the highest first. -/
def ofDigits (digits : List Bool) : ℕ :=
  digits.foldl (fun number digit ↦ 2 * number + digit.toNat) 0

theorem foldl_testBit (number length start : ℕ) :
    ((List.range length).reverse.map number.testBit).foldl
      (fun number digit ↦ 2 * number + digit.toNat) start = start * 2 ^ length + number % 2 ^ length := by
  induction length generalizing start with
  | zero => simp [Nat.mod_one]
  | succ length ih =>
    have hdigit : (number.testBit length).toNat = number / 2 ^ length % 2 := Nat.toNat_testBit ..
    have hsplit := Nat.mod_mul (x := number) (a := 2 ^ length) (b := 2)
    rw [List.range_succ, List.reverse_append, List.reverse_singleton, List.singleton_append,
      List.map_cons, List.foldl_cons, ih, hdigit, pow_succ, hsplit]
    ring

/-- The lowest digits of a number. -/
theorem ofDigits_testBit (number length : ℕ) :
    ofDigits ((List.range length).reverse.map number.testBit) = number % 2 ^ length := by
  rw [ofDigits, foldl_testBit, zero_mul, zero_add]

/-! ## What the fractions stand for -/

variable {d : F} {P Q : Point d} {p q : F × F}

/-- The coordinate `u` of a point; the neutral point is given zero. -/
def coordinate (P : Point d) : F := (1 + P.y) / (1 - P.y)

/-- The fraction is the coordinate `u`, with denominator zero for the neutral point. -/
structure IsFraction (P : Point d) (p : F × F) : Prop where
  ne_zero : p.1 ≠ 0 ∨ p.2 ≠ 0
  ratio : p.1 * (1 - P.y) = p.2 * (1 + P.y)

variable [Complete d]

/-- The quotient of the fraction, with the convention that dividing by zero gives zero. -/
theorem IsFraction.quotient (h : IsFraction P p) : p.1 * p.2⁻¹ = coordinate P := by
  have htwo := Complete.two_ne_zero d
  have hratio := h.ratio
  by_cases hdenominator : p.2 = 0
  · have hnumerator : p.1 ≠ 0 := h.ne_zero.resolve_right (not_not_intro hdenominator)
    rw [hdenominator, zero_mul] at hratio
    have hy : 1 - P.y = 0 := (mul_eq_zero.mp hratio).resolve_left hnumerator
    rw [hdenominator, inv_zero, mul_zero, coordinate, hy, div_zero]
  · have hy : 1 - P.y ≠ 0 := by
      intro hzero
      rw [hzero, mul_zero, zero_eq_mul] at hratio
      have hsum := hratio.resolve_left hdenominator
      exact htwo (by linear_combination hzero + hsum)
    rw [coordinate, eq_div_iff hy]
    field_simp
    exact hratio

theorem IsFraction.exists_scale (h : IsFraction P p) :
    ∃ scale, scale ≠ 0 ∧ p.1 = scale * (1 + P.y) ∧ p.2 = scale * (1 - P.y) := by
  have htwo := Complete.two_ne_zero d
  have hratio := h.ratio
  have hfirst : p.1 = (p.1 + p.2) / 2 * (1 + P.y) := by
    field_simp
    linear_combination hratio
  have hsecond : p.2 = (p.1 + p.2) / 2 * (1 - P.y) := by
    field_simp
    linear_combination -hratio
  refine ⟨(p.1 + p.2) / 2, ?_, hfirst, hsecond⟩
  intro hzero
  rw [hzero, zero_mul] at hfirst hsecond
  rcases h.ne_zero with hne | hne
  · exact hne hfirst
  · exact hne hsecond

theorem IsFraction.double {a : F} (ha : d * a = 1 - a) (h : IsFraction P p) :
    IsFraction (P + P) (double a p) := by
  have htwo := Complete.two_ne_zero d
  have hane : a ≠ 0 := by
    rintro rfl
    simp at ha
  have hcurve := P.onCurve
  have hminus := one_sub_ne_zero P.onCurve P.onCurve
  have hy := Point.add_y_mul P P
  unfold OnCurve at hcurve
  obtain ⟨scale, hscale, hfirst, hsecond⟩ := h.exists_scale
  have hnumerator : (MontgomeryLadder.double a p).1 = (2 * scale) ^ 4 * P.y ^ 2 := by
    rw [MontgomeryLadder.double, hfirst, hsecond]
    ring
  have hdenominator : (MontgomeryLadder.double a p).2 =
      (2 * scale) ^ 4 * ((1 - P.y ^ 2) * (P.y ^ 2 + a * (1 - P.y ^ 2))) := by
    rw [MontgomeryLadder.double, hfirst, hsecond]
    ring
  have hfactor : (2 * scale) ^ 4 ≠ 0 := pow_ne_zero 4 (mul_ne_zero htwo hscale)
  constructor
  · by_cases hzero : P.y = 0
    · right
      rw [hdenominator, hzero]
      simpa [htwo, hscale] using hane
    · left
      rw [hnumerator]
      exact mul_ne_zero hfactor (pow_ne_zero 2 hzero)
  · have hsum : (1 + (P + P).y) * (1 - d * P.x * P.x * P.y * P.y) = 2 * (1 + P.x ^ 2) := by
      linear_combination hy + hcurve
    have hdifference : (1 - (P + P).y) * (1 - d * P.x * P.x * P.y * P.y) = 2 * (1 - P.y ^ 2) := by
      linear_combination hcurve - hy
    have hkey : (P.y ^ 2 + a * (1 - P.y ^ 2)) * (1 + P.x ^ 2) = P.y ^ 2 := by
      linear_combination -a * hcurve - P.x ^ 2 * P.y ^ 2 * ha
    rw [hnumerator, hdenominator]
    apply mul_right_cancel₀ hminus
    linear_combination (2 * scale) ^ 4 * (P.y ^ 2 * hdifference -
      (1 - P.y ^ 2) * (P.y ^ 2 + a * (1 - P.y ^ 2)) * hsum - 2 * (1 - P.y ^ 2) * hkey)

/-- The sum, for a difference of nonzero coordinate `u`. -/
theorem IsFraction.diffAdd {u : F} (hu : u ≠ 0) (hP : IsFraction P p) (hQ : IsFraction Q q)
    (hdifference : u * (1 - (Q - P).y) = 1 + (Q - P).y) :
    IsFraction (P + Q) (diffAdd u p q) := by
  have htwo := Complete.two_ne_zero d
  obtain ⟨scaleP, hscaleP, hfirstP, hsecondP⟩ := hP.exists_scale
  obtain ⟨scaleQ, hscaleQ, hfirstQ, hsecondQ⟩ := hQ.exists_scale
  have hfactor : (2 * scaleP * (2 * scaleQ)) ^ 2 ≠ 0 :=
    pow_ne_zero 2 (mul_ne_zero (mul_ne_zero htwo hscaleP) (mul_ne_zero htwo hscaleQ))
  have hnumerator : (MontgomeryLadder.diffAdd u p q).1 =
      (2 * scaleP * (2 * scaleQ)) ^ 2 * (Q.y + P.y) ^ 2 := by
    rw [MontgomeryLadder.diffAdd, hfirstP, hsecondP, hfirstQ, hsecondQ]
    ring
  have hdenominator : (MontgomeryLadder.diffAdd u p q).2 =
      (2 * scaleP * (2 * scaleQ)) ^ 2 * (u * (Q.y - P.y) ^ 2) := by
    rw [MontgomeryLadder.diffAdd, hfirstP, hsecondP, hfirstQ, hsecondQ]
    ring
  have hcurveP := P.onCurve
  have hcurveQ := Q.onCurve
  have hplus := one_add_ne_zero P.onCurve Q.onCurve
  have hminus := one_sub_ne_zero P.onCurve Q.onCurve
  have hsum := Point.add_y_mul P Q
  have hdiff : (Q - P).y * (1 + d * P.x * Q.x * P.y * Q.y) = P.y * Q.y - P.x * Q.x := by
    have h := Point.add_y_mul Q (-P)
    rw [← sub_eq_add_neg, Point.neg_x, Point.neg_y] at h
    linear_combination h
  unfold OnCurve at hcurveP hcurveQ
  have hne : 1 - (Q - P).y ≠ 0 := by
    intro hzero
    rw [hzero, mul_zero] at hdifference
    exact htwo (by linear_combination hzero - hdifference)
  constructor
  · by_contra! hzero
    rw [hnumerator, hdenominator, mul_eq_zero_iff_left hfactor, mul_eq_zero_iff_left hfactor,
      mul_eq_zero_iff_left hu, pow_eq_zero_iff two_ne_zero, pow_eq_zero_iff two_ne_zero] at hzero
    -- both points have order four, so their difference is neutral or of order two
    have hyP : P.y = 0 := (mul_eq_zero_iff_left htwo).mp (by linear_combination hzero.1 - hzero.2)
    have hyQ : Q.y = 0 := (mul_eq_zero_iff_left htwo).mp (by linear_combination hzero.1 + hzero.2)
    rw [hyP] at hcurveP
    rw [hyQ] at hcurveQ
    rw [hyP, hyQ] at hdiff
    have hsquare : ((Q - P).y - 1) * ((Q - P).y + 1) = 0 := by
      have hy : (Q - P).y = -(P.x * Q.x) := by linear_combination hdiff
      rw [hy]
      linear_combination hcurveQ - Q.x ^ 2 * hcurveP
    rcases mul_eq_zero.mp hsquare with hone | hminusOne
    · exact hne (by linear_combination -hone)
    · have hdouble : u * 2 = 0 := by
        linear_combination hdifference + (1 + u) * hminusOne
      exact (mul_ne_zero hu htwo) hdouble
  · have hproducts : (Q.y + P.y) ^ 2 * ((1 - (P + Q).y) * (1 - (Q - P).y)) =
        (Q.y - P.y) ^ 2 * ((1 + (P + Q).y) * (1 + (Q - P).y)) := by
      have hcleared : (Q.y + P.y) ^ 2 *
            ((1 - P.y * Q.y) ^ 2 - (P.x * Q.x * (d * P.y * Q.y + 1)) ^ 2) =
          (Q.y - P.y) ^ 2 * ((1 + P.y * Q.y) ^ 2 - (P.x * Q.x * (d * P.y * Q.y - 1)) ^ 2) := by
        linear_combination 4 * P.y * Q.y * (Q.y ^ 2 - 1) * hcurveP +
          4 * P.y * Q.y * P.x ^ 2 * (1 + d * P.y ^ 2) * hcurveQ
      generalize hA : 1 + d * P.x * Q.x * P.y * Q.y = A at hplus hdiff
      generalize hB : 1 - d * P.x * Q.x * P.y * Q.y = B at hminus hsum
      apply mul_right_cancel₀ (mul_ne_zero hminus hplus)
      calc (Q.y + P.y) ^ 2 * ((1 - (P + Q).y) * (1 - (Q - P).y)) * (B * A)
          = (Q.y + P.y) ^ 2 * ((B - (P + Q).y * B) * (A - (Q - P).y * A)) := by ring
        _ = (Q.y - P.y) ^ 2 * ((B + (P + Q).y * B) * (A + (Q - P).y * A)) := by
          rw [hsum, hdiff, ← hA, ← hB]
          linear_combination hcleared
        _ = (Q.y - P.y) ^ 2 * ((1 + (P + Q).y) * (1 + (Q - P).y)) * (B * A) := by ring
    rw [hnumerator, hdenominator]
    apply mul_right_cancel₀ hne
    linear_combination (2 * scaleP * (2 * scaleQ)) ^ 2 *
      (hproducts - (Q.y - P.y) ^ 2 * (1 + (P + Q).y) * hdifference)

/-! ## The run over the digits -/

section Regular

variable {a u : F}

/-- The two fractions stand for neighbouring multiples. -/
def AreNeighbours (P : Point d) (number : ℕ) (pair : (F × F) × (F × F)) : Prop :=
  IsFraction (number • P) pair.1 ∧ IsFraction ((number + 1) • P) pair.2

theorem AreNeighbours.rung (ha : d * a = 1 - a) (hu : u ≠ 0) (hratio : u * (1 - P.y) = 1 + P.y)
    {number : ℕ} {pair : (F × F) × (F × F)} (h : AreNeighbours P number pair) (digit : Bool) :
    AreNeighbours P (2 * number + digit.toNat) (rung a u pair digit) := by
  obtain ⟨hlow, hhigh⟩ := h
  cases digit with
  | false =>
    have hdifference : (number + 1) • P - number • P = P := by module
    have hdouble := hlow.double ha
    have hsum := hlow.diffAdd hu hhigh (by rwa [hdifference])
    rw [← add_nsmul, ← two_mul] at hdouble
    rw [← add_nsmul, ← add_assoc, ← two_mul] at hsum
    exact ⟨hdouble, hsum⟩
  | true =>
    have hdifference : number • P - (number + 1) • P = -P := by module
    have hdouble := hhigh.double ha
    have hsum := hhigh.diffAdd hu hlow (by rwa [hdifference, Point.neg_y])
    rw [← add_nsmul, show number + 1 + (number + 1) = 2 * number + 1 + 1 by ring] at hdouble
    rw [← add_nsmul, show number + 1 + number = 2 * number + 1 by ring] at hsum
    exact ⟨hsum, hdouble⟩

theorem AreNeighbours.foldl (ha : d * a = 1 - a) (hu : u ≠ 0)
    (hratio : u * (1 - P.y) = 1 + P.y) (digits : List Bool) {number : ℕ}
    {pair : (F × F) × (F × F)} (h : AreNeighbours P number pair) :
    AreNeighbours P (digits.foldl (fun number digit ↦ 2 * number + digit.toNat) number)
      (digits.foldl (MontgomeryLadder.rung a u) pair) := by
  induction digits generalizing number pair with
  | nil => exact h
  | cons digit digits ih => exact ih (h.rung ha hu hratio digit)

theorem areNeighbours_ladder (ha : d * a = 1 - a) (hu : u ≠ 0)
    (hratio : u * (1 - P.y) = 1 + P.y) (digits : List Bool) :
    AreNeighbours P (ofDigits digits) (ladder a u digits) := by
  apply AreNeighbours.foldl ha hu hratio
  constructor
  · exact ⟨Or.inl one_ne_zero, by simp⟩
  · exact ⟨Or.inr one_ne_zero, by simpa using hratio⟩

end Regular

/-! ## The coordinate zero -/

omit [Complete d] in
theorem coordinate_of_x_eq_zero (h : P.x = 0) : coordinate P = 0 := by
  have hcurve := P.onCurve
  unfold OnCurve at hcurve
  have hproduct : (1 + P.y) * (1 - P.y) = 0 := by
    rw [h] at hcurve
    linear_combination -hcurve
  rw [coordinate, div_eq_zero_iff]
  exact mul_eq_zero.mp hproduct

theorem x_eq_zero_of_coordinate (h : coordinate P = 0) : P.x = 0 := by
  have hcurve := P.onCurve
  unfold OnCurve at hcurve
  have hy : P.y ^ 2 = 1 := by
    rcases div_eq_zero_iff.mp h with hsum | hdifference
    · linear_combination (P.y - 1) * hsum
    · linear_combination -(P.y + 1) * hdifference
  have hd : 1 + d ≠ 0 := by
    intro hzero
    obtain ⟨i, hi⟩ := Complete.exists_sqrt_neg_one d
    exact Complete.not_isSquare (d := d) ⟨i, by linear_combination hzero - hi⟩
  have hproduct : P.x ^ 2 * (1 + d) = 0 := by
    linear_combination -hcurve + (1 - d * P.x ^ 2) * hy
  exact pow_eq_zero_iff two_ne_zero |>.mp ((mul_eq_zero.mp hproduct).resolve_right hd)

/-- Apart from the points without `x`, the coordinate determines the point up to its sign. -/
theorem eq_or_eq_neg_of_coordinate (h : coordinate P = coordinate Q) (hP : P.x ≠ 0) :
    P = Q ∨ P = -Q := by
  have htwo := Complete.two_ne_zero d
  have hcurveP := P.onCurve
  have hcurveQ := Q.onCurve
  unfold OnCurve at hcurveP hcurveQ
  have hdenominator {R : Point d} (hR : coordinate R ≠ 0) : 1 - R.y ≠ 0 := by
    intro hzero
    exact hR (by rw [coordinate, hzero, div_zero])
  have hne : coordinate P ≠ 0 := fun hzero ↦ hP (x_eq_zero_of_coordinate hzero)
  have hy : P.y = Q.y := by
    have hcross := h
    rw [coordinate, coordinate, div_eq_div_iff (hdenominator hne) (hdenominator (h ▸ hne))] at hcross
    exact mul_left_cancel₀ htwo (by linear_combination hcross)
  have hcoefficient : 1 + d * Q.y ^ 2 ≠ 0 := by
    intro hzero
    obtain ⟨i, hi⟩ := Complete.exists_sqrt_neg_one d
    have hyne : Q.y ≠ 0 := by
      rintro hy0
      simp [hy0] at hzero
    apply Complete.not_isSquare (d := d)
    refine ⟨i / Q.y, ?_⟩
    field_simp
    linear_combination hzero - hi
  have hsquare : (P.x - Q.x) * (P.x + Q.x) = 0 := by
    rw [hy] at hcurveP
    apply mul_right_cancel₀ hcoefficient
    linear_combination hcurveQ - hcurveP
  rcases mul_eq_zero.mp hsquare with hequal | hopposite
  · exact .inl (Point.ext (sub_eq_zero.mp hequal) hy)
  · exact .inr (Point.ext (eq_neg_of_add_eq_zero_left hopposite) hy)

omit [Complete d] in
@[simp]
theorem coordinate_neg (P : Point d) : coordinate (-P) = coordinate P := rfl

theorem nsmul_x_eq_zero (h : P.x = 0) (number : ℕ) : (number • P).x = 0 := by
  induction number with
  | zero => simp
  | succ number ih => rw [succ_nsmul, Point.add_x, h, ih, zero_mul, mul_zero, add_zero, zero_div]

/-- With `u = 0` the denominators vanish from the first digit on. -/
theorem ladder_zero_denominator (a : F) {digits : List Bool} (h : digits ≠ []) :
    (ladder a 0 digits).1.2 = 0 := by
  have hstep {pair : (F × F) × (F × F)} (hfirst : pair.1.1 * pair.1.2 = 0)
      (hsecond : pair.2.1 * pair.2.2 = 0) (digit : Bool) :
      (rung a 0 pair digit).1.2 = 0 ∧ (rung a 0 pair digit).2.2 = 0 := by
    have hdouble {p : F × F} (hp : p.1 * p.2 = 0) : (double a p).2 = 0 := by
      rw [double]
      linear_combination 4 * ((p.1 - p.2) ^ 2 + a * ((p.1 + p.2) ^ 2 - (p.1 - p.2) ^ 2)) * hp
    cases digit with
    | false => exact ⟨hdouble hfirst, zero_mul _⟩
    | true => exact ⟨zero_mul _, hdouble hsecond⟩
  have hfoldl (digits : List Bool) {pair : (F × F) × (F × F)} (hfirst : pair.1.2 = 0)
      (hsecond : pair.2.2 = 0) : (digits.foldl (rung a 0) pair).1.2 = 0 := by
    induction digits generalizing pair with
    | nil => exact hfirst
    | cons digit digits ih =>
      obtain ⟨hfirst', hsecond'⟩ :=
        hstep (by rw [hfirst, mul_zero]) (by rw [hsecond, mul_zero]) digit
      exact ih hfirst' hsecond'
  cases digits with
  | nil => exact absurd rfl h
  | cons digit digits =>
    obtain ⟨hfirst, hsecond⟩ :=
      @hstep ((1, 0), (0, 1)) (mul_zero _) (zero_mul _) digit
    exact hfoldl digits hfirst hsecond

/-- The ladder computes the coordinate of a multiple from the coordinate of the point. -/
theorem ladder_quotient {a : F} (ha : d * a = 1 - a) (P : Point d) {digits : List Bool}
    (h : digits ≠ []) :
    (ladder a (coordinate P) digits).1.1 * (ladder a (coordinate P) digits).1.2⁻¹ =
      coordinate (ofDigits digits • P) := by
  by_cases hzero : coordinate P = 0
  · have hx := nsmul_x_eq_zero (x_eq_zero_of_coordinate hzero) (ofDigits digits)
    rw [hzero, ladder_zero_denominator a h, inv_zero, mul_zero, coordinate_of_x_eq_zero hx]
  · have hne : 1 - P.y ≠ 0 := by
      intro hy
      exact hzero (by rw [coordinate, hy, div_zero])
    have hratio : coordinate P * (1 - P.y) = 1 + P.y := div_mul_cancel₀ _ hne
    exact (areNeighbours_ladder ha hzero hratio digits).1.quotient

end MontgomeryLadder

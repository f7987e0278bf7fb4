import Mathlib.Algebra.Field.Basic
import Mathlib.Algebra.Group.Even
import Mathlib.Tactic.FieldSimp
import Mathlib.Tactic.LinearCombination
import Mathlib.Tactic.Ring

/-!
# Complete twisted Edwards curves

The points of `-x² + y² = 1 + d x² y²` over a field in which `-1` is a square and `d` is not.  The
denominators of the addition law never vanish there, so one formula adds any two points, and the
points form a commutative group.
-/

namespace TwistedEdwards

variable {F : Type*} [Field F]

/-- The parameters for which the addition law is complete. -/
class Complete (d : F) : Prop where
  two_ne_zero : (2 : F) ≠ 0
  exists_sqrt_neg_one : ∃ i : F, i ^ 2 = -1
  not_isSquare : ¬IsSquare d

/-- The curve equation. -/
def OnCurve (d x y : F) : Prop := -x ^ 2 + y ^ 2 = 1 + d * x ^ 2 * y ^ 2

/-- Over a complete parameter the product in the denominators is no square root of one. -/
theorem product_sq_ne_one {d : F} [Complete d] {x₁ y₁ x₂ y₂ : F} (h₁ : OnCurve d x₁ y₁)
    (h₂ : OnCurve d x₂ y₂) : (d * x₁ * x₂ * y₁ * y₂) ^ 2 ≠ 1 := by
  intro hproduct
  obtain ⟨i, hi⟩ := Complete.exists_sqrt_neg_one d
  have hone : d * x₁ * x₂ * y₁ * y₂ ≠ 0 := by
    intro hzero
    rw [hzero] at hproduct
    simp at hproduct
  simp only [mul_ne_zero_iff] at hone
  obtain ⟨⟨⟨⟨-, hx₁⟩, hx₂⟩, hy₁⟩, hy₂⟩ := hone
  unfold OnCurve at h₁ h₂
  -- the same square is `d` times a square, for both signs of the second coordinate
  have hplus : (i * x₁ + d * x₁ * x₂ * y₁ * y₂ * y₁) ^ 2 =
      d * (x₁ * y₁ * (i * x₂ + y₂)) ^ 2 := by
    linear_combination (x₁ ^ 2 - d * x₁ ^ 2 * y₁ ^ 2 * x₂ ^ 2) * hi + y₁ ^ 2 * hproduct + h₁ -
      d * x₁ ^ 2 * y₁ ^ 2 * h₂ - hproduct
  have hminus : (i * x₁ - d * x₁ * x₂ * y₁ * y₂ * y₁) ^ 2 =
      d * (x₁ * y₁ * (i * x₂ - y₂)) ^ 2 := by
    linear_combination (x₁ ^ 2 - d * x₁ ^ 2 * y₁ ^ 2 * x₂ ^ 2) * hi + y₁ ^ 2 * hproduct + h₁ -
      d * x₁ ^ 2 * y₁ ^ 2 * h₂ - hproduct
  have hsquare {u v : F} (h : u ^ 2 = d * v ^ 2) : v = 0 := by
    by_contra hv
    apply Complete.not_isSquare (d := d)
    refine ⟨u / v, ?_⟩
    field_simp
    exact h.symm
  have hsum : i * x₂ + y₂ = 0 := by
    simpa [hx₁, hy₁] using hsquare hplus
  have hdifference : i * x₂ - y₂ = 0 := by
    simpa [hx₁, hy₁] using hsquare hminus
  have htwo : 2 * y₂ = 0 := by
    linear_combination hsum - hdifference
  rcases mul_eq_zero.mp htwo with h | h
  · exact Complete.two_ne_zero d h
  · exact hy₂ h

theorem one_add_ne_zero {d : F} [Complete d] {x₁ y₁ x₂ y₂ : F} (h₁ : OnCurve d x₁ y₁)
    (h₂ : OnCurve d x₂ y₂) : 1 + d * x₁ * x₂ * y₁ * y₂ ≠ 0 := by
  intro h
  apply product_sq_ne_one h₁ h₂
  linear_combination (d * x₁ * x₂ * y₁ * y₂ - 1) * h

theorem one_sub_ne_zero {d : F} [Complete d] {x₁ y₁ x₂ y₂ : F} (h₁ : OnCurve d x₁ y₁)
    (h₂ : OnCurve d x₂ y₂) : 1 - d * x₁ * x₂ * y₁ * y₂ ≠ 0 := by
  intro h
  apply product_sq_ne_one h₁ h₂
  linear_combination -(d * x₁ * x₂ * y₁ * y₂ + 1) * h

/-! ## The associative law, with the denominators cleared -/

section Associativity

variable {d x₁ y₁ x₂ y₂ x₃ y₃ : F}

theorem associator_x (h₁ : OnCurve d x₁ y₁) (h₂ : OnCurve d x₂ y₂) (h₃ : OnCurve d x₃ y₃) :
    ((x₁ * y₂ + y₁ * x₂) * (1 - d * x₁ * x₂ * y₁ * y₂) * y₃ +
        (y₁ * y₂ + x₁ * x₂) * (1 + d * x₁ * x₂ * y₁ * y₂) * x₃) *
      ((1 + d * x₂ * x₃ * y₂ * y₃) * (1 - d * x₂ * x₃ * y₂ * y₃) +
        d * x₁ * y₁ * (x₂ * y₃ + y₂ * x₃) * (y₂ * y₃ + x₂ * x₃)) =
    (x₁ * (y₂ * y₃ + x₂ * x₃) * (1 + d * x₂ * x₃ * y₂ * y₃) +
        y₁ * (x₂ * y₃ + y₂ * x₃) * (1 - d * x₂ * x₃ * y₂ * y₃)) *
      ((1 + d * x₁ * x₂ * y₁ * y₂) * (1 - d * x₁ * x₂ * y₁ * y₂) +
        d * (x₁ * y₂ + y₁ * x₂) * (y₁ * y₂ + x₁ * x₂) * x₃ * y₃) := by
  unfold OnCurve at h₁ h₂ h₃
  linear_combination
    (d * x₂ * y₂ * x₃ * y₃ * (x₁ * (x₂ * x₃ + y₂ * y₃) - y₁ * (x₂ * y₃ + y₂ * x₃)) +
      (x₂ ^ 2 - y₂ ^ 2 + 1) * (x₃ ^ 2 - y₃ ^ 2 + 1) *
        (x₁ * (x₂ * x₃ + y₂ * y₃) + y₁ * (x₂ * y₃ + y₂ * x₃))) * h₁ +
    (-d ^ 2 * x₁ ^ 2 * y₁ ^ 2 * x₂ * y₂ * x₃ * y₃ *
        (x₁ * (x₂ * x₃ + y₂ * y₃) - y₁ * (x₂ * y₃ + y₂ * x₃)) -
      d ^ 2 * x₁ * y₁ * x₂ * y₂ * x₃ ^ 2 * y₃ ^ 2 *
        (x₁ * (y₂ * y₃ - x₂ * x₃) + y₁ * (x₂ * y₃ - y₂ * x₃)) +
      d * (x₃ ^ 2 * y₃ ^ 2 * (x₁ ^ 2 - y₁ ^ 2 + 1) - x₁ ^ 2 * y₁ ^ 2 * (x₃ ^ 2 - y₃ ^ 2 + 1)) *
        (x₁ * (x₂ * x₃ + y₂ * y₃) + y₁ * (x₂ * y₃ + y₂ * x₃))) * h₂ +
    (d * x₁ * y₁ * x₂ * y₂ * (x₁ * (y₂ * y₃ - x₂ * x₃) + y₁ * (x₂ * y₃ - y₂ * x₃)) -
      (x₁ ^ 2 - y₁ ^ 2 + 1) * (x₂ ^ 2 - y₂ ^ 2 + 1) *
        (x₁ * (x₂ * x₃ + y₂ * y₃) + y₁ * (x₂ * y₃ + y₂ * x₃))) * h₃

theorem associator_y (h₁ : OnCurve d x₁ y₁) (h₂ : OnCurve d x₂ y₂) (h₃ : OnCurve d x₃ y₃) :
    ((y₁ * y₂ + x₁ * x₂) * (1 + d * x₁ * x₂ * y₁ * y₂) * y₃ +
        (x₁ * y₂ + y₁ * x₂) * (1 - d * x₁ * x₂ * y₁ * y₂) * x₃) *
      ((1 + d * x₂ * x₃ * y₂ * y₃) * (1 - d * x₂ * x₃ * y₂ * y₃) -
        d * x₁ * y₁ * (x₂ * y₃ + y₂ * x₃) * (y₂ * y₃ + x₂ * x₃)) =
    (y₁ * (y₂ * y₃ + x₂ * x₃) * (1 + d * x₂ * x₃ * y₂ * y₃) +
        x₁ * (x₂ * y₃ + y₂ * x₃) * (1 - d * x₂ * x₃ * y₂ * y₃)) *
      ((1 + d * x₁ * x₂ * y₁ * y₂) * (1 - d * x₁ * x₂ * y₁ * y₂) -
        d * (x₁ * y₂ + y₁ * x₂) * (y₁ * y₂ + x₁ * x₂) * x₃ * y₃) := by
  unfold OnCurve at h₁ h₂ h₃
  linear_combination
    (d * x₂ * y₂ * x₃ * y₃ * (y₁ * (x₂ * x₃ + y₂ * y₃) - x₁ * (x₂ * y₃ + y₂ * x₃)) +
      (x₂ ^ 2 - y₂ ^ 2 + 1) * (x₃ ^ 2 - y₃ ^ 2 + 1) *
        (y₁ * (x₂ * x₃ + y₂ * y₃) + x₁ * (x₂ * y₃ + y₂ * x₃))) * h₁ +
    (-d ^ 2 * x₁ ^ 2 * y₁ ^ 2 * x₂ * y₂ * x₃ * y₃ *
        (y₁ * (x₂ * x₃ + y₂ * y₃) - x₁ * (x₂ * y₃ + y₂ * x₃)) -
      d ^ 2 * x₁ * y₁ * x₂ * y₂ * x₃ ^ 2 * y₃ ^ 2 *
        (y₁ * (x₂ * x₃ - y₂ * y₃) + x₁ * (y₂ * x₃ - x₂ * y₃)) +
      d * (x₃ ^ 2 * y₃ ^ 2 * (x₁ ^ 2 - y₁ ^ 2 + 1) - x₁ ^ 2 * y₁ ^ 2 * (x₃ ^ 2 - y₃ ^ 2 + 1)) *
        (y₁ * (x₂ * x₃ + y₂ * y₃) + x₁ * (x₂ * y₃ + y₂ * x₃))) * h₂ +
    (d * x₁ * y₁ * x₂ * y₂ * (y₁ * (x₂ * x₃ - y₂ * y₃) + x₁ * (y₂ * x₃ - x₂ * y₃)) -
      (x₁ ^ 2 - y₁ ^ 2 + 1) * (x₂ ^ 2 - y₂ ^ 2 + 1) *
        (y₁ * (x₂ * x₃ + y₂ * y₃) + x₁ * (x₂ * y₃ + y₂ * x₃))) * h₃

end Associativity

/-- A point of the curve. -/
@[ext]
structure Point (d : F) where
  x : F
  y : F
  onCurve : OnCurve d x y

namespace Point

variable {d : F}

/-- The neutral point `(0, 1)`. -/
instance : Zero (Point d) where
  zero := ⟨0, 1, by simp [OnCurve]⟩

@[simp] theorem zero_x : (0 : Point d).x = 0 := rfl
@[simp] theorem zero_y : (0 : Point d).y = 1 := rfl

instance : Neg (Point d) where
  neg P := ⟨-P.x, P.y, by simpa [OnCurve] using P.onCurve⟩

@[simp] theorem neg_x (P : Point d) : (-P).x = -P.x := rfl
@[simp] theorem neg_y (P : Point d) : (-P).y = P.y := rfl

variable [Complete d]

theorem onCurve_add (P Q : Point d) : OnCurve d
    ((P.x * Q.y + P.y * Q.x) / (1 + d * P.x * Q.x * P.y * Q.y))
    ((P.y * Q.y + P.x * Q.x) / (1 - d * P.x * Q.x * P.y * Q.y)) := by
  have hplus := one_add_ne_zero P.onCurve Q.onCurve
  have hminus := one_sub_ne_zero P.onCurve Q.onCurve
  have hP := P.onCurve
  have hQ := Q.onCurve
  generalize hA : 1 + d * P.x * Q.x * P.y * Q.y = A at hplus ⊢
  generalize hB : 1 - d * P.x * Q.x * P.y * Q.y = B at hminus ⊢
  unfold OnCurve at hP hQ ⊢
  field_simp
  subst hA hB
  grind

instance : Add (Point d) where
  add P Q := ⟨_, _, onCurve_add P Q⟩

theorem add_x (P Q : Point d) :
    (P + Q).x = (P.x * Q.y + P.y * Q.x) / (1 + d * P.x * Q.x * P.y * Q.y) := rfl

theorem add_y (P Q : Point d) :
    (P + Q).y = (P.y * Q.y + P.x * Q.x) / (1 - d * P.x * Q.x * P.y * Q.y) := rfl

/-- Coordinates that solve the addition law are the sum. -/
theorem eq_add_iff {P Q R : Point d} :
    R = P + Q ↔ R.x * (1 + d * P.x * Q.x * P.y * Q.y) = P.x * Q.y + P.y * Q.x ∧
      R.y * (1 - d * P.x * Q.x * P.y * Q.y) = P.y * Q.y + P.x * Q.x := by
  rw [Point.ext_iff, add_x, add_y, eq_div_iff (one_add_ne_zero P.onCurve Q.onCurve),
    eq_div_iff (one_sub_ne_zero P.onCurve Q.onCurve)]

theorem add_x_mul (P Q : Point d) :
    (P + Q).x * (1 + d * P.x * Q.x * P.y * Q.y) = P.x * Q.y + P.y * Q.x :=
  (eq_add_iff.mp rfl).1

theorem add_y_mul (P Q : Point d) :
    (P + Q).y * (1 - d * P.x * Q.x * P.y * Q.y) = P.y * Q.y + P.x * Q.x :=
  (eq_add_iff.mp rfl).2

protected theorem add_comm (P Q : Point d) : P + Q = Q + P := by
  apply eq_add_iff.mpr
  constructor
  · linear_combination add_x_mul P Q
  · linear_combination add_y_mul P Q

protected theorem zero_add (P : Point d) : 0 + P = P := by
  apply Eq.symm
  apply eq_add_iff.mpr
  simp

protected theorem neg_add_cancel (P : Point d) : -P + P = 0 := by
  have hP := P.onCurve
  unfold OnCurve at hP
  have hzero : 0 = -P + P := by
    apply eq_add_iff.mpr
    constructor
    · simp only [zero_x, neg_x, neg_y]
      ring
    · simp only [zero_y, neg_x, neg_y]
      linear_combination -hP
  exact hzero.symm

/-- Both bracketings give the same coordinates once the denominators are cleared. -/
protected theorem add_assoc (P Q R : Point d) : P + Q + R = P + (Q + R) := by
  have hA := one_add_ne_zero P.onCurve Q.onCurve
  have hB := one_sub_ne_zero P.onCurve Q.onCurve
  have hC := one_add_ne_zero Q.onCurve R.onCurve
  have hD := one_sub_ne_zero Q.onCurve R.onCurve
  have hxLeft := one_add_ne_zero (P + Q).onCurve R.onCurve
  have hxRight := one_add_ne_zero P.onCurve (Q + R).onCurve
  have hyLeft := one_sub_ne_zero (P + Q).onCurve R.onCurve
  have hyRight := one_sub_ne_zero P.onCurve (Q + R).onCurve
  apply Point.ext
  · rw [add_x (P + Q) R, add_x P (Q + R), div_eq_div_iff hxLeft hxRight, add_x P Q, add_y P Q,
      add_x Q R, add_y Q R]
    generalize hA' : 1 + d * P.x * Q.x * P.y * Q.y = A at hA ⊢
    generalize hB' : 1 - d * P.x * Q.x * P.y * Q.y = B at hB ⊢
    generalize hC' : 1 + d * Q.x * R.x * Q.y * R.y = C at hC ⊢
    generalize hD' : 1 - d * Q.x * R.x * Q.y * R.y = D at hD ⊢
    have hx := associator_x P.onCurve Q.onCurve R.onCurve
    rw [hA', hB', hC', hD'] at hx
    field_simp
    linear_combination hx
  · rw [add_y (P + Q) R, add_y P (Q + R), div_eq_div_iff hyLeft hyRight, add_x P Q, add_y P Q,
      add_x Q R, add_y Q R]
    generalize hA' : 1 + d * P.x * Q.x * P.y * Q.y = A at hA ⊢
    generalize hB' : 1 - d * P.x * Q.x * P.y * Q.y = B at hB ⊢
    generalize hC' : 1 + d * Q.x * R.x * Q.y * R.y = C at hC ⊢
    generalize hD' : 1 - d * Q.x * R.x * Q.y * R.y = D at hD ⊢
    have hy := associator_y P.onCurve Q.onCurve R.onCurve
    rw [hA', hB', hC', hD'] at hy
    field_simp
    linear_combination hy

instance : AddCommGroup (Point d) where
  add_assoc := Point.add_assoc
  add_comm := Point.add_comm
  zero_add := Point.zero_add
  add_zero P := by rw [Point.add_comm, Point.zero_add]
  neg_add_cancel := Point.neg_add_cancel
  nsmul := nsmulRec
  zsmul := zsmulRec

end Point

end TwistedEdwards

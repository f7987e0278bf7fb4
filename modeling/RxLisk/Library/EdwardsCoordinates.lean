import RxLisk.Library.TwistedEdwards
import Mathlib.Data.ZMod.Basic
import Mathlib.Algebra.Field.ZMod

/-!
# Coordinates without divisions

A point is kept as quotients with a common denominator, together with the product of its
coordinates.  The sum of two points comes out with a denominator for each coordinate; the
denominators never vanish over a complete parameter, so the formulas hold for all points alike.
-/

namespace TwistedEdwards

variable {F : Type*} [Field F] {d : F}

/-- `x = X / Z` and `y = Y / Z`. -/
structure IsProjective (P : Point d) (X Y Z : F) : Prop where
  z_ne_zero : Z ≠ 0
  x_eq : X = P.x * Z
  y_eq : Y = P.y * Z

/-- `x = X / Z` and `y = Y / Z`, with the product of the coordinates in `T`. -/
structure IsExtended (P : Point d) (X Y Z T : F) : Prop extends IsProjective P X Y Z where
  t_eq : T = P.x * P.y * Z

/-- `x = X / Z` and `y = Y / T`. -/
structure IsCompleted (P : Point d) (X Y Z T : F) : Prop where
  z_ne_zero : Z ≠ 0
  t_ne_zero : T ≠ 0
  x_eq : X = P.x * Z
  y_eq : Y = P.y * T

variable {P Q : Point d} {X Y Z T X₁ Y₁ Z₁ T₁ X₂ Y₂ Z₂ T₂ : F}

theorem IsProjective.zero : IsProjective (0 : Point d) 0 1 1 :=
  ⟨one_ne_zero, by simp, by simp⟩

theorem IsExtended.zero : IsExtended (0 : Point d) 0 1 1 0 :=
  ⟨.zero, by simp⟩

theorem IsExtended.neg (h : IsExtended P X Y Z T) : IsExtended (-P) (-X) Y Z (-T) := by
  refine ⟨⟨h.z_ne_zero, ?_, ?_⟩, ?_⟩
  · rw [h.x_eq, Point.neg_x, neg_mul]
  · rw [h.y_eq, Point.neg_y]
  · rw [h.t_eq, Point.neg_x, Point.neg_y, neg_mul, neg_mul]

theorem IsCompleted.projective (h : IsCompleted P X Y Z T) :
    IsProjective P (X * T) (Y * Z) (Z * T) := by
  refine ⟨mul_ne_zero h.z_ne_zero h.t_ne_zero, ?_, ?_⟩
  · rw [h.x_eq, mul_assoc]
  · rw [h.y_eq]
    ring

theorem IsCompleted.extended (h : IsCompleted P X Y Z T) :
    IsExtended P (X * T) (Y * Z) (Z * T) (X * Y) := by
  refine ⟨h.projective, ?_⟩
  rw [h.x_eq, h.y_eq]
  ring

section Complete

variable [Complete d]

theorem IsExtended.add (hP : IsExtended P X₁ Y₁ Z₁ T₁) (hQ : IsExtended Q X₂ Y₂ Z₂ T₂) :
    IsCompleted (P + Q)
      ((Y₁ + X₁) * (Y₂ + X₂) - (Y₁ - X₁) * (Y₂ - X₂))
      ((Y₁ + X₁) * (Y₂ + X₂) + (Y₁ - X₁) * (Y₂ - X₂))
      (2 * (Z₁ * Z₂) + T₂ * (2 * d) * T₁)
      (2 * (Z₁ * Z₂) - T₂ * (2 * d) * T₁) := by
  have hplus := one_add_ne_zero P.onCurve Q.onCurve
  have hminus := one_sub_ne_zero P.onCurve Q.onCurve
  have htwo := Complete.two_ne_zero d
  have hscale : 2 * (Z₁ * Z₂) ≠ 0 := mul_ne_zero htwo (mul_ne_zero hP.z_ne_zero hQ.z_ne_zero)
  have hx := Point.add_x_mul P Q
  have hy := Point.add_y_mul P Q
  rw [hP.x_eq, hP.y_eq, hP.t_eq, hQ.x_eq, hQ.y_eq, hQ.t_eq]
  constructor
  · have hfactor : 2 * (Z₁ * Z₂) + Q.x * Q.y * Z₂ * (2 * d) * (P.x * P.y * Z₁) =
        2 * (Z₁ * Z₂) * (1 + d * P.x * Q.x * P.y * Q.y) := by ring
    rw [hfactor]
    exact mul_ne_zero hscale hplus
  · have hfactor : 2 * (Z₁ * Z₂) - Q.x * Q.y * Z₂ * (2 * d) * (P.x * P.y * Z₁) =
        2 * (Z₁ * Z₂) * (1 - d * P.x * Q.x * P.y * Q.y) := by ring
    rw [hfactor]
    exact mul_ne_zero hscale hminus
  · linear_combination -2 * (Z₁ * Z₂) * hx
  · linear_combination -2 * (Z₁ * Z₂) * hy

/-- Subtraction exchanges the sum and the difference of the second point. -/
theorem IsExtended.sub (hP : IsExtended P X₁ Y₁ Z₁ T₁) (hQ : IsExtended Q X₂ Y₂ Z₂ T₂) :
    IsCompleted (P - Q)
      ((Y₁ + X₁) * (Y₂ - X₂) - (Y₁ - X₁) * (Y₂ + X₂))
      ((Y₁ + X₁) * (Y₂ - X₂) + (Y₁ - X₁) * (Y₂ + X₂))
      (2 * (Z₁ * Z₂) - T₂ * (2 * d) * T₁)
      (2 * (Z₁ * Z₂) + T₂ * (2 * d) * T₁) := by
  have h := hP.add hQ.neg
  rw [← sub_eq_add_neg, sub_neg_eq_add, ← sub_eq_add_neg, neg_mul, neg_mul, ← sub_eq_add_neg,
    sub_neg_eq_add] at h
  exact h

/-- Doubling needs no product of coordinates, and not the parameter. -/
theorem IsProjective.double (hP : IsProjective P X Y Z) :
    IsCompleted (P + P) ((X + Y) ^ 2 - (Y ^ 2 + X ^ 2)) (Y ^ 2 + X ^ 2) (Y ^ 2 - X ^ 2)
      (2 * Z ^ 2 - (Y ^ 2 - X ^ 2)) := by
  have hplus := one_add_ne_zero P.onCurve P.onCurve
  have hminus := one_sub_ne_zero P.onCurve P.onCurve
  have hscale : Z ^ 2 ≠ 0 := pow_ne_zero 2 hP.z_ne_zero
  have hx := Point.add_x_mul P P
  have hy := Point.add_y_mul P P
  have hcurve := P.onCurve
  unfold OnCurve at hcurve
  rw [hP.x_eq, hP.y_eq]
  constructor
  · have hfactor : (P.y * Z) ^ 2 - (P.x * Z) ^ 2 = Z ^ 2 * (1 + d * P.x * P.x * P.y * P.y) := by
      linear_combination Z ^ 2 * hcurve
    rw [hfactor]
    exact mul_ne_zero hscale hplus
  · have hfactor : 2 * Z ^ 2 - ((P.y * Z) ^ 2 - (P.x * Z) ^ 2) =
        Z ^ 2 * (1 - d * P.x * P.x * P.y * P.y) := by
      linear_combination -Z ^ 2 * hcurve
    rw [hfactor]
    exact mul_ne_zero hscale hminus
  · linear_combination -Z ^ 2 * hx - (P + P).x * Z ^ 2 * hcurve
  · linear_combination -Z ^ 2 * hy + (P + P).y * Z ^ 2 * hcurve

end Complete

/-! ## Multiples, computed with integers -/

/-- Extended coordinates modulo a prime. -/
structure Residues where
  (X Y Z T : ℤ)

namespace Residues

def add (modulus twiceD : ℤ) (P Q : Residues) : Residues :=
  let sum := (P.Y + P.X) * (Q.Y + Q.X)
  let difference := (P.Y - P.X) * (Q.Y - Q.X)
  let scale := 2 * (P.Z * Q.Z)
  let product := Q.T * twiceD * P.T
  { X := (sum - difference) * (scale - product) % modulus
    Y := (sum + difference) * (scale + product) % modulus
    Z := (scale + product) * (scale - product) % modulus
    T := (sum - difference) * (sum + difference) % modulus }

/-- The multiple by a factor of at most `fuel` binary digits. -/
def nsmul (modulus twiceD : ℤ) : (fuel factor : ℕ) → Residues → Residues
  | 0, _, _ => ⟨0, 1, 1, 0⟩
  | fuel + 1, factor, P =>
    let rest := nsmul modulus twiceD fuel (factor / 2) (add modulus twiceD P P)
    if factor % 2 = 0 then rest else add modulus twiceD rest P

variable {p : ℕ} [Fact p.Prime] {d : ZMod p} {twiceD : ℤ} {P Q : Point d} {R S : Residues}

/-- The residues stand for the point. -/
def StandFor (R : Residues) (P : Point d) : Prop :=
  IsExtended P (R.X : ZMod p) R.Y R.Z R.T

/-- A multiple with the coordinates `0` and `1` is the neutral point. -/
theorem StandFor.eq_zero (hR : R.StandFor P) (hx : (R.X : ZMod p) = 0)
    (hy : (R.Y : ZMod p) = R.Z) : P = 0 := by
  have hz := hR.z_ne_zero
  apply Point.ext
  · have h := hR.x_eq
    rw [hx] at h
    exact (mul_eq_zero.mp h.symm).resolve_right hz
  · have h := hR.y_eq
    rw [hy] at h
    exact mul_right_cancel₀ hz (by rw [← h, Point.zero_y, one_mul])

variable [Complete d]

theorem StandFor.add (htwice : (twiceD : ZMod p) = 2 * d) (hR : R.StandFor P)
    (hS : S.StandFor Q) : (R.add p twiceD S).StandFor (P + Q) := by
  have h := (IsExtended.add hR hS).extended
  unfold StandFor Residues.add
  simp only [ZMod.intCast_mod]
  push_cast
  rw [htwice]
  exact h

theorem StandFor.nsmul (htwice : (twiceD : ZMod p) = 2 * d) {fuel factor : ℕ}
    (hfactor : factor < 2 ^ fuel) (hR : R.StandFor P) :
    (R.nsmul p twiceD fuel factor).StandFor (factor • P) := by
  induction fuel generalizing factor R P with
  | zero =>
    have hzero : factor = 0 := by simpa using hfactor
    have h := IsExtended.zero (d := d)
    rw [hzero, zero_smul, Residues.nsmul, StandFor]
    push_cast
    exact h
  | succ fuel ih =>
    have hhalf : factor / 2 < 2 ^ fuel := by
      rw [pow_succ] at hfactor
      omega
    have hrest := ih hhalf (hR.add htwice hR)
    rw [← two_nsmul, ← mul_nsmul'] at hrest
    rw [Residues.nsmul]
    split_ifs with heven
    · rwa [show factor / 2 * 2 = factor by omega] at hrest
    · have h := hrest.add htwice hR
      rwa [← succ_nsmul, show factor / 2 * 2 + 1 = factor by omega] at h

end Residues

end TwistedEdwards

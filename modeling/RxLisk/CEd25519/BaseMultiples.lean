import RxLisk.CEd25519.PrecompData

/-!
# The precomputed multiples are the ones they are meant to be

The tables are compared with multiples of the base point that are computed with integers modulo the
field order, one addition an entry.
-/

namespace RxLisk

namespace CEd25519

open TwistedEdwards

/-- The entry has the coordinates of the point that the residues stand for. -/
def GePrecomp.Matches (h : GePrecomp) (R : Residues) : Prop :=
  (Sized 420 h.yplusx ∧ Sized 420 h.yminusx ∧ Sized 420 h.xy2d) ∧
    (fieldOrder : ℤ) ∣ LimbSteps.value feWeight h.yplusx * R.Z - (R.Y + R.X) ∧
    (fieldOrder : ℤ) ∣ LimbSteps.value feWeight h.yminusx * R.Z - (R.Y - R.X) ∧
    (fieldOrder : ℤ) ∣ LimbSteps.value feWeight h.xy2d * R.Z - R.T * (2 * curveDNumber)

instance (size : ℕ) (f : Fe) : Decidable (Sized size f) :=
  inferInstanceAs (Decidable (LimbSteps.Within _ _))

instance (h : GePrecomp) (R : Residues) : Decidable (h.Matches R) :=
  inferInstanceAs (Decidable (_ ∧ _))

theorem GePrecomp.Matches.standsFor {h : GePrecomp} {R : Residues} {P : Point curveD}
    (hmatches : h.Matches R) (hR : R.StandFor P) : h.StandsFor P := by
  obtain ⟨⟨hplusSized, hminusSized, hproductSized⟩, hplus, hminus, hproduct⟩ := hmatches
  rw [fieldOrder_eq] at hplus hminus hproduct
  have hplusEq := cast_eq_cast _ _ hplus
  have hminusEq := cast_eq_cast _ _ hminus
  have hproductEq := cast_eq_cast _ _ hproduct
  have hz := hR.z_ne_zero
  push_cast at hplusEq hminusEq
  rw [hR.x_eq, hR.y_eq] at hplusEq hminusEq
  rw [Int.cast_mul, cast_twice_curveDNumber, Int.cast_mul, hR.t_eq] at hproductEq
  refine ⟨hplusSized, hminusSized, hproductSized, ?_, ?_, ?_⟩
  · exact mul_right_cancel₀ hz (by rw [feValue]; linear_combination -hplusEq)
  · exact mul_right_cancel₀ hz (by rw [feValue]; linear_combination -hminusEq)
  · exact mul_right_cancel₀ hz (by rw [feValue]; linear_combination -hproductEq)

/-- Compares a row with the points `current`, `current + step`, and so on. -/
def rowMatches (step : Residues) : Residues → List GePrecomp → Bool
  | _, [] => true
  | current, entry :: entries =>
    decide (entry.Matches current) &&
      rowMatches step (current.add fieldOrder (2 * curveDNumber) step) entries

/-- Compares each row with the multiples of a point, 256 times that of the row before. -/
def tableMatches : Residues → List (Vector GePrecomp 8) → Bool
  | _, [] => true
  | point, row :: rows =>
    rowMatches point point row.toList &&
      tableMatches (point.nsmul fieldOrder (2 * curveDNumber) 9 256) rows

theorem rowMatches_standsFor {step current : Residues} {P Q : Point curveD}
    {entries : List GePrecomp} (h : rowMatches step current entries = true)
    (hstep : step.StandFor Q) (hcurrent : current.StandFor P) {j : ℕ} (hj : j < entries.length) :
    entries[j].StandsFor (P + j • Q) := by
  induction entries generalizing current P j with
  | nil => simp at hj
  | cons entry entries ih =>
    rw [rowMatches, Bool.and_eq_true, decide_eq_true_eq] at h
    cases j with
    | zero =>
      rw [zero_smul, add_zero]
      exact h.1.standsFor hcurrent
    | succ j =>
      have hrest := ih h.2 (hcurrent.add cast_twice_curveDNumber hstep) (Nat.lt_of_succ_lt_succ hj)
      rwa [add_assoc, ← succ_nsmul'] at hrest

theorem tableMatches_standsFor {point : Residues} {P : Point curveD}
    {rows : List (Vector GePrecomp 8)} (h : tableMatches point rows = true)
    (hpoint : point.StandFor P) {i : ℕ} (hi : i < rows.length) (j : Fin 8) :
    rows[i][j].StandsFor (((j.val + 1) * 256 ^ i) • P) := by
  induction rows generalizing point P i with
  | nil => simp at hi
  | cons row rows ih =>
    rw [tableMatches, Bool.and_eq_true] at h
    cases i with
    | zero =>
      have hj : j.val < row.toList.length := by simp
      have hentry := rowMatches_standsFor h.1 hpoint hpoint hj
      rw [← succ_nsmul', Vector.getElem_toList] at hentry
      rw [pow_zero, mul_one]
      exact hentry
    | succ i =>
      have hnext := hpoint.nsmul cast_twice_curveDNumber (show 256 < 2 ^ 9 by norm_num)
      have hrest := ih h.2 hnext (Nat.lt_of_succ_lt_succ hi)
      rwa [← mul_nsmul', mul_assoc, ← pow_succ] at hrest

-- Both tables are compared at once: this is the longest evaluation of the development.
theorem tables_match :
    tableMatches baseResidues base.toList = true ∧
      rowMatches (baseResidues.add fieldOrder (2 * curveDNumber) baseResidues) baseResidues
        Bi.toList = true := by
  decide +kernel

/-- `base[i][j] = (j+1)*256^i*B` -/
theorem base_standsFor (i : Fin 32) (j : Fin 8) :
    ((base.get i).get j).StandsFor (((j.val + 1) * 256 ^ i.val) • basePoint) := by
  have hi : i.val < base.toList.length := by simp
  have hentry := tableMatches_standsFor tables_match.1 baseResidues_standFor hi j
  rwa [Vector.getElem_toList] at hentry

/-- `Bi[j] = (2j+1)*B` -/
theorem Bi_standsFor (j : Fin 8) : (Bi.get j).StandsFor ((2 * j.val + 1) • basePoint) := by
  have hj : j.val < Bi.toList.length := by simp
  have htwice := baseResidues_standFor.add cast_twice_curveDNumber baseResidues_standFor
  have hentry := rowMatches_standsFor tables_match.2 htwice baseResidues_standFor hj
  rwa [← two_nsmul, ← mul_nsmul', mul_comm, ← succ_nsmul', Vector.getElem_toList] at hentry

end CEd25519

end RxLisk

import Mathlib.Data.Nat.Periodic
import Mathlib.Data.Set.Card
import Mathlib.Tactic.Ring

/-!
# Residues in an interval

Any `limit` consecutive numbers meet every residue class once.  An interval of `count` such blocks
and one more number at its end therefore meets the class of its ends once more than the others.
-/

namespace Residues

variable {limit residue : ℕ}

/-- One number of a block lies in the class. -/
theorem card_block (start : ℕ) (h : residue < limit) :
    ((Finset.Ico start (start + limit)).filter (· % limit = residue)).card = 1 := by
  have hperiodic : Function.Periodic (fun number ↦ number % limit = residue) limit := by
    intro number
    simp only [Nat.add_mod_right]
  rw [Nat.filter_Ico_card_eq_of_periodic start limit _ hperiodic, Nat.count_eq_card_filter_range,
    Finset.card_eq_one]
  refine ⟨residue, ?_⟩
  ext number
  rw [Finset.mem_filter, Finset.mem_range, Finset.mem_singleton]
  constructor
  · rintro ⟨hlt, hmod⟩
    rwa [Nat.mod_eq_of_lt hlt] at hmod
  · rintro rfl
    exact ⟨h, Nat.mod_eq_of_lt h⟩

theorem card_blocks (start count : ℕ) (h : residue < limit) :
    ((Finset.Ico start (start + count * limit)).filter (· % limit = residue)).card = count := by
  induction count with
  | zero => simp
  | succ count ih =>
    have hsplit : Finset.Ico start (start + (count + 1) * limit) =
        Finset.Ico start (start + count * limit) ∪
          Finset.Ico (start + count * limit) (start + count * limit + limit) := by
      rw [Finset.Ico_union_Ico_eq_Ico (by omega) (by omega)]
      congr 1
      ring
    have hdisjoint := Finset.Ico_disjoint_Ico_consecutive start (start + count * limit)
      (start + count * limit + limit)
    rw [hsplit, Finset.filter_union, Finset.card_union_of_disjoint
      (Finset.disjoint_filter_filter hdisjoint), ih, card_block _ h]

/-- Whole blocks and the number behind them: the class of the ends is met once more. -/
theorem card_interval (start count : ℕ) (h : residue < limit) :
    ((Finset.Icc start (start + count * limit)).filter (· % limit = residue)).card =
      count + if start % limit = residue then 1 else 0 := by
  have hlast : (start + count * limit) % limit = start % limit := Nat.add_mul_mod_self_right ..
  have hinsert : Finset.Icc start (start + count * limit) =
      insert (start + count * limit) (Finset.Ico start (start + count * limit)) :=
    (Finset.Ico_insert_right (Nat.le_add_right _ _)).symm
  rw [hinsert, Finset.filter_insert, hlast]
  by_cases hresidue : start % limit = residue
  · rw [if_pos hresidue, if_pos hresidue, Finset.card_insert_of_notMem, card_blocks _ _ h]
    simp
  · rw [if_neg hresidue, if_neg hresidue, card_blocks _ _ h, add_zero]

end Residues

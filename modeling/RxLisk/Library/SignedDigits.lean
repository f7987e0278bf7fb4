import Mathlib.Algebra.BigOperators.Intervals
import Mathlib.Algebra.Module.NatInt
import Mathlib.Algebra.Order.Ring.Int
import Mathlib.Tactic.Ring
import Mathlib.Tactic.Module

/-!
# Signed binary digits

A number is a list of digits that may be negative and larger than one, least significant first.  The
sum of two multiples in a group is computed from the digits of both factors at once, with one
doubling a place.
-/

namespace SignedDigits

/-- The number of binary digits. -/
def value : List ℤ → ℤ
  | [] => 0
  | digit :: rest => digit + 2 * value rest

@[simp]
theorem value_nil : value [] = 0 := rfl

@[simp]
theorem value_cons (digit : ℤ) (rest : List ℤ) : value (digit :: rest) = digit + 2 * value rest :=
  rfl

theorem value_append (low high : List ℤ) :
    value (low ++ high) = value low + 2 ^ low.length * value high := by
  induction low with
  | nil => simp
  | cons digit low ih =>
    rw [List.cons_append, value_cons, ih, value_cons, List.length_cons, pow_succ]
    ring

theorem value_map_range (digit : ℕ → ℤ) (count : ℕ) :
    value ((List.range count).map digit) = ∑ i ∈ Finset.range count, 2 ^ i * digit i := by
  induction count with
  | zero => rfl
  | succ count ih =>
    rw [List.range_succ, List.map_append, value_append, ih, Finset.sum_range_succ]
    simp

/-! ## Zeros and ones -/

/-- The digits are ordinary ones. -/
def Bits (digits : List ℤ) : Prop := ∀ digit ∈ digits, digit = 0 ∨ digit = 1

theorem bits_cons {digit : ℤ} {rest : List ℤ} :
    Bits (digit :: rest) ↔ (digit = 0 ∨ digit = 1) ∧ Bits rest := by
  rw [Bits, List.forall_mem_cons, Bits]

theorem Bits.value_lt {digits : List ℤ} (h : Bits digits) : value digits < 2 ^ digits.length := by
  induction digits with
  | nil => exact one_pos
  | cons digit rest ih =>
    obtain ⟨hdigit, hrest⟩ := bits_cons.mp h
    have hvalue := ih hrest
    rw [value_cons, List.length_cons, pow_succ]
    omega

/-! ## Multiples in a group -/

section Group

variable {G : Type*} [AddCommGroup G] (P Q : G)

/-- One place: double, then add the multiples for the two digits. -/
def place (sum : G) (digits : ℤ × ℤ) : G := sum + sum + digits.1 • P + digits.2 • Q

theorem foldr_place {left right : List ℤ} (h : left.length = right.length) :
    (left.zip right).foldr (fun digits sum ↦ place P Q sum digits) 0 =
      value left • P + value right • Q := by
  induction left generalizing right with
  | nil =>
    cases right with
    | nil => simp
    | cons => cases h
  | cons digit left ih =>
    cases right with
    | nil => cases h
    | cons digit' right =>
      rw [List.zip_cons_cons, List.foldr_cons, ih (Nat.succ.inj h), place, value_cons, value_cons]
      module

/-- Zero digits at the start do nothing. -/
theorem foldl_place_dropWhile (digits : List (ℤ × ℤ)) :
    (digits.dropWhile fun pair ↦ pair.1 = 0 ∧ pair.2 = 0).foldl (place P Q) 0 =
      digits.foldl (place P Q) 0 := by
  induction digits with
  | nil => rfl
  | cons pair digits ih =>
    obtain ⟨left, right⟩ := pair
    rw [List.dropWhile_cons]
    split
    · rename_i hzero
      obtain ⟨rfl, rfl⟩ := of_decide_eq_true hzero
      have hstart : place P Q 0 (0, 0) = 0 := by simp [place]
      rw [ih, List.foldl_cons, hstart]
    · rfl

/-- The sum of two multiples, from the highest place down and without the zeros above it. -/
theorem foldl_place {left right : List ℤ} (h : left.length = right.length) :
    ((left.zip right).reverse.dropWhile fun pair ↦ pair.1 = 0 ∧ pair.2 = 0).foldl (place P Q) 0 =
      value left • P + value right • Q := by
  rw [foldl_place_dropWhile, List.foldl_reverse, foldr_place P Q h]

end Group

end SignedDigits

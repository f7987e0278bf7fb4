import RxLisk.Library.BitFields
import RxLisk.Library.LimbSteps
import Mathlib.Data.ZMod.Basic
import Mathlib.Tactic.FinCases
import Mathlib.Tactic.LinearCombination

/-!
# Field elements modulo `2^255 - 19`

An element is ten signed 32-bit limbs, alternately of 26 and 25 bits.  Sums and differences are left
uncarried, so the size of the limbs is tracked: a limb of `size` units is at most `size` times a
256th of its place.  The source states the sizes that its functions accept and return; here they
are hypotheses and conclusions, and within them no 32-bit or 64-bit operation overflows.

Each function of the arithmetic computes the operation of the field that it is named after, for
elements whose limbs are small enough, and returns limbs of a known size.  A product accepts limbs
of 420 units and returns limbs of 129, just above the 128 of a fully carried element.

Loading ignores the top bit and accepts every number below `2^255`, so twenty-odd elements have two
encodings.  Storing subtracts the right multiple of the field order first, and so writes the one
canonical encoding of the number that the limbs represent.
-/

namespace RxLisk

namespace CEd25519

open LimbSteps

/-- The modulus `2^255 - 19`. -/
@[irreducible]
def fieldOrder : ℕ := 2 ^ 255 - 19

theorem fieldOrder_eq : fieldOrder = 2 ^ 255 - 19 := by
  rw [fieldOrder]

instance : NeZero fieldOrder := ⟨by rw [fieldOrder_eq]; norm_num⟩

/-- Ten limbs of 32 bits, least significant first. -/
abbrev Fe : Type := Vector Int32 10

/-- The limbs while they are computed. -/
abbrev WideFe : Type := Vector Int64 10

def limbBits (i : Fin 10) : ℕ := if i.val % 2 = 0 then 26 else 25

/-- The weight `2^⌈25.5 i⌉` of a limb. -/
def feWeight (i : Fin 10) : ℤ := 2 ^ ((51 * i.val + 1) / 2)

/-- A 256th of the place of a limb. -/
def limbUnit (i : Fin 10) : ℕ := 2 ^ (limbBits i - 8)

/-- Limbs of at most `size` units. -/
def sizeBox (size : ℕ) : Vector Interval 10 :=
  Vector.ofFn fun i ↦ ⟨-(size * limbUnit i : ℕ), (size * limbUnit i : ℕ)⟩

/-- The number that an element represents, modulo the field order. -/
def feValue (f : Fe) : ZMod fieldOrder := ((value feWeight f : ℤ) : ZMod fieldOrder)

/-- The element has limbs of at most `size` units. -/
def Sized (size : ℕ) (f : Fe) : Prop := Within (sizeBox size) f

theorem sized_iff {size : ℕ} {f : Fe} :
    Sized size f ↔ ∀ i : Fin 10, |toInt f[i]| ≤ size * limbUnit i := by
  unfold Sized Within
  apply forall_congr'
  intro i
  rw [abs_le, Interval.mem_iff, Fin.getElem_fin, Fin.getElem_fin, sizeBox, Vector.getElem_ofFn]
  push_cast
  rfl

theorem Sized.mono {small large : ℕ} {f : Fe} (h : Sized small f) (hle : small ≤ large) :
    Sized large f := by
  rw [sized_iff] at h ⊢
  intro i
  refine (h i).trans ?_
  gcongr

/-! ## Limb by limb -/

def fe0 : Fe := #v[0, 0, 0, 0, 0, 0, 0, 0, 0, 0]

def fe1 : Fe := #v[1, 0, 0, 0, 0, 0, 0, 0, 0, 0]

/-- `h = f + g` -/
def feAdd (f g : Fe) : Fe := Vector.zipWith (· + ·) f g

/-- `h = f - g` -/
def feSub (f g : Fe) : Fe := Vector.zipWith (· - ·) f g

/-- `h = -f` -/
def feNeg (f : Fe) : Fe := f.map (- ·)

/-- `x` with all bits kept where `b` is one, and none where it is zero. -/
def masked (x : Int32) (b : UInt32) : Int32 := x &&& (-b).toInt32

/-- Replace `f` with `g` if `b` is one; keep `f` if `b` is zero. -/
def feCmov (f g : Fe) (b : UInt32) : Fe :=
  Vector.zipWith (fun f g ↦ f ^^^ masked (f ^^^ g) b) f g

/-- Swap the two elements if `b` is one; keep them if `b` is zero. -/
def feCswap (f g : Fe) (b : UInt32) : Fe × Fe :=
  (Vector.zipWith (fun f g ↦ f ^^^ masked (f ^^^ g) b) f g,
    Vector.zipWith (fun f g ↦ g ^^^ masked (f ^^^ g) b) f g)

/-! ## Products -/

/-- The carry out of a limb: rounded to the nearest, and `2^255 = 19` beyond the last limb. -/
def feCarry (i : Fin 10) : Step 10 where
  source := i
  shift := limbBits i
  round := 2 ^ (limbBits i - 1)
  targets := [(i + 1, if i = 9 then 19 else 1)]

/-- The product of a limb of `f` and one of `g`, each multiplied by a factor in 32 bits first. -/
structure Term where
  left : Fin 10
  leftFactor : ℕ
  right : Fin 10
  rightFactor : ℕ

def Term.product (f g : Fe) (term : Term) : Int64 :=
  (Int32.ofNat term.leftFactor * f[term.left]).toInt64 *
    (Int32.ofNat term.rightFactor * g[term.right]).toInt64

def sumOfProducts (f g : Fe) (terms : List Term) : Int64 :=
  terms.foldl (fun sum term ↦ sum + term.product f g) 0

/-- The terms of the limb `k` of a product: `f_i g_j` with `i + j = k` or, times 19, `i + j = k +
10`; both limbs odd make a factor of two. -/
def mulTerms (k : Fin 10) : List Term :=
  (List.finRange 10).map fun i ↦
    let j := k - i
    { left := i
      leftFactor := if i.val % 2 = 1 ∧ j.val % 2 = 1 then 2 else 1
      right := j
      rightFactor := if k < i then 19 else 1 }

/-- The carries after a multiplication. -/
def mulCarries : List (Step 10) := [0, 4, 1, 5, 2, 6, 3, 7, 4, 8, 9, 0].map feCarry

def narrow (h : WideFe) : Fe := h.map Int64.toInt32

/-- `h = f * g` -/
def feMul (f g : Fe) : Fe :=
  narrow (run mulCarries (Vector.ofFn fun k ↦ sumOfProducts f g (mulTerms k)))

/-- The terms of the limb `k` of a square, with the factors as the source distributes them. -/
def sqTerms : Fin 10 → List Term
  | 0 => [⟨0, 1, 0, 1⟩, ⟨1, 2, 9, 38⟩, ⟨2, 2, 8, 19⟩, ⟨3, 2, 7, 38⟩, ⟨4, 2, 6, 19⟩, ⟨5, 1, 5, 38⟩]
  | 1 => [⟨0, 2, 1, 1⟩, ⟨2, 1, 9, 38⟩, ⟨3, 2, 8, 19⟩, ⟨4, 1, 7, 38⟩, ⟨5, 2, 6, 19⟩]
  | 2 => [⟨0, 2, 2, 1⟩, ⟨1, 2, 1, 1⟩, ⟨3, 2, 9, 38⟩, ⟨4, 2, 8, 19⟩, ⟨5, 2, 7, 38⟩, ⟨6, 1, 6, 19⟩]
  | 3 => [⟨0, 2, 3, 1⟩, ⟨1, 2, 2, 1⟩, ⟨4, 1, 9, 38⟩, ⟨5, 2, 8, 19⟩, ⟨6, 1, 7, 38⟩]
  | 4 => [⟨0, 2, 4, 1⟩, ⟨1, 2, 3, 2⟩, ⟨2, 1, 2, 1⟩, ⟨5, 2, 9, 38⟩, ⟨6, 2, 8, 19⟩, ⟨7, 1, 7, 38⟩]
  | 5 => [⟨0, 2, 5, 1⟩, ⟨1, 2, 4, 1⟩, ⟨2, 2, 3, 1⟩, ⟨6, 1, 9, 38⟩, ⟨7, 2, 8, 19⟩]
  | 6 => [⟨0, 2, 6, 1⟩, ⟨1, 2, 5, 2⟩, ⟨2, 2, 4, 1⟩, ⟨3, 2, 3, 1⟩, ⟨7, 2, 9, 38⟩, ⟨8, 1, 8, 19⟩]
  | 7 => [⟨0, 2, 7, 1⟩, ⟨1, 2, 6, 1⟩, ⟨2, 2, 5, 1⟩, ⟨3, 2, 4, 1⟩, ⟨8, 1, 9, 38⟩]
  | 8 => [⟨0, 2, 8, 1⟩, ⟨1, 2, 7, 2⟩, ⟨2, 2, 6, 1⟩, ⟨3, 2, 5, 2⟩, ⟨4, 1, 4, 1⟩, ⟨9, 1, 9, 38⟩]
  | 9 => [⟨0, 2, 9, 1⟩, ⟨1, 2, 8, 1⟩, ⟨2, 2, 7, 1⟩, ⟨3, 2, 6, 1⟩, ⟨4, 2, 5, 1⟩]

/-- `h = f * f` -/
def feSq (f : Fe) : Fe :=
  narrow (run mulCarries (Vector.ofFn fun k ↦ sumOfProducts f f (sqTerms k)))

/-- `h = 2 * f * f` -/
def feSq2 (f : Fe) : Fe :=
  narrow (run mulCarries (Vector.ofFn fun k ↦
    let h := sumOfProducts f f (sqTerms k)
    h + h))

/-- The carries after a multiplication by a small constant, and after loading bytes. -/
def shortCarries : List (Step 10) := [9, 1, 3, 5, 7, 0, 2, 4, 6, 8].map feCarry

/-- `h = f * 121666` -/
def feMul121666 (f : Fe) : Fe :=
  narrow (run shortCarries (f.map fun limb ↦ limb.toInt64 * 121666))

/-! # What an element represents -/

/-- The element has limbs of at most `size` units and represents `x`. -/
structure Represents (size : ℕ) (f : Fe) (x : ZMod fieldOrder) : Prop where
  sized : Sized size f
  feValue_eq : feValue f = x

theorem Represents.mono {small large : ℕ} {f : Fe} {x : ZMod fieldOrder}
    (h : Represents small f x) (hle : small ≤ large) : Represents large f x :=
  ⟨h.sized.mono hle, h.feValue_eq⟩

theorem limbUnit_le (i : Fin 10) : limbUnit i ≤ 2 ^ 18 := by
  fin_cases i <;> decide

theorem feValue_eq_sum (f : Fe) :
    feValue f = ∑ i, (feWeight i : ZMod fieldOrder) * (toInt f[i] : ZMod fieldOrder) := by
  unfold feValue value
  push_cast
  rfl

/-! ## Results limb by limb -/

theorem Represents.zero : Represents 0 fe0 0 := by
  constructor
  · unfold Sized Within
    decide
  · rw [feValue, show value feWeight fe0 = 0 by decide]
    exact Int.cast_zero

theorem Represents.one : Represents 1 fe1 1 := by
  constructor
  · unfold Sized Within
    decide
  · rw [feValue, show value feWeight fe1 = 1 by decide]
    exact Int.cast_one

/-- A limb of at most 8191 units is in the range of 32 bits. -/
theorem abs_toInt_lt {size : ℕ} {x : ℤ} {i : Fin 10} (hsize : size < 8192)
    (hx : |x| ≤ size * limbUnit i) : -(limit Int32 : ℤ) ≤ x ∧ x < limit Int32 := by
  have hunit : ((size * limbUnit i : ℕ) : ℤ) ≤ (8191 * 2 ^ 18 : ℕ) := by
    exact_mod_cast Nat.mul_le_mul (by omega) (limbUnit_le i)
  have hlimit : (limit Int32 : ℤ) = 2 ^ 31 := rfl
  push_cast at hunit
  rw [abs_le] at hx
  constructor <;> linarith

section LimbByLimb

variable {sizeF sizeG : ℕ} {f g : Fe} {x y : ZMod fieldOrder}

theorem toInt_feAdd (hf : Sized sizeF f) (hg : Sized sizeG g) (hsize : sizeF + sizeG < 8192)
    (i : Fin 10) : toInt (feAdd f g)[i] = toInt f[i] + toInt g[i] := by
  have hfits := abs_toInt_lt (x := toInt f[i] + toInt g[i]) (i := i) hsize (by
    refine (abs_add_le _ _).trans ?_
    push_cast
    rw [add_mul]
    exact add_le_add (sized_iff.mp hf i) (sized_iff.mp hg i))
  have hlimb : (feAdd f g)[i] = f[i] + g[i] := by simp [feAdd]
  rw [hlimb, MachineInt.toInt_add _ _ hfits.1 hfits.2]

theorem Represents.add (hf : Represents sizeF f x) (hg : Represents sizeG g y)
    (hsize : sizeF + sizeG < 8192) : Represents (sizeF + sizeG) (feAdd f g) (x + y) := by
  have hlimb := toInt_feAdd hf.sized hg.sized hsize
  constructor
  · rw [sized_iff]
    intro i
    rw [hlimb]
    refine (abs_add_le _ _).trans ?_
    push_cast
    rw [add_mul]
    exact add_le_add (sized_iff.mp hf.sized i) (sized_iff.mp hg.sized i)
  · rw [← hf.feValue_eq, ← hg.feValue_eq]
    simp only [feValue_eq_sum, hlimb, Int.cast_add, mul_add, Finset.sum_add_distrib]

theorem toInt_feSub (hf : Sized sizeF f) (hg : Sized sizeG g) (hsize : sizeF + sizeG < 8192)
    (i : Fin 10) : toInt (feSub f g)[i] = toInt f[i] - toInt g[i] := by
  have hfits := abs_toInt_lt (x := toInt f[i] - toInt g[i]) (i := i) hsize (by
    refine (abs_sub _ _).trans ?_
    push_cast
    rw [add_mul]
    exact add_le_add (sized_iff.mp hf i) (sized_iff.mp hg i))
  have hlimb : (feSub f g)[i] = f[i] - g[i] := by simp [feSub]
  rw [hlimb, MachineInt.toInt_sub _ _ hfits.1 hfits.2]

theorem Represents.sub (hf : Represents sizeF f x) (hg : Represents sizeG g y)
    (hsize : sizeF + sizeG < 8192) : Represents (sizeF + sizeG) (feSub f g) (x - y) := by
  have hlimb := toInt_feSub hf.sized hg.sized hsize
  constructor
  · rw [sized_iff]
    intro i
    rw [hlimb]
    refine (abs_sub _ _).trans ?_
    push_cast
    rw [add_mul]
    exact add_le_add (sized_iff.mp hf.sized i) (sized_iff.mp hg.sized i)
  · rw [← hf.feValue_eq, ← hg.feValue_eq]
    simp only [feValue_eq_sum, hlimb, Int.cast_sub, mul_sub, Finset.sum_sub_distrib]

theorem Represents.neg (hf : Represents sizeF f x) (hsize : sizeF < 8192) :
    Represents sizeF (feNeg f) (-x) := by
  have hlimb (i : Fin 10) : toInt (feNeg f)[i] = -toInt f[i] := by
    have hfits := abs_toInt_lt (x := -toInt f[i]) (i := i) hsize (by
      rw [abs_neg]
      exact sized_iff.mp hf.sized i)
    have hneg : (feNeg f)[i] = -f[i] := by simp [feNeg]
    rw [hneg]
    change (-f[i]).toInt = -f[i].toInt
    rw [Int32.toInt_neg]
    exact Int.bmod_eq_of_le hfits.1 hfits.2
  constructor
  · rw [sized_iff]
    intro i
    rw [hlimb, abs_neg]
    exact sized_iff.mp hf.sized i
  · rw [← hf.feValue_eq]
    simp only [feValue_eq_sum, hlimb, Int.cast_neg, mul_neg, Finset.sum_neg_distrib]

/-- With a bit of one every bit is kept, with zero none. -/
theorem masked_one (x : Int32) : masked x 1 = x := by
  simp [masked]

theorem masked_zero (x : Int32) : masked x 0 = 0 := by
  simp [masked]

theorem feCmov_one (f g : Fe) : feCmov f g 1 = g := by
  apply Vector.ext
  intro i hi
  rw [feCmov, Vector.getElem_zipWith, masked_one, ← Int32.xor_assoc, Int32.xor_self, Int32.zero_xor]

theorem feCmov_zero (f g : Fe) : feCmov f g 0 = f := by
  apply Vector.ext
  intro i hi
  rw [feCmov, Vector.getElem_zipWith, masked_zero, Int32.xor_zero]

theorem feCswap_one (f g : Fe) : feCswap f g 1 = (g, f) := by
  have hright : Vector.zipWith (fun f g ↦ g ^^^ masked (f ^^^ g) 1) f g = f := by
    apply Vector.ext
    intro i hi
    rw [Vector.getElem_zipWith, masked_one, Int32.xor_comm f[i], ← Int32.xor_assoc,
      Int32.xor_self, Int32.zero_xor]
  exact Prod.ext (feCmov_one f g) hright

theorem feCswap_zero (f g : Fe) : feCswap f g 0 = (f, g) := by
  have hright : Vector.zipWith (fun f g ↦ g ^^^ masked (f ^^^ g) 0) f g = g := by
    apply Vector.ext
    intro i hi
    rw [Vector.getElem_zipWith, masked_zero, Int32.xor_zero]
  exact Prod.ext (feCmov_zero f g) hright

end LimbByLimb

/-! ## Sums of products -/

/-- Everything that the 32-bit and 64-bit ranges ask of a term. -/
structure Term.Fits (sizeF sizeG : ℕ) (term : Term) : Prop where
  left_lt : term.leftFactor < 2 ^ 31
  left_mul_lt : term.leftFactor * (sizeF * limbUnit term.left) < 2 ^ 31
  right_lt : term.rightFactor < 2 ^ 31
  right_mul_lt : term.rightFactor * (sizeG * limbUnit term.right) < 2 ^ 31

theorem Term.fits_iff {sizeF sizeG : ℕ} {term : Term} : term.Fits sizeF sizeG ↔
    (term.leftFactor < 2 ^ 31 ∧ term.leftFactor * (sizeF * limbUnit term.left) < 2 ^ 31) ∧
      term.rightFactor < 2 ^ 31 ∧ term.rightFactor * (sizeG * limbUnit term.right) < 2 ^ 31 :=
  ⟨fun h ↦ ⟨⟨h.left_lt, h.left_mul_lt⟩, h.right_lt, h.right_mul_lt⟩,
    fun h ↦ ⟨h.1.1, h.1.2, h.2.1, h.2.2⟩⟩

instance (sizeF sizeG : ℕ) (term : Term) : Decidable (term.Fits sizeF sizeG) :=
  decidable_of_iff _ Term.fits_iff.symm

/-- The product of a term, as an integer. -/
def Term.exact (f g : Fe) (term : Term) : ℤ :=
  term.leftFactor * toInt f[term.left] * (term.rightFactor * toInt g[term.right])

/-- The size of the product of a term. -/
def Term.bound (sizeF sizeG : ℕ) (term : Term) : ℕ :=
  term.leftFactor * (sizeF * limbUnit term.left) *
    (term.rightFactor * (sizeG * limbUnit term.right))

section SumOfProducts

variable {sizeF sizeG : ℕ} {f g : Fe}

theorem toInt_scaled (hf : Sized sizeF f) {factor : ℕ} {i : Fin 10} (hfactor : factor < 2 ^ 31)
    (hfits : factor * (sizeF * limbUnit i) < 2 ^ 31) :
    toInt (Int32.ofNat factor * f[i]).toInt64 = factor * toInt f[i] ∧
      |factor * toInt f[i]| ≤ (factor * (sizeF * limbUnit i) : ℕ) := by
  have habs : |factor * toInt f[i]| ≤ (factor * (sizeF * limbUnit i) : ℕ) := by
    rw [abs_mul, Nat.abs_cast]
    push_cast
    exact mul_le_mul_of_nonneg_left (sized_iff.mp hf i) (by positivity)
  have hnat : toInt (Int32.ofNat factor) = factor := Int32.toInt_ofNat_of_lt hfactor
  have hlimit : (limit Int32 : ℤ) = 2 ^ 31 := rfl
  have hlt : |factor * toInt f[i]| < limit Int32 :=
    habs.trans_lt (by rw [hlimit]; exact_mod_cast hfits)
  refine ⟨?_, habs⟩
  change (Int32.ofNat factor * f[i]).toInt64.toInt = _
  rw [Int32.toInt_toInt64]
  have hmul := MachineInt.toInt_mul (Int32.ofNat factor) f[i]
  rw [hnat] at hmul
  exact hmul (abs_lt.mp hlt).1.le (abs_lt.mp hlt).2

theorem Term.toInt_product (hf : Sized sizeF f) (hg : Sized sizeG g) {term : Term}
    (hfits : term.Fits sizeF sizeG) : toInt (term.product f g) = term.exact f g ∧
      |term.exact f g| ≤ term.bound sizeF sizeG := by
  obtain ⟨hleft, hleftAbs⟩ := toInt_scaled hf hfits.left_lt hfits.left_mul_lt
  obtain ⟨hright, hrightAbs⟩ := toInt_scaled hg hfits.right_lt hfits.right_mul_lt
  have habs : |term.exact f g| ≤ term.bound sizeF sizeG := by
    rw [exact, abs_mul, bound]
    push_cast at hleftAbs hrightAbs ⊢
    exact mul_le_mul hleftAbs hrightAbs (abs_nonneg _) (by positivity)
  have hbound : term.bound sizeF sizeG ≤ 2 ^ 31 * 2 ^ 31 :=
    Nat.mul_le_mul hfits.left_mul_lt.le hfits.right_mul_lt.le
  have hlt : |term.exact f g| < limit Int64 :=
    habs.trans_lt (Int.ofNat_lt.mpr (hbound.trans_lt (by decide)))
  refine ⟨?_, habs⟩
  rw [exact] at hlt ⊢
  rw [product, MachineInt.toInt_mul, hleft, hright]
  · rw [hleft, hright]
    exact (abs_lt.mp hlt).1.le
  · rw [hleft, hright]
    exact (abs_lt.mp hlt).2

/-- The sum is exact when the sizes of its terms add up to less than 63 bits. -/
theorem sumOfProducts_spec (hf : Sized sizeF f) (hg : Sized sizeG g) {terms : List Term}
    (hfits : ∀ term ∈ terms, term.Fits sizeF sizeG)
    (hsum : (terms.map (Term.bound sizeF sizeG)).sum < 2 ^ 63) :
    toInt (sumOfProducts f g terms) = (terms.map (Term.exact f g)).sum ∧
      |(terms.map (Term.exact f g)).sum| ≤ (terms.map (Term.bound sizeF sizeG)).sum := by
  have hproduct : ∀ term ∈ terms, toInt (term.product f g) = term.exact f g ∧
      |term.exact f g| ≤ term.bound sizeF sizeG :=
    fun term hterm ↦ term.toInt_product hf hg (hfits term hterm)
  have hzero : toInt (0 : Int64) = 0 := rfl
  have hsize : ∀ term ∈ terms, |toInt (term.product f g)| ≤ term.bound sizeF sizeG := by
    intro term hterm
    rw [(hproduct term hterm).1]
    exact (hproduct term hterm).2
  have hresult := toInt_foldl_add (Term.product f g) (Term.bound sizeF sizeG) hsize 0 0
    (by simp [hzero]) (by rw [zero_add]; exact hsum)
  have hexact : (terms.map fun term ↦ toInt (term.product f g)) = terms.map (Term.exact f g) :=
    List.map_congr_left fun term hterm ↦ (hproduct term hterm).1
  rw [hexact, hzero, zero_add, zero_add] at hresult
  exact hresult

end SumOfProducts

/-! ## Carried results -/

theorem balanced_feCarry (i : Fin 10) : (feCarry i).Balanced fieldOrder feWeight := by
  rw [fieldOrder_eq]
  revert i
  decide

/-- Carrying and narrowing keep the number modulo the field order. -/
theorem represents_narrow_run {order : List (Fin 10)} (start : Vector Interval 10) {size : ℕ}
    {h : WideFe} {x : ZMod fieldOrder} (hstart : Within start h)
    (hends : EndsIn (2 ^ 63) (order.map feCarry) start (sizeBox size)) (hsize : size < 8192)
    (hvalue : ((value feWeight h : ℤ) : ZMod fieldOrder) = x) :
    Represents size (narrow (run (order.map feCarry) h)) x := by
  have hbalanced : ∀ step ∈ order.map feCarry, step.Balanced fieldOrder feWeight := by
    intro step hstep
    obtain ⟨i, _, rfl⟩ := List.mem_map.mp hstep
    exact balanced_feCarry i
  obtain ⟨hwithin, hmod⟩ := run_spec hbalanced hstart hends
  have hsized (i : Fin 10) : |toInt (run (order.map feCarry) h)[i]| ≤ size * limbUnit i := by
    have hi := hwithin i
    rw [Interval.mem_iff, Fin.getElem_fin (sizeBox size), sizeBox, Vector.getElem_ofFn] at hi
    rw [abs_le]
    push_cast at hi
    exact hi
  have hlimb (i : Fin 10) :
      toInt (narrow (run (order.map feCarry) h))[i] = toInt (run (order.map feCarry) h)[i] := by
    have hfits := abs_toInt_lt (i := i) hsize (hsized i)
    have hnarrow : (narrow (run (order.map feCarry) h))[i] =
        (run (order.map feCarry) h)[i].toInt32 := by simp [narrow]
    rw [hnarrow]
    change ((run (order.map feCarry) h)[i].toInt32).toInt = _
    rw [Int64.toInt_toInt32]
    exact Int.bmod_eq_of_le hfits.1 hfits.2
  constructor
  · rw [sized_iff]
    intro i
    rw [hlimb]
    exact hsized i
  · rw [← hvalue, feValue, ZMod.intCast_eq_intCast_iff]
    unfold value at hmod ⊢
    simpa only [hlimb] using hmod

/-- The sizes of the limbs before the carries. -/
def productBox (factor : ℕ) (terms : Fin 10 → List Term) : Vector Interval 10 :=
  Vector.ofFn fun k ↦
    let bound := factor * ((terms k).map (Term.bound 420 420)).sum
    ⟨-bound, bound⟩

theorem mulTerms_fits : ∀ k, ∀ term ∈ mulTerms k, term.Fits 420 420 := by
  decide

theorem sqTerms_fits : ∀ k, ∀ term ∈ sqTerms k, term.Fits 420 420 := by
  decide

/-- In each term the place of the result and the factors make up for the places of the limbs. -/
theorem mulTerms_balanced : ∀ k, ∀ term ∈ mulTerms k,
    (fieldOrder : ℤ) ∣ feWeight k * (term.leftFactor * term.rightFactor) -
      feWeight term.left * feWeight term.right := by
  rw [fieldOrder_eq]
  decide

theorem sqTerms_balanced : ∀ k, ∀ term ∈ sqTerms k,
    (fieldOrder : ℤ) ∣ feWeight k * (term.leftFactor * term.rightFactor) -
      (if term.left = term.right then 1 else 2) * (feWeight term.left * feWeight term.right) := by
  rw [fieldOrder_eq]
  decide

section Multiplication

variable {f g : Fe} {x y : ZMod fieldOrder} {sizeF sizeG : ℕ}

theorem within_productBox {f g : Fe} (hf : Sized 420 f) (hg : Sized 420 g)
    {terms : Fin 10 → List Term} (hfits : ∀ k, ∀ term ∈ terms k, term.Fits 420 420)
    (hsum : ∀ k, ((terms k).map (Term.bound 420 420)).sum < 2 ^ 63) :
    Within (productBox 1 terms) (Vector.ofFn fun k ↦ sumOfProducts f g (terms k)) := by
  intro k
  obtain ⟨hvalue, habs⟩ := sumOfProducts_spec hf hg (hfits k) (hsum k)
  rw [Fin.getElem_fin, Fin.getElem_fin, productBox, Vector.getElem_ofFn, Vector.getElem_ofFn,
    Interval.mem_iff]
  dsimp only
  rw [hvalue, one_mul]
  exact abs_le.mp habs

/-- The number behind the limbs of a sum of products, when each term is worth `multiplicity` times
the product of the limbs with their weights. -/
theorem value_sumOfProducts (hf : Sized 420 f) (hg : Sized 420 g) {terms : Fin 10 → List Term}
    (hfits : ∀ k, ∀ term ∈ terms k, term.Fits 420 420)
    (hsum : ∀ k, ((terms k).map (Term.bound 420 420)).sum < 2 ^ 63) (multiplicity : Term → ℤ)
    (hbalanced : ∀ k, ∀ term ∈ terms k,
      (fieldOrder : ℤ) ∣ feWeight k * (term.leftFactor * term.rightFactor) -
        multiplicity term * (feWeight term.left * feWeight term.right)) :
    ((value feWeight (Vector.ofFn fun k ↦ sumOfProducts f g (terms k)) : ℤ) : ZMod fieldOrder) =
      ∑ k, ((terms k).map fun term ↦ (multiplicity term : ZMod fieldOrder) *
        ((feWeight term.left * toInt f[term.left] : ℤ) *
          (feWeight term.right * toInt g[term.right] : ℤ))).sum := by
  unfold value
  rw [Int.cast_sum]
  apply Finset.sum_congr rfl
  intro k _
  rw [Fin.getElem_fin, Vector.getElem_ofFn, (sumOfProducts_spec hf hg (hfits k) (hsum k)).1,
    ← List.sum_map_mul_left]
  rw [Int.cast_list_sum, List.map_map]
  congr 1
  apply List.map_congr_left
  intro term hterm
  have hplace := (ZMod.intCast_eq_intCast_iff_dvd_sub _ _ _).mpr (hbalanced k term hterm)
  rw [Function.comp_apply, Term.exact]
  push_cast at hplace ⊢
  linear_combination -(toInt f[term.left] : ZMod fieldOrder) * toInt g[term.right] * hplace

/-- Every pair of limbs occurs once in a product. -/
theorem sum_mulTerms {R : Type} [CommRing R] (u v : Fin 10 → R) :
    ∑ k, ((mulTerms k).map fun term ↦ u term.left * v term.right).sum =
      (∑ i, u i) * ∑ j, v j := by
  have hterms (k : Fin 10) : ((mulTerms k).map fun term ↦ u term.left * v term.right).sum =
      ∑ i, u i * v (k - i) := by
    rw [mulTerms, List.map_map, ← List.ofFn_eq_map, List.sum_ofFn]
    rfl
  simp only [hterms]
  rw [Finset.sum_comm, Finset.sum_mul]
  apply Finset.sum_congr rfl
  intro i _
  rw [← Finset.mul_sum, ← (Equiv.subRight i).sum_comp v]
  rfl

/-- Every pair of limbs occurs once in a square, and stands for two unless they are the same. -/
theorem sum_sqTerms {R : Type} [CommRing R] (u : Fin 10 → R) :
    ∑ k, ((sqTerms k).map fun term ↦
      (if term.left = term.right then 1 else 2) * (u term.left * u term.right)).sum =
      (∑ i, u i) ^ 2 := by
  simp [Fin.sum_univ_succ, sqTerms]
  ring

theorem mulTerms_bound : ∀ k, ((mulTerms k).map (Term.bound 420 420)).sum < 2 ^ 63 := by
  decide

theorem sqTerms_bound : ∀ k, ((sqTerms k).map (Term.bound 420 420)).sum < 2 ^ 63 := by
  decide

theorem Represents.mul (hf : Represents sizeF f x) (hg : Represents sizeG g y)
    (hsizeF : sizeF ≤ 420) (hsizeG : sizeG ≤ 420) : Represents 129 (feMul f g) (x * y) := by
  have hf' := hf.sized.mono hsizeF
  have hg' := hg.sized.mono hsizeG
  apply represents_narrow_run _ (within_productBox hf' hg' mulTerms_fits mulTerms_bound)
  · decide
  · norm_num
  · have hvalue := value_sumOfProducts hf' hg' mulTerms_fits mulTerms_bound (fun _ ↦ 1)
      (by simpa using mulTerms_balanced)
    simp only [Int.cast_one, one_mul] at hvalue
    rw [hvalue, sum_mulTerms (fun i ↦ ((feWeight i * toInt f[i] : ℤ) : ZMod fieldOrder))
      (fun j ↦ ((feWeight j * toInt g[j] : ℤ) : ZMod fieldOrder)), ← Int.cast_sum, ← Int.cast_sum,
      ← hf.feValue_eq, ← hg.feValue_eq]
    rfl

theorem value_sq (hf : Represents sizeF f x) (hsizeF : sizeF ≤ 420) :
    ((value feWeight (Vector.ofFn fun k ↦ sumOfProducts f f (sqTerms k)) : ℤ) :
      ZMod fieldOrder) = x ^ 2 := by
  have hf' := hf.sized.mono hsizeF
  rw [value_sumOfProducts hf' hf' sqTerms_fits sqTerms_bound
    (fun term ↦ if term.left = term.right then 1 else 2) sqTerms_balanced]
  push_cast
  rw [← hf.feValue_eq, feValue_eq_sum, ← sum_sqTerms]

theorem Represents.sq (hf : Represents sizeF f x) (hsizeF : sizeF ≤ 420) :
    Represents 129 (feSq f) (x ^ 2) := by
  have hf' := hf.sized.mono hsizeF
  apply represents_narrow_run _ (within_productBox hf' hf' sqTerms_fits sqTerms_bound)
  · decide
  · norm_num
  · exact value_sq hf hsizeF

theorem Represents.sq2 (hf : Represents sizeF f x) (hsizeF : sizeF ≤ 420) :
    Represents 129 (feSq2 f) (2 * x ^ 2) := by
  have hf' := hf.sized.mono hsizeF
  have hdouble (k : Fin 10) :
      toInt (sumOfProducts f f (sqTerms k) + sumOfProducts f f (sqTerms k)) =
        2 * toInt (sumOfProducts f f (sqTerms k)) := by
    obtain ⟨hvalue, habs⟩ := sumOfProducts_spec hf' hf' (sqTerms_fits k) (sqTerms_bound k)
    rw [← hvalue] at habs
    have hbound : ∀ k, 2 * ((sqTerms k).map (Term.bound 420 420)).sum < 2 ^ 63 := by
      decide
    have hlt := Int.ofNat_lt.mpr (hbound k)
    have hlimit : (limit Int64 : ℤ) = ((2 ^ 63 : ℕ) : ℤ) := rfl
    rw [abs_le] at habs
    push_cast at hlt habs
    rw [MachineInt.toInt_add _ _ (by rw [hlimit]; push_cast; linarith)
      (by rw [hlimit]; push_cast; linarith)]
    ring
  apply represents_narrow_run (productBox 2 sqTerms)
  · intro k
    have hk := within_productBox hf' hf' sqTerms_fits sqTerms_bound k
    simp only [Fin.getElem_fin, productBox, Vector.getElem_ofFn, Interval.mem_iff] at hk ⊢
    rw [hdouble]
    push_cast at hk ⊢
    constructor <;> linarith
  · decide
  · norm_num
  · rw [← value_sq hf hsizeF]
    unfold value
    simp only [Fin.getElem_fin, Vector.getElem_ofFn, hdouble]
    push_cast
    rw [Finset.mul_sum]
    apply Finset.sum_congr rfl
    intro k _
    ring

/-- The sizes of the limbs after multiplying by a constant. -/
def scaledBox (factor size : ℕ) : Vector Interval 10 :=
  Vector.ofFn fun i ↦ ⟨-(factor * (size * limbUnit i) : ℕ), (factor * (size * limbUnit i) : ℕ)⟩

theorem Represents.mul121666 (hf : Represents sizeF f x) (hsizeF : sizeF ≤ 420) :
    Represents 130 (feMul121666 f) (121666 * x) := by
  have hf' := hf.sized.mono hsizeF
  have hlimb (i : Fin 10) :
      toInt (f[i].toInt64 * 121666) = 121666 * toInt f[i] ∧
        |121666 * toInt f[i]| ≤ (121666 * (420 * limbUnit i) : ℕ) := by
    have habs : |121666 * toInt f[i]| ≤ (121666 * (420 * limbUnit i) : ℕ) := by
      rw [abs_mul]
      push_cast
      exact mul_le_mul_of_nonneg_left (sized_iff.mp hf' i) (by norm_num)
    have hbound : ∀ i : Fin 10, 121666 * (420 * limbUnit i) < 2 ^ 63 := by
      decide
    have hlt := abs_lt.mp (habs.trans_lt (Int.ofNat_lt.mpr (hbound i)))
    refine ⟨?_, habs⟩
    have hfactor : toInt (121666 : Int64) = 121666 := rfl
    have hwide : toInt f[i].toInt64 = toInt f[i] := Int32.toInt_toInt64 _
    have hmul := MachineInt.toInt_mul f[i].toInt64 121666
    rw [hfactor, hwide, mul_comm] at hmul
    exact hmul hlt.1.le hlt.2
  apply represents_narrow_run (scaledBox 121666 420)
  · intro i
    rw [Fin.getElem_fin, Fin.getElem_fin, scaledBox, Vector.getElem_ofFn, Vector.getElem_map,
      Interval.mem_iff]
    dsimp only
    have hi := hlimb i
    rw [Fin.getElem_fin] at hi
    rw [hi.1]
    exact abs_le.mp hi.2
  · decide
  · norm_num
  · rw [← hf.feValue_eq, feValue_eq_sum]
    unfold value
    have hlimb' (i : Fin 10) : toInt (f.map fun limb ↦ limb.toInt64 * 121666)[i] =
        121666 * toInt f[i] := by
      rw [Fin.getElem_fin, Vector.getElem_map]
      exact (hlimb i).1
    simp only [hlimb']
    push_cast
    rw [Finset.mul_sum]
    apply Finset.sum_congr rfl
    intro i _
    ring

end Multiplication

/-! # Field elements as bytes -/

open BitFields LittleEndian

/-! ## Loads -/

section Loads

variable {n : ℕ} (bytes : Vector UInt8 n) (offset : ℕ)

def load3 (h : offset + 3 ≤ n := by decide) : UInt64 :=
  bytes[offset].toUInt64 ||| bytes[offset + 1].toUInt64 <<< 8 |||
    bytes[offset + 2].toUInt64 <<< 16

def load4 (h : offset + 4 ≤ n := by decide) : UInt64 :=
  bytes[offset].toUInt64 ||| bytes[offset + 1].toUInt64 <<< 8 |||
    bytes[offset + 2].toUInt64 <<< 16 ||| bytes[offset + 3].toUInt64 <<< 24

theorem toNat_getElem_vector {i : ℕ} (hi : i < n) :
    bytes[i].toNat = bitField (value bytes.toList) (8 * i) 8 := by
  have hlength : i < bytes.toList.length := by simpa using hi
  rw [← toNat_getElem bytes.toList hlength, Vector.getElem_toList]

theorem toNat_toUInt64_shiftLeft (byte : UInt8) (amount : ℕ) (hamount : amount ≤ 24) :
    (byte.toUInt64 <<< UInt64.ofNat amount).toNat = byte.toNat <<< amount := by
  have hbyte := byte.toNat_lt
  have hpow : 2 ^ amount ≤ 2 ^ 24 := Nat.pow_le_pow_right (by norm_num) hamount
  have hlt : byte.toNat * 2 ^ amount < 2 ^ 64 := by nlinarith
  rw [UInt64.toNat_shiftLeft, UInt64.toNat_ofNat',
    Nat.mod_eq_of_lt (a := amount % 2 ^ 64) (by omega),
    Nat.mod_eq_of_lt (a := amount) (by omega), UInt8.toNat_toUInt64, Nat.shiftLeft_eq,
    Nat.mod_eq_of_lt hlt]

theorem toNat_load3 (h : offset + 3 ≤ n) :
    (load3 bytes offset h).toNat = bitField (value bytes.toList) (8 * offset) 24 := by
  have h1 : (bytes[offset + 1].toUInt64 <<< 8).toNat = bytes[offset + 1].toNat <<< 8 :=
    toNat_toUInt64_shiftLeft _ 8 (by norm_num)
  have h2 : (bytes[offset + 2].toUInt64 <<< 16).toNat = bytes[offset + 2].toNat <<< 16 :=
    toNat_toUInt64_shiftLeft _ 16 (by norm_num)
  rw [load3, UInt64.toNat_or, UInt64.toNat_or, UInt8.toNat_toUInt64, h1, h2,
    toNat_getElem_vector bytes, toNat_getElem_vector bytes, toNat_getElem_vector bytes,
    Nat.mul_add, Nat.mul_add, bitField_or, bitField_or]

theorem toNat_load4 (h : offset + 4 ≤ n) :
    (load4 bytes offset h).toNat = bitField (value bytes.toList) (8 * offset) 32 := by
  have h3 : (bytes[offset + 3].toUInt64 <<< 24).toNat = bytes[offset + 3].toNat <<< 24 :=
    toNat_toUInt64_shiftLeft _ 24 (by norm_num)
  have hload := toNat_load3 bytes offset (by omega)
  rw [load3] at hload
  rw [load4, UInt64.toNat_or, hload, h3, toNat_getElem_vector bytes, Nat.mul_add, bitField_or]

end Loads

/-! ## Unpacking -/

/-- Ignores the top bit of `s`. -/
def feFrombytes (s : Vector UInt8 32) : Fe :=
  let h : WideFe :=
    #v[(load4 s 0).toInt64,
      (load3 s 4 <<< 6).toInt64,
      (load3 s 7 <<< 5).toInt64,
      (load3 s 10 <<< 3).toInt64,
      (load3 s 13 <<< 2).toInt64,
      (load4 s 16).toInt64,
      (load3 s 20 <<< 7).toInt64,
      (load3 s 23 <<< 5).toInt64,
      (load3 s 26 <<< 4).toInt64,
      ((load3 s 29 &&& 8388607) <<< 2).toInt64]
  narrow (run shortCarries h)

theorem toInt_toInt64 {word : UInt64} (h : word.toNat < 2 ^ 63) :
    toInt word.toInt64 = word.toNat := by
  change word.toBitVec.toInt = _
  rw [BitVec.toInt_eq_toNat_of_lt]
  · rfl
  · change 2 * word.toNat < 2 ^ 64
    omega

/-- A loaded field, moved up inside its word. -/
theorem toInt_shiftLeft {word : UInt64} {number start length : ℕ} (shift : ℕ)
    (hword : word.toNat = bitField number start length) (hshift : length + shift < 64) :
    toInt (word <<< UInt64.ofNat shift).toInt64 = 2 ^ shift * bitField number start length := by
  have hlt := bitField_lt number start length
  have hproduct : bitField number start length * 2 ^ shift < 2 ^ (length + shift) := by
    rw [pow_add]
    exact Nat.mul_lt_mul_of_pos_right hlt (by positivity)
  have hpow : 2 ^ (length + shift) ≤ 2 ^ 63 := Nat.pow_le_pow_right (by norm_num) (by omega)
  have hnat : (word <<< UInt64.ofNat shift).toNat = 2 ^ shift * bitField number start length := by
    rw [UInt64.toNat_shiftLeft, hword, UInt64.toNat_ofNat',
      Nat.mod_eq_of_lt (a := shift) (by omega),
      Nat.mod_eq_of_lt (a := shift) (by omega), Nat.shiftLeft_eq, Nat.mod_eq_of_lt (by omega),
      mul_comm]
  rw [toInt_toInt64 (by rw [hnat, mul_comm]; omega), hnat]
  push_cast
  rfl

theorem value_feWeight {W : Type} [MachineInt W] (h0 h1 h2 h3 h4 h5 h6 h7 h8 h9 : W) :
    value feWeight #v[h0, h1, h2, h3, h4, h5, h6, h7, h8, h9] =
      toInt h0 + 2 ^ 26 * toInt h1 + 2 ^ 51 * toInt h2 + 2 ^ 77 * toInt h3 + 2 ^ 102 * toInt h4 +
        2 ^ 128 * toInt h5 + 2 ^ 153 * toInt h6 + 2 ^ 179 * toInt h7 + 2 ^ 204 * toInt h8 +
        2 ^ 230 * toInt h9 := by
  simp only [LimbSteps.value, Fin.sum_univ_succ]
  simp [feWeight]
  ring

/-- The ranges of the limbs as they are loaded. -/
def loadedBox : Vector Interval 10 :=
  #v[⟨0, 2 ^ 32⟩, ⟨0, 2 ^ 30⟩, ⟨0, 2 ^ 29⟩, ⟨0, 2 ^ 27⟩, ⟨0, 2 ^ 26⟩, ⟨0, 2 ^ 32⟩, ⟨0, 2 ^ 31⟩,
    ⟨0, 2 ^ 29⟩, ⟨0, 2 ^ 28⟩, ⟨0, 2 ^ 25⟩]

theorem shifted_mem (number start length shift : ℕ) :
    (2 ^ shift * bitField number start length : ℤ) ∈ (⟨0, 2 ^ (shift + length)⟩ : Interval) := by
  have hlt : (bitField number start length : ℤ) ≤ 2 ^ length := by
    exact_mod_cast (bitField_lt number start length).le
  constructor
  · positivity
  · rw [pow_add]
    exact mul_le_mul_of_nonneg_left hlt (by positivity)

/-- The loaded fields are neighbours, and together the lower 255 bits. -/
theorem sum_loaded (number : ℕ) :
    (2 ^ 0 * bitField number 0 32 + 2 ^ 26 * (2 ^ 6 * bitField number 32 24) +
        2 ^ 51 * (2 ^ 5 * bitField number 56 24) + 2 ^ 77 * (2 ^ 3 * bitField number 80 24) +
        2 ^ 102 * (2 ^ 2 * bitField number 104 24) + 2 ^ 128 * (2 ^ 0 * bitField number 128 32) +
        2 ^ 153 * (2 ^ 7 * bitField number 160 24) + 2 ^ 179 * (2 ^ 5 * bitField number 184 24) +
        2 ^ 204 * (2 ^ 4 * bitField number 208 24) + 2 ^ 230 * (2 ^ 2 * bitField number 232 23) : ℤ) =
      (number % 2 ^ 255 : ℕ) := by
  have hjoin : bitField number 0 255 =
      bitField number 0 (32 + (24 + (24 + (24 + (24 + (32 + (24 + (24 + (24 + 23))))))))) := rfl
  rw [← bitField_zero, hjoin, ← bitField_add, ← bitField_add, ← bitField_add, ← bitField_add,
    ← bitField_add, ← bitField_add, ← bitField_add, ← bitField_add, ← bitField_add]
  push_cast
  ring

theorem represents_feFrombytes (s : Vector UInt8 32) :
    Represents 131 (feFrombytes s) ((value s.toList % 2 ^ 255 : ℕ) : ZMod fieldOrder) := by
  have hzero (word : UInt64) : word <<< UInt64.ofNat 0 = word := by simp
  have hmask : (load3 s 29 &&& 8388607).toNat = bitField (value s.toList) 232 23 := by
    have hbits : (8388607 : UInt64).toNat = 2 ^ 23 - 1 := rfl
    rw [UInt64.toNat_and, hbits, Nat.and_two_pow_sub_one_eq_mod, toNat_load3, ← bitField_zero,
      bitField_bitField (by norm_num)]
  have h0 : toInt (load4 s 0).toInt64 = 2 ^ 0 * bitField (value s.toList) 0 32 := by
    have hshift := toInt_shiftLeft 0 (toNat_load4 s 0 (by decide)) (by decide)
    rwa [hzero] at hshift
  have h1 : toInt (load3 s 4 <<< 6).toInt64 = 2 ^ 6 * bitField (value s.toList) 32 24 :=
    toInt_shiftLeft 6 (toNat_load3 s 4 (by decide)) (by decide)
  have h2 : toInt (load3 s 7 <<< 5).toInt64 = 2 ^ 5 * bitField (value s.toList) 56 24 :=
    toInt_shiftLeft 5 (toNat_load3 s 7 (by decide)) (by decide)
  have h3 : toInt (load3 s 10 <<< 3).toInt64 = 2 ^ 3 * bitField (value s.toList) 80 24 :=
    toInt_shiftLeft 3 (toNat_load3 s 10 (by decide)) (by decide)
  have h4 : toInt (load3 s 13 <<< 2).toInt64 = 2 ^ 2 * bitField (value s.toList) 104 24 :=
    toInt_shiftLeft 2 (toNat_load3 s 13 (by decide)) (by decide)
  have h5 : toInt (load4 s 16).toInt64 = 2 ^ 0 * bitField (value s.toList) 128 32 := by
    have hshift := toInt_shiftLeft 0 (toNat_load4 s 16 (by decide)) (by decide)
    rwa [hzero] at hshift
  have h6 : toInt (load3 s 20 <<< 7).toInt64 = 2 ^ 7 * bitField (value s.toList) 160 24 :=
    toInt_shiftLeft 7 (toNat_load3 s 20 (by decide)) (by decide)
  have h7 : toInt (load3 s 23 <<< 5).toInt64 = 2 ^ 5 * bitField (value s.toList) 184 24 :=
    toInt_shiftLeft 5 (toNat_load3 s 23 (by decide)) (by decide)
  have h8 : toInt (load3 s 26 <<< 4).toInt64 = 2 ^ 4 * bitField (value s.toList) 208 24 :=
    toInt_shiftLeft 4 (toNat_load3 s 26 (by decide)) (by decide)
  have h9 : toInt ((load3 s 29 &&& 8388607) <<< 2).toInt64 =
      2 ^ 2 * bitField (value s.toList) 232 23 :=
    toInt_shiftLeft 2 hmask (by decide)
  apply represents_narrow_run loadedBox
  · intro i
    fin_cases i
    · exact h0 ▸ shifted_mem ..
    · exact h1 ▸ shifted_mem ..
    · exact h2 ▸ shifted_mem ..
    · exact h3 ▸ shifted_mem ..
    · exact h4 ▸ shifted_mem ..
    · exact h5 ▸ shifted_mem ..
    · exact h6 ▸ shifted_mem ..
    · exact h7 ▸ shifted_mem ..
    · exact h8 ▸ shifted_mem ..
    · exact h9 ▸ shifted_mem ..
  · decide
  · norm_num
  · rw [value_feWeight, h0, h1, h2, h3, h4, h5, h6, h7, h8, h9, sum_loaded, Int.cast_natCast]

/-! ## Packing -/

/-- The quotient by the field order: the carry out of the number, started from its top limb. -/
def feQuotient (h : Fe) : Int32 :=
  (List.finRange 10).foldl (fun q i ↦ (h[i] + q) >>> Int32.ofNat (limbBits i))
    (((19 : Int32) * h[9] + ((1 : Int32) <<< 24)) >>> 25)

/-- The carry out of a limb, rounded down; the carry out of the last limb is dropped. -/
def feFloorCarry (i : Fin 10) : Step 10 where
  source := i
  shift := limbBits i
  round := 0
  targets := if i = 9 then [] else [(i + 1, 1)]

/-- Output `h - (2^255 - 19) q`, which is between 0 and `2^255 - 20`. -/
def feFreeze (h : Fe) : Fe :=
  run ((List.finRange 10).map feFloorCarry) (h.set 0 (h[0] + 19 * feQuotient h))

/-- The limb and the shift that each byte starts from. -/
def fePacking : Vector (Fin 10 × ℕ) 32 :=
  #v[(0, 0), (0, 8), (0, 16), (0, 24), (1, 6), (1, 14), (1, 22), (2, 5), (2, 13), (2, 21), (3, 3),
    (3, 11), (3, 19), (4, 2), (4, 10), (4, 18), (5, 0), (5, 8), (5, 16), (5, 24), (6, 7), (6, 15),
    (6, 23), (7, 5), (7, 13), (7, 21), (8, 4), (8, 12), (8, 20), (9, 2), (9, 10), (9, 18)]

/-- A byte from one limb or, at the end of a limb, from two. -/
def fePackedByte (h : Vector UInt32 10) (position : Fin 10 × ℕ) : UInt8 :=
  let (i, shift) := position
  if i ≠ 9 ∧ limbBits i < shift + 8 then
    (h[i] >>> UInt32.ofNat shift ||| h[i + 1] <<< UInt32.ofNat (limbBits i - shift)).toUInt8
  else (h[i] >>> UInt32.ofNat shift).toUInt8

def feTobytes (h : Fe) : Vector UInt8 32 :=
  let limbs := (feFreeze h).map Int32.toUInt32
  fePacking.map (fePackedByte limbs)

def feIsnegative (f : Fe) : UInt8 := (feTobytes f)[0] &&& 1

/-- One if any byte is not zero. -/
def feIsnonzero (f : Fe) : Bool := (feTobytes f).foldl (· ||| ·) 0 != 0

/-! ### The quotient -/

/-- Rounding down limb after limb rounds down once. -/
theorem foldl_div (limbs : List (ℤ × ℕ)) (q : ℤ) :
    limbs.foldl (fun q limb ↦ (limb.1 + q) / 2 ^ limb.2) q =
      (q + limbs.foldr (fun limb rest ↦ limb.1 + 2 ^ limb.2 * rest) 0) /
        2 ^ (limbs.map Prod.snd).sum := by
  induction limbs generalizing q with
  | nil => simp
  | cons limb limbs ih =>
    obtain ⟨limb, bits⟩ := limb
    have hpos : (2 : ℤ) ^ bits ≠ 0 := by positivity
    rw [List.foldl_cons, ih, List.foldr_cons, List.map_cons, List.sum_cons, pow_add,
      ← Int.ediv_ediv_of_nonneg (by positivity), ← Int.add_mul_ediv_left _ _ hpos]
    congr 2
    ring

theorem Sized.abs_toInt_le {size : ℕ} {f : Fe} (h : Sized size f) (i : Fin 10) :
    |toInt f[i]| ≤ size * 2 ^ 18 := by
  refine (sized_iff.mp h i).trans ?_
  exact_mod_cast Nat.mul_le_mul_left size (limbUnit_le i)

/-- What the shifts of the quotient compute: rounding down limb after limb. -/
theorem toInt_foldl_shiftRight {h : Fe} (hsized : Sized 281 h) (order : List (Fin 10)) {q : Int32}
    (hq : |toInt q| ≤ 100) :
    toInt (order.foldl (fun q i ↦ (h[i] + q) >>> Int32.ofNat (limbBits i)) q) =
        (order.map fun i ↦ (toInt h[i], limbBits i)).foldl
          (fun q limb ↦ (limb.1 + q) / 2 ^ limb.2) (toInt q) := by
  induction order generalizing q with
  | nil => rfl
  | cons i order ih =>
    have habs : |toInt h[i]| ≤ 73662464 := (hsized.abs_toInt_le i).trans_eq (by norm_num)
    rw [abs_le] at hq habs
    have hlimit : (limit Int32 : ℤ) = 2 ^ 31 := rfl
    have hadd : toInt (h[i] + q) = toInt h[i] + toInt q :=
      MachineInt.toInt_add _ _ (by rw [hlimit]; linarith) (by rw [hlimit]; linarith)
    have hbits : ∀ i, 2 ^ limbBits i < limit Int32 := by decide
    have hshift : toInt ((h[i] + q) >>> Int32.ofNat (limbBits i)) =
        (toInt h[i] + toInt q) / 2 ^ limbBits i := by
      rw [← hadd]
      exact MachineInt.toInt_shiftRight _ _ (hbits i)
    rw [List.foldl_cons, List.map_cons, List.foldl_cons, ← hshift]
    apply ih
    have hpow : ∀ i, (2 : ℤ) ^ 25 ≤ 2 ^ limbBits i := by decide
    have hi := hpow i
    rw [hshift, abs_le]
    constructor
    · rw [Int.le_ediv_iff_mul_le (by positivity)]
      linarith
    · apply Int.ediv_le_of_le_mul (by positivity)
      linarith

theorem foldr_limbs (h : Fe) :
    ((List.finRange 10).map fun i ↦ (toInt h[i], limbBits i)).foldr
      (fun limb rest ↦ limb.1 + 2 ^ limb.2 * rest) 0 = LimbSteps.value feWeight h := by
  have hrange : List.finRange 10 = [0, 1, 2, 3, 4, 5, 6, 7, 8, 9] := by decide
  rw [hrange]
  simp only [LimbSteps.value, Fin.sum_univ_succ]
  simp [feWeight, limbBits]
  ring

theorem toInt_feQuotient {h : Fe} (hsized : Sized 281 h) :
    toInt (feQuotient h) =
      (LimbSteps.value feWeight h + ((19 : ℤ) * toInt h[9] + 2 ^ 24) / 2 ^ 25) / 2 ^ 255 := by
  have habs : |toInt h[9]| ≤ 281 * 2 ^ 17 :=
    (sized_iff.mp hsized 9).trans_eq (by norm_num [limbUnit, limbBits])
  have hlimit : (limit Int32 : ℤ) = 2 ^ 31 := rfl
  rw [abs_le] at habs
  have hnineteen : toInt (19 : Int32) = 19 := rfl
  have hround : toInt ((1 : Int32) <<< 24) = 2 ^ 24 := rfl
  have hproduct : toInt ((19 : Int32) * h[9]) = (19 : ℤ) * toInt h[9] := by
    rw [MachineInt.toInt_mul, hnineteen]
    · rw [hlimit, hnineteen]
      linarith
    · rw [hlimit, hnineteen]
      linarith
  have hsum :
      toInt ((19 : Int32) * h[9] + (1 : Int32) <<< 24) = (19 : ℤ) * toInt h[9] + 2 ^ 24 := by
    rw [MachineInt.toInt_add, hproduct, hround]
    · rw [hlimit, hproduct, hround]
      linarith
    · rw [hlimit, hproduct, hround]
      linarith
  have hstart : toInt (((19 : Int32) * h[9] + (1 : Int32) <<< 24) >>> 25) =
      ((19 : ℤ) * toInt h[9] + 2 ^ 24) / 2 ^ 25 := by
    rw [← hsum]
    exact MachineInt.toInt_shiftRight _ 25 (by decide)
  have hsmall : |toInt (((19 : Int32) * h[9] + (1 : Int32) <<< 24) >>> 25)| ≤ 100 := by
    rw [hstart, abs_le]
    constructor
    · rw [Int.le_ediv_iff_mul_le (by positivity)]
      linarith
    · apply Int.ediv_le_of_le_mul (by positivity)
      linarith
  have htotal : ((List.finRange 10).map fun i ↦ (toInt h[i], limbBits i)).map Prod.snd =
      (List.finRange 10).map limbBits := by
    rw [List.map_map]
    rfl
  rw [feQuotient, toInt_foldl_shiftRight hsized _ hsmall, foldl_div, hstart, foldr_limbs, htotal,
    show ((List.finRange 10).map limbBits).sum = 255 by decide, add_comm]

/-- The remainder that the quotient leaves: the source's proof, in integers. -/
theorem quotient_eq {number top : ℤ} (hnumber : |number| < 2 ^ 256)
    (hrest : |number - 2 ^ 230 * top| < 2 ^ 232) :
    (number + (19 * top + 2 ^ 24) / 2 ^ 25) / 2 ^ 255 = number / fieldOrder := by
  have horder : (fieldOrder : ℤ) = 2 ^ 255 - 19 := by
    rw [fieldOrder_eq]
    norm_num
  rw [horder]
  obtain ⟨hlower, hupper⟩ := abs_lt.mp hnumber
  obtain ⟨hrestLower, hrestUpper⟩ := abs_lt.mp hrest
  have hmodulus : (2 : ℤ) ^ 255 - 19 ≠ 0 := by norm_num
  have hdivision := Int.mul_ediv_add_emod number (2 ^ 255 - 19)
  have hnonneg := Int.emod_nonneg number hmodulus
  have hlt := Int.emod_lt_of_pos number (show (0 : ℤ) < 2 ^ 255 - 19 by norm_num)
  generalize number / (2 ^ 255 - 19) = quotient at hdivision ⊢
  generalize number % (2 ^ 255 - 19) = remainder at hdivision hnonneg hlt
  have htop := Int.mul_ediv_add_emod (19 * top + 2 ^ 24) (2 ^ 25)
  have htopNonneg := Int.emod_nonneg (19 * top + 2 ^ 24) (show (2 : ℤ) ^ 25 ≠ 0 by norm_num)
  have htopLt := Int.emod_lt_of_pos (19 * top + 2 ^ 24) (show (0 : ℤ) < 2 ^ 25 by norm_num)
  generalize (19 * top + 2 ^ 24) / 2 ^ 25 = carry at htop ⊢
  generalize (19 * top + 2 ^ 24) % 2 ^ 25 = rest at htop htopNonneg htopLt
  -- the start makes up for the 19 that each quotient removes
  have hquotientLower : -3 ≤ quotient := by norm_num at *; omega
  have hquotientUpper : quotient ≤ 3 := by norm_num at *; omega
  have hcarryLower : 0 ≤ carry - 19 * quotient := by norm_num at *; omega
  have hcarryUpper : carry - 19 * quotient ≤ 19 := by norm_num at *; omega
  norm_num at *
  omega

/-- The limbs of a number below `2^255`. -/
def frozenBox : Vector Interval 10 := Vector.ofFn fun i ↦ ⟨0, 2 ^ limbBits i - 1⟩

theorem balanced_feFloorCarry (i : Fin 10) :
    (feFloorCarry i).Balanced ((2 ^ 255 : ℕ) : ℤ) feWeight := by
  revert i
  decide

/-- The number that the top limb leaves is small beside its weight. -/
theorem abs_value_lt {h : Fe} (hsized : Sized 281 h) :
    |LimbSteps.value feWeight h| < 2 ^ 256 ∧
      |LimbSteps.value feWeight h - (2 : ℤ) ^ 230 * toInt h[9]| < 2 ^ 232 := by
  have hvector : h = #v[h[0], h[1], h[2], h[3], h[4], h[5], h[6], h[7], h[8], h[9]] := by
    apply Vector.ext
    intro i hi
    interval_cases i <;> rfl
  have hlimb (i : Fin 10) := abs_le.mp (sized_iff.mp hsized i)
  have h0 := hlimb 0
  have h1 := hlimb 1
  have h2 := hlimb 2
  have h3 := hlimb 3
  have h4 := hlimb 4
  have h5 := hlimb 5
  have h6 := hlimb 6
  have h7 := hlimb 7
  have h8 := hlimb 8
  have h9 := hlimb 9
  rw [hvector, value_feWeight, abs_lt, abs_lt]
  norm_num [limbUnit, limbBits] at h0 h1 h2 h3 h4 h5 h6 h7 h8 h9 ⊢
  constructor <;> constructor <;> linarith

/-- Adding 19 times the quotient to the lowest limb. -/
theorem toInt_feQuotient_add {h : Fe} (hsized : Sized 281 h) :
    toInt (h[0] + (19 : Int32) * feQuotient h) =
        toInt h[0] + 19 * (LimbSteps.value feWeight h / fieldOrder) ∧
      |LimbSteps.value feWeight h / fieldOrder| ≤ 3 := by
  obtain ⟨hnumber, hrest⟩ := abs_value_lt hsized
  have hquotient := (toInt_feQuotient hsized).trans (quotient_eq hnumber hrest)
  have hsmall : |LimbSteps.value feWeight h / fieldOrder| ≤ 3 := by
    have horder : (2 : ℤ) ^ 256 ≤ 3 * fieldOrder := by
      rw [fieldOrder_eq]
      norm_num
    rw [abs_lt] at hnumber
    rw [abs_le]
    constructor
    · rw [Int.le_ediv_iff_mul_le (by linarith)]
      linarith
    · apply Int.ediv_le_of_le_mul (by linarith)
      linarith
  have hnineteen : toInt (19 : Int32) = 19 := rfl
  have hlimit : (limit Int32 : ℤ) = 2 ^ 31 := rfl
  have hlimb : |toInt h[0]| ≤ 73662464 := (hsized.abs_toInt_le 0).trans_eq (by norm_num)
  refine ⟨?_, hsmall⟩
  rw [abs_le] at hsmall hlimb
  rw [← hquotient] at hsmall ⊢
  have hproduct : toInt ((19 : Int32) * feQuotient h) = 19 * toInt (feQuotient h) := by
    rw [MachineInt.toInt_mul, hnineteen]
    · rw [hlimit, hnineteen]
      linarith
    · rw [hlimit, hnineteen]
      linarith
  rw [MachineInt.toInt_add, hproduct]
  · rw [hlimit, hproduct]
    linarith
  · rw [hlimit, hproduct]
    linarith

theorem frozen_value_nonneg {h : Fe} (hwithin : Within frozenBox h) :
    0 ≤ LimbSteps.value feWeight h ∧ LimbSteps.value feWeight h < 2 ^ 255 := by
  have hvector : h = #v[h[0], h[1], h[2], h[3], h[4], h[5], h[6], h[7], h[8], h[9]] := by
    apply Vector.ext
    intro i hi
    interval_cases i <;> rfl
  have h0 := hwithin 0
  have h1 := hwithin 1
  have h2 := hwithin 2
  have h3 := hwithin 3
  have h4 := hwithin 4
  have h5 := hwithin 5
  have h6 := hwithin 6
  have h7 := hwithin 7
  have h8 := hwithin 8
  have h9 := hwithin 9
  rw [hvector, value_feWeight]
  simp [frozenBox, Interval.mem_iff, limbBits] at h0 h1 h2 h3 h4 h5 h6 h7 h8 h9
  constructor <;> linarith

theorem freeze_endsIn :
    EndsIn (2 ^ 31) ((List.finRange 10).map feFloorCarry) (sizeBox 282) frozenBox := by
  decide

/-- Adding the multiples of 19 adds less than a unit to the lowest limb. -/
theorem sized_feQuotient_add {h : Fe} (hsized : Sized 281 h) :
    Sized 282 (h.set 0 (h[0] + (19 : Int32) * feQuotient h)) := by
  obtain ⟨hadd, hsmall⟩ := toInt_feQuotient_add hsized
  rw [sized_iff]
  intro i
  have hi := sized_iff.mp hsized i
  rw [Fin.getElem_fin, Vector.getElem_set]
  split
  · rename_i hzero
    have habs : |toInt h[0]| ≤ 73662464 := (hsized.abs_toInt_le 0).trans_eq (by norm_num)
    have hunit : limbUnit i = 2 ^ 18 := by
      rw [show i = 0 from Fin.ext hzero.symm]
      rfl
    rw [hadd, hunit]
    push_cast
    rw [abs_le] at hsmall habs ⊢
    constructor <;> linarith
  · rw [Fin.getElem_fin] at hi
    exact hi.trans (mul_le_mul_of_nonneg_right (by norm_num) (Nat.cast_nonneg _))

/-- The frozen limbs are in range and form the remainder by the field order. -/
theorem feFreeze_spec {h : Fe} (hsized : Sized 281 h) :
    Within frozenBox (feFreeze h) ∧
      LimbSteps.value feWeight (feFreeze h) = LimbSteps.value feWeight h % fieldOrder := by
  obtain ⟨hadd, hsmall⟩ := toInt_feQuotient_add hsized
  have hbalanced : ∀ step ∈ (List.finRange 10).map feFloorCarry,
      step.Balanced ((2 ^ 255 : ℕ) : ℤ) feWeight := by
    intro step hstep
    obtain ⟨i, _, rfl⟩ := List.mem_map.mp hstep
    exact balanced_feFloorCarry i
  obtain ⟨hwithin, hmod⟩ := run_spec hbalanced (sized_feQuotient_add hsized) freeze_endsIn
  refine ⟨hwithin, ?_⟩
  obtain ⟨hnonneg, hlt⟩ := frozen_value_nonneg hwithin
  -- removing the multiple of the field order differs from adding 19 quotients by multiples of 2^255
  have horder : (fieldOrder : ℤ) = ((2 ^ 255 : ℕ) : ℤ) - 19 := by
    rw [fieldOrder_eq]
    norm_num
  have hpos : (0 : ℤ) < fieldOrder := by
    rw [horder]
    norm_num
  have hdivision := Int.mul_ediv_add_emod (LimbSteps.value feWeight h) fieldOrder
  have hremainder := Int.emod_nonneg (LimbSteps.value feWeight h) hpos.ne'
  have hremainderLt := Int.emod_lt_of_pos (LimbSteps.value feWeight h) hpos
  have hweight : feWeight 0 = 1 := rfl
  have hvalue : LimbSteps.value feWeight (h.set 0 (h[0] + (19 : Int32) * feQuotient h)) =
      LimbSteps.value feWeight h % fieldOrder +
        ((2 ^ 255 : ℕ) : ℤ) * (LimbSteps.value feWeight h / fieldOrder) := by
    have hset : LimbSteps.value feWeight (h.set 0 (h[0] + (19 : Int32) * feQuotient h)) =
        LimbSteps.value feWeight h +
          feWeight 0 * (toInt (h[0] + (19 : Int32) * feQuotient h) - toInt h[0]) :=
      value_set feWeight h 0 _
    rw [hadd, hweight] at hset
    linear_combination
      hset - hdivision + LimbSteps.value feWeight h / fieldOrder * horder
  rw [hvalue, Int.ModEq, Int.add_mul_emod_self_left,
    Int.emod_eq_of_lt hnonneg (by exact_mod_cast hlt),
    Int.emod_eq_of_lt hremainder (by linarith)] at hmod
  exact hmod

/-! ### The bytes -/

/-- The position of the lowest bit of a limb. -/
def limbStart (i : Fin 10) : ℕ := (51 * i.val + 1) / 2

theorem toNat_shiftRight_ofNat (word : UInt32) {amount : ℕ} (hamount : amount < 32) :
    (word >>> UInt32.ofNat amount).toNat = word.toNat / 2 ^ amount := by
  rw [UInt32.toNat_shiftRight, UInt32.toNat_ofNat', Nat.shiftRight_eq_div_pow,
    Nat.mod_eq_of_lt (a := amount) (by omega), Nat.mod_eq_of_lt hamount]

theorem toNat_shiftLeft_ofNat (word : UInt32) {amount : ℕ} (hamount : amount < 32) :
    (word <<< UInt32.ofNat amount).toNat = word.toNat <<< amount % 2 ^ 32 := by
  rw [UInt32.toNat_shiftLeft, UInt32.toNat_ofNat', Nat.mod_eq_of_lt (a := amount) (by omega),
    Nat.mod_eq_of_lt hamount]

/-- The table has the byte `k` start at the bit `8 k`. -/
theorem fePacking_position : ∀ k : Fin 32, limbStart fePacking[k].1 + fePacking[k].2 = 8 * k.val ∧
    fePacking[k].2 < limbBits fePacking[k].1 ∧
    (fePacking[k].1 = 9 → fePacking[k].2 + 8 ≤ 26) := by
  decide

/-- A packed byte is the byte of the number at the position that its limb and shift name. -/
theorem toNat_fePackedByte {h : Vector UInt32 10} {number : ℕ}
    (hfield : ∀ i : Fin 10, h[i].toNat = bitField number (limbStart i) (limbBits i))
    (hnumber : number < 2 ^ 255) (k : Fin 32) :
    (fePackedByte h fePacking[k]).toNat = bitField number (8 * k.val) 8 := by
  obtain ⟨hstart, hshift, hlast⟩ := fePacking_position k
  generalize fePacking[k] = position at hstart hshift hlast ⊢
  obtain ⟨i, shift⟩ := position
  dsimp only at hstart hshift hlast
  have hbits : ∀ i, limbBits i ≤ 26 := by decide
  have hi := hbits i
  rw [← hstart]
  unfold fePackedByte
  dsimp only
  split
  · rename_i hacross
    obtain ⟨hne, hend⟩ := hacross
    have hnext : ∀ i : Fin 10, i ≠ 9 → limbStart (i + 1) = limbStart i + limbBits i ∧
        8 ≤ limbBits (i + 1) := by
      decide
    obtain ⟨hnextStart, hnextBits⟩ := hnext i hne
    obtain ⟨kept, hkept⟩ := Nat.exists_eq_add_of_lt hshift
    have hsplit : limbBits i = shift + (kept + 1) := by omega
    rw [UInt32.toNat_toUInt8, UInt32.toNat_or, toNat_shiftRight_ofNat _ (by omega),
      toNat_shiftLeft_ofNat _ (by omega), hfield, hfield, hnextStart, hsplit, Nat.add_sub_cancel_left,
      Nat.or_mod_two_pow, Nat.mod_mod_of_dvd _ (by norm_num), ← Nat.or_mod_two_pow]
    exact bitField_or_mod (by omega) (by omega)
  · rename_i hinner
    rw [UInt32.toNat_toUInt8, toNat_shiftRight_ofNat _ (by omega), hfield]
    by_cases hi9 : i = 9
    · subst hi9
      have hwide :
          bitField number (limbStart 9) (limbBits 9) = bitField number (limbStart 9) 26 := by
        rw [bitField_eq_div (hnumber.trans_le (by decide)),
          bitField_eq_div (hnumber.trans_le (by decide))]
      rw [hwide]
      exact bitField_bitField (hlast rfl)
    · exact bitField_bitField (by omega)

theorem natCast_toNat_toUInt32 {word : Int32} (h : 0 ≤ toInt word) :
    (word.toUInt32.toNat : ℤ) = toInt word := by
  change (word.toBitVec.toNat : ℤ) = word.toBitVec.toInt
  change 0 ≤ word.toBitVec.toInt at h
  rw [BitVec.toInt_eq_toNat_cond] at h ⊢
  have hlt := word.toBitVec.isLt
  split_ifs at h ⊢ <;> omega

/-- Frozen limbs are the fields of the number that they form. -/
theorem toNat_frozen {h : Fe} (hwithin : Within frozenBox h) (i : Fin 10) :
    h[i].toUInt32.toNat =
      bitField (LimbSteps.value feWeight h).toNat (limbStart i) (limbBits i) := by
  have hrange (i : Fin 10) : 0 ≤ toInt h[i] ∧ toInt h[i] ≤ 2 ^ limbBits i - 1 := by
    have hi := hwithin i
    rwa [Interval.mem_iff, Fin.getElem_fin frozenBox, frozenBox, Vector.getElem_ofFn] at hi
  have hcast (i : Fin 10) : (h[i].toUInt32.toNat : ℤ) = toInt h[i] :=
    natCast_toNat_toUInt32 (hrange i).1
  let fields := (List.finRange 10).map fun i ↦ (h[i].toUInt32.toNat, limbBits i)
  have hjoined : (joined fields : ℤ) = LimbSteps.value feWeight h := by
    rw [← foldr_limbs]
    simp only [fields, ← hcast]
    induction List.finRange 10 with
    | nil => rfl
    | cons i rest ih =>
      rw [List.map_cons, List.map_cons, List.foldr_cons, joined, ← ih]
      push_cast
      rfl
  have hnumber : (LimbSteps.value feWeight h).toNat = joined fields := by
    rw [← hjoined, Int.toNat_natCast]
  have hfields : ∀ field ∈ fields, field.1 < 2 ^ field.2 := by
    intro field hfield
    obtain ⟨j, _, rfl⟩ := List.mem_map.mp hfield
    have hj := (hrange j).2
    rw [← hcast j] at hj
    have hlt : (h[j].toUInt32.toNat : ℤ) < ((2 ^ limbBits j : ℕ) : ℤ) := by
      push_cast
      linarith
    exact_mod_cast hlt
  have hlength : i.val < fields.length := by simp [fields]
  have hstart : ∀ i : Fin 10, (((List.finRange 10).take i.val).map limbBits).sum = limbStart i := by
    decide
  have hfield := bitField_joined hfields hlength
  have hget : fields[i.val] = (h[i].toUInt32.toNat, limbBits i) := by
    simp only [fields, List.getElem_map, List.getElem_finRange]
    rfl
  have hfieldStart : fieldStart fields i.val = limbStart i := by
    rw [← hstart, fieldStart, ← List.map_take, List.map_map]
    rfl
  rw [hget, hfieldStart] at hfield
  rw [hnumber]
  exact hfield.symm

/-- The stored bytes are the canonical encoding of the number that the limbs represent. -/
theorem toList_feTobytes {f : Fe} {x : ZMod fieldOrder} (hf : Represents 281 f x) :
    (feTobytes f).toList = encode 32 x.val := by
  obtain ⟨hwithin, hvalue⟩ := feFreeze_spec hf.sized
  obtain ⟨hnonneg, hlt⟩ := frozen_value_nonneg hwithin
  have hval : (x.val : ℤ) = LimbSteps.value feWeight f % fieldOrder := by
    rw [← hf.feValue_eq]
    exact ZMod.val_intCast _
  have hnumber : (LimbSteps.value feWeight (feFreeze f)).toNat = x.val := by
    rw [hvalue, ← hval, Int.toNat_natCast]
  have hbytes : (feTobytes f).toList = encode (feTobytes f).toList.length x.val := by
    apply eq_encode_of_forall
    intro k hk
    rw [Vector.length_toList] at hk
    have hbyte : (feTobytes f)[k] =
        fePackedByte ((feFreeze f).map Int32.toUInt32) fePacking[k] :=
      Vector.getElem_map ..
    rw [Vector.getElem_toList, hbyte]
    refine toNat_fePackedByte ?_ ?_ ⟨k, hk⟩
    · intro i
      rw [Fin.getElem_fin, Vector.getElem_map, ← hnumber]
      exact toNat_frozen hwithin i
    · rw [← hnumber]
      omega
  rwa [Vector.length_toList] at hbytes

/-- The lowest byte has the parity of the canonical representative. -/
theorem toNat_feIsnegative {f : Fe} {x : ZMod fieldOrder} (hf : Represents 281 f x) :
    (feIsnegative f).toNat = x.val % 2 := by
  have hfirst : (feTobytes f)[0] = UInt8.ofNat x.val := by
    have hlist := toList_feTobytes hf
    rw [← Vector.getElem_toList (by simp)]
    simp only [hlist]
    rfl
  rw [feIsnegative, hfirst, UInt8.toNat_and, UInt8.toNat_ofNat']
  change x.val % 2 ^ 8 &&& 1 = _
  rw [Nat.and_one_is_mod, Nat.mod_mod_of_dvd _ (by norm_num)]

theorem foldl_or_eq_zero_iff (bytes : List UInt8) (start : UInt8) :
    bytes.foldl (· ||| ·) start = 0 ↔ start = 0 ∧ value bytes = 0 := by
  induction bytes generalizing start with
  | nil => simp
  | cons byte bytes ih =>
    have hbyte : byte = 0 ↔ byte.toNat = 0 := by
      rw [← UInt8.toNat_inj]
      rfl
    have hsum : byte.toNat + 256 * value bytes = 0 ↔ byte.toNat = 0 ∧ value bytes = 0 := by omega
    rw [List.foldl_cons, ih, UInt8.or_eq_zero_iff, value_cons, hbyte, hsum, and_assoc]

theorem feIsnonzero_iff {f : Fe} {x : ZMod fieldOrder} (hf : Represents 281 f x) :
    feIsnonzero f = true ↔ x ≠ 0 := by
  have hlt : x.val < 256 ^ 32 := by
    have hval := ZMod.val_lt x
    have horder := fieldOrder_eq
    omega
  rw [feIsnonzero, bne_iff_ne, ne_eq, ← Vector.foldl_toList, foldl_or_eq_zero_iff,
    toList_feTobytes hf, value_encode_of_lt hlt, ZMod.val_eq_zero]
  simp

end CEd25519

end RxLisk

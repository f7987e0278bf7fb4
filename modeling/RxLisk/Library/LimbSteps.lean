import Mathlib.Algebra.BigOperators.Fin
import Mathlib.Algebra.Order.Ring.Int
import Mathlib.Data.Int.ModEq
import Mathlib.Tactic.Linarith
import Mathlib.Tactic.Ring

/-!
# Carries and reductions on vectors of machine integers

A number is kept as a vector of signed limbs with fixed weights.  A step takes the high part of one
limb and adds multiples of it to other limbs; a carry and a reduction by the modulus are both of
this form.  A box of intervals, computed alongside the steps, shows that no intermediate result
leaves the range of the machine integers and bounds the limbs after a whole run.  A run of balanced
steps keeps the represented number modulo the modulus.
-/

namespace LimbSteps

/-- Signed integers of a fixed width.  The operations are exact where the result is in range. -/
class MachineInt (W : Type) extends Add W, Sub W, Mul W where
  /-- The range is `-limit, …, limit - 1`. -/
  limit : ℕ
  toInt : W → ℤ
  ofInt : ℤ → W
  shiftRight : W → ℕ → W
  toInt_ofInt (number : ℤ) : -limit ≤ number → number < limit → toInt (ofInt number) = number
  toInt_add (left right : W) : -limit ≤ toInt left + toInt right →
    toInt left + toInt right < limit → toInt (left + right) = toInt left + toInt right
  toInt_sub (left right : W) : -limit ≤ toInt left - toInt right →
    toInt left - toInt right < limit → toInt (left - right) = toInt left - toInt right
  toInt_mul (left right : W) : -limit ≤ toInt left * toInt right →
    toInt left * toInt right < limit → toInt (left * right) = toInt left * toInt right
  toInt_shiftRight (word : W) (amount : ℕ) : 2 ^ amount < limit →
    toInt (shiftRight word amount) = toInt word / 2 ^ amount

export MachineInt (limit toInt ofInt shiftRight)

instance : MachineInt Int8 where
  limit := 2 ^ 7
  toInt := Int8.toInt
  ofInt := Int8.ofInt
  shiftRight word amount := word >>> Int8.ofNat amount
  toInt_ofInt number hlower hupper := Int8.toInt_ofInt_of_le hlower hupper
  toInt_add left right hlower hupper := by
    rw [Int8.toInt_add]
    exact Int.bmod_eq_of_le (by push_cast at *; omega) (by push_cast at *; omega)
  toInt_sub left right hlower hupper := by
    rw [Int8.toInt_sub]
    exact Int.bmod_eq_of_le (by push_cast at *; omega) (by push_cast at *; omega)
  toInt_mul left right hlower hupper := by
    rw [Int8.toInt_mul]
    exact Int.bmod_eq_of_le (by push_cast at *; omega) (by push_cast at *; omega)
  toInt_shiftRight word amount hamount := by
    have hamounts : ∀ amount < 7, ((Int8.ofNat amount).toBitVec.smod 8).toNat = amount := by
      decide
    have hlt : amount < 7 := (Nat.pow_lt_pow_iff_right (by norm_num)).mp hamount
    rw [← Int8.toInt_toBitVec, Int8.toBitVec_shiftRight, BitVec.toInt_sshiftRight',
      hamounts amount hlt, Int.shiftRight_eq_div_pow, Int8.toInt_toBitVec]
    norm_cast

instance : MachineInt Int32 where
  limit := 2 ^ 31
  toInt := Int32.toInt
  ofInt := Int32.ofInt
  shiftRight word amount := word >>> Int32.ofNat amount
  toInt_ofInt number hlower hupper := Int32.toInt_ofInt_of_le hlower hupper
  toInt_add left right hlower hupper := by
    rw [Int32.toInt_add]
    exact Int.bmod_eq_of_le (by push_cast at *; omega) (by push_cast at *; omega)
  toInt_sub left right hlower hupper := by
    rw [Int32.toInt_sub]
    exact Int.bmod_eq_of_le (by push_cast at *; omega) (by push_cast at *; omega)
  toInt_mul left right hlower hupper := by
    rw [Int32.toInt_mul]
    exact Int.bmod_eq_of_le (by push_cast at *; omega) (by push_cast at *; omega)
  toInt_shiftRight word amount hamount := by
    have hamounts : ∀ amount < 31, ((Int32.ofNat amount).toBitVec.smod 32).toNat = amount := by
      decide
    have hlt : amount < 31 := (Nat.pow_lt_pow_iff_right (by norm_num)).mp hamount
    rw [← Int32.toInt_toBitVec, Int32.toBitVec_shiftRight, BitVec.toInt_sshiftRight',
      hamounts amount hlt, Int.shiftRight_eq_div_pow, Int32.toInt_toBitVec]
    norm_cast

instance : MachineInt Int64 where
  limit := 2 ^ 63
  toInt := Int64.toInt
  ofInt := Int64.ofInt
  shiftRight word amount := word >>> Int64.ofNat amount
  toInt_ofInt number hlower hupper := Int64.toInt_ofInt_of_le hlower hupper
  toInt_add left right hlower hupper := by
    rw [Int64.toInt_add]
    exact Int.bmod_eq_of_le (by push_cast at *; omega) (by push_cast at *; omega)
  toInt_sub left right hlower hupper := by
    rw [Int64.toInt_sub]
    exact Int.bmod_eq_of_le (by push_cast at *; omega) (by push_cast at *; omega)
  toInt_mul left right hlower hupper := by
    rw [Int64.toInt_mul]
    exact Int.bmod_eq_of_le (by push_cast at *; omega) (by push_cast at *; omega)
  toInt_shiftRight word amount hamount := by
    have hamounts : ∀ amount < 63, ((Int64.ofNat amount).toBitVec.smod 64).toNat = amount := by
      decide
    have hlt : amount < 63 := (Nat.pow_lt_pow_iff_right (by norm_num)).mp hamount
    rw [← Int64.toInt_toBitVec, Int64.toBitVec_shiftRight, BitVec.toInt_sshiftRight',
      hamounts amount hlt, Int.shiftRight_eq_div_pow, Int64.toInt_toBitVec]
    norm_cast

/-! ## Intervals -/

structure Interval where
  lo : ℤ
  hi : ℤ
deriving DecidableEq

namespace Interval

instance : Membership ℤ Interval where
  mem interval number := interval.lo ≤ number ∧ number ≤ interval.hi

theorem mem_iff {number : ℤ} {interval : Interval} :
    number ∈ interval ↔ interval.lo ≤ number ∧ number ≤ interval.hi := Iff.rfl

instance (number : ℤ) (interval : Interval) : Decidable (number ∈ interval) :=
  inferInstanceAs (Decidable (_ ∧ _))

/-- Every number of the interval is a machine integer. -/
def Fits (bound : ℕ) (interval : Interval) : Prop := -bound ≤ interval.lo ∧ interval.hi < bound

instance (bound : ℕ) (interval : Interval) : Decidable (interval.Fits bound) :=
  inferInstanceAs (Decidable (_ ∧ _))

def add (left right : Interval) : Interval := ⟨left.lo + right.lo, left.hi + right.hi⟩

def scale (factor : ℤ) (interval : Interval) : Interval :=
  if 0 ≤ factor then ⟨factor * interval.lo, factor * interval.hi⟩
  else ⟨factor * interval.hi, factor * interval.lo⟩

def shiftRight (interval : Interval) (amount : ℕ) : Interval :=
  ⟨interval.lo / 2 ^ amount, interval.hi / 2 ^ amount⟩

theorem add_mem_add {a b : ℤ} {left right : Interval} (ha : a ∈ left) (hb : b ∈ right) :
    a + b ∈ left.add right :=
  ⟨add_le_add ha.1 hb.1, add_le_add ha.2 hb.2⟩

theorem mul_mem_scale {a : ℤ} {interval : Interval} (factor : ℤ) (ha : a ∈ interval) :
    factor * a ∈ interval.scale factor := by
  unfold scale
  split
  · rename_i hfactor
    exact ⟨mul_le_mul_of_nonneg_left ha.1 hfactor, mul_le_mul_of_nonneg_left ha.2 hfactor⟩
  · rename_i hfactor
    have hneg : factor ≤ 0 := by omega
    exact ⟨mul_le_mul_of_nonpos_left ha.2 hneg, mul_le_mul_of_nonpos_left ha.1 hneg⟩

theorem div_mem_shiftRight {a : ℤ} {interval : Interval} (amount : ℕ) (ha : a ∈ interval) :
    a / 2 ^ amount ∈ interval.shiftRight amount :=
  ⟨Int.ediv_le_ediv (by positivity) ha.1, Int.ediv_le_ediv (by positivity) ha.2⟩

theorem Fits.lower {bound : ℕ} {interval : Interval} (h : interval.Fits bound) {a : ℤ}
    (ha : a ∈ interval) : -bound ≤ a :=
  h.1.trans ha.1

theorem Fits.upper {bound : ℕ} {interval : Interval} (h : interval.Fits bound) {a : ℤ}
    (ha : a ∈ interval) : a < bound :=
  ha.2.trans_lt h.2

end Interval

/-! ## Vectors of limbs -/

variable {W : Type} [MachineInt W] {n : ℕ}

/-- The number that the limbs represent. -/
def value (weights : Fin n → ℤ) (limbs : Vector W n) : ℤ := ∑ i, weights i * toInt limbs[i]

/-- Every limb lies in its interval. -/
def Within (box : Vector Interval n) (limbs : Vector W n) : Prop :=
  ∀ i : Fin n, toInt limbs[i] ∈ box[i]

instance (box : Vector Interval n) (limbs : Vector W n) : Decidable (Within box limbs) :=
  inferInstanceAs (Decidable (∀ i : Fin n, toInt limbs[i] ∈ box[i]))

theorem value_set (weights : Fin n → ℤ) (limbs : Vector W n) (i : Fin n) (word : W) :
    value weights (limbs.set i word) =
      value weights limbs + weights i * (toInt word - toInt limbs[i]) := by
  unfold value
  rw [← Finset.add_sum_erase _ _ (Finset.mem_univ i),
    ← Finset.add_sum_erase _ _ (Finset.mem_univ i)]
  have hrest : ∑ j ∈ Finset.univ.erase i, weights j * toInt (limbs.set i word)[j] =
      ∑ j ∈ Finset.univ.erase i, weights j * toInt limbs[j] := by
    apply Finset.sum_congr rfl
    intro j hj
    have hne : i.val ≠ j.val := fun h ↦ (Finset.mem_erase.mp hj).1 (Fin.ext h.symm)
    rw [Fin.getElem_fin, Vector.getElem_set_ne _ _ hne, Fin.getElem_fin]
  rw [hrest, Fin.getElem_fin, Vector.getElem_set_self, Fin.getElem_fin]
  ring

theorem Within.set {box : Vector Interval n} {limbs : Vector W n} (h : Within box limbs)
    {i : Fin n} {word : W} {interval : Interval} (hword : toInt word ∈ interval) :
    Within (box.set i interval) (limbs.set i word) := by
  intro j
  rw [Fin.getElem_fin, Fin.getElem_fin, Vector.getElem_set, Vector.getElem_set]
  split
  · exact hword
  · exact h j

/-- A running sum is exact when the sizes of what it takes stay in range together. -/
theorem toInt_foldl_add {Item : Type} (word : Item → W) (size : Item → ℕ) {items : List Item}
    (hsize : ∀ item ∈ items, |toInt (word item)| ≤ size item) (start : W) (taken : ℕ)
    (hstart : |toInt start| ≤ taken) (hlt : taken + (items.map size).sum < limit W) :
    toInt (items.foldl (fun sum item ↦ sum + word item) start) =
        toInt start + (items.map fun item ↦ toInt (word item)).sum ∧
      |toInt start + (items.map fun item ↦ toInt (word item)).sum| ≤
        (taken + (items.map size).sum : ℕ) := by
  induction items generalizing start taken with
  | nil => simpa using hstart
  | cons item items ih =>
    simp only [List.map_cons, List.sum_cons, List.foldl_cons] at hlt ⊢
    have hitem := hsize item (List.mem_cons_self ..)
    have habs : |toInt start + toInt (word item)| ≤ (taken + size item : ℕ) := by
      push_cast
      exact (abs_add_le _ _).trans (add_le_add hstart hitem)
    have hrange : |toInt start + toInt (word item)| < limit W :=
      habs.trans_lt (Int.ofNat_lt.mpr (lt_of_le_of_lt (by omega) hlt))
    have hadd : toInt (start + word item) = toInt start + toInt (word item) :=
      MachineInt.toInt_add _ _ (abs_lt.mp hrange).1.le (abs_lt.mp hrange).2
    obtain ⟨hvalue, hfinal⟩ := ih (fun other hother ↦ hsize other (List.mem_cons_of_mem _ hother))
      (start + word item) (taken + size item) (hadd ▸ habs) (by omega)
    rw [hadd, add_assoc] at hvalue hfinal
    refine ⟨hvalue, hfinal.trans_eq ?_⟩
    rw [add_assoc]

/-! ## Limbs of one width -/

section Uniform

variable {width : ℕ} {limb : ℕ → ℤ}

theorem sum_uniform_mem {count : ℕ} (h : ∀ i < count, 0 ≤ limb i ∧ limb i < 2 ^ width) :
    0 ≤ ∑ i ∈ Finset.range count, 2 ^ (width * i) * limb i ∧
      ∑ i ∈ Finset.range count, 2 ^ (width * i) * limb i < 2 ^ (width * count) := by
  induction count with
  | zero => simp
  | succ count ih =>
    obtain ⟨hnonneg, hlt⟩ := ih fun i hi ↦ h i (hi.trans (Nat.lt_succ_self count))
    obtain ⟨htop, htopLt⟩ := h count (Nat.lt_succ_self count)
    have hpos : (0 : ℤ) < 2 ^ (width * count) := by positivity
    have hmul : (2 : ℤ) ^ (width * count) * limb count ≤ 2 ^ (width * count) * (2 ^ width - 1) :=
      mul_le_mul_of_nonneg_left (by omega) hpos.le
    rw [Finset.sum_range_succ, Nat.mul_succ, pow_add]
    constructor
    · positivity
    · linarith

/-- The limbs below the limb `j` are a remainder, when they are proper digits. -/
theorem exists_split {count j : ℕ} (hj : j < count)
    (hlow : ∀ i < j, 0 ≤ limb i ∧ limb i < 2 ^ width) :
    ∃ low high, ∑ i ∈ Finset.range count, 2 ^ (width * i) * limb i =
        low + 2 ^ (width * j) * (limb j + 2 ^ width * high) ∧
      0 ≤ low ∧ low < 2 ^ (width * j) ∧ (j + 1 = count → high = 0) := by
  obtain ⟨rest, rfl⟩ : ∃ rest, count = j + (rest + 1) := ⟨count - (j + 1), by omega⟩
  obtain ⟨hnonneg, hlt⟩ := sum_uniform_mem hlow
  refine ⟨_, ∑ i ∈ Finset.range rest, 2 ^ (width * i) * limb (j + (i + 1)), ?_, hnonneg, hlt, ?_⟩
  · rw [Finset.sum_range_add, Finset.sum_range_succ', Nat.add_zero, Finset.mul_sum]
    congr 1
    rw [mul_add, Finset.mul_sum, add_comm]
    congr 1
    apply Finset.sum_congr rfl
    intro i _
    ring
  · intro hlast
    have hrest : rest = 0 := by omega
    subst hrest
    rfl

theorem ediv_of_split {number low high : ℤ} {place : ℤ} (h : number = low + place * high)
    (hlow : 0 ≤ low) (hlt : low < place) : number / place = high := by
  rw [h, Int.add_mul_ediv_left _ _ (by omega), Int.ediv_eq_zero_of_lt hlow hlt, zero_add]

/-- The limb with an index, zero beyond the last one. -/
def limbAt (limbs : Vector W n) (i : ℕ) : ℤ := if h : i < n then toInt limbs[i] else 0

theorem limbAt_val (limbs : Vector W n) (i : Fin n) : limbAt limbs i.val = toInt limbs[i] := by
  rw [limbAt, dif_pos i.isLt, Fin.getElem_fin]

theorem value_uniform (limbs : Vector W n) {count : ℕ} (hcount : count ≤ n)
    (hzero : ∀ i : Fin n, count ≤ i.val → toInt limbs[i] = 0) :
    value (fun i ↦ 2 ^ (width * i.val)) limbs =
      ∑ i ∈ Finset.range count, 2 ^ (width * i) * limbAt limbs i := by
  rw [← Finset.eventually_constant_sum (fun i hi ↦ ?_) hcount, Finset.sum_range, value]
  · simp only [limbAt_val]
  · unfold limbAt
    split
    · rename_i hlt
      rw [show toInt limbs[i] = 0 from hzero ⟨i, hlt⟩ hi, mul_zero]
    · exact mul_zero _

end Uniform

/-! ## Steps -/

/-- The high part of the limb `source`, rounded and cut off at `shift`, is removed from it and added
to the limbs in `targets`, with the factor listed there. -/
structure Step (n : ℕ) where
  source : Fin n
  shift : ℕ
  round : ℤ
  targets : List (Fin n × ℤ)

namespace Step

variable (step : Step n)

/-- The part that moves. -/
def carry (limbs : Vector W n) : W :=
  shiftRight (limbs[step.source] + ofInt step.round) step.shift

/-- Adds the carry, times its factor, to one limb. -/
def addTo (carry : W) (limbs : Vector W n) (target : Fin n × ℤ) : Vector W n :=
  limbs.set target.1 (limbs[target.1] + carry * ofInt target.2)

def apply (limbs : Vector W n) : Vector W n :=
  let carry := step.carry limbs
  let moved := step.targets.foldl (addTo carry) limbs
  moved.set step.source (moved[step.source] - carry * ofInt (2 ^ step.shift))

/-- The weights of what is added make up for what is removed. -/
def Balanced (modulus : ℤ) (weights : Fin n → ℤ) : Prop :=
  modulus ∣ (step.targets.map fun target ↦ target.2 * weights target.1).sum -
    2 ^ step.shift * weights step.source

instance (modulus : ℤ) (weights : Fin n → ℤ) : Decidable (step.Balanced modulus weights) :=
  inferInstanceAs (Decidable (_ ∣ _))

/-! ### Intervals for a step -/

/-- The interval of the carry. -/
def carryInterval (box : Vector Interval n) : Interval :=
  (box[step.source].add ⟨step.round, step.round⟩).shiftRight step.shift

def addToBox (bound : ℕ) (source : Fin n) (carry : Interval) (box : Vector Interval n)
    (target : Fin n × ℤ) : Option (Vector Interval n) :=
  let product := carry.scale target.2
  let sum := box[target.1].add product
  if target.1 ≠ source ∧ -bound ≤ target.2 ∧ target.2 < bound ∧ product.Fits bound ∧
      sum.Fits bound then
    some (box.set target.1 sum)
  else none

/-- The box after the step, when every intermediate result is in range. -/
def box (bound : ℕ) (box : Vector Interval n) : Option (Vector Interval n) :=
  let carry := step.carryInterval box
  let rest : Interval := ⟨-step.round, 2 ^ step.shift - 1 - step.round⟩
  if 2 ^ step.shift < bound ∧ -bound ≤ step.round ∧ step.round < bound ∧
      (box[step.source].add ⟨step.round, step.round⟩).Fits bound ∧
      (carry.scale (2 ^ step.shift)).Fits bound ∧ rest.Fits bound then do
    let moved ← step.targets.foldlM (addToBox bound step.source carry) box
    return moved.set step.source rest
  else none

theorem toInt_mul_ofInt {carry : W} {interval : Interval} {factor : ℤ}
    (hcarry : toInt carry ∈ interval) (hlower : -(limit W : ℤ) ≤ factor)
    (hupper : factor < limit W) (hfits : (interval.scale factor).Fits (limit W)) :
    toInt (carry * ofInt factor) = factor * toInt carry := by
  have hfactor := MachineInt.toInt_ofInt (W := W) factor hlower hupper
  have hproduct := Interval.mul_mem_scale factor hcarry
  rw [MachineInt.toInt_mul, hfactor, mul_comm]
  · rw [hfactor, mul_comm]
    exact hfits.lower hproduct
  · rw [hfactor, mul_comm]
    exact hfits.upper hproduct

/-- Adding to the targets keeps the source, and adds the weighted carry to the number. -/
theorem foldl_addTo {source : Fin n} {carry : W} {interval : Interval}
    (hcarry : toInt carry ∈ interval) (weights : Fin n → ℤ) {targets : List (Fin n × ℤ)}
    {limbs : Vector W n} {box box' : Vector Interval n} (hlimbs : Within box limbs)
    (hbox : targets.foldlM (addToBox (limit W) source interval) box = some box') :
    Within box' (targets.foldl (addTo carry) limbs) ∧
      (targets.foldl (addTo carry) limbs)[source] = limbs[source] ∧
      value weights (targets.foldl (addTo carry) limbs) = value weights limbs +
        toInt carry * (targets.map fun target ↦ target.2 * weights target.1).sum := by
  induction targets generalizing limbs box with
  | nil =>
    cases hbox
    exact ⟨hlimbs, rfl, by simp⟩
  | cons target targets ih =>
    rw [List.foldlM_cons] at hbox
    obtain ⟨middle, hmiddle, hrest⟩ := Option.bind_eq_some_iff.mp hbox
    unfold addToBox at hmiddle
    dsimp only at hmiddle
    split at hmiddle
    · rename_i hcheck
      obtain ⟨hne, hlower, hupper, hproduct, hsum⟩ := hcheck
      cases hmiddle
      have hmul := toInt_mul_ofInt hcarry hlower hupper hproduct
      have hmem := Interval.add_mem_add (hlimbs target.1)
        (Interval.mul_mem_scale target.2 hcarry)
      have hadd : toInt (limbs[target.1] + carry * ofInt target.2) =
          toInt limbs[target.1] + target.2 * toInt carry := by
        rw [MachineInt.toInt_add, hmul]
        · rw [hmul]
          exact hsum.lower hmem
        · rw [hmul]
          exact hsum.upper hmem
      have hwithin : Within (box.set target.1 _) (addTo carry limbs target) :=
        hlimbs.set (hadd ▸ hmem)
      obtain ⟨hfinal, hsource, hvalue⟩ := ih hwithin hrest
      refine ⟨hfinal, ?_, ?_⟩
      · have hval : target.1.val ≠ source.val := fun h ↦ hne (Fin.ext h)
        rw [List.foldl_cons, hsource, addTo, Fin.getElem_fin, Vector.getElem_set_ne _ _ hval,
          Fin.getElem_fin]
      · rw [List.foldl_cons, hvalue, addTo, value_set, hadd, List.map_cons, List.sum_cons]
        ring
    · cases hmiddle

/-- What one step does, exactly. -/
theorem apply_spec {limbs : Vector W n} {box box' : Vector Interval n} (weights : Fin n → ℤ)
    (hlimbs : Within box limbs) (hbox : step.box (limit W) box = some box') :
    Within box' (step.apply limbs) ∧
      value weights (step.apply limbs) = value weights limbs +
        (toInt limbs[step.source] + step.round) / 2 ^ step.shift *
          ((step.targets.map fun target ↦ target.2 * weights target.1).sum -
            2 ^ step.shift * weights step.source) := by
  unfold Step.box at hbox
  dsimp only at hbox
  split at hbox
  · rename_i hcheck
    obtain ⟨hshift, hlower, hupper, hround, hremoved, hrest⟩ := hcheck
    obtain ⟨moved, hmoved, hbox⟩ := Option.bind_eq_some_iff.mp hbox
    cases hbox
    have hmem : toInt limbs[step.source] + step.round ∈
        box[step.source].add ⟨step.round, step.round⟩ :=
      Interval.add_mem_add (hlimbs step.source) ⟨le_rfl, le_rfl⟩
    have hofInt := MachineInt.toInt_ofInt (W := W) step.round hlower hupper
    have hadd : toInt (limbs[step.source] + ofInt step.round : W) =
        toInt limbs[step.source] + step.round := by
      rw [MachineInt.toInt_add, hofInt]
      · rw [hofInt]
        exact hround.lower hmem
      · rw [hofInt]
        exact hround.upper hmem
    have hcarry : toInt (step.carry limbs) =
        (toInt limbs[step.source] + step.round) / 2 ^ step.shift := by
      rw [carry, MachineInt.toInt_shiftRight _ _ hshift, hadd]
    have hcarryMem : toInt (step.carry limbs) ∈ step.carryInterval box := by
      rw [hcarry]
      exact Interval.div_mem_shiftRight _ hmem
    obtain ⟨hwithin, hsource, hvalue⟩ := foldl_addTo hcarryMem weights hlimbs hmoved
    have hpow : ((2 : ℤ) ^ step.shift) < limit W := by exact_mod_cast hshift
    have hpos : (0 : ℤ) < 2 ^ step.shift := by positivity
    have hmul := toInt_mul_ofInt hcarryMem (by omega) hpow hremoved
    have hdiv := Int.mul_ediv_add_emod (toInt limbs[step.source] + step.round) (2 ^ step.shift)
    have hnonneg := Int.emod_nonneg (toInt limbs[step.source] + step.round) hpos.ne'
    have hlt := Int.emod_lt_of_pos (toInt limbs[step.source] + step.round) hpos
    rw [← hcarry] at hdiv
    have hdifference : toInt limbs[step.source] - 2 ^ step.shift * toInt (step.carry limbs) ∈
        (⟨-step.round, 2 ^ step.shift - 1 - step.round⟩ : Interval) := by
      rw [Interval.mem_iff]
      constructor <;> dsimp only <;> linarith
    have hsub : toInt ((step.targets.foldl (addTo (step.carry limbs)) limbs)[step.source] -
        step.carry limbs * ofInt (2 ^ step.shift)) =
        toInt limbs[step.source] - 2 ^ step.shift * toInt (step.carry limbs) := by
      rw [MachineInt.toInt_sub, hsource, hmul]
      · rw [hsource, hmul]
        exact hrest.lower hdifference
      · rw [hsource, hmul]
        exact hrest.upper hdifference
    constructor
    · exact hwithin.set (hsub ▸ hdifference)
    · rw [apply, value_set, hsub, hsource, hvalue, ← hcarry]
      ring
  · cases hbox

end Step

/-! ## Runs -/

/-- The steps in their order. -/
def run (steps : List (Step n)) (limbs : Vector W n) : Vector W n :=
  steps.foldl (fun limbs step ↦ step.apply limbs) limbs

theorem run_cons (step : Step n) (steps : List (Step n)) (limbs : Vector W n) :
    run (step :: steps) limbs = run steps (step.apply limbs) := rfl

theorem run_append (steps steps' : List (Step n)) (limbs : Vector W n) :
    run (steps ++ steps') limbs = run steps' (run steps limbs) := by
  rw [run, run, run, List.foldl_append]

def runBox (bound : ℕ) (steps : List (Step n)) (box : Vector Interval n) :
    Option (Vector Interval n) :=
  steps.foldlM (fun box step ↦ step.box bound box) box

/-- From the box `start` the steps stay in range, and they end inside the box `final`. -/
@[irreducible]
def EndsIn (bound : ℕ) (steps : List (Step n)) (start final : Vector Interval n) : Prop :=
  match runBox bound steps start with
  | some box => ∀ i : Fin n, final[i].lo ≤ box[i].lo ∧ box[i].hi ≤ final[i].hi
  | none => False

instance (bound : ℕ) (steps : List (Step n)) (start final : Vector Interval n) :
    Decidable (EndsIn bound steps start final) := by
  unfold EndsIn
  split <;> infer_instance

theorem EndsIn.cons {bound : ℕ} {step : Step n} {steps : List (Step n)}
    {start final : Vector Interval n} (h : EndsIn bound (step :: steps) start final) :
    ∃ middle, step.box bound start = some middle ∧ EndsIn bound steps middle final := by
  unfold EndsIn at h ⊢
  unfold runBox at h
  rw [List.foldlM_cons] at h
  cases hmiddle : step.box bound start with
  | none =>
    rw [hmiddle] at h
    exact h.elim
  | some middle =>
    rw [hmiddle] at h
    exact ⟨middle, rfl, h⟩

/-- A run inside computed boxes keeps the number modulo the modulus when its steps are balanced. -/
theorem run_spec_of_runBox {steps : List (Step n)} {modulus : ℤ} {weights : Fin n → ℤ}
    {limbs : Vector W n} {box box' : Vector Interval n}
    (hbalanced : ∀ step ∈ steps, step.Balanced modulus weights) (hlimbs : Within box limbs)
    (hbox : runBox (limit W) steps box = some box') :
    Within box' (run steps limbs) ∧
      value weights (run steps limbs) ≡ value weights limbs [ZMOD modulus] := by
  induction steps generalizing limbs box with
  | nil =>
    cases hbox
    exact ⟨hlimbs, rfl⟩
  | cons step steps ih =>
    unfold runBox at hbox
    rw [List.foldlM_cons] at hbox
    obtain ⟨middle, hmiddle, hrest⟩ := Option.bind_eq_some_iff.mp hbox
    obtain ⟨hwithin, hvalue⟩ := step.apply_spec weights hlimbs hmiddle
    have hsteps : ∀ other ∈ steps, other.Balanced modulus weights :=
      fun other hother ↦ hbalanced other (List.mem_cons_of_mem step hother)
    obtain ⟨hfinal, hmod⟩ := ih hsteps hwithin hrest
    refine ⟨hfinal, hmod.trans ?_⟩
    rw [hvalue, Int.modEq_comm, Int.modEq_iff_dvd, add_sub_cancel_left]
    exact dvd_mul_of_dvd_right (hbalanced step (List.mem_cons_self ..)) _

theorem run_spec {steps : List (Step n)} {modulus : ℤ} {weights : Fin n → ℤ} {limbs : Vector W n}
    {start final : Vector Interval n} (hbalanced : ∀ step ∈ steps, step.Balanced modulus weights)
    (hlimbs : Within start limbs) (hends : EndsIn (limit W) steps start final) :
    Within final (run steps limbs) ∧
      value weights (run steps limbs) ≡ value weights limbs [ZMOD modulus] := by
  unfold EndsIn at hends
  split at hends
  · rename_i box hbox
    obtain ⟨hwithin, hvalue⟩ := run_spec_of_runBox hbalanced hlimbs hbox
    refine ⟨?_, hvalue⟩
    intro i
    exact ⟨(hends i).1.trans (hwithin i).1, (hwithin i).2.trans (hends i).2⟩
  · exact hends.elim

end LimbSteps

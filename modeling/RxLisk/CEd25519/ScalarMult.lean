import RxLisk.CEd25519.BaseMultiples
import RxLisk.CEd25519.Recoding

/-!
# Multiples of points

A secret factor is multiplied with the base point by one addition a digit, each with an entry of the
table that is selected without a branch.  A public one is multiplied together with a second factor,
by one doubling for each place of the two.
-/

namespace RxLisk

namespace CEd25519

open LimbSteps TwistedEdwards

/-! ## Selection from the table -/

/-- One if the two are equal, zero otherwise. -/
def equal (b c : Int8) : UInt8 :=
  let x := b.toUInt8 ^^^ c.toUInt8
  let y := x.toUInt64 - 1
  (y >>> 63).toUInt8

/-- One if the number is negative, zero otherwise. -/
def negative (b : Int8) : UInt8 := (b.toInt64.toUInt64 >>> 63).toUInt8

def cmov (t u : GePrecomp) (b : UInt8) : GePrecomp :=
  { yplusx := feCmov t.yplusx u.yplusx b.toUInt32
    yminusx := feCmov t.yminusx u.yminusx b.toUInt32
    xy2d := feCmov t.xy2d u.xy2d b.toUInt32 }

/-- The absolute value, as the low byte of `b - (((-bnegative) & b) * 2)`. -/
def babs (b : Int8) : Int8 := (b.toUInt8 - (-negative b &&& b.toUInt8) * 2).toInt8

def precompZero : GePrecomp := { yplusx := fe1, yminusx := fe1, xy2d := fe0 }

def precompNeg (t : GePrecomp) : GePrecomp :=
  { yplusx := t.yminusx, yminusx := t.yplusx, xy2d := feNeg t.xy2d }

def select (pos : Fin 32) (b : Int8) : GePrecomp :=
  let t := (List.finRange 8).foldl
    (fun t j ↦ cmov t ((base.get pos).get j) (equal (babs b) (Int8.ofNat (j.val + 1)))) precompZero
  cmov t (precompNeg t) (negative b)

/-! ## A multiple of the base point -/

/-- One pass over the digits in every other place. -/
def addSelected (digit : Fin 32 → Int8) (h : GeP3) : GeP3 :=
  (List.finRange 32).foldl (fun h i ↦ geP1p1ToP3 (geMadd h (select i (digit i)))) h

/-- `h = a * B` -/
def geScalarmultBase (a : Vector UInt8 32) : GeP3 :=
  let e := signedNibbles a
  let h := addSelected (fun i ↦ e[2 * i.val + 1]) geP30
  let r := geP3Dbl h
  let r := geP2Dbl (geP1p1ToP2 r)
  let r := geP2Dbl (geP1p1ToP2 r)
  let r := geP2Dbl (geP1p1ToP2 r)
  addSelected (fun i ↦ e[2 * i.val]) (geP1p1ToP3 r)

/-! ## The sum of two multiples -/

/-- `A`, `3A`, `5A`, and so on up to `15A`. -/
def oddMultiples (A : GeP3) : Vector GeCached 8 :=
  let A2 := geP1p1ToP3 (geP3Dbl A)
  let next (q : GeCached) : GeCached := geP3ToCached (geP1p1ToP3 (geAdd A2 q))
  let Ai0 := geP3ToCached A
  let Ai1 := next Ai0
  let Ai2 := next Ai1
  let Ai3 := next Ai2
  let Ai4 := next Ai3
  let Ai5 := next Ai4
  let Ai6 := next Ai5
  let Ai7 := next Ai6
  #v[Ai0, Ai1, Ai2, Ai3, Ai4, Ai5, Ai6, Ai7]

/-- The entry of a table of odd multiples for a digit. -/
def oddEntry {Entry : Type} (table : Vector Entry 8) (digit : ℤ) : Entry :=
  table.get ⟨digit.natAbs / 2 % 8, Nat.mod_lt _ (by norm_num)⟩

/-- Adds the multiple of the point for a digit of `a`. -/
def addDigit (Ai : Vector GeCached 8) (t : GeP1p1) (a : ℤ) : GeP1p1 :=
  if 0 < a then geAdd (geP1p1ToP3 t) (oddEntry Ai a)
  else if a < 0 then geSub (geP1p1ToP3 t) (oddEntry Ai a)
  else t

/-- Adds the multiple of the base point for a digit of `b`. -/
def addBaseDigit (t : GeP1p1) (b : ℤ) : GeP1p1 :=
  if 0 < b then geMadd (geP1p1ToP3 t) (oddEntry Bi b)
  else if b < 0 then geMsub (geP1p1ToP3 t) (oddEntry Bi b)
  else t

/-- One place of both factors. -/
def geDoublePlace (Ai : Vector GeCached 8) (r : GeP2) (digits : ℤ × ℤ) : GeP2 :=
  geP1p1ToP2 (addBaseDigit (addDigit Ai (geP2Dbl r) digits.1) digits.2)

/-- `r = a * A + b * B` -/
def geDoubleScalarmultVartime (a : Vector UInt8 32) (A : GeP3) (b : Vector UInt8 32) : GeP2 :=
  let digits := ((slide a).zip (slide b)).reverse
  (digits.dropWhile fun pair ↦ pair.1 = 0 ∧ pair.2 = 0).foldl (geDoublePlace (oddMultiples A)) geP20

/-! ## The selected entry -/

theorem cmov_one (t u : GePrecomp) : cmov t u 1 = u := by
  have hone : (1 : UInt8).toUInt32 = 1 := rfl
  rw [cmov, hone, feCmov_one, feCmov_one, feCmov_one]

theorem cmov_zero (t u : GePrecomp) : cmov t u 0 = t := by
  have hzero : (0 : UInt8).toUInt32 = 0 := rfl
  rw [cmov, hzero, feCmov_zero, feCmov_zero, feCmov_zero]

theorem precompZero_standsFor : precompZero.StandsFor 0 := by
  have hone := Represents.one
  have hzero := Represents.zero
  refine ⟨hone.sized.mono (by norm_num), hone.sized.mono (by norm_num),
    hzero.sized.mono (by norm_num), ?_, ?_, ?_⟩
  · rw [precompZero, hone.feValue_eq, Point.zero_x, Point.zero_y, add_zero]
  · rw [precompZero, hone.feValue_eq, Point.zero_x, Point.zero_y, sub_zero]
  · rw [precompZero, hzero.feValue_eq, Point.zero_x, zero_mul, zero_mul]

theorem precompNeg_standsFor {t : GePrecomp} {P : Point curveD} (ht : t.StandsFor P) :
    (precompNeg t).StandsFor (-P) := by
  have hneg := ht.sized_xy2d.represents.neg (by norm_num)
  refine ⟨ht.sized_yminusx, ht.sized_yplusx, hneg.sized, ?_, ?_, ?_⟩
  · rw [precompNeg, ht.yminusx_eq, Point.neg_x, Point.neg_y, sub_eq_add_neg]
  · rw [precompNeg, ht.yplusx_eq, Point.neg_x, Point.neg_y, sub_neg_eq_add]
  · rw [precompNeg, hneg.feValue_eq, ht.xy2d_eq, Point.neg_x, Point.neg_y, neg_mul, neg_mul]

/-- The comparisons of the source, on all digits that occur. -/
theorem digit_comparisons : ∀ shifted : Fin 17,
    let b := Int8.ofInt (shifted.val - 8)
    negative b = (if b.toInt < 0 then 1 else 0) ∧
      ∀ j : Fin 8, equal (babs b) (Int8.ofNat (j.val + 1)) =
        if b.toInt.natAbs = j.val + 1 then 1 else 0 := by
  decide

/-- The moves leave the entry for the absolute value. -/
theorem foldl_cmov (row : Vector GePrecomp 8) {multiple : ℕ} (hmultiple : multiple ≤ 8)
    {equals : Fin 8 → UInt8} (hequals : ∀ j, equals j = if multiple = j.val + 1 then 1 else 0) :
    (List.finRange 8).foldl (fun t j ↦ cmov t (row.get j) (equals j)) precompZero =
      if _ : multiple = 0 then precompZero else row[multiple - 1] := by
  have hrange : List.finRange 8 = [0, 1, 2, 3, 4, 5, 6, 7] := by decide
  have hget (j : Fin 8) : row.get j = row[j] := rfl
  simp only [hrange, hequals, List.foldl_cons, List.foldl_nil]
  interval_cases multiple <;> simp [cmov_one, cmov_zero, hget]

theorem select_standsFor (pos : Fin 32) {b : Int8} (hlower : -8 ≤ toInt b) (hupper : toInt b ≤ 8) :
    (select pos b).StandsFor ((toInt b * 256 ^ pos.val) • basePoint) := by
  change -8 ≤ b.toInt at hlower
  change b.toInt ≤ 8 at hupper
  change (select pos b).StandsFor ((b.toInt * 256 ^ pos.val) • basePoint)
  obtain ⟨hnegative, hequal⟩ := digit_comparisons ⟨(b.toInt + 8).toNat, by omega⟩
  rw [show ((b.toInt + 8).toNat : ℤ) - 8 = b.toInt by omega, Int8.ofInt_toInt] at hnegative hequal
  have hentry : GePrecomp.StandsFor
      ((List.finRange 8).foldl (fun t j ↦
        cmov t ((base.get pos).get j) (equal (babs b) (Int8.ofNat (j.val + 1)))) precompZero)
      ((b.toInt.natAbs * 256 ^ pos.val) • basePoint) := by
    rw [foldl_cmov (base.get pos) (by omega) hequal]
    split_ifs with hzero
    · rw [hzero, zero_mul, zero_smul]
      exact precompZero_standsFor
    · have hbase := base_standsFor pos ⟨b.toInt.natAbs - 1, by omega⟩
      rwa [show b.toInt.natAbs - 1 + 1 = b.toInt.natAbs by omega] at hbase
  unfold select
  dsimp only
  rw [hnegative]
  split_ifs with hneg
  · rw [cmov_one]
    have hresult := precompNeg_standsFor hentry
    rw [← natCast_zsmul, ← neg_zsmul] at hresult
    push_cast at hresult
    rwa [abs_of_neg hneg, neg_mul, neg_neg] at hresult
  · rw [cmov_zero]
    rw [← natCast_zsmul] at hentry
    push_cast at hentry
    rwa [abs_of_nonneg (by omega)] at hentry

/-! ## A multiple of the base point -/

theorem GeP3.StandsFor.of_eq {h : GeP3} {P Q : Point curveD} (hP : h.StandsFor P) (hPQ : P = Q) :
    h.StandsFor Q :=
  hPQ ▸ hP

theorem foldl_select_standsFor {digit : Fin 32 → Int8}
    (hdigit : ∀ i, -8 ≤ toInt (digit i) ∧ toInt (digit i) ≤ 8) (places : List (Fin 32)) {h : GeP3}
    {P : Point curveD} (hP : h.StandsFor P) :
    (places.foldl (fun h i ↦ geP1p1ToP3 (geMadd h (select i (digit i)))) h).StandsFor
      (P + (places.map fun i ↦ toInt (digit i) * 256 ^ i.val).sum • basePoint) := by
  induction places generalizing h P with
  | nil => simpa using hP
  | cons i places ih =>
    have hentry := select_standsFor i (hdigit i).1 (hdigit i).2
    have hnext := ih (geP1p1ToP3_standsFor (geMadd_standsFor hP hentry))
    rw [add_assoc, ← add_zsmul] at hnext
    rw [List.map_cons, List.sum_cons]
    exact hnext

theorem addSelected_standsFor {digit : Fin 32 → Int8}
    (hdigit : ∀ i, -8 ≤ toInt (digit i) ∧ toInt (digit i) ≤ 8) {h : GeP3} {P : Point curveD}
    (hP : h.StandsFor P) :
    (addSelected digit h).StandsFor (P + (∑ i, toInt (digit i) * 256 ^ i.val) • basePoint) := by
  rw [← List.sum_ofFn, List.ofFn_eq_map]
  exact foldl_select_standsFor hdigit _ hP

/-- The places of the digits, two by two. -/
theorem value_nibbleWeight (e : Vector Int8 64) :
    value nibbleWeight e = 16 * (∑ i : Fin 32, toInt e[2 * i.val + 1] * 256 ^ i.val) +
      ∑ i : Fin 32, toInt e[2 * i.val] * 256 ^ i.val := by
  let places : Fin 32 × Fin 2 ≃ Fin 64 := finProdFinEquiv
  have hpairs : value nibbleWeight e =
      ∑ i : Fin 32, ∑ half : Fin 2, nibbleWeight (places (i, half)) * toInt e[places (i, half)] := by
    rw [← Fintype.sum_prod_type', value]
    exact (places.sum_comp fun k ↦ nibbleWeight k * toInt e[k]).symm
  rw [hpairs, Finset.mul_sum, ← Finset.sum_add_distrib]
  apply Finset.sum_congr rfl
  intro i _
  have hplace (half : Fin 2) : (places (i, half)).val = half.val + 2 * i.val := rfl
  have hweight (half : Fin 2) :
      nibbleWeight (places (i, half)) = 16 ^ half.val * 256 ^ i.val := by
    rw [nibbleWeight, hplace, mul_add, pow_add, pow_mul, ← mul_assoc, pow_mul]
    norm_num
  rw [Fin.sum_univ_two, hweight, hweight]
  simp only [Fin.getElem_fin, hplace, Fin.val_zero, Fin.val_one, zero_add, add_comm 1]
  ring

/-- `ge_scalarmult_base` multiplies the base point by a number below `2^255`. -/
theorem geScalarmultBase_standsFor {a : Vector UInt8 32}
    (ha : LittleEndian.value a.toList < 2 ^ 255) :
    (geScalarmultBase a).StandsFor (LittleEndian.value a.toList • basePoint) := by
  obtain ⟨hwithin, hvalue⟩ := signedNibbles_spec ha
  have hdigit (k : ℕ) (hk : k < 64) :
      -8 ≤ toInt (signedNibbles a)[k] ∧ toInt (signedNibbles a)[k] ≤ 8 := by
    have hmem := hwithin ⟨k, hk⟩
    rwa [Fin.getElem_fin signedNibblesBox, signedNibblesBox, Vector.getElem_ofFn] at hmem
  have hodd := addSelected_standsFor
    (fun i : Fin 32 ↦ hdigit (2 * i.val + 1) (by omega)) geP30_standsFor
  have hdouble := geP1p1ToP3_standsFor (geP2Dbl_standsFor (geP1p1ToP2_standsFor
    (geP2Dbl_standsFor (geP1p1ToP2_standsFor (geP2Dbl_standsFor (geP1p1ToP2_standsFor
      (geP3Dbl_standsFor hodd)))))))
  have hresult := addSelected_standsFor (fun i : Fin 32 ↦ hdigit (2 * i.val) (by omega)) hdouble
  have hpoint : LittleEndian.value a.toList • basePoint =
      value nibbleWeight (signedNibbles a) • basePoint := by
    rw [hvalue, natCast_zsmul]
  rw [hpoint, value_nibbleWeight]
  refine hresult.of_eq ?_
  module

/-! ## The sum of two multiples -/

section Double

open SignedDigits

theorem oddMultiples_standsFor {A : GeP3} {P : Point curveD} (hA : A.StandsFor P) (j : Fin 8) :
    ((oddMultiples A).get j).StandsFor ((2 * j.val + 1) • P) := by
  have htwice := geP1p1ToP3_standsFor (geP3Dbl_standsFor hA)
  -- each entry is the one before it and twice the point
  have hnext {q : GeCached} {k : ℕ} (hq : q.StandsFor ((2 * k + 1) • P)) :
      (geP3ToCached (geP1p1ToP3 (geAdd (geP1p1ToP3 (geP3Dbl A)) q))).StandsFor
        ((2 * (k + 1) + 1) • P) := by
    have hsum := geP3ToCached_standsFor (geP1p1ToP3_standsFor (geAdd_standsFor htwice hq))
    rwa [← two_nsmul, ← add_nsmul, show 2 + (2 * k + 1) = 2 * (k + 1) + 1 by ring] at hsum
  have h0 : (geP3ToCached A).StandsFor ((2 * 0 + 1) • P) := by
    rw [mul_zero, zero_add, one_nsmul]
    exact geP3ToCached_standsFor hA
  have h1 := hnext h0
  have h2 := hnext h1
  have h3 := hnext h2
  have h4 := hnext h3
  have h5 := hnext h4
  have h6 := hnext h5
  have h7 := hnext h6
  fin_cases j
  · exact h0
  · exact h1
  · exact h2
  · exact h3
  · exact h4
  · exact h5
  · exact h6
  · exact h7

/-- The entry for an odd digit is the multiple by its absolute value. -/
theorem natAbs_eq_of_slideDigit {digit : ℤ} (hdigit : SlideDigit digit) (hne : digit ≠ 0) :
    2 * (Fin.ofNat 8 (digit.natAbs / 2)).val + 1 = digit.natAbs := by
  obtain ⟨hodd, habs⟩ := hdigit.resolve_left hne
  obtain ⟨half, rfl⟩ := hodd
  rw [abs_le] at habs
  rw [Fin.val_ofNat]
  omega

variable {A : GeP3} {P S : Point curveD}

theorem addDigit_standsFor (hA : A.StandsFor P) {t : GeP1p1} (ht : t.StandsFor S) {a : ℤ}
    (ha : SlideDigit a) : (addDigit (oddMultiples A) t a).StandsFor (S + a • P) := by
  have hentry (hne : a ≠ 0) : (oddEntry (oddMultiples A) a).StandsFor (a.natAbs • P) := by
    have hmultiple := oddMultiples_standsFor hA (Fin.ofNat 8 (a.natAbs / 2))
    rwa [natAbs_eq_of_slideDigit ha hne] at hmultiple
  unfold addDigit
  split_ifs with hpos hneg
  · have hsum := geAdd_standsFor (geP1p1ToP3_standsFor ht) (hentry hpos.ne')
    rwa [← natCast_zsmul, Int.natAbs_of_nonneg hpos.le] at hsum
  · have hdifference := geSub_standsFor (geP1p1ToP3_standsFor ht) (hentry hneg.ne)
    rwa [← natCast_zsmul, Int.ofNat_natAbs_of_nonpos hneg.le, neg_zsmul, sub_neg_eq_add]
      at hdifference
  · obtain rfl : a = 0 := by omega
    rwa [zero_zsmul, add_zero]

theorem addBaseDigit_standsFor {t : GeP1p1} (ht : t.StandsFor S) {b : ℤ} (hb : SlideDigit b) :
    (addBaseDigit t b).StandsFor (S + b • basePoint) := by
  have hentry (hne : b ≠ 0) : (oddEntry Bi b).StandsFor (b.natAbs • basePoint) := by
    have hmultiple := Bi_standsFor (Fin.ofNat 8 (b.natAbs / 2))
    rwa [natAbs_eq_of_slideDigit hb hne] at hmultiple
  unfold addBaseDigit
  split_ifs with hpos hneg
  · have hsum := geMadd_standsFor (geP1p1ToP3_standsFor ht) (hentry hpos.ne')
    rwa [← natCast_zsmul, Int.natAbs_of_nonneg hpos.le] at hsum
  · have hdifference := geMsub_standsFor (geP1p1ToP3_standsFor ht) (hentry hneg.ne)
    rwa [← natCast_zsmul, Int.ofNat_natAbs_of_nonpos hneg.le, neg_zsmul, sub_neg_eq_add]
      at hdifference
  · obtain rfl : b = 0 := by omega
    rwa [zero_zsmul, add_zero]

theorem geDoublePlace_standsFor (hA : A.StandsFor P) {r : GeP2} (hr : r.StandsFor S)
    {digits : ℤ × ℤ} (ha : SlideDigit digits.1) (hb : SlideDigit digits.2) :
    (geDoublePlace (oddMultiples A) r digits).StandsFor (place P basePoint S digits) :=
  geP1p1ToP2_standsFor
    (addBaseDigit_standsFor (addDigit_standsFor hA (geP2Dbl_standsFor hr) ha) hb)

theorem foldl_geDoublePlace_standsFor (hA : A.StandsFor P) {digits : List (ℤ × ℤ)}
    (hdigits : ∀ pair ∈ digits, SlideDigit pair.1 ∧ SlideDigit pair.2) {r : GeP2}
    (hr : r.StandsFor S) :
    (digits.foldl (geDoublePlace (oddMultiples A)) r).StandsFor
      (digits.foldl (place P basePoint) S) := by
  induction digits generalizing r S with
  | nil => exact hr
  | cons pair digits ih =>
    obtain ⟨⟨ha, hb⟩, hrest⟩ := List.forall_mem_cons.mp hdigits
    exact ih hrest (geDoublePlace_standsFor hA hr ha hb)

/-- `ge_double_scalarmult_vartime` adds a multiple of the point and one of the base point. -/
theorem geDoubleScalarmultVartime_standsFor {a b : Vector UInt8 32} (hA : A.StandsFor P)
    (ha : LittleEndian.value a.toList ≤ 2 ^ 255) (hb : LittleEndian.value b.toList ≤ 2 ^ 255) :
    (geDoubleScalarmultVartime a A b).StandsFor
      (LittleEndian.value a.toList • P + LittleEndian.value b.toList • basePoint) := by
  obtain ⟨hlengthA, hvalueA, hdigitsA⟩ := slide_spec ha
  obtain ⟨hlengthB, hvalueB, hdigitsB⟩ := slide_spec hb
  let digits := ((slide a).zip (slide b)).reverse.dropWhile fun pair ↦ pair.1 = 0 ∧ pair.2 = 0
  have hdigits : ∀ pair ∈ digits, SlideDigit pair.1 ∧ SlideDigit pair.2 := by
    intro pair hpair
    have hmem := List.mem_reverse.mp ((List.dropWhile_sublist _).mem hpair)
    exact ⟨hdigitsA _ (List.of_mem_zip hmem).1, hdigitsB _ (List.of_mem_zip hmem).2⟩
  have hresult := foldl_geDoublePlace_standsFor hA hdigits geP20_standsFor
  rw [foldl_place P basePoint (hlengthA.trans hlengthB.symm), hvalueA, hvalueB, natCast_zsmul,
    natCast_zsmul] at hresult
  exact hresult

end Double

end CEd25519

end RxLisk

import RxLisk.CEd25519.GroupElement

/-!
# Points as bytes

A point is written as its `y`, with the parity of its `x` in the top bit.  Reading solves the curve
equation for `x` with one power and at most two checks, and returns the negated point.  It accepts
exactly the bytes of points, except that a `y` of `2^255 - 19` or more and a set top bit beside `x =
0` are accepted too.
-/

namespace RxLisk

namespace CEd25519

open LimbSteps BitFields LittleEndian TwistedEdwards

/-! ## Writing -/

/-- The encoding of a field element, with the parity of another in the top bit. -/
def packPoint (x y : Fe) : Vector UInt8 32 :=
  let s := feTobytes y
  s.set 31 (s[31] ^^^ feIsnegative x <<< 7)

def geTobytes (h : GeP2) : Vector UInt8 32 :=
  let recip := feInvert h.Z
  packPoint (feMul h.X recip) (feMul h.Y recip)

def geP3Tobytes (h : GeP3) : Vector UInt8 32 :=
  let recip := feInvert h.Z
  packPoint (feMul h.X recip) (feMul h.Y recip)

/-- The number that a point is written as. -/
def pointNumber (P : Point curveD) : ℕ := P.y.val + 2 ^ 255 * (P.x.val % 2)

/-- The encoding of a point. -/
def encodePoint (P : Point curveD) : List UInt8 := encode 32 (pointNumber P)

theorem val_lt (x : ZMod fieldOrder) : x.val < 2 ^ 255 - 19 :=
  (ZMod.val_lt x).trans_eq fieldOrder_eq

theorem pointNumber_lt (P : Point curveD) : pointNumber P < 2 ^ 256 := by
  have hy := val_lt P.y
  have hx := Nat.mod_lt P.x.val (show 0 < 2 by norm_num)
  unfold pointNumber
  omega

/-- The top bit is written into the last byte only. -/
theorem bitField_pointNumber (P : Point curveD) {i : ℕ} (hi : i < 31) :
    bitField (pointNumber P) (8 * i) 8 = bitField P.y.val (8 * i) 8 := by
  have hy := val_lt P.y
  have hmod : pointNumber P % 2 ^ 255 = P.y.val := by
    unfold pointNumber
    omega
  rw [← hmod, bitField_mod (by omega)]

theorem bitField_pointNumber_last (P : Point curveD) :
    bitField (pointNumber P) 248 8 = bitField P.y.val 248 8 + 128 * (P.x.val % 2) ∧
      bitField P.y.val 248 8 < 128 := by
  have hy := val_lt P.y
  have hx := Nat.mod_lt P.x.val (show 0 < 2 by norm_num)
  unfold bitField pointNumber
  omega

theorem toList_packPoint {x y : Fe} {P : Point curveD} (hx : Represents 129 x P.x)
    (hy : Represents 129 y P.y) : (packPoint x y).toList = encodePoint P := by
  have hbytes := toList_feTobytes (hy.mono (by norm_num))
  have hparity := toNat_feIsnegative (hx.mono (by norm_num))
  have hlt := val_lt P.y
  have hbyte (i : ℕ) (hi : i < 32) :
      (feTobytes y)[i].toNat = bitField P.y.val (8 * i) 8 := by
    have h := toNat_getElem_vector (feTobytes y) hi
    rwa [hbytes, value_encode_of_lt (by omega)] at h
  have hresult : (packPoint x y).toList =
      encode (packPoint x y).toList.length (pointNumber P) := by
    apply eq_encode_of_forall
    intro i hi
    rw [Vector.length_toList] at hi
    have hget : (packPoint x y)[i] =
        if 31 = i then (feTobytes y)[31] ^^^ feIsnegative x <<< 7 else (feTobytes y)[i] :=
      @Vector.getElem_set UInt8 32 _ 31 _ (by norm_num) i hi
    rw [Vector.getElem_toList, hget]
    split
    · rename_i hlast
      obtain ⟨hnumber, hsmall⟩ := bitField_pointNumber_last P
      have hbit := Nat.mod_lt P.x.val (show 0 < 2 by norm_num)
      rw [← hlast, hnumber, UInt8.toNat_xor, hbyte, UInt8.toNat_shiftLeft, hparity]
      generalize P.x.val % 2 = parity at hbit ⊢
      generalize bitField P.y.val 248 8 = low at hsmall ⊢
      have htop : ∀ low < 128, low ^^^ 128 = low + 128 := by decide
      interval_cases parity
      · exact Nat.xor_zero low
      · exact htop low hsmall
    · rename_i hne
      rw [hbyte i hi, bitField_pointNumber P (by omega)]
  rwa [Vector.length_toList] at hresult

/-- Dividing by the denominator gives the coordinates. -/
theorem represents_affine {X Y Z : Fe} {P : Point curveD} (hX : Sized 131 X) (hY : Sized 131 Y)
    (hZ : Sized 131 Z) (hprojective : IsProjective P (feValue X) (feValue Y) (feValue Z)) :
    Represents 129 (feMul X (feInvert Z)) P.x ∧ Represents 129 (feMul Y (feInvert Z)) P.y := by
  have hinvert := represents_feInvert hZ.represents (by norm_num)
  have hx := hX.represents.mul hinvert (by norm_num) (by norm_num)
  have hy := hY.represents.mul hinvert (by norm_num) (by norm_num)
  rw [hprojective.x_eq, mul_inv_cancel_right₀ hprojective.z_ne_zero] at hx
  rw [hprojective.y_eq, mul_inv_cancel_right₀ hprojective.z_ne_zero] at hy
  exact ⟨hx, hy⟩

theorem toList_geTobytes {h : GeP2} {P : Point curveD} (hh : h.StandsFor P) :
    (geTobytes h).toList = encodePoint P := by
  obtain ⟨hx, hy⟩ := represents_affine hh.sized_X hh.sized_Y hh.sized_Z hh.projective
  exact toList_packPoint hx hy

theorem toList_geP3Tobytes {h : GeP3} {P : Point curveD} (hh : h.StandsFor P) :
    (geP3Tobytes h).toList = encodePoint P := by
  obtain ⟨hx, hy⟩ :=
    represents_affine hh.sized_X hh.sized_Y hh.sized_Z hh.extended.toIsProjective
  exact toList_packPoint hx hy

/-! ## Reading -/

/-- `x = uv^3(uv^7)^((q-5)/8)`, written into the point before it is checked. -/
def geCandidate (u v : Fe) : Fe :=
  let v3 := feSq v
  let v3 := feMul v3 v
  let X := feSq v3
  let X := feMul X v
  let X := feMul X u
  let X := fePow22523 X
  let X := feMul X v3
  feMul X u

/-- The root that the reader looks for, when there is one. -/
def geRoot (u v : Fe) : Option Fe :=
  let X := geCandidate u v
  let vxx := feSq X
  let vxx := feMul vxx v
  let check := feSub vxx u
  if feIsnonzero check then
    let check := feAdd vxx u
    if feIsnonzero check then none else some (feMul X feSqrtm1)
  else some X

/-- The negated point behind the bytes; `none` stands for the result `-1`. -/
def geFrombytesNegateVartime (s : Vector UInt8 32) : Option GeP3 :=
  let Y := feFrombytes s
  let Z := fe1
  let u := feSq Y
  let v := feMul u feD
  let u := feSub u Z
  let v := feAdd v Z
  (geRoot u v).map fun X ↦
    let X := if feIsnegative X == s[31] >>> 7 then feNeg X else X
    { X := X, Y := Y, Z := Z, T := feMul X Y }

/-- What the call leaves in a point whose `T` held `memory`.  Where the result is `-1`, `X` has the
candidate, `Y` and `Z` have been written, and `T` has not. -/
def geFrombytesLeaves (memory : Fe) (s : Vector UInt8 32) : GeP3 :=
  let Y := feFrombytes s
  let Z := fe1
  let u := feSq Y
  let v := feMul u feD
  let u := feSub u Z
  let v := feAdd v Z
  (geFrombytesNegateVartime s).getD { X := geCandidate u v, Y := Y, Z := Z, T := memory }

/-- The bytes are read as the point: the lower 255 bits are a representative of its `y`, and the top
bit is the parity of its `x` unless `x` is zero. -/
def Decodes (s : Vector UInt8 32) (P : Point curveD) : Prop :=
  P.y = ((value s.toList % 2 ^ 255 : ℕ) : ZMod fieldOrder) ∧
    (P.x ≠ 0 → P.x.val % 2 = value s.toList / 2 ^ 255)

section Root

variable {u v : ZMod fieldOrder}

/-- The candidate of the source, `x = uv^3(uv^7)^((q-5)/8)`. -/
def rootCandidate (exponent : ℕ) (u v : ZMod fieldOrder) : ZMod fieldOrder :=
  ((v ^ 2 * v) ^ 2 * v * u) ^ exponent * (v ^ 2 * v) * u

/-- Whenever there is a solution of `v x² = u`, the candidate is one up to the sign of `u`. -/
theorem rootCandidate_eq_or {exponent : ℕ} (hexponent : 8 * exponent + 4 = fieldOrder - 1)
    {x : ZMod fieldOrder} (hx : v * x ^ 2 = u) :
    rootCandidate exponent u v ^ 2 * v = u ∨ rootCandidate exponent u v ^ 2 * v = -u := by
  have hcandidate : rootCandidate exponent u v ^ 2 * v =
      u * (x * v ^ 4) ^ (4 * exponent + 2) := by
    have hsquare : (v ^ 2 * v) ^ 2 * v * u = (x * v ^ 4) ^ 2 := by
      rw [← hx]
      ring
    rw [rootCandidate, hsquare, pow_add (x * v ^ 4), ← pow_mul (x * v ^ 4), mul_pow, mul_pow,
      ← pow_mul (x * v ^ 4), show 2 * exponent * 2 = 4 * exponent by ring]
    rw [← hx]
    ring
  rw [hcandidate]
  by_cases hzero : x * v ^ 4 = 0
  · have hu : u = 0 := by
      rcases mul_eq_zero.mp hzero with h | h
      · rw [← hx, h]
        ring
      · rw [← hx, eq_zero_of_pow_eq_zero h, zero_mul]
    left
    rw [hu, zero_mul]
  · have hone : (x * v ^ 4) ^ (4 * exponent + 2) * (x * v ^ 4) ^ (4 * exponent + 2) = 1 := by
      rw [← pow_add, show 4 * exponent + 2 + (4 * exponent + 2) = fieldOrder - 1 by omega]
      exact ZMod.pow_card_sub_one_eq_one hzero
    rcases mul_self_eq_one_iff.mp hone with h | h
    · left
      rw [h, mul_one]
    · right
      rw [h, mul_neg_one]

/-- The reader finds a root exactly when there is one. -/
theorem geRoot_spec {f g : Fe} (hf : Represents 130 f u) (hg : Represents 130 g v) :
    (∀ X, geRoot f g = some X → ∃ x, Represents 129 X x ∧ v * x ^ 2 = u) ∧
      (geRoot f g = none → ∀ x, v * x ^ 2 ≠ u) := by
  have hv3 := (hg.sq (by norm_num)).mul hg (by norm_num) (by norm_num)
  have hbase := ((hv3.sq (by norm_num)).mul hg (by norm_num) (by norm_num)).mul hf (by norm_num)
    (by norm_num)
  have hpower : Represents 129 _ _ := isPower_fePow22523 hbase
  have hX : Represents 129 _ (rootCandidate (2 ^ 252 - 3) u v) :=
    (hpower.mul hv3 (by norm_num) (by norm_num)).mul hf (by norm_num) (by norm_num)
  have hvxx := (hX.sq (by norm_num)).mul hg (by norm_num) (by norm_num)
  have hdifference := feIsnonzero_iff ((hvxx.sub hf (by norm_num)).mono (by norm_num))
  have hsum := feIsnonzero_iff ((hvxx.add hf (by norm_num)).mono (by norm_num))
  have hroot := hX.mul represents_feSqrtm1 (by norm_num) (by norm_num)
  have hexponent : 8 * (2 ^ 252 - 3) + 4 = fieldOrder - 1 := by
    rw [fieldOrder_eq]
    norm_num
  have hcandidate (x : ZMod fieldOrder) (hx : v * x ^ 2 = u) :=
    rootCandidate_eq_or hexponent hx
  generalize rootCandidate (2 ^ 252 - 3) u v = w at hX hvxx hdifference hsum hroot hcandidate
  rw [sub_ne_zero] at hdifference
  rw [ne_eq, add_eq_zero_iff_eq_neg] at hsum
  unfold geRoot geCandidate
  dsimp only
  split_ifs with hfirst hsecond
  · rw [hdifference] at hfirst
    rw [hsum] at hsecond
    refine ⟨fun X h ↦ absurd h (by simp), fun _ x hx ↦ ?_⟩
    rcases hcandidate x hx with h | h
    · exact hfirst h
    · exact hsecond h
  · rw [hsum, not_not] at hsecond
    refine ⟨?_, by simp⟩
    intro X hsome
    cases hsome
    refine ⟨_, hroot, ?_⟩
    have hsqrt := sqrtm1_sq
    linear_combination w ^ 2 * v * hsqrt - hsecond
  · rw [hdifference, not_not] at hfirst
    refine ⟨?_, by simp⟩
    intro X hsome
    cases hsome
    exact ⟨_, hX, by rw [mul_comm, hfirst]⟩

end Root

/-- The parity of a nonzero element and of its negation differ, since the field order is odd. -/
theorem val_neg_mod_two {x : ZMod fieldOrder} (hx : x ≠ 0) : (-x).val % 2 = 1 - x.val % 2 := by
  have hlt := val_lt x
  have hpos : x.val ≠ 0 := by rwa [ne_eq, ZMod.val_eq_zero]
  rw [ZMod.neg_val, if_neg hx]
  have horder := fieldOrder_eq
  omega

theorem toNat_signBit (s : Vector UInt8 32) : (s[31] >>> 7).toNat = value s.toList / 2 ^ 255 := by
  have hlt := value_lt s.toList
  rw [Vector.length_toList] at hlt
  have hbyte := toNat_getElem_vector s (show 31 < 32 by norm_num)
  rw [UInt8.toNat_shiftRight, hbyte, Nat.shiftRight_eq_div_pow]
  change bitField (value s.toList) 248 8 / 2 ^ 7 = _
  unfold bitField
  omega

theorem onCurve_iff (x y : ZMod fieldOrder) :
    OnCurve curveD x y ↔ (y ^ 2 * curveD + 1) * x ^ 2 = y ^ 2 - 1 := by
  unfold OnCurve
  constructor
  · intro h
    linear_combination -h
  · intro h
    linear_combination -h

/-- The point that the reader returns, once it has chosen the sign of the root. -/
theorem exists_decodes {s : Vector UInt8 32} {X Y : Fe} {x : ZMod fieldOrder}
    (hX : Represents 129 X x)
    (hY : Represents 131 Y ((value s.toList % 2 ^ 255 : ℕ) : ZMod fieldOrder))
    (hcurve : OnCurve curveD x ((value s.toList % 2 ^ 255 : ℕ) : ZMod fieldOrder))
    (hparity : x ≠ 0 → x.val % 2 ≠ value s.toList / 2 ^ 255) :
    ∃ P, Decodes s P ∧
      GeP3.StandsFor { X := X, Y := Y, Z := fe1, T := feMul X Y } (-P) := by
  have hone := Represents.one
  have hT := hX.mul hY (by norm_num) (by norm_num)
  have hlt := value_lt s.toList
  rw [Vector.length_toList] at hlt
  let P : Point curveD := -⟨x, _, hcurve⟩
  refine ⟨P, ⟨rfl, ?_⟩, hX.sized.mono (by norm_num), hY.sized, hone.sized.mono (by norm_num),
    hT.sized.mono (by norm_num), ?_⟩
  · intro hne
    have hx : x ≠ 0 := fun h ↦ hne (neg_eq_zero.mpr h)
    have hdifferent := hparity hx
    have hneg := val_neg_mod_two hx
    have hbit := Nat.mod_lt x.val (show 0 < 2 by norm_num)
    change (-x).val % 2 = _
    omega
  · rw [hX.feValue_eq, hY.feValue_eq, hone.feValue_eq, hT.feValue_eq, neg_neg]
    exact isExtended_affine _

/-- Reading succeeds exactly on the bytes that are read as a point, and returns its negation. -/
theorem geFrombytesNegateVartime_spec (s : Vector UInt8 32) :
    (∀ h, geFrombytesNegateVartime s = some h → ∃ P, Decodes s P ∧ h.StandsFor (-P)) ∧
      (geFrombytesNegateVartime s = none → ∀ P, ¬Decodes s P) := by
  have hY := represents_feFrombytes s
  have hone := Represents.one
  have hYY := hY.sq (by norm_num)
  have hv := (hYY.mul represents_feD (by norm_num) (by norm_num)).add hone (by norm_num)
  have hu := hYY.sub hone (by norm_num)
  obtain ⟨hsome, hnone⟩ := geRoot_spec hu hv
  constructor
  · intro h hresult
    obtain ⟨X, hX, rfl⟩ := Option.map_eq_some_iff.mp hresult
    obtain ⟨x, hx, hroot⟩ := hsome X hX
    have hcurve := (onCurve_iff _ _).mpr hroot
    have hsign : feIsnegative X = s[31] >>> 7 ↔ x.val % 2 = value s.toList / 2 ^ 255 := by
      rw [← UInt8.toNat_inj, toNat_feIsnegative (hx.mono (by norm_num)), toNat_signBit]
    dsimp only
    split_ifs with hequal
    · have hparity := hsign.mp (beq_iff_eq.mp hequal)
      apply exists_decodes (hx.neg (by norm_num)) hY
      · unfold OnCurve at hcurve ⊢
        rwa [neg_sq]
      · intro hne
        have hflip := val_neg_mod_two (neg_ne_zero.mp hne)
        have hbit := Nat.mod_lt x.val (show 0 < 2 by norm_num)
        omega
    · exact exists_decodes hx hY hcurve
        fun _ hparity ↦ hequal (beq_iff_eq.mpr (hsign.mpr hparity))
  · intro hresult P hP
    have hmissing := hnone (by simpa [geFrombytesNegateVartime] using hresult) P.x
    apply hmissing
    rw [← hP.1]
    exact (onCurve_iff _ _).mp P.onCurve

theorem Decodes.unique {s : Vector UInt8 32} {P Q : Point curveD} (hP : Decodes s P)
    (hQ : Decodes s Q) : P = Q := by
  have hy : P.y = Q.y := hP.1.trans hQ.1.symm
  have hcurveP := (onCurve_iff _ _).mp P.onCurve
  have hcurveQ := (onCurve_iff _ _).mp Q.onCurve
  rw [hy] at hcurveP
  -- the coefficient of `x²` vanishes for no `y`, because the parameter is no square
  have hne : Q.y ^ 2 * curveD + 1 ≠ 0 := by
    intro hzero
    have hyne : Q.y ≠ 0 := by
      intro h
      rw [h] at hzero
      simp at hzero
    apply not_isSquare_curveD
    refine ⟨sqrtm1Number / Q.y, ?_⟩
    have hsqrt := sqrtm1_sq
    field_simp
    linear_combination hzero - hsqrt
  have hsquare : P.x ^ 2 = Q.x ^ 2 := mul_left_cancel₀ hne (hcurveP.trans hcurveQ.symm)
  have hx : P.x = Q.x := by
    rcases sq_eq_sq_iff_eq_or_eq_neg.mp hsquare with h | h
    · exact h
    · by_cases hzero : Q.x = 0
      · rw [h, hzero, neg_zero]
      · have hparityP := hP.2 (by rw [h]; exact neg_ne_zero.mpr hzero)
        have hparityQ := hQ.2 hzero
        have hflip := val_neg_mod_two hzero
        rw [← h] at hflip
        omega
  exact Point.ext hx hy

/-- Bytes that are read as a point leave its negation, whatever `T` held. -/
theorem exists_geFrombytesLeaves {s : Vector UInt8 32} {P : Point curveD} (hP : Decodes s P) :
    ∃ h : GeP3, (∀ memory, geFrombytesLeaves memory s = h) ∧ h.StandsFor (-P) := by
  obtain ⟨hsome, hnone⟩ := geFrombytesNegateVartime_spec s
  cases hread : geFrombytesNegateVartime s with
  | none => exact absurd hP (hnone hread P)
  | some h =>
    obtain ⟨Q, hQ, hpoint⟩ := hsome h hread
    rw [hQ.unique hP] at hpoint
    refine ⟨h, ?_, hpoint⟩
    intro memory
    rw [geFrombytesLeaves, hread, Option.getD_some]

theorem decodes_encodePoint {s : Vector UInt8 32} {P : Point curveD}
    (h : s.toList = encodePoint P) : Decodes s P := by
  have hlt := pointNumber_lt P
  have hy := val_lt P.y
  have hx := Nat.mod_lt P.x.val (show 0 < 2 by norm_num)
  unfold Decodes
  rw [h, encodePoint, value_encode_of_lt (by omega)]
  have hmod : pointNumber P % 2 ^ 255 = P.y.val := by
    unfold pointNumber
    omega
  have hdiv : pointNumber P / 2 ^ 255 = P.x.val % 2 := by
    unfold pointNumber
    omega
  rw [hmod, hdiv, ZMod.natCast_zmod_val]
  exact ⟨rfl, fun _ ↦ rfl⟩

/-! ## The zero bytes -/

/-- The point of order four whose encoding is 32 zero bytes. -/
def quarterPoint : Point curveD where
  x := sqrtm1Number
  y := 0
  onCurve := by
    have hsqrt := sqrtm1_sq
    unfold OnCurve
    linear_combination -hsqrt

theorem decodes_quarterPoint : Decodes (Vector.replicate 32 0) quarterPoint := by
  have hvalue : value (Vector.replicate 32 (0 : UInt8)).toList = 0 := by decide
  have hlt : sqrtm1Number < fieldOrder := by
    rw [fieldOrder_eq]
    decide
  have hx : quarterPoint.x.val = sqrtm1Number := ZMod.val_cast_of_lt hlt
  unfold Decodes
  rw [hvalue, hx]
  refine ⟨?_, fun _ ↦ ?_⟩
  · rw [Nat.zero_mod, Nat.cast_zero]
    rfl
  · decide

theorem four_nsmul_quarterPoint : (4 : ℕ) • quarterPoint = 0 := by
  have hy : quarterPoint.y = 0 := rfl
  have hx : (quarterPoint + quarterPoint).x = 0 := by
    rw [Point.add_x, hy, mul_zero, zero_mul, add_zero, zero_div]
  have hneg : quarterPoint + quarterPoint = -(quarterPoint + quarterPoint) := by
    apply Point.ext
    · rw [Point.neg_x, hx, neg_zero]
    · rfl
  calc
    (4 : ℕ) • quarterPoint = (2 : ℕ) • (2 : ℕ) • quarterPoint := (mul_nsmul' quarterPoint 2 2)
    _ = 0 := by rw [two_nsmul, two_nsmul, add_eq_zero_iff_eq_neg, ← hneg]

end CEd25519

end RxLisk

import RxLisk.CEd25519.FieldPowers

/-!
# Group elements

The source keeps a point in five ways: projective, extended, completed, and two forms that are
prepared for additions.  Every function here takes a form of a point to a form of the result of a
group operation, with limbs small enough for the next function.
-/

namespace RxLisk

namespace CEd25519

open TwistedEdwards

/-- Projective: `(X:Y:Z)` satisfying `x=X/Z`, `y=Y/Z`. -/
structure GeP2 where
  (X Y Z : Fe)

/-- Extended: `(X:Y:Z:T)` satisfying `x=X/Z`, `y=Y/Z`, `XY=ZT`. -/
structure GeP3 where
  (X Y Z T : Fe)

/-- Completed: `((X:Z),(Y:T))` satisfying `x=X/Z`, `y=Y/T`. -/
structure GeP1p1 where
  (X Y Z T : Fe)

/-- `(y+x,y-x,2dxy)` -/
structure GePrecomp where
  (yplusx yminusx xy2d : Fe)

structure GeCached where
  (YplusX YminusX Z T2d : Fe)

def feD : Fe :=
  #v[-10913610, 13857413, -15372611, 6949391, 114729, -8787816, -6275908, -3247719, -18696448,
    -12055116]

def feSqrtm1 : Fe :=
  #v[-32595792, -7943725, 9377950, 3500415, 12389472, -272473, -25146209, -2005654, 326686,
    11406482]

def feD2 : Fe :=
  #v[-21827239, -5839606, -30745221, 13898782, 229458, 15978800, -12551817, -6495438, 29715968,
    9444199]

/-! ## Operations -/

/-- `r = p + q` -/
def geAdd (p : GeP3) (q : GeCached) : GeP1p1 :=
  let X := feAdd p.Y p.X
  let Y := feSub p.Y p.X
  let Z := feMul X q.YplusX
  let Y := feMul Y q.YminusX
  let T := feMul q.T2d p.T
  let X := feMul p.Z q.Z
  let t0 := feAdd X X
  { X := feSub Z Y, Y := feAdd Z Y, Z := feAdd t0 T, T := feSub t0 T }

/-- `r = p - q` -/
def geSub (p : GeP3) (q : GeCached) : GeP1p1 :=
  let X := feAdd p.Y p.X
  let Y := feSub p.Y p.X
  let Z := feMul X q.YminusX
  let Y := feMul Y q.YplusX
  let T := feMul q.T2d p.T
  let X := feMul p.Z q.Z
  let t0 := feAdd X X
  { X := feSub Z Y, Y := feAdd Z Y, Z := feSub t0 T, T := feAdd t0 T }

/-- `r = p + q` -/
def geMadd (p : GeP3) (q : GePrecomp) : GeP1p1 :=
  let X := feAdd p.Y p.X
  let Y := feSub p.Y p.X
  let Z := feMul X q.yplusx
  let Y := feMul Y q.yminusx
  let T := feMul q.xy2d p.T
  let t0 := feAdd p.Z p.Z
  { X := feSub Z Y, Y := feAdd Z Y, Z := feAdd t0 T, T := feSub t0 T }

/-- `r = p - q` -/
def geMsub (p : GeP3) (q : GePrecomp) : GeP1p1 :=
  let X := feAdd p.Y p.X
  let Y := feSub p.Y p.X
  let Z := feMul X q.yminusx
  let Y := feMul Y q.yplusx
  let T := feMul q.xy2d p.T
  let t0 := feAdd p.Z p.Z
  { X := feSub Z Y, Y := feAdd Z Y, Z := feSub t0 T, T := feAdd t0 T }

def geP1p1ToP2 (p : GeP1p1) : GeP2 :=
  { X := feMul p.X p.T, Y := feMul p.Y p.Z, Z := feMul p.Z p.T }

def geP1p1ToP3 (p : GeP1p1) : GeP3 :=
  { X := feMul p.X p.T, Y := feMul p.Y p.Z, Z := feMul p.Z p.T, T := feMul p.X p.Y }

def geP20 : GeP2 := { X := fe0, Y := fe1, Z := fe1 }

def geP30 : GeP3 := { X := fe0, Y := fe1, Z := fe1, T := fe0 }

/-- `r = 2 * p` -/
def geP2Dbl (p : GeP2) : GeP1p1 :=
  let X := feSq p.X
  let Z := feSq p.Y
  let T := feSq2 p.Z
  let Y := feAdd p.X p.Y
  let t0 := feSq Y
  let Y := feAdd Z X
  let Z := feSub Z X
  { X := feSub t0 Y, Y := Y, Z := Z, T := feSub T Z }

def geP3ToP2 (p : GeP3) : GeP2 := { X := p.X, Y := p.Y, Z := p.Z }

/-- `r = 2 * p` -/
def geP3Dbl (p : GeP3) : GeP1p1 := geP2Dbl (geP3ToP2 p)

def geP3ToCached (p : GeP3) : GeCached :=
  { YplusX := feAdd p.Y p.X, YminusX := feSub p.Y p.X, Z := p.Z, T2d := feMul p.T feD2 }

/-! ## What the forms stand for -/

structure GeP2.StandsFor (h : GeP2) (P : Point curveD) : Prop where
  sized_X : Sized 131 h.X
  sized_Y : Sized 131 h.Y
  sized_Z : Sized 131 h.Z
  projective : IsProjective P (feValue h.X) (feValue h.Y) (feValue h.Z)

structure GeP3.StandsFor (h : GeP3) (P : Point curveD) : Prop where
  sized_X : Sized 131 h.X
  sized_Y : Sized 131 h.Y
  sized_Z : Sized 131 h.Z
  sized_T : Sized 131 h.T
  extended : IsExtended P (feValue h.X) (feValue h.Y) (feValue h.Z) (feValue h.T)

structure GeP1p1.StandsFor (h : GeP1p1) (P : Point curveD) : Prop where
  sized_X : Sized 420 h.X
  sized_Y : Sized 420 h.Y
  sized_Z : Sized 420 h.Z
  sized_T : Sized 420 h.T
  completed : IsCompleted P (feValue h.X) (feValue h.Y) (feValue h.Z) (feValue h.T)

structure GeCached.StandsFor (h : GeCached) (P : Point curveD) : Prop where
  sized_YplusX : Sized 420 h.YplusX
  sized_YminusX : Sized 420 h.YminusX
  sized_Z : Sized 420 h.Z
  sized_T2d : Sized 420 h.T2d
  exists_extended : ∃ X Y Z T, IsExtended P X Y Z T ∧ feValue h.YplusX = Y + X ∧
    feValue h.YminusX = Y - X ∧ feValue h.Z = Z ∧ feValue h.T2d = T * (2 * curveD)

structure GePrecomp.StandsFor (h : GePrecomp) (P : Point curveD) : Prop where
  sized_yplusx : Sized 420 h.yplusx
  sized_yminusx : Sized 420 h.yminusx
  sized_xy2d : Sized 420 h.xy2d
  yplusx_eq : feValue h.yplusx = P.y + P.x
  yminusx_eq : feValue h.yminusx = P.y - P.x
  xy2d_eq : feValue h.xy2d = P.x * P.y * (2 * curveD)

/-- Every element represents its own value. -/
theorem Sized.represents {size : ℕ} {f : Fe} (h : Sized size f) : Represents size f (feValue f) :=
  ⟨h, rfl⟩

/-! ## The constants -/

theorem represents_of_dvd {size : ℕ} {f : Fe} (number : ℕ)
    (hsized : LimbSteps.Within (sizeBox size) f)
    (hvalue : ((2 ^ 255 - 19 : ℕ) : ℤ) ∣ number - LimbSteps.value feWeight f) :
    Represents size f number := by
  refine ⟨hsized, ?_⟩
  have h := cast_eq_cast _ _ hvalue
  rwa [Int.cast_natCast] at h

theorem represents_feD : Represents 128 feD curveD :=
  represents_of_dvd curveDNumber (by decide) (by decide)

theorem represents_feSqrtm1 : Represents 128 feSqrtm1 sqrtm1Number :=
  represents_of_dvd sqrtm1Number (by decide) (by decide)

theorem represents_feD2 : Represents 128 feD2 (2 * curveD) := by
  have h : Represents 128 feD2 ((2 * curveDNumber : ℕ) : ZMod fieldOrder) :=
    represents_of_dvd _ (by decide) (by decide)
  rwa [Nat.cast_mul] at h

section Operations

variable {P Q : Point curveD}

/-- The last lines of the additions, from the two products and the scale with its correction. -/
theorem standsFor_of_products {a b c t : Fe} {x y z w : ZMod fieldOrder}
    (ha : Represents 129 a x) (hb : Represents 129 b y) (hc : Represents 129 c z)
    (ht : Represents 262 t w) :
    (IsCompleted P (x - y) (x + y) (w + z) (w - z) →
      GeP1p1.StandsFor ⟨feSub a b, feAdd a b, feAdd t c, feSub t c⟩ P) ∧
    (IsCompleted P (x - y) (x + y) (w - z) (w + z) →
      GeP1p1.StandsFor ⟨feSub a b, feAdd a b, feSub t c, feAdd t c⟩ P) := by
  have hX := ha.sub hb (by norm_num)
  have hY := ha.add hb (by norm_num)
  have hplus := ht.add hc (by norm_num)
  have hminus := ht.sub hc (by norm_num)
  constructor
  · intro hcompleted
    refine ⟨hX.sized.mono (by norm_num), hY.sized.mono (by norm_num),
      hplus.sized.mono (by norm_num), hminus.sized.mono (by norm_num), ?_⟩
    rwa [hX.feValue_eq, hY.feValue_eq, hplus.feValue_eq, hminus.feValue_eq]
  · intro hcompleted
    refine ⟨hX.sized.mono (by norm_num), hY.sized.mono (by norm_num),
      hminus.sized.mono (by norm_num), hplus.sized.mono (by norm_num), ?_⟩
    rwa [hX.feValue_eq, hY.feValue_eq, hplus.feValue_eq, hminus.feValue_eq]

/-- The first lines of the additions: the sum and the difference of the coordinates, multiplied. -/
theorem represents_products {p : GeP3} (hp : p.StandsFor P) {u v : Fe} (hu : Sized 420 u)
    (hv : Sized 420 v) :
    Represents 129 (feMul (feAdd p.Y p.X) u) ((feValue p.Y + feValue p.X) * feValue u) ∧
      Represents 129 (feMul (feSub p.Y p.X) v) ((feValue p.Y - feValue p.X) * feValue v) := by
  have hsum := hp.sized_Y.represents.add hp.sized_X.represents (by norm_num)
  have hdifference := hp.sized_Y.represents.sub hp.sized_X.represents (by norm_num)
  exact ⟨hsum.mul hu.represents (by norm_num) le_rfl,
    hdifference.mul hv.represents (by norm_num) le_rfl⟩

theorem geAdd_standsFor {p : GeP3} {q : GeCached} (hp : p.StandsFor P) (hq : q.StandsFor Q) :
    (geAdd p q).StandsFor (P + Q) := by
  obtain ⟨X, Y, Z, T, hextended, hplus, hminus, hZ, hT⟩ := hq.exists_extended
  obtain ⟨ha, hb⟩ := represents_products hp hq.sized_YplusX hq.sized_YminusX
  have hc := hq.sized_T2d.represents.mul hp.sized_T.represents le_rfl (by norm_num)
  have hz := hp.sized_Z.represents.mul hq.sized_Z.represents (by norm_num) le_rfl
  have ht := (hz.add hz (by norm_num)).mono (show 129 + 129 ≤ 262 by norm_num)
  apply (standsFor_of_products ha hb hc ht).1
  rw [hplus, hminus, hZ, hT, ← two_mul]
  exact hp.extended.add hextended

theorem geSub_standsFor {p : GeP3} {q : GeCached} (hp : p.StandsFor P) (hq : q.StandsFor Q) :
    (geSub p q).StandsFor (P - Q) := by
  obtain ⟨X, Y, Z, T, hextended, hplus, hminus, hZ, hT⟩ := hq.exists_extended
  obtain ⟨ha, hb⟩ := represents_products hp hq.sized_YminusX hq.sized_YplusX
  have hc := hq.sized_T2d.represents.mul hp.sized_T.represents le_rfl (by norm_num)
  have hz := hp.sized_Z.represents.mul hq.sized_Z.represents (by norm_num) le_rfl
  have ht := (hz.add hz (by norm_num)).mono (show 129 + 129 ≤ 262 by norm_num)
  apply (standsFor_of_products ha hb hc ht).2
  rw [hplus, hminus, hZ, hT, ← two_mul]
  exact hp.extended.sub hextended

/-- An affine point has the denominator one. -/
theorem isExtended_affine (P : Point curveD) : IsExtended P P.x P.y 1 (P.x * P.y) :=
  ⟨⟨one_ne_zero, (mul_one _).symm, (mul_one _).symm⟩, (mul_one _).symm⟩

theorem geMadd_standsFor {p : GeP3} {q : GePrecomp} (hp : p.StandsFor P) (hq : q.StandsFor Q) :
    (geMadd p q).StandsFor (P + Q) := by
  obtain ⟨ha, hb⟩ := represents_products hp hq.sized_yplusx hq.sized_yminusx
  have hc := hq.sized_xy2d.represents.mul hp.sized_T.represents le_rfl (by norm_num)
  have ht := hp.sized_Z.represents.add hp.sized_Z.represents (by norm_num)
  have hsum := hp.extended.add (isExtended_affine Q)
  rw [mul_one] at hsum
  apply (standsFor_of_products ha hb hc ht).1
  rw [hq.yplusx_eq, hq.yminusx_eq, hq.xy2d_eq, ← two_mul]
  exact hsum

theorem geMsub_standsFor {p : GeP3} {q : GePrecomp} (hp : p.StandsFor P) (hq : q.StandsFor Q) :
    (geMsub p q).StandsFor (P - Q) := by
  obtain ⟨ha, hb⟩ := represents_products hp hq.sized_yminusx hq.sized_yplusx
  have hc := hq.sized_xy2d.represents.mul hp.sized_T.represents le_rfl (by norm_num)
  have ht := hp.sized_Z.represents.add hp.sized_Z.represents (by norm_num)
  have hdifference := hp.extended.sub (isExtended_affine Q)
  rw [mul_one] at hdifference
  apply (standsFor_of_products ha hb hc ht).2
  rw [hq.yplusx_eq, hq.yminusx_eq, hq.xy2d_eq, ← two_mul]
  exact hdifference

theorem geP1p1ToP2_standsFor {p : GeP1p1} (hp : p.StandsFor P) : (geP1p1ToP2 p).StandsFor P := by
  have hX := hp.sized_X.represents.mul hp.sized_T.represents le_rfl le_rfl
  have hY := hp.sized_Y.represents.mul hp.sized_Z.represents le_rfl le_rfl
  have hZ := hp.sized_Z.represents.mul hp.sized_T.represents le_rfl le_rfl
  refine ⟨hX.sized.mono (by norm_num), hY.sized.mono (by norm_num), hZ.sized.mono (by norm_num), ?_⟩
  rw [geP1p1ToP2, hX.feValue_eq, hY.feValue_eq, hZ.feValue_eq]
  exact hp.completed.projective

theorem geP1p1ToP3_standsFor {p : GeP1p1} (hp : p.StandsFor P) : (geP1p1ToP3 p).StandsFor P := by
  have hX := hp.sized_X.represents.mul hp.sized_T.represents le_rfl le_rfl
  have hY := hp.sized_Y.represents.mul hp.sized_Z.represents le_rfl le_rfl
  have hZ := hp.sized_Z.represents.mul hp.sized_T.represents le_rfl le_rfl
  have hT := hp.sized_X.represents.mul hp.sized_Y.represents le_rfl le_rfl
  refine ⟨hX.sized.mono (by norm_num), hY.sized.mono (by norm_num), hZ.sized.mono (by norm_num),
    hT.sized.mono (by norm_num), ?_⟩
  rw [geP1p1ToP3, hX.feValue_eq, hY.feValue_eq, hZ.feValue_eq, hT.feValue_eq]
  exact hp.completed.extended

theorem geP20_standsFor : geP20.StandsFor 0 := by
  have hone := Represents.one
  have hzero := Represents.zero
  refine ⟨hzero.sized.mono (by norm_num), hone.sized.mono (by norm_num),
    hone.sized.mono (by norm_num), ?_⟩
  rw [geP20, hzero.feValue_eq, hone.feValue_eq]
  exact .zero

theorem geP30_standsFor : geP30.StandsFor 0 := by
  have hone := Represents.one
  have hzero := Represents.zero
  refine ⟨hzero.sized.mono (by norm_num), hone.sized.mono (by norm_num),
    hone.sized.mono (by norm_num), hzero.sized.mono (by norm_num), ?_⟩
  rw [geP30, hzero.feValue_eq, hone.feValue_eq]
  exact .zero

theorem geP2Dbl_standsFor {p : GeP2} (hp : p.StandsFor P) : (geP2Dbl p).StandsFor (P + P) := by
  have hXX := hp.sized_X.represents.sq (by norm_num)
  have hYY := hp.sized_Y.represents.sq (by norm_num)
  have hZZ := hp.sized_Z.represents.sq2 (by norm_num)
  have hsum := hp.sized_X.represents.add hp.sized_Y.represents (by norm_num)
  have hsq := hsum.sq (by norm_num)
  have hY := hYY.add hXX (by norm_num)
  have hZ := hYY.sub hXX (by norm_num)
  have hX := hsq.sub hY (by norm_num)
  have hT := hZZ.sub hZ (by norm_num)
  refine ⟨hX.sized.mono (by norm_num), hY.sized.mono (by norm_num), hZ.sized.mono (by norm_num),
    hT.sized.mono (by norm_num), ?_⟩
  rw [geP2Dbl, hX.feValue_eq, hY.feValue_eq, hZ.feValue_eq, hT.feValue_eq]
  exact hp.projective.double

theorem geP3ToP2_standsFor {p : GeP3} (hp : p.StandsFor P) : (geP3ToP2 p).StandsFor P :=
  ⟨hp.sized_X, hp.sized_Y, hp.sized_Z, hp.extended.toIsProjective⟩

theorem geP3Dbl_standsFor {p : GeP3} (hp : p.StandsFor P) : (geP3Dbl p).StandsFor (P + P) :=
  geP2Dbl_standsFor (geP3ToP2_standsFor hp)

theorem geP3ToCached_standsFor {p : GeP3} (hp : p.StandsFor P) : (geP3ToCached p).StandsFor P := by
  have hplus := hp.sized_Y.represents.add hp.sized_X.represents (by norm_num)
  have hminus := hp.sized_Y.represents.sub hp.sized_X.represents (by norm_num)
  have hT := hp.sized_T.represents.mul represents_feD2 (by norm_num) (by norm_num)
  exact ⟨hplus.sized.mono (by norm_num), hminus.sized.mono (by norm_num),
    hp.sized_Z.mono (by norm_num), hT.sized.mono (by norm_num),
    _, _, _, _, hp.extended, hplus.feValue_eq, hminus.feValue_eq, rfl, hT.feValue_eq⟩

end Operations

end CEd25519

end RxLisk

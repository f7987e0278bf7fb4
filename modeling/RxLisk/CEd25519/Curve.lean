import RxLisk.CEd25519.FieldElement
import RxLisk.Library.EdwardsCoordinates
import RxLisk.Library.LucasCertificate
import Mathlib.NumberTheory.LegendreSymbol.Basic
import Mathlib.Tactic.NormNum.Prime

/-!
# The curve and its base point

The field order is prime, by a chain of certificates.  Minus one is a square modulo the field order
and `d = -121665/121666` is not, so the addition law of the curve is complete.  The base point is
the one with `y = 4/5` and even `x`; multiplying it by the group order, which is prime too, gives
the neutral point.
-/

namespace RxLisk

namespace CEd25519

open LucasCertificate TwistedEdwards

-- The powers are computed by recursions as deep as the exponents are long.
set_option maxRecDepth 8000

/-! ## The field order is prime -/

def certificate1923133 : Certificate where
  number := 1923133
  fuel := 21
  base := 2
  factors := [2, 2, 3, 43, 3727]
  passes := by
    decide

theorem prime_1923133 : Nat.Prime 1923133 :=
  certificate1923133.prime ⟨by norm_num, by norm_num, by norm_num, by norm_num, by norm_num⟩

def certificate31757755568855353 : Certificate where
  number := 31757755568855353
  fuel := 55
  base := 10
  factors := [2, 2, 2, 3, 31, 107, 223, 4153, 430751]
  passes := by
    decide

theorem prime_31757755568855353 : Nat.Prime 31757755568855353 :=
  certificate31757755568855353.prime ⟨by norm_num, by norm_num, by norm_num, by norm_num,
    by norm_num, by norm_num, by norm_num, by norm_num, by norm_num⟩

def certificate2773320623 : Certificate where
  number := 2773320623
  fuel := 32
  base := 5
  factors := [2, 2437, 569003]
  passes := by
    decide

theorem prime_2773320623 : Nat.Prime 2773320623 :=
  certificate2773320623.prime ⟨by norm_num, by norm_num, by norm_num⟩

def certificate72106336199 : Certificate where
  number := 72106336199
  fuel := 37
  base := 7
  factors := [2, 13, 2773320623]
  passes := by
    decide

theorem prime_72106336199 : Nat.Prime 72106336199 :=
  certificate72106336199.prime ⟨by norm_num, by norm_num, prime_2773320623⟩

def certificate8574133 : Certificate where
  number := 8574133
  fuel := 24
  base := 2
  factors := [2, 2, 3, 7, 103, 991]
  passes := by
    decide

theorem prime_8574133 : Nat.Prime 8574133 :=
  certificate8574133.prime ⟨by norm_num, by norm_num, by norm_num, by norm_num, by norm_num,
    by norm_num⟩

def certificate1919519569386763 : Certificate where
  number := 1919519569386763
  fuel := 51
  base := 2
  factors := [2, 3, 7, 19, 47, 47, 127, 8574133]
  passes := by
    decide

theorem prime_1919519569386763 : Nat.Prime 1919519569386763 :=
  certificate1919519569386763.prime ⟨by norm_num, by norm_num, by norm_num, by norm_num,
    by norm_num, by norm_num, by norm_num, prime_8574133⟩

def certificate75445702479781427272750846543864801 : Certificate where
  number := 75445702479781427272750846543864801
  fuel := 116
  base := 7
  factors := [2, 2, 2, 2, 2, 3, 3, 5, 5, 75707, 72106336199, 1919519569386763]
  passes := by
    decide

theorem prime_75445702479781427272750846543864801 : Nat.Prime 75445702479781427272750846543864801 :=
  certificate75445702479781427272750846543864801.prime ⟨by norm_num, by norm_num, by norm_num,
    by norm_num, by norm_num, by norm_num, by norm_num, by norm_num, by norm_num, by norm_num,
    prime_72106336199, prime_1919519569386763⟩

def certificate74058212732561358302231226437062788676166966415465897661863160754340907 :
    Certificate where
  number := 74058212732561358302231226437062788676166966415465897661863160754340907
  fuel := 236
  base := 2
  factors := [2, 3, 353, 57467, 132049, 1923133, 31757755568855353,
    75445702479781427272750846543864801]
  passes := by
    decide

theorem prime_74058212732561358302231226437062788676166966415465897661863160754340907 :
    Nat.Prime 74058212732561358302231226437062788676166966415465897661863160754340907 :=
  certificate74058212732561358302231226437062788676166966415465897661863160754340907.prime
    ⟨by norm_num, by norm_num, by norm_num, by norm_num, by norm_num, prime_1923133,
      prime_31757755568855353, prime_75445702479781427272750846543864801⟩

def fieldOrderCertificate : Certificate where
  number := fieldOrder
  fuel := 255
  base := 2
  factors := [2, 2, 3, 65147,
    74058212732561358302231226437062788676166966415465897661863160754340907]
  passes := by
    rw [fieldOrder_eq]
    decide

theorem prime_fieldOrder : fieldOrder.Prime :=
  fieldOrderCertificate.prime ⟨by norm_num, by norm_num, by norm_num, by norm_num,
    prime_74058212732561358302231226437062788676166966415465897661863160754340907⟩

instance : Fact fieldOrder.Prime := ⟨prime_fieldOrder⟩

/-! ## The parameter -/

-- The order is written out in what is computed, because `fieldOrder` does not unfold.

/-- Equal residues of numbers are equal in the field. -/
theorem cast_eq_cast (left right : ℤ) (h : ((2 ^ 255 - 19 : ℕ) : ℤ) ∣ right - left) :
    (left : ZMod fieldOrder) = right := by
  rwa [ZMod.intCast_eq_intCast_iff_dvd_sub, fieldOrder_eq]

theorem cast_ne_zero (number : ℕ) (h : ¬2 ^ 255 - 19 ∣ number) :
    (number : ZMod fieldOrder) ≠ 0 := by
  rwa [ne_eq, ZMod.natCast_eq_zero_iff, fieldOrder_eq]

/-- `d = -121665/121666`, as a number. -/
def curveDNumber : ℕ :=
  37095705934669439343138083508754565189542113879843219016388785533085940283555

def curveD : ZMod fieldOrder := curveDNumber

theorem curveD_eq : curveD = -121665 / 121666 := by
  have hne := cast_ne_zero 121666 (by decide)
  have h := cast_eq_cast (curveDNumber * 121666) (-121665) (by decide)
  push_cast at hne h
  rw [eq_div_iff hne, curveD, h]

def sqrtm1Number : ℕ :=
  19681161376707505956807079304988542015446066515923890162744021073123829784752

theorem sqrtm1_sq : (sqrtm1Number : ZMod fieldOrder) ^ 2 = -1 := by
  have h := cast_eq_cast (sqrtm1Number ^ 2) (-1) (by decide)
  push_cast at h
  exact h

/-- The criterion of Euler, computed. -/
theorem not_isSquare_curveD : ¬IsSquare curveD := by
  have hne : curveD ≠ 0 := cast_ne_zero curveDNumber (by decide)
  rw [ZMod.euler_criterion fieldOrder hne]
  intro hone
  have hpower : ((curveDNumber ^ (fieldOrder / 2) : ℕ) : ZMod fieldOrder) = (1 : ℕ) := by
    rw [Nat.cast_one, ← hone, curveD, Nat.cast_pow]
  have hexponent : fieldOrder / 2 < 2 ^ 254 := by
    rw [fieldOrder_eq]
    norm_num
  rw [ZMod.natCast_eq_natCast_iff', ← powMod_eq fieldOrder hexponent] at hpower
  have hcompute : powMod fieldOrder 254 curveDNumber (fieldOrder / 2) ≠ 1 % fieldOrder := by
    rw [fieldOrder_eq]
    decide
  exact hcompute hpower

instance : Complete curveD where
  two_ne_zero := cast_ne_zero 2 (by decide)
  exists_sqrt_neg_one := ⟨_, sqrtm1_sq⟩
  not_isSquare := not_isSquare_curveD

/-! ## The base point -/

def basePointX : ℕ :=
  15112221349535400772501151409588531511454012693041857206046113283949847762202

def basePointY : ℕ :=
  46316835694926478169428394003475163141307993866256225615783033603165251855960

/-- B is the Ed25519 base point `(x, 4/5)` with `x` positive. -/
def basePoint : Point curveD where
  x := basePointX
  y := basePointY
  onCurve := by
    have h := cast_eq_cast (-(basePointX : ℤ) ^ 2 + (basePointY : ℤ) ^ 2)
      (1 + (curveDNumber : ℤ) * (basePointX : ℤ) ^ 2 * (basePointY : ℤ) ^ 2) (by decide)
    push_cast at h
    exact h

theorem basePoint_y : basePoint.y = 4 / 5 := by
  have hne := cast_ne_zero 5 (by decide)
  have h := cast_eq_cast (basePointY * 5) 4 (by decide)
  push_cast at hne h
  rw [eq_div_iff hne, basePoint, h]

/-- The order of the base point, `2^252 + 27742317777372353535851937790883648493`. -/
@[irreducible]
def groupOrder : ℕ := 2 ^ 252 + 27742317777372353535851937790883648493

theorem groupOrder_eq : groupOrder = 2 ^ 252 + 27742317777372353535851937790883648493 := by
  rw [groupOrder]

def baseResidues : Residues :=
  ⟨basePointX, basePointY, 1, basePointX * basePointY⟩

theorem baseResidues_standFor : baseResidues.StandFor basePoint := by
  unfold Residues.StandFor baseResidues
  push_cast
  exact ⟨⟨one_ne_zero, (mul_one _).symm, (mul_one _).symm⟩, (mul_one _).symm⟩

theorem cast_twice_curveDNumber : ((2 * curveDNumber : ℤ) : ZMod fieldOrder) = 2 * curveD := by
  rw [curveD]
  push_cast
  rfl

theorem groupOrder_nsmul_basePoint : groupOrder • basePoint = 0 := by
  have horder : groupOrder < 2 ^ 253 := by
    rw [groupOrder_eq]
    norm_num
  have h := baseResidues_standFor.nsmul cast_twice_curveDNumber horder
  have hcompute : (baseResidues.nsmul fieldOrder (2 * curveDNumber) 253 groupOrder).X = 0 ∧
      (baseResidues.nsmul fieldOrder (2 * curveDNumber) 253 groupOrder).Y =
        (baseResidues.nsmul fieldOrder (2 * curveDNumber) 253 groupOrder).Z := by
    decide +kernel
  apply h.eq_zero
  · rw [hcompute.1, Int.cast_zero]
  · rw [hcompute.2]

/-! ## The group order is prime -/

def certificate1257559732178653 : Certificate where
  number := 1257559732178653
  fuel := 51
  base := 2
  factors := [2, 2, 3, 7, 23, 531581, 1224481]
  passes := by
    decide

theorem prime_1257559732178653 : Nat.Prime 1257559732178653 :=
  certificate1257559732178653.prime ⟨by norm_num, by norm_num, by norm_num, by norm_num,
    by norm_num, by norm_num, by norm_num⟩

def certificate4434155615661930479 : Certificate where
  number := 4434155615661930479
  fuel := 62
  base := 17
  factors := [2, 41, 43, 1257559732178653]
  passes := by
    decide

theorem prime_4434155615661930479 : Nat.Prime 4434155615661930479 :=
  certificate4434155615661930479.prime ⟨by norm_num, by norm_num, by norm_num,
    prime_1257559732178653⟩

def certificate172054593956031949258510691 : Certificate where
  number := 172054593956031949258510691
  fuel := 88
  base := 2
  factors := [2, 5, 1361, 2851, 4434155615661930479]
  passes := by
    decide

theorem prime_172054593956031949258510691 : Nat.Prime 172054593956031949258510691 :=
  certificate172054593956031949258510691.prime ⟨by norm_num, by norm_num, by norm_num,
    by norm_num, prime_4434155615661930479⟩

def certificate292386187 : Certificate where
  number := 292386187
  fuel := 29
  base := 2
  factors := [2, 3, 3, 3, 3, 307, 5879]
  passes := by
    decide

theorem prime_292386187 : Nat.Prime 292386187 :=
  certificate292386187.prime ⟨by norm_num, by norm_num, by norm_num, by norm_num, by norm_num,
    by norm_num, by norm_num⟩

def certificate213441916511 : Certificate where
  number := 213441916511
  fuel := 38
  base := 13
  factors := [2, 5, 73, 292386187]
  passes := by
    decide

theorem prime_213441916511 : Nat.Prime 213441916511 :=
  certificate213441916511.prime ⟨by norm_num, by norm_num, by norm_num, prime_292386187⟩

def certificate19757330305831588566944191468367130476339 : Certificate where
  number := 19757330305831588566944191468367130476339
  fuel := 134
  base := 2
  factors := [2, 269, 213441916511, 172054593956031949258510691]
  passes := by
    decide

theorem prime_19757330305831588566944191468367130476339 :
    Nat.Prime 19757330305831588566944191468367130476339 :=
  certificate19757330305831588566944191468367130476339.prime ⟨by norm_num, by norm_num,
    prime_213441916511, prime_172054593956031949258510691⟩

def certificate276602624281642239937218680557139826668747 : Certificate where
  number := 276602624281642239937218680557139826668747
  fuel := 138
  base := 2
  factors := [2, 7, 19757330305831588566944191468367130476339]
  passes := by
    decide

theorem prime_276602624281642239937218680557139826668747 :
    Nat.Prime 276602624281642239937218680557139826668747 :=
  certificate276602624281642239937218680557139826668747.prime ⟨by norm_num, by norm_num,
    prime_19757330305831588566944191468367130476339⟩

def certificate3044861653679985063343 : Certificate where
  number := 3044861653679985063343
  fuel := 72
  base := 5
  factors := [2, 3, 11, 30703, 82163, 132667, 137849]
  passes := by
    decide

theorem prime_3044861653679985063343 : Nat.Prime 3044861653679985063343 :=
  certificate3044861653679985063343.prime ⟨by norm_num, by norm_num, by norm_num, by norm_num,
    by norm_num, by norm_num, by norm_num⟩

def certificate198211423230930754013084525763697 : Certificate where
  number := 198211423230930754013084525763697
  fuel := 108
  base := 5
  factors := [2, 2, 2, 2, 3, 23, 58964693, 3044861653679985063343]
  passes := by
    decide

theorem prime_198211423230930754013084525763697 : Nat.Prime 198211423230930754013084525763697 :=
  certificate198211423230930754013084525763697.prime ⟨by norm_num, by norm_num, by norm_num,
    by norm_num, by norm_num, by norm_num, by norm_num, prime_3044861653679985063343⟩

def groupOrderCertificate : Certificate where
  number := groupOrder
  fuel := 253
  base := 2
  factors := [2, 2, 3, 11, 198211423230930754013084525763697,
    276602624281642239937218680557139826668747]
  passes := by
    rw [groupOrder_eq]
    decide

theorem prime_groupOrder : groupOrder.Prime :=
  groupOrderCertificate.prime ⟨by norm_num, by norm_num, by norm_num, by norm_num,
    prime_198211423230930754013084525763697, prime_276602624281642239937218680557139826668747⟩

theorem basePoint_ne_zero : basePoint ≠ 0 := by
  intro h
  have hx : ((basePointX : ℕ) : ZMod fieldOrder) = 0 := congrArg Point.x h
  exact cast_ne_zero basePointX (by decide) hx

end CEd25519

end RxLisk

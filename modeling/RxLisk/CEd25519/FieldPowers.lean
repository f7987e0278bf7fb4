import RxLisk.CEd25519.Curve

/-!
# Inverses and roots by powers

Both functions follow an addition chain of squarings and multiplications.  The exponents are
`p - 2`, which inverts, and `(p - 5) / 8`, from which a square root modulo `p` is made.
-/

namespace RxLisk

namespace CEd25519

/-- The loops that square in place. -/
def feSqTimes (count : ℕ) (f : Fe) : Fe := feSq^[count] f

def feInvert (z : Fe) : Fe :=
  let t0 := feSq z
  let t1 := feSqTimes 2 t0
  let t1 := feMul z t1
  let t0 := feMul t0 t1
  let t2 := feSq t0
  let t1 := feMul t1 t2
  let t2 := feSqTimes 5 t1
  let t1 := feMul t2 t1
  let t2 := feSqTimes 10 t1
  let t2 := feMul t2 t1
  let t3 := feSqTimes 20 t2
  let t2 := feMul t3 t2
  let t2 := feSqTimes 10 t2
  let t1 := feMul t2 t1
  let t2 := feSqTimes 50 t1
  let t2 := feMul t2 t1
  let t3 := feSqTimes 100 t2
  let t2 := feMul t3 t2
  let t2 := feSqTimes 50 t2
  let t1 := feMul t2 t1
  let t1 := feSqTimes 5 t1
  feMul t1 t0

def fePow22523 (z : Fe) : Fe :=
  let t0 := feSq z
  let t1 := feSqTimes 2 t0
  let t1 := feMul z t1
  let t0 := feMul t0 t1
  let t0 := feSq t0
  let t0 := feMul t1 t0
  let t1 := feSqTimes 5 t0
  let t0 := feMul t1 t0
  let t1 := feSqTimes 10 t0
  let t1 := feMul t1 t0
  let t2 := feSqTimes 20 t1
  let t1 := feMul t2 t1
  let t1 := feSqTimes 10 t1
  let t0 := feMul t1 t0
  let t1 := feSqTimes 50 t0
  let t1 := feMul t1 t0
  let t2 := feSqTimes 100 t1
  let t1 := feMul t2 t1
  let t1 := feSqTimes 50 t1
  let t0 := feMul t1 t0
  let t0 := feSqTimes 2 t0
  feMul t0 z

section Powers

variable {f g z : Fe} {x : ZMod fieldOrder} {size : ℕ}

/-- The element represents a power of `x`. -/
def IsPower (x : ZMod fieldOrder) (exponent : ℕ) (f : Fe) : Prop := Represents 129 f (x ^ exponent)

theorem IsPower.sqTimes {exponent : ℕ} (h : IsPower x exponent f) (count : ℕ) :
    IsPower x (exponent * 2 ^ count) (feSqTimes count f) := by
  induction count with
  | zero => simpa [feSqTimes] using h
  | succ count ih =>
    have hsq := Represents.sq ih (by norm_num)
    rw [← pow_mul, mul_assoc, ← pow_succ] at hsq
    rw [feSqTimes, Function.iterate_succ_apply']
    exact hsq

theorem IsPower.mul {left right : ℕ} (hf : IsPower x left f) (hg : IsPower x right g) :
    IsPower x (left + right) (feMul f g) := by
  have hmul := Represents.mul hf hg (by norm_num) (by norm_num)
  rwa [← pow_add] at hmul

/-- What both chains begin with: the powers 9 and 11. -/
theorem isPower_start (hz : Represents size z x) (hsize : size ≤ 420) :
    IsPower x 9 (feMul z (feSqTimes 2 (feSq z))) ∧
      IsPower x 11 (feMul (feSq z) (feMul z (feSqTimes 2 (feSq z)))) := by
  have h2 : IsPower x 2 (feSq z) := hz.sq hsize
  have h8 := h2.sqTimes 2
  have h9 : IsPower x 9 (feMul z (feSqTimes 2 (feSq z))) := by
    have hmul := hz.mul h8 hsize (by norm_num)
    rwa [← pow_succ'] at hmul
  exact ⟨h9, h2.mul h9⟩

theorem isPower_feInvert (hz : Represents size z x) (hsize : size ≤ 420) :
    IsPower x (2 ^ 255 - 21) (feInvert z) := by
  obtain ⟨h9, h11⟩ := isPower_start hz hsize
  have h5 := h9.mul (h11.sqTimes 1)
  have h10 := (h5.sqTimes 5).mul h5
  have h20 := (h10.sqTimes 10).mul h10
  have h40 := (h20.sqTimes 20).mul h20
  have h50 := (h40.sqTimes 10).mul h10
  have h100 := (h50.sqTimes 50).mul h50
  have h200 := (h100.sqTimes 100).mul h100
  have h250 := (h200.sqTimes 50).mul h50
  exact (h250.sqTimes 5).mul h11

theorem isPower_fePow22523 (hz : Represents 129 z x) :
    IsPower x (2 ^ 252 - 3) (fePow22523 z) := by
  obtain ⟨h9, h11⟩ := isPower_start hz (by norm_num)
  have h5 := h9.mul (h11.sqTimes 1)
  have h10 := (h5.sqTimes 5).mul h5
  have h20 := (h10.sqTimes 10).mul h10
  have h40 := (h20.sqTimes 20).mul h20
  have h50 := (h40.sqTimes 10).mul h10
  have h100 := (h50.sqTimes 50).mul h50
  have h200 := (h100.sqTimes 100).mul h100
  have h250 := (h200.sqTimes 50).mul h50
  have h1 : IsPower x 1 z := by
    unfold IsPower
    rwa [pow_one]
  exact (h250.sqTimes 2).mul h1

theorem pow_fieldOrder_sub_two (x : ZMod fieldOrder) : x ^ (fieldOrder - 2) = x⁻¹ := by
  have htwo : 2 < fieldOrder := by
    rw [fieldOrder_eq]
    norm_num
  by_cases hx : x = 0
  · rw [hx, inv_zero, zero_pow (by omega)]
  · apply eq_inv_of_mul_eq_one_left
    rw [← pow_succ, show fieldOrder - 2 + 1 = fieldOrder - 1 by omega]
    exact ZMod.pow_card_sub_one_eq_one hx

theorem represents_feInvert (hz : Represents size z x) (hsize : size ≤ 420) :
    Represents 129 (feInvert z) x⁻¹ := by
  have h := isPower_feInvert hz hsize
  have hexponent : 2 ^ 255 - 21 = fieldOrder - 2 := by rw [fieldOrder_eq, Nat.sub_sub]
  rwa [IsPower, hexponent, pow_fieldOrder_sub_two] at h

end Powers

end CEd25519

end RxLisk

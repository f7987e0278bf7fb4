import RxLisk.CEd25519.AddScalar
import RxLisk.Library.MontgomeryLadder

/-!
# Key exchange

The shared secret is the Montgomery coordinate of a multiple of the other side's point.  The factor
is the clamped secret number, so two pairs that come from seeds share a secret, and a point whose
order divides eight gives zeros.  Clamping can change the secret number that an addition leaves, and
then a pair after an addition and another pair end up with different secrets.
-/

namespace RxLisk

namespace CEd25519

open BitFields LittleEndian MontgomeryLadder TwistedEdwards

/-! ## The functions of the source -/

structure LadderState where
  (x2 z2 x3 z3 : Fe)
  swap : UInt32

def ladderBit (e : Vector UInt8 32) (pos : Fin 255) : UInt32 :=
  e[pos.val / 8].toUInt32 >>> UInt32.ofNat (pos.val % 8) &&& 1

/-- from montgomery.h -/
def montgomery (x1 x2 z2 x3 z3 : Fe) (swap : UInt32) : LadderState :=
  let tmp0 := feSub x3 z3
  let tmp1 := feSub x2 z2
  let x2 := feAdd x2 z2
  let z2 := feAdd x3 z3
  let z3 := feMul tmp0 x2
  let z2 := feMul z2 tmp1
  let tmp0 := feSq tmp1
  let tmp1 := feSq x2
  let x3 := feAdd z3 z2
  let z2 := feSub z3 z2
  let x2 := feMul tmp1 tmp0
  let tmp1 := feSub tmp1 tmp0
  let z2 := feSq z2
  let z3 := feMul121666 tmp1
  let x3 := feSq x3
  let tmp0 := feAdd tmp0 z3
  let z3 := feMul x1 z2
  let z2 := feMul tmp1 tmp0
  { x2 := x2, z2 := z2, x3 := x3, z3 := z3, swap := swap }

def ladderStep (x1 : Fe) (e : Vector UInt8 32) (state : LadderState) (pos : Fin 255) :
    LadderState :=
  let b := ladderBit e pos
  let swap := state.swap ^^^ b
  let (x2, x3) := feCswap state.x2 state.x3 swap
  let (z2, z3) := feCswap state.z2 state.z3 swap
  montgomery x1 x2 z2 x3 z3 b

/-- The loop over the positions, from 254 down to 0. -/
def ladderLoop (x1 : Fe) (e : Vector UInt8 32) : LadderState :=
  (List.finRange 255).reverse.foldl (ladderStep x1 e)
    { x2 := fe1, z2 := fe0, x3 := x1, z3 := fe1, swap := 0 }

def ed25519KeyExchange (publicKey : Vector UInt8 32) (privateKey : Vector UInt8 64) :
    Vector UInt8 32 :=
  let e := clamp (lowerHalf privateKey)
  -- montgomeryX = (edwardsY + 1)*inverse(1 - edwardsY) mod p
  let x1 := feFrombytes publicKey
  let tmp1 := fe1
  let tmp0 := feAdd x1 tmp1
  let tmp1 := feSub tmp1 x1
  let tmp1 := feInvert tmp1
  let x1 := feMul tmp0 tmp1
  let state := ladderLoop x1 e
  let (x2, _) := feCswap state.x2 state.x3 state.swap
  let (z2, _) := feCswap state.z2 state.z3 state.swap
  let z2 := feInvert z2
  let x2 := feMul x2 z2
  feTobytes x2

/-! ## One digit -/

/-- The elements are the numerator and the denominator of a fraction. -/
def RepresentsPair (x z : Fe) (p : ZMod fieldOrder × ZMod fieldOrder) : Prop :=
  Represents 129 x p.1 ∧ Represents 129 z p.2

/-- The state holds two fractions, exchanged when a swap is pending. -/
def LadderState.Holds (state : LadderState)
    (pair : (ZMod fieldOrder × ZMod fieldOrder) × (ZMod fieldOrder × ZMod fieldOrder)) : Prop :=
  state.swap = 0 ∧ RepresentsPair state.x2 state.z2 pair.1 ∧
      RepresentsPair state.x3 state.z3 pair.2 ∨
    state.swap = 1 ∧ RepresentsPair state.x2 state.z2 pair.2 ∧
      RepresentsPair state.x3 state.z3 pair.1

section Step

variable {x1 x2 z2 x3 z3 : Fe} {u : ZMod fieldOrder} {p q : ZMod fieldOrder × ZMod fieldOrder}

theorem montgomery_represents (hx1 : Represents 129 x1 u) (hp : RepresentsPair x2 z2 p)
    (hq : RepresentsPair x3 z3 q) (swap : UInt32) :
    RepresentsPair (montgomery x1 x2 z2 x3 z3 swap).x2 (montgomery x1 x2 z2 x3 z3 swap).z2
        (double 121666 p) ∧
      RepresentsPair (montgomery x1 x2 z2 x3 z3 swap).x3 (montgomery x1 x2 z2 x3 z3 swap).z3
        (diffAdd u p q) := by
  have hdifferenceQ := hq.1.sub hq.2 (by norm_num)
  have hdifferenceP := hp.1.sub hp.2 (by norm_num)
  have hsumP := hp.1.add hp.2 (by norm_num)
  have hsumQ := hq.1.add hq.2 (by norm_num)
  have hleft := hdifferenceQ.mul hsumP (by norm_num) (by norm_num)
  have hright := hsumQ.mul hdifferenceP (by norm_num) (by norm_num)
  have hdifferenceSq := hdifferenceP.sq (by norm_num)
  have hsumSq := hsumP.sq (by norm_num)
  have hdouble := hsumSq.mul hdifferenceSq (by norm_num) (by norm_num)
  have hproduct := hsumSq.sub hdifferenceSq (by norm_num)
  have hscaled := hdifferenceSq.add (hproduct.mul121666 (by norm_num)) (by norm_num)
  exact ⟨⟨hdouble, hproduct.mul hscaled (by norm_num) (by norm_num)⟩,
    (hleft.add hright (by norm_num)).sq (by norm_num),
    hx1.mul ((hleft.sub hright (by norm_num)).sq (by norm_num)) (by norm_num) (by norm_num)⟩

end Step

theorem toNat_ladderBit (e : Vector UInt8 32) (pos : Fin 255) :
    (ladderBit e pos).toNat = bitField (value e.toList) pos 1 := by
  have hpos := pos.isLt
  have hbyte := toNat_getElem_vector e (show pos.val / 8 < 32 by omega)
  have hshift : (UInt32.ofNat (pos.val % 8)).toNat % 32 = pos.val % 8 := by
    rw [UInt32.toNat_ofNat']
    omega
  have hone : (1 : UInt32).toNat = 2 ^ 1 - 1 := rfl
  rw [ladderBit, UInt32.toNat_and, UInt32.toNat_shiftRight, hshift, UInt8.toNat_toUInt32, hbyte,
    hone, Nat.and_two_pow_sub_one_eq_mod, Nat.shiftRight_eq_div_pow, ← bitField,
    bitField_bitField (by omega), Nat.div_add_mod]

theorem ladderBit_eq (e : Vector UInt8 32) (pos : Fin 255) :
    ladderBit e pos = if (value e.toList).testBit pos then 1 else 0 := by
  have hbit := toNat_ladderBit e pos
  have htest := Nat.toNat_testBit (value e.toList) pos
  apply UInt32.toNat_inj.mp
  rw [hbit, bitField, pow_one, ← htest]
  cases (value e.toList).testBit pos <;> rfl

/-- One round of the loop is one rung. -/
theorem LadderState.Holds.step {x1 : Fe} {u : ZMod fieldOrder} {state : LadderState}
    {pair : (ZMod fieldOrder × ZMod fieldOrder) × (ZMod fieldOrder × ZMod fieldOrder)}
    (hx1 : Represents 129 x1 u) (h : state.Holds pair) (e : Vector UInt8 32) (pos : Fin 255) :
    (ladderStep x1 e state pos).Holds
      (rung 121666 u pair ((value e.toList).testBit pos)) := by
  unfold ladderStep
  rw [ladderBit_eq]
  cases (value e.toList).testBit pos with
  | false =>
    left
    rcases h with ⟨hswap, hfirst, hsecond⟩ | ⟨hswap, hsecond, hfirst⟩
    · rw [hswap]
      simp only [Bool.false_eq_true, if_false, UInt32.xor_self, feCswap_zero]
      exact ⟨rfl, montgomery_represents hx1 hfirst hsecond 0⟩
    · rw [hswap]
      simp only [Bool.false_eq_true, if_false, UInt32.xor_zero, feCswap_one]
      exact ⟨rfl, montgomery_represents hx1 hfirst hsecond 0⟩
  | true =>
    right
    rcases h with ⟨hswap, hfirst, hsecond⟩ | ⟨hswap, hsecond, hfirst⟩
    · rw [hswap]
      simp only [if_true, UInt32.zero_xor, feCswap_one]
      exact ⟨rfl, montgomery_represents hx1 hsecond hfirst 1⟩
    · rw [hswap]
      simp only [if_true, UInt32.xor_self, feCswap_zero]
      exact ⟨rfl, montgomery_represents hx1 hsecond hfirst 1⟩

theorem holds_foldl_ladderStep {x1 : Fe} {u : ZMod fieldOrder} (hx1 : Represents 129 x1 u)
    (e : Vector UInt8 32) (positions : List (Fin 255)) {state : LadderState}
    {pair : (ZMod fieldOrder × ZMod fieldOrder) × (ZMod fieldOrder × ZMod fieldOrder)}
    (h : state.Holds pair) :
    (positions.foldl (ladderStep x1 e) state).Holds
      ((positions.map fun pos ↦ (value e.toList).testBit pos.val).foldl (rung 121666 u) pair) := by
  induction positions generalizing state pair with
  | nil => exact h
  | cons pos positions ih => exact ih (h.step hx1 e pos)

/-- The loop is the ladder over the binary digits. -/
theorem holds_ladderLoop {x1 : Fe} {u : ZMod fieldOrder} (hx1 : Represents 129 x1 u)
    (e : Vector UInt8 32) :
    (ladderLoop x1 e).Holds
      (ladder 121666 u ((List.range 255).reverse.map (value e.toList).testBit)) := by
  have hpositions : (List.range 255).reverse.map (value e.toList).testBit =
      (List.finRange 255).reverse.map fun pos ↦ (value e.toList).testBit pos.val := by
    rw [← List.map_coe_finRange_eq_range, ← List.map_reverse, List.map_map, Function.comp_def]
  rw [hpositions]
  apply holds_foldl_ladderStep hx1
  have hone := Represents.one.mono (show 1 ≤ 129 by norm_num)
  have hzero := Represents.zero.mono (show 0 ≤ 129 by norm_num)
  exact .inl ⟨rfl, ⟨hone, hzero⟩, hx1, hone⟩

/-! ## The shared secret -/

/-- The number that the private key stands for in an exchange. -/
def exchangeScalar (privateKey : Vector UInt8 64) : ℕ := value (clamp (lowerHalf privateKey)).toList

theorem exchangeScalar_eq (privateKey : Vector UInt8 64) :
    exchangeScalar privateKey = 2 ^ 254 + 8 * bitField (secretScalar privateKey) 3 251 :=
  value_clamp _

theorem exchangeScalar_lt (privateKey : Vector UInt8 64) : exchangeScalar privateKey < 2 ^ 255 := by
  have hfield := bitField_lt (secretScalar privateKey) 3 251
  rw [exchangeScalar_eq]
  omega

theorem curveD_mul : curveD * 121666 = 1 - 121666 := by
  have hne := cast_ne_zero 121666 (by decide)
  push_cast at hne
  rw [curveD_eq, div_mul_cancel₀ _ hne]
  norm_num

/-- The shared secret is the coordinate of the multiple of the other point. -/
theorem toList_ed25519KeyExchange {publicKey : Vector UInt8 32} {P : Point curveD}
    (hP : Decodes publicKey P) (privateKey : Vector UInt8 64) :
    (ed25519KeyExchange publicKey privateKey).toList =
      encode 32 (coordinate (exchangeScalar privateKey • P)).val := by
  let e := clamp (lowerHalf privateKey)
  have hone := Represents.one
  have hy := represents_feFrombytes publicKey
  rw [← hP.1] at hy
  have hinvert := represents_feInvert (hone.sub hy (by norm_num)) (by norm_num)
  have hcoordinate := (hy.add hone (by norm_num)).mul hinvert (by norm_num) (by norm_num)
  rw [add_comm, ← div_eq_mul_inv] at hcoordinate
  have hloop := holds_ladderLoop hcoordinate e
  have hdigits : (List.range 255).reverse.map (value e.toList).testBit ≠ [] := by simp
  have hquotient := ladder_quotient curveD_mul P hdigits
  have hscalar : value e.toList % 2 ^ 255 = exchangeScalar privateKey :=
    Nat.mod_eq_of_lt (exchangeScalar_lt privateKey)
  rw [ofDigits_testBit, hscalar] at hquotient
  have hresult {x z : Fe} (h : RepresentsPair x z
      (ladder 121666 (coordinate P) ((List.range 255).reverse.map (value e.toList).testBit)).1) :
      (feTobytes (feMul x (feInvert z))).toList =
        encode 32 (coordinate (exchangeScalar privateKey • P)).val := by
    have hproduct := h.1.mul (represents_feInvert h.2 (by norm_num)) (by norm_num) (by norm_num)
    rw [hquotient] at hproduct
    exact toList_feTobytes (hproduct.mono (by norm_num))
  unfold ed25519KeyExchange
  rcases hloop with ⟨hswap, hfirst, -⟩ | ⟨hswap, -, hfirst⟩
  · dsimp only
    rw [hswap, feCswap_zero, feCswap_zero]
    exact hresult hfirst
  · dsimp only
    rw [hswap, feCswap_one, feCswap_one]
    exact hresult hfirst

/-- The number of an exchange is a multiple of eight. -/
theorem exchangeScalar_eq_mul (privateKey : Vector UInt8 64) :
    exchangeScalar privateKey = (2 ^ 251 + bitField (secretScalar privateKey) 3 251) * 8 := by
  rw [exchangeScalar_eq]
  ring

theorem toList_ed25519KeyExchange_eq_zero {publicKey : Vector UInt8 32} {P : Point curveD}
    (hP : Decodes publicKey P) {privateKey : Vector UInt8 64}
    (hzero : exchangeScalar privateKey • P = 0) :
    (ed25519KeyExchange publicKey privateKey).toList = List.replicate 32 0 := by
  rw [toList_ed25519KeyExchange hP, hzero, coordinate_of_x_eq_zero Point.zero_x, ZMod.val_zero]
  decide

theorem exchangeScalar_nsmul_of_small_order {P : Point curveD} (horder : 8 • P = 0)
    (privateKey : Vector UInt8 64) : exchangeScalar privateKey • P = 0 := by
  rw [exchangeScalar_eq_mul, mul_nsmul', horder, nsmul_zero]

/-- A point whose order divides eight gives a secret of zeros. -/
theorem ed25519KeyExchange_of_small_order {publicKey : Vector UInt8 32} {P : Point curveD}
    (hP : Decodes publicKey P) (horder : 8 • P = 0) (privateKey : Vector UInt8 64) :
    (ed25519KeyExchange publicKey privateKey).toList = List.replicate 32 0 :=
  toList_ed25519KeyExchange_eq_zero hP (exchangeScalar_nsmul_of_small_order horder privateKey)

/-- The point of order four, sent to a pair of a seed. -/
theorem ed25519KeyExchange_of_small_order_quarterPoint :
    Decodes (Vector.replicate 32 0) quarterPoint ∧ 8 • quarterPoint = 0 ∧
      (ed25519KeyExchange (Vector.replicate 32 0)
        (ed25519CreateKeypair (Vector.replicate 32 0)).2).toList = List.replicate 32 0 := by
  have horder : 8 • quarterPoint = 0 := by
    rw [show 8 = 2 * 4 by norm_num, mul_nsmul', four_nsmul_quarterPoint, nsmul_zero]
  exact ⟨decodes_quarterPoint, horder,
    ed25519KeyExchange_of_small_order decodes_quarterPoint horder _⟩

/-! ## When two pairs agree -/

section Agreement

variable {publicKey publicKey' : Vector UInt8 32} {privateKey privateKey' : Vector UInt8 64}

theorem nsmul_basePoint_eq_iff (left right : ℕ) :
    left • basePoint = right • basePoint ↔ left ≡ right [MOD groupOrder] := by
  have hfact : Fact groupOrder.Prime := ⟨prime_groupOrder⟩
  rw [nsmul_eq_nsmul_iff_modEq, addOrderOf_eq_prime groupOrder_nsmul_basePoint basePoint_ne_zero]

/-- The multiples of the base point have odd order, so none but the neutral point has `x = 0`. -/
theorem nsmul_basePoint_eq_zero_of_x {factor : ℕ} (h : (factor • basePoint).x = 0) :
    factor • basePoint = 0 := by
  have hneg : factor • basePoint = -(factor • basePoint) := by
    apply Point.ext
    · rw [Point.neg_x, h, neg_zero]
    · rfl
  have hdouble : (factor + factor) • basePoint = (0 : ℕ) • basePoint := by
    rw [add_nsmul, zero_nsmul]
    exact add_eq_zero_iff_eq_neg.mpr hneg
  have hodd : Nat.Coprime groupOrder 2 := by
    rw [groupOrder_eq]
    decide
  have hdvd : groupOrder ∣ factor * 2 := by
    rw [mul_two]
    exact (Nat.modEq_zero_iff_dvd).mp ((nsmul_basePoint_eq_iff _ _).mp hdouble)
  have hzero := (nsmul_basePoint_eq_iff factor 0).mpr
    (Nat.modEq_zero_iff_dvd.mpr (hodd.dvd_of_dvd_mul_right hdvd))
  rwa [zero_nsmul] at hzero

theorem coordinate_nsmul_basePoint_eq_iff (left right : ℕ) :
    coordinate (left • basePoint) = coordinate (right • basePoint) ↔
      left ≡ right [MOD groupOrder] ∨ groupOrder ∣ left + right := by
  have hopposite : left • basePoint = -(right • basePoint) ↔ groupOrder ∣ left + right := by
    rw [← add_eq_zero_iff_eq_neg, ← add_nsmul, ← zero_nsmul basePoint, nsmul_basePoint_eq_iff,
      Nat.modEq_zero_iff_dvd]
  rw [← nsmul_basePoint_eq_iff, ← hopposite]
  constructor
  · intro h
    by_cases hx : (left • basePoint).x = 0
    · have hx' : (right • basePoint).x = 0 :=
        x_eq_zero_of_coordinate (h.symm.trans (coordinate_of_x_eq_zero hx))
      rw [nsmul_basePoint_eq_zero_of_x hx, nsmul_basePoint_eq_zero_of_x hx']
      exact .inl rfl
    · exact eq_or_eq_neg_of_coordinate h hx
  · rintro (h | h)
    · rw [h]
    · rw [h, coordinate_neg]

theorem encode_val_injective {x y : ZMod fieldOrder} (h : encode 32 x.val = encode 32 y.val) :
    x = y := by
  have hx := val_lt x
  have hy := val_lt y
  exact ZMod.val_injective _ (encode_injective (by omega) (by omega) h)

theorem ed25519KeyExchange_eq_iff_coordinate (h : IsKeyPair publicKey privateKey)
    (h' : IsKeyPair publicKey' privateKey') :
    ed25519KeyExchange publicKey' privateKey = ed25519KeyExchange publicKey privateKey' ↔
      coordinate ((exchangeScalar privateKey * secretScalar privateKey') • basePoint) =
        coordinate ((exchangeScalar privateKey' * secretScalar privateKey) • basePoint) := by
  rw [← Vector.toList_inj, toList_ed25519KeyExchange (decodes_encodePoint h'),
    toList_ed25519KeyExchange (decodes_encodePoint h), mul_nsmul', mul_nsmul']
  exact ⟨encode_val_injective, fun hequal ↦ by rw [hequal]⟩

/-- Two key pairs agree on a secret exactly when the products of the number that one side uses in
the exchange and the other side's secret number are equal up to the sign. -/
theorem ed25519KeyExchange_eq_iff (h : IsKeyPair publicKey privateKey)
    (h' : IsKeyPair publicKey' privateKey') :
    ed25519KeyExchange publicKey' privateKey = ed25519KeyExchange publicKey privateKey' ↔
      exchangeScalar privateKey * secretScalar privateKey' ≡
          exchangeScalar privateKey' * secretScalar privateKey [MOD groupOrder] ∨
        groupOrder ∣ exchangeScalar privateKey * secretScalar privateKey' +
          exchangeScalar privateKey' * secretScalar privateKey := by
  rw [ed25519KeyExchange_eq_iff_coordinate h h', coordinate_nsmul_basePoint_eq_iff]

/-! ## Pairs that come from seeds -/

/-- The secret number of a pair that comes from a seed is the one of the exchange. -/
theorem exchangeScalar_ed25519CreateKeypair (seed : Vector UInt8 32) :
    exchangeScalar (ed25519CreateKeypair seed).2 = secretScalar (ed25519CreateKeypair seed).2 := by
  have hfield := bitField_lt (value ((sha512Digest seed.toList).toList.take 32)) 3 251
  rw [exchangeScalar_eq, secretScalar_ed25519CreateKeypair]
  generalize bitField (value ((sha512Digest seed.toList).toList.take 32)) 3 251 = bits at hfield ⊢
  unfold bitField
  omega

/-- The secret of two pairs that come from seeds. -/
theorem toList_ed25519KeyExchange_seeds (seed seed' : Vector UInt8 32) :
    (ed25519KeyExchange (ed25519CreateKeypair seed').1 (ed25519CreateKeypair seed).2).toList =
      encode 32 (coordinate ((secretScalar (ed25519CreateKeypair seed).2 *
        secretScalar (ed25519CreateKeypair seed').2) • basePoint)).val := by
  have hpair' := decodes_encodePoint (isKeyPair_ed25519CreateKeypair seed')
  have hsecret := toList_ed25519KeyExchange hpair' (ed25519CreateKeypair seed).2
  rwa [exchangeScalar_ed25519CreateKeypair, ← mul_nsmul'] at hsecret

/-- Two pairs that come from seeds share the coordinate of the product of their secret numbers. -/
theorem ed25519KeyExchange_comm (seed seed' : Vector UInt8 32) :
    ed25519KeyExchange (ed25519CreateKeypair seed').1 (ed25519CreateKeypair seed).2 =
        ed25519KeyExchange (ed25519CreateKeypair seed).1 (ed25519CreateKeypair seed').2 ∧
      (ed25519KeyExchange (ed25519CreateKeypair seed').1 (ed25519CreateKeypair seed).2).toList =
        encode 32 (coordinate ((secretScalar (ed25519CreateKeypair seed).2 *
          secretScalar (ed25519CreateKeypair seed').2) • basePoint)).val := by
  have hsecret := toList_ed25519KeyExchange_seeds seed seed'
  refine ⟨?_, hsecret⟩
  apply Vector.toList_inj.mp
  rw [hsecret, toList_ed25519KeyExchange_seeds seed' seed, mul_comm]

/-! ## Pairs after an addition -/

/-- The number of an exchange is no multiple of the group order. -/
theorem not_groupOrder_dvd_exchangeScalar (privateKey : Vector UInt8 64) :
    ¬groupOrder ∣ exchangeScalar privateKey := by
  have hfield := bitField_lt (secretScalar privateKey) 3 251
  have horder := groupOrder_eq
  have hcoprime : Nat.Coprime groupOrder 8 := by
    rw [groupOrder_eq]
    decide
  intro hdvd
  rw [exchangeScalar_eq_mul] at hdvd
  have hle := Nat.le_of_dvd (by omega) (hcoprime.dvd_of_dvd_mul_right hdvd)
  omega

/-- Modulo the group order `2 ^ 254` is neither one nor minus one. -/
theorem two_pow_mul_differs {number : ℕ} (h : ¬groupOrder ∣ number) :
    ¬(2 ^ 254 * number ≡ number * 1 [MOD groupOrder] ∨
      groupOrder ∣ 2 ^ 254 * number + number * 1) := by
  have hcoprime : groupOrder.Coprime number := prime_groupOrder.coprime_iff_not_dvd.mpr h
  rw [mul_one]
  rintro (hequal | hopposite)
  · have hone : 2 ^ 254 ≡ 1 [MOD groupOrder] := by
      apply Nat.ModEq.cancel_right_of_coprime hcoprime
      rwa [one_mul]
    rw [groupOrder_eq] at hone
    revert hone
    decide
  · have hdvd : groupOrder ∣ 2 ^ 254 + 1 := by
      apply hcoprime.dvd_of_dvd_mul_right
      rwa [add_mul, one_mul]
    rw [groupOrder_eq] at hdvd
    revert hdvd
    decide

/-- After the addition of the scalar that takes the secret number to one, the exchange uses
`2 ^ 254` in its place, and no pair of a seed computes the same secret. -/
theorem exists_ed25519KeyExchange_ne (h : IsKeyPair publicKey privateKey) :
    ∃ scalar nextPublic nextPrivate,
      (∀ memory, ed25519AddScalar memory ⟨some publicKey, some privateKey⟩ scalar =
        ⟨some nextPublic, some nextPrivate⟩) ∧
      IsKeyPair nextPublic nextPrivate ∧
      ∀ seed, ed25519KeyExchange (ed25519CreateKeypair seed).1 nextPrivate ≠
        ed25519KeyExchange nextPublic (ed25519CreateKeypair seed).2 := by
  obtain ⟨scalar, hone⟩ := exists_addend_modEq (secretScalar privateKey) 1
  obtain ⟨nextPublic, nextPrivate, hcalls, hnext, hscalar⟩ := exists_ed25519AddScalar h scalar
  refine ⟨scalar, nextPublic, nextPrivate, fun memory ↦ (hcalls memory).1, hnext, fun seed ↦ ?_⟩
  have hsecret : secretScalar nextPrivate = 1 := by
    rw [hscalar, hone, groupOrder_eq]
    decide
  have hexchange : exchangeScalar nextPrivate = 2 ^ 254 := by
    rw [exchangeScalar_eq, hsecret]
    decide
  rw [ne_eq, ed25519KeyExchange_eq_iff_coordinate hnext (isKeyPair_ed25519CreateKeypair seed),
    coordinate_nsmul_basePoint_eq_iff, hexchange, hsecret,
    ← exchangeScalar_ed25519CreateKeypair]
  exact two_pow_mul_differs (not_groupOrder_dvd_exchangeScalar _)

/-- A pair after an addition and a pair of a seed that disagree. -/
theorem ed25519KeyExchange_eq_iff_after_addition :
    ∃ scalar publicKey privateKey,
      ed25519AddScalar fe0 ⟨some (ed25519CreateKeypair (Vector.replicate 32 0)).1,
          some (ed25519CreateKeypair (Vector.replicate 32 0)).2⟩ scalar =
        ⟨some publicKey, some privateKey⟩ ∧
      ed25519KeyExchange (ed25519CreateKeypair (Vector.replicate 32 1)).1 privateKey ≠
        ed25519KeyExchange publicKey (ed25519CreateKeypair (Vector.replicate 32 1)).2 ∧
      ¬(exchangeScalar privateKey *
              secretScalar (ed25519CreateKeypair (Vector.replicate 32 1)).2 ≡
            exchangeScalar (ed25519CreateKeypair (Vector.replicate 32 1)).2 *
              secretScalar privateKey [MOD groupOrder] ∨
          groupOrder ∣ exchangeScalar privateKey *
              secretScalar (ed25519CreateKeypair (Vector.replicate 32 1)).2 +
            exchangeScalar (ed25519CreateKeypair (Vector.replicate 32 1)).2 *
              secretScalar privateKey) := by
  obtain ⟨scalar, publicKey, privateKey, hcalls, hpair, hne⟩ :=
    exists_ed25519KeyExchange_ne (isKeyPair_ed25519CreateKeypair (Vector.replicate 32 0))
  have hseed := hne (Vector.replicate 32 1)
  exact ⟨scalar, publicKey, privateKey, hcalls fe0, hseed,
    (ed25519KeyExchange_eq_iff hpair (isKeyPair_ed25519CreateKeypair _)).not.mp hseed⟩

end Agreement

end CEd25519

end RxLisk

import RxLisk.CEd25519.Signature

/-!
# Adding scalars to keys

A scalar is added to the secret number, to the public point, or to both.  Whoever holds only the
public key reaches the same public key as the holder of the pair, so a sequence of scalars derives
matching keys on both sides, and the derived pair still signs for the derived public key.

The source does not test whether a public key alone is read as a point.  Where it is none, one
coordinate of the local variable stays unwritten, and what it holds is a parameter of the functions;
the results are about keys that are read as points, where nothing depends on it.
-/

namespace RxLisk

namespace CEd25519

open BitFields LittleEndian TwistedEdwards

/-- The scalar with value 1. -/
def sc1 : Vector UInt8 32 := Vector.ofFn fun i ↦ if i.val = 0 then 1 else 0

/-- A copy of the scalar with its highest bit cleared. -/
def clearHighestBit (scalar : Vector UInt8 32) : Vector UInt8 32 :=
  scalar.set 31 (getElem scalar 31 lastByte_lt &&& 127) lastByte_lt

/-- private key: `a = n + t`, and new bytes for nonces -/
def addToPrivateKey (privateKey : Vector UInt8 64) (scalar : Vector UInt8 32) : Vector UInt8 64 :=
  let sum := scMuladd sc1 (clearHighestBit scalar) (lowerHalf privateKey)
  let hashbuf := hashPieces [(upperHalf privateKey).toList, scalar.toList]
  joinHalves sum (lowerHalf hashbuf)

/-- public key: `A = nB + T`.  Whether the key is read as a point is not tested: where it is none,
the computation goes on with a `T` that was never written and holds `memory`. -/
def addToPublicKey (memory : Fe) (publicKey scalar : Vector UInt8 32) : Vector UInt8 32 :=
  let unpacked := geFrombytesLeaves memory publicKey
  -- undo negate
  let unpacked := { unpacked with X := feNeg unpacked.X, T := feNeg unpacked.T }
  let T := geP3ToCached unpacked
  let nB := geScalarmultBase (clearHighestBit scalar)
  let A := geP1p1ToP3 (geAdd nB T)
  geP3Tobytes A

/-- The buffers that a caller passes; a null pointer is `none`. -/
structure KeyBuffers where
  publicKey : Option (Vector UInt8 32)
  privateKey : Option (Vector UInt8 64)

/-- The public key is computed from the private one where there is one; `memory` is what the local
variable for the unpacked public key held in its `T`. -/
def ed25519AddScalar (memory : Fe) (keys : KeyBuffers) (scalar : Vector UInt8 32) : KeyBuffers :=
  let privateKey := keys.privateKey.map (addToPrivateKey · scalar)
  let publicKey := keys.publicKey.map fun publicKey ↦
    match privateKey with
    | some privateKey => geP3Tobytes (geScalarmultBase (lowerHalf privateKey))
    | none => addToPublicKey memory publicKey scalar
  { publicKey := publicKey, privateKey := privateKey }

/-! ## The numbers -/

/-- The number that is added. -/
def addend (scalar : Vector UInt8 32) : ℕ := value scalar.toList % 2 ^ 255

theorem value_sc1 : value sc1.toList = 1 := by
  decide

set_option maxRecDepth 2000 in
theorem value_clearHighestBit (scalar : Vector UInt8 32) :
    value (clearHighestBit scalar).toList = addend scalar := by
  have hclear : (clearHighestBit scalar).toList =
      encode (clearHighestBit scalar).toList.length (addend scalar) := by
    apply eq_encode_of_forall
    intro i hi
    rw [Vector.length_toList] at hi
    have hget : (clearHighestBit scalar)[i] = if 31 = i then scalar[31] &&& 127 else scalar[i] :=
      @Vector.getElem_set UInt8 32 _ 31 _ (by norm_num) i hi
    rw [Vector.getElem_toList, hget]
    split_ifs with hlast
    · have hbyte := toNat_getElem_vector scalar (show 31 < 32 by norm_num)
      have hbits : ∀ byte < 256, byte &&& 127 = byte % 128 := by decide
      rw [UInt8.toNat_and, hbyte, ← hlast]
      refine (hbits _ (bitField_lt _ _ _)).trans ?_
      unfold addend bitField
      omega
    · rw [toNat_getElem_vector scalar hi, addend, bitField_mod (by omega)]
  rw [hclear, Vector.length_toList]
  apply value_encode_of_lt
  unfold addend
  omega

theorem addend_lt (scalar : Vector UInt8 32) : addend scalar < 2 ^ 255 :=
  Nat.mod_lt _ (by norm_num)

theorem exists_value_eq {number : ℕ} (h : number < 2 ^ 256) :
    ∃ buffer : Vector UInt8 32, value buffer.toList = number :=
  ⟨⟨(encode 32 number).toArray, length_encode 32 number⟩, value_encode_of_lt h⟩

/-- One scalar takes a secret number to any other. -/
theorem exists_addend_modEq (current target : ℕ) :
    ∃ scalar : Vector UInt8 32, addend scalar + current ≡ target [MOD groupOrder] := by
  have hcurrent := Nat.mod_lt current prime_groupOrder.pos
  have hlt := mod_groupOrder_lt (target + (groupOrder - current % groupOrder))
  obtain ⟨scalar, hscalar⟩ := exists_value_eq (hlt.trans (by norm_num))
  use scalar
  have haddend : addend scalar ≡ target + (groupOrder - current % groupOrder)
      [MOD groupOrder] := by
    rw [addend, hscalar, Nat.mod_eq_of_lt (hlt.trans (by norm_num))]
    exact Nat.mod_modEq _ _
  calc
    addend scalar + current ≡ target + (groupOrder - current % groupOrder) + current % groupOrder
        [MOD groupOrder] := haddend.add (Nat.mod_modEq _ _).symm
    _ = target + groupOrder := by omega
    _ ≡ target [MOD groupOrder] := Nat.add_modEq_right

/-! ## The keys -/

theorem GeP3.StandsFor.neg {h : GeP3} {P : Point curveD} (hP : h.StandsFor P) :
    GeP3.StandsFor { h with X := feNeg h.X, T := feNeg h.T } (-P) := by
  have hX := hP.sized_X.represents.neg (by norm_num)
  have hT := hP.sized_T.represents.neg (by norm_num)
  refine ⟨hX.sized, hP.sized_Y, hP.sized_Z, hT.sized, ?_⟩
  have hneg := hP.extended.neg
  rwa [← hX.feValue_eq, ← hT.feValue_eq] at hneg

theorem secretScalar_addToPrivateKey (privateKey : Vector UInt8 64) (scalar : Vector UInt8 32) :
    secretScalar (addToPrivateKey privateKey scalar) =
      (addend scalar + secretScalar privateKey) % groupOrder := by
  rw [secretScalar, addToPrivateKey, lowerHalf_joinHalves, value_scMuladd, value_sc1, one_mul,
    value_clearHighestBit, secretScalar]

theorem toList_geP3Tobytes_addToPrivateKey (privateKey : Vector UInt8 64)
    (scalar : Vector UInt8 32) :
    (geP3Tobytes (geScalarmultBase (lowerHalf (addToPrivateKey privateKey scalar)))).toList =
      encodePoint ((addend scalar + secretScalar privateKey) • basePoint) := by
  have hscalar := secretScalar_addToPrivateKey privateKey scalar
  have hlt := mod_groupOrder_lt (addend scalar + secretScalar privateKey)
  rw [nsmul_eq_mod_nsmul _ groupOrder_nsmul_basePoint, ← hscalar]
  exact toList_geP3Tobytes (geScalarmultBase_standsFor
    (hscalar.trans_lt (hlt.trans (by norm_num))))

/-- The public key alone becomes the encoding of the sum, when it is read as a point. -/
theorem exists_addToPublicKey {publicKey : Vector UInt8 32} {P : Point curveD}
    (hP : Decodes publicKey P) (scalar : Vector UInt8 32) :
    ∃ next, (∀ memory, addToPublicKey memory publicKey scalar = next) ∧
      next.toList = encodePoint (addend scalar • basePoint + P) := by
  obtain ⟨unpacked, hread, hunpacked⟩ := exists_geFrombytesLeaves hP
  have hvalue := value_clearHighestBit scalar
  have hbase := geScalarmultBase_standsFor (hvalue.trans_lt (addend_lt scalar))
  have hpoint := hunpacked.neg
  rw [neg_neg] at hpoint
  have hsum := geP1p1ToP3_standsFor (geAdd_standsFor hbase (geP3ToCached_standsFor hpoint))
  rw [hvalue] at hsum
  refine ⟨_, ?_, toList_geP3Tobytes hsum⟩
  intro memory
  rw [addToPublicKey, hread]

theorem ed25519AddScalar_both (memory : Fe) (publicKey scalar : Vector UInt8 32)
    (privateKey : Vector UInt8 64) :
    ed25519AddScalar memory ⟨some publicKey, some privateKey⟩ scalar =
      ⟨some (geP3Tobytes (geScalarmultBase (lowerHalf (addToPrivateKey privateKey scalar)))),
        some (addToPrivateKey privateKey scalar)⟩ := by
  rw [ed25519AddScalar, Option.map_some, Option.map_some]

theorem ed25519AddScalar_publicKey (memory : Fe) (publicKey scalar : Vector UInt8 32) :
    ed25519AddScalar memory ⟨some publicKey, none⟩ scalar =
      ⟨some (addToPublicKey memory publicKey scalar), none⟩ := by
  rw [ed25519AddScalar, Option.map_none, Option.map_some]

theorem ed25519AddScalar_privateKey (memory : Fe) (privateKey : Vector UInt8 64)
    (scalar : Vector UInt8 32) :
    ed25519AddScalar memory ⟨none, some privateKey⟩ scalar =
      ⟨none, some (addToPrivateKey privateKey scalar)⟩ := by
  rw [ed25519AddScalar, Option.map_some, Option.map_none]

/-- From a key pair, the three ways to call the function reach one and the same key pair. -/
theorem exists_ed25519AddScalar {publicKey : Vector UInt8 32} {privateKey : Vector UInt8 64}
    (h : IsKeyPair publicKey privateKey) (scalar : Vector UInt8 32) :
    ∃ nextPublic nextPrivate,
      (∀ memory,
        ed25519AddScalar memory ⟨some publicKey, some privateKey⟩ scalar =
            ⟨some nextPublic, some nextPrivate⟩ ∧
          ed25519AddScalar memory ⟨some publicKey, none⟩ scalar = ⟨some nextPublic, none⟩ ∧
          ed25519AddScalar memory ⟨none, some privateKey⟩ scalar = ⟨none, some nextPrivate⟩) ∧
        IsKeyPair nextPublic nextPrivate ∧
        secretScalar nextPrivate = (addend scalar + secretScalar privateKey) % groupOrder := by
  obtain ⟨next, hnext, hlist⟩ := exists_addToPublicKey (decodes_encodePoint h) scalar
  have hscalar := secretScalar_addToPrivateKey privateKey scalar
  have hprivate := toList_geP3Tobytes_addToPrivateKey privateKey scalar
  have hpublic : geP3Tobytes (geScalarmultBase (lowerHalf (addToPrivateKey privateKey scalar))) =
      next := by
    apply Vector.toList_inj.mp
    rw [hprivate, hlist, add_nsmul]
  refine ⟨next, addToPrivateKey privateKey scalar, fun memory ↦ ⟨?_, ?_, ?_⟩, ?_, hscalar⟩
  · rw [ed25519AddScalar_both, hpublic]
  · rw [ed25519AddScalar_publicKey, hnext]
  · rw [ed25519AddScalar_privateKey]
  · rw [IsKeyPair, hscalar, ← nsmul_eq_mod_nsmul _ groupOrder_nsmul_basePoint, ← hpublic, hprivate]

/-! ## Sequences of scalars -/

/-- One call after the other; the `k`-th call finds `memory k`. -/
def addScalars (memory : ℕ → Fe) (keys : KeyBuffers) : List (Vector UInt8 32) → KeyBuffers
  | [] => keys
  | scalar :: scalars =>
    addScalars (fun k ↦ memory (k + 1)) (ed25519AddScalar (memory 0) keys scalar) scalars

theorem addScalars_nil (memory : ℕ → Fe) (keys : KeyBuffers) :
    addScalars memory keys [] = keys := by
  rw [addScalars]

theorem addScalars_cons (memory : ℕ → Fe) (keys : KeyBuffers) (scalar : Vector UInt8 32)
    (scalars : List (Vector UInt8 32)) :
    addScalars memory keys (scalar :: scalars) =
      addScalars (fun k ↦ memory (k + 1)) (ed25519AddScalar (memory 0) keys scalar) scalars := by
  rw [addScalars]

def addends (scalars : List (Vector UInt8 32)) : ℕ := (scalars.map addend).sum

theorem addends_cons (scalar : Vector UInt8 32) (scalars : List (Vector UInt8 32)) :
    addends (scalar :: scalars) = addends scalars + addend scalar := by
  rw [addends, List.map_cons, List.sum_cons, add_comm, addends]

/-- A sequence of scalars takes a key pair to a key pair, and the public key alone and the private
key alone to its two halves. -/
theorem exists_addScalars (scalars : List (Vector UInt8 32)) {publicKey : Vector UInt8 32}
    {privateKey : Vector UInt8 64} (h : IsKeyPair publicKey privateKey) :
    ∃ lastPublic lastPrivate,
      (∀ memory,
        addScalars memory ⟨some publicKey, some privateKey⟩ scalars =
            ⟨some lastPublic, some lastPrivate⟩ ∧
          addScalars memory ⟨some publicKey, none⟩ scalars = ⟨some lastPublic, none⟩ ∧
          addScalars memory ⟨none, some privateKey⟩ scalars = ⟨none, some lastPrivate⟩) ∧
        IsKeyPair lastPublic lastPrivate ∧
        secretScalar lastPrivate ≡ secretScalar privateKey + addends scalars [MOD groupOrder] := by
  induction scalars generalizing publicKey privateKey with
  | nil =>
    refine ⟨publicKey, privateKey, fun memory ↦ ⟨?_, ?_, ?_⟩, h, ?_⟩
    · rw [addScalars_nil]
    · rw [addScalars_nil]
    · rw [addScalars_nil]
    · rw [addends, List.map_nil, List.sum_nil, add_zero]
  | cons scalar scalars ih =>
    obtain ⟨nextPublic, nextPrivate, hstep, hnext, hscalar⟩ := exists_ed25519AddScalar h scalar
    obtain ⟨lastPublic, lastPrivate, hrun, hlast, hsum⟩ := ih hnext
    refine ⟨lastPublic, lastPrivate, fun memory ↦ ?_, hlast, hsum.trans ?_⟩
    · obtain ⟨hboth, hpublic, hprivate⟩ := hstep (memory 0)
      rw [addScalars_cons, addScalars_cons, addScalars_cons, hboth, hpublic, hprivate]
      exact hrun fun k ↦ memory (k + 1)
    · have hmod : secretScalar nextPrivate ≡ secretScalar privateKey + addend scalar
          [MOD groupOrder] := by
        rw [hscalar, add_comm (addend scalar)]
        exact Nat.mod_modEq _ _
      rw [addends_cons, add_comm (addends scalars), ← add_assoc]
      exact hmod.add_right _

/-- From a seed, any sequence of scalars leads to keys that sign and verify; who starts with the
public key alone reaches the public one of them. -/
theorem ed25519Verify_addScalars (seed : Vector UInt8 32) (scalars : List (Vector UInt8 32))
    (message : List UInt8) :
    ∃ publicKey privateKey,
      (∀ memory,
        addScalars memory
              ⟨some (ed25519CreateKeypair seed).1, some (ed25519CreateKeypair seed).2⟩ scalars =
            ⟨some publicKey, some privateKey⟩ ∧
          addScalars memory ⟨some (ed25519CreateKeypair seed).1, none⟩ scalars =
            ⟨some publicKey, none⟩) ∧
        publicKey.toList = encodePoint
          ((secretScalar (ed25519CreateKeypair seed).2 + addends scalars) • basePoint) ∧
        ed25519Verify (ed25519Sign message publicKey privateKey) message publicKey = true := by
  obtain ⟨publicKey, privateKey, hrun, hpair, hscalar⟩ :=
    exists_addScalars scalars (isKeyPair_ed25519CreateKeypair seed)
  refine ⟨publicKey, privateKey, fun memory ↦ ⟨(hrun memory).1, (hrun memory).2.1⟩, ?_,
    ed25519Verify_ed25519Sign hpair message⟩
  rw [hpair, nsmul_eq_mod_nsmul _ groupOrder_nsmul_basePoint, hscalar,
    ← nsmul_eq_mod_nsmul _ groupOrder_nsmul_basePoint]

/-- What a sequence makes of a public key alone. -/
theorem exists_addScalars_publicKey (scalar : Vector UInt8 32) (scalars : List (Vector UInt8 32))
    {publicKey : Vector UInt8 32} {P : Point curveD} (hP : Decodes publicKey P) :
    ∃ last,
      (∀ memory, addScalars memory ⟨some publicKey, none⟩ (scalar :: scalars) =
        ⟨some last, none⟩) ∧
      last.toList = encodePoint (addends (scalar :: scalars) • basePoint + P) := by
  induction scalars generalizing scalar publicKey P with
  | nil =>
    obtain ⟨next, hnext, hlist⟩ := exists_addToPublicKey hP scalar
    refine ⟨next, fun memory ↦ ?_, ?_⟩
    · rw [addScalars_cons, ed25519AddScalar_publicKey, hnext, addScalars_nil]
    · rw [hlist, addends, List.map_singleton, List.sum_singleton]
  | cons second scalars ih =>
    obtain ⟨next, hnext, hlist⟩ := exists_addToPublicKey hP scalar
    obtain ⟨last, hlast, hsum⟩ := ih second (decodes_encodePoint hlist)
    refine ⟨last, fun memory ↦ ?_, ?_⟩
    · rw [addScalars_cons, ed25519AddScalar_publicKey, hnext, hlast]
    · rw [hsum, addends_cons scalar, add_nsmul, add_assoc]

/-- The order in which scalars are added to a public key that is read as a point is immaterial. -/
theorem addScalars_publicKey_perm {publicKey : Vector UInt8 32} {P : Point curveD}
    (hP : Decodes publicKey P) {left right : List (Vector UInt8 32)} (h : left.Perm right)
    (memory memory' : ℕ → Fe) :
    addScalars memory ⟨some publicKey, none⟩ left =
      addScalars memory' ⟨some publicKey, none⟩ right := by
  have hsum : addends left = addends right := (h.map addend).sum_eq
  cases left with
  | nil => rw [← h.nil_eq, addScalars_nil, addScalars_nil]
  | cons scalar scalars =>
    cases right with
    | nil => exact absurd h.symm.nil_eq (List.cons_ne_nil _ _).symm
    | cons scalar' scalars' =>
      obtain ⟨last, hlast, hlist⟩ := exists_addScalars_publicKey scalar scalars hP
      obtain ⟨last', hlast', hlist'⟩ := exists_addScalars_publicKey scalar' scalars' hP
      have hequal : last = last' := by
        apply Vector.toList_inj.mp
        rw [hlist, hlist', hsum]
      rw [hlast, hlast', hequal]

/-- Two scalars, added in both orders to the encoding of the point of order four. -/
theorem addScalars_publicKey_perm_quarterPoint :
    Decodes (Vector.replicate 32 0) quarterPoint ∧
      addScalars (fun _ ↦ fe0) ⟨some (Vector.replicate 32 0), none⟩
          [Vector.replicate 32 2, Vector.replicate 32 3] =
        addScalars (fun _ ↦ fe1) ⟨some (Vector.replicate 32 0), none⟩
          [Vector.replicate 32 3, Vector.replicate 32 2] :=
  ⟨decodes_quarterPoint, addScalars_publicKey_perm decodes_quarterPoint (.swap _ _ _) _ _⟩

end CEd25519

end RxLisk

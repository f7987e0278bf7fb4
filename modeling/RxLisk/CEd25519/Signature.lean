import RxLisk.CEd25519.PointEncoding
import RxLisk.CEd25519.Scalar
import RxLisk.CEd25519.ScalarMult
import RxLisk.CEd25519.Sha512
import RxLisk.Library.Schnorr

/-!
# Key pairs and signatures

A key pair consists of a secret number `a`, beside the bytes that make nonces, and the encoding of
`a` times the base point.  Signing a message with a pair gives a signature that the verifier accepts
for the public key.  What the verifier accepts is said exactly: the point half is compared as bytes,
and the number half counts only up to multiples of the group order.
-/

namespace RxLisk

namespace CEd25519

open BitFields LittleEndian TwistedEdwards

/-! ## Buffers of 64 bytes -/

def lowerHalf (bytes : Vector UInt8 64) : Vector UInt8 32 := Vector.ofFn fun i ↦ bytes[i.val]

def upperHalf (bytes : Vector UInt8 64) : Vector UInt8 32 := Vector.ofFn fun i ↦ bytes[32 + i.val]

def joinHalves (lower upper : Vector UInt8 32) : Vector UInt8 64 := lower ++ upper

section Halves

variable (lower upper : Vector UInt8 32) (bytes : Vector UInt8 64)

theorem getElem_lowerHalf {i : ℕ} (hi : i < 32) : (lowerHalf bytes)[i] = bytes[i] :=
  Vector.getElem_ofFn hi

theorem getElem_upperHalf {i : ℕ} (hi : i < 32) : (upperHalf bytes)[i] = bytes[32 + i] :=
  Vector.getElem_ofFn hi

theorem toList_lowerHalf : (lowerHalf bytes).toList = bytes.toList.take 32 := by
  apply List.ext_getElem
  · simp
  · intro i hi hi'
    rw [Vector.length_toList] at hi
    rw [Vector.getElem_toList, List.getElem_take, Vector.getElem_toList, getElem_lowerHalf bytes hi]

theorem toList_upperHalf : (upperHalf bytes).toList = bytes.toList.drop 32 := by
  apply List.ext_getElem
  · simp
  · intro i hi hi'
    rw [Vector.length_toList] at hi
    rw [Vector.getElem_toList, List.getElem_drop, Vector.getElem_toList, getElem_upperHalf bytes hi]

theorem toList_joinHalves : (joinHalves lower upper).toList = lower.toList ++ upper.toList :=
  Vector.toList_append

@[simp]
theorem lowerHalf_joinHalves : lowerHalf (joinHalves lower upper) = lower := by
  apply Vector.toList_inj.mp
  rw [toList_lowerHalf, toList_joinHalves, List.take_left' Vector.length_toList]

@[simp]
theorem upperHalf_joinHalves : upperHalf (joinHalves lower upper) = upper := by
  apply Vector.toList_inj.mp
  rw [toList_upperHalf, toList_joinHalves, List.drop_left' Vector.length_toList]

@[simp]
theorem joinHalves_lowerHalf_upperHalf :
    joinHalves (lowerHalf bytes) (upperHalf bytes) = bytes := by
  apply Vector.toList_inj.mp
  rw [toList_joinHalves, toList_lowerHalf, toList_upperHalf, List.take_append_drop]

end Halves

/-! ## The functions of the source -/

/-- The digest of some pieces, one update for each.  The context is not initialised by the caller;
the digest does not depend on what its buffer holds. -/
def hashPieces (pieces : List (List UInt8)) : Vector UInt8 64 :=
  sha512Final (pieces.foldl sha512Update (sha512Init (Vector.replicate 128 0)))

/-- The scalar in the first 32 bytes is made a multiple of eight with its highest bit at 254. -/
def clamp {n : ℕ} (bytes : Vector UInt8 n) (h : 32 ≤ n := by decide) : Vector UInt8 n :=
  let bytes := bytes.set 0 (bytes[0] &&& 248)
  let bytes := bytes.set 31 (bytes[31] &&& 63)
  bytes.set 31 (bytes[31] ||| 64)

/-- The public and the private key of a seed. -/
def ed25519CreateKeypair (seed : Vector UInt8 32) : Vector UInt8 32 × Vector UInt8 64 :=
  let privateKey := sha512 (Vector.replicate 128 0) seed.toList
  let privateKey := clamp privateKey
  let A := geScalarmultBase (lowerHalf privateKey)
  (geP3Tobytes A, privateKey)

def ed25519Sign (message : List UInt8) (publicKey : Vector UInt8 32)
    (privateKey : Vector UInt8 64) : Vector UInt8 64 :=
  let r := hashPieces [(upperHalf privateKey).toList, message]
  let r := scReduce r
  let R := geScalarmultBase r
  let signature := geP3Tobytes R
  let hram := hashPieces [signature.toList, publicKey.toList, message]
  let hram := scReduce hram
  joinHalves signature (scMuladd hram (lowerHalf privateKey) r)

theorem firstByte_lt : 0 < 32 := by norm_num

theorem lastByte_lt : 31 < 32 := by norm_num

/-- The differences of all bytes are gathered before the test. -/
def consttimeEqual (x y : Vector UInt8 32) : Bool :=
  let r := getElem x 0 firstByte_lt ^^^ getElem y 0 firstByte_lt
  let r := (List.finRange 31).foldl (fun r i ↦ r ||| (x[i.val + 1] ^^^ y[i.val + 1])) r
  r == 0

def ed25519Verify (signature : Vector UInt8 64) (message : List UInt8)
    (publicKey : Vector UInt8 32) : Bool :=
  if signature[63] &&& 224 ≠ 0 then false
  else match geFrombytesNegateVartime publicKey with
    | none => false
    | some A =>
      let h := hashPieces [(lowerHalf signature).toList, publicKey.toList, message]
      let h := scReduce h
      let R := geDoubleScalarmultVartime h A (upperHalf signature)
      let checker := geTobytes R
      consttimeEqual checker (lowerHalf signature)

/-! ## What the parts compute -/

theorem hashPieces_eq (pieces : List (List UInt8)) :
    hashPieces pieces = sha512Digest pieces.flatten :=
  sha512Final_foldl_sha512Update _ pieces

theorem groupOrder_lt : groupOrder < 2 ^ 253 := by
  rw [groupOrder_eq]
  norm_num

theorem mod_groupOrder_lt (number : ℕ) : number % groupOrder < 2 ^ 253 :=
  (Nat.mod_lt _ prime_groupOrder.pos).trans groupOrder_lt

theorem value_encode_mod (number : ℕ) :
    value (encode 32 (number % groupOrder)) = number % groupOrder :=
  value_encode_of_lt ((mod_groupOrder_lt number).trans (by norm_num))

theorem value_scReduce (s : Vector UInt8 64) :
    value (scReduce s).toList = value s.toList % groupOrder := by
  rw [toList_scReduce, value_encode_mod]

theorem value_scMuladd (a b c : Vector UInt8 32) :
    value (scMuladd a b c).toList =
      (value a.toList * value b.toList + value c.toList) % groupOrder := by
  rw [toList_scMuladd, value_encode_mod]

theorem foldl_or_eq_zero_iff_forall (bytes : List UInt8) (start : UInt8) :
    bytes.foldl (· ||| ·) start = 0 ↔ start = 0 ∧ ∀ byte ∈ bytes, byte = 0 := by
  induction bytes generalizing start with
  | nil => simp
  | cons byte bytes ih =>
    rw [List.foldl_cons, ih, UInt8.or_eq_zero_iff, List.forall_mem_cons, and_assoc]

theorem consttimeEqual_iff (x y : Vector UInt8 32) : consttimeEqual x y = true ↔ x = y := by
  let difference (i : Fin 31) : UInt8 := x[i.val + 1] ^^^ y[i.val + 1]
  have hgather : consttimeEqual x y =
      (((List.finRange 31).map difference).foldl (· ||| ·) (x[0] ^^^ y[0]) == 0) := by
    rw [List.foldl_map]
    rfl
  rw [hgather, beq_iff_eq, foldl_or_eq_zero_iff_forall]
  constructor
  · rintro ⟨hfirst, hrest⟩
    apply Vector.ext
    intro i hi
    apply UInt8.xor_eq_zero_iff.mp
    cases i with
    | zero => exact hfirst
    | succ i => exact hrest _ (List.mem_map_of_mem (List.mem_finRange (⟨i, by omega⟩ : Fin 31)))
  · rintro rfl
    simp [difference]

theorem getElem_clamp {n i : ℕ} (bytes : Vector UInt8 n) (h : 32 ≤ n) (hi : i < n) :
    (clamp bytes h)[i] =
      if i = 31 then bytes[31] &&& 63 ||| 64 else if i = 0 then bytes[0] &&& 248 else bytes[i] := by
  unfold clamp
  dsimp only
  by_cases hlast : i = 31
  · subst hlast
    simp
  · by_cases hfirst : i = 0
    · subst hfirst
      simp
    · rw [if_neg hlast, if_neg hfirst, Vector.getElem_set_ne _ _ (Ne.symm hlast),
        Vector.getElem_set_ne _ _ (Ne.symm hlast), Vector.getElem_set_ne _ _ (Ne.symm hfirst)]

theorem lowerHalf_clamp (bytes : Vector UInt8 64) :
    lowerHalf (clamp bytes) = clamp (lowerHalf bytes) := by
  apply Vector.ext
  intro i hi
  rw [getElem_lowerHalf _ hi, getElem_clamp, getElem_clamp, getElem_lowerHalf _ hi,
    getElem_lowerHalf bytes (show 0 < 32 by norm_num),
    getElem_lowerHalf bytes (show 31 < 32 by norm_num)]

set_option maxRecDepth 2000 in
/-- The clamped scalar keeps 251 bits. -/
theorem value_clamp (bytes : Vector UInt8 32) :
    value (clamp bytes).toList = 2 ^ 254 + 8 * bitField (value bytes.toList) 3 251 := by
  let scalar := 2 ^ 254 + 8 * bitField (value bytes.toList) 3 251
  have hfield := bitField_lt (value bytes.toList) 3 251
  have hclamp : (clamp bytes).toList = encode (clamp bytes).toList.length scalar := by
    apply eq_encode_of_forall
    intro i hi
    rw [Vector.length_toList] at hi
    rw [Vector.getElem_toList, getElem_clamp]
    split_ifs with hlast hfirst
    · have hbyte := toNat_getElem_vector bytes (show 31 < 32 by norm_num)
      have hbits : ∀ byte < 256, byte &&& 63 ||| 64 = byte % 64 + 64 := by decide
      rw [UInt8.toNat_or, UInt8.toNat_and, hbyte, hlast]
      refine (hbits _ (bitField_lt _ _ _)).trans ?_
      unfold scalar bitField
      omega
    · have hbyte := toNat_getElem_vector bytes (show 0 < 32 by norm_num)
      have hbits : ∀ byte < 256, byte &&& 248 = 8 * (byte / 8) := by decide
      rw [UInt8.toNat_and, hbyte, hfirst]
      refine (hbits _ (bitField_lt _ _ _)).trans ?_
      unfold scalar bitField
      omega
    · obtain ⟨start, hstart⟩ : ∃ start, 8 * i = 3 + start := ⟨8 * i - 3, by omega⟩
      have hscalar : scalar % 2 ^ 254 = 0 + 2 ^ 3 * bitField (value bytes.toList) 3 251 := by
        unfold scalar
        omega
      calc bytes[i].toNat = bitField (value bytes.toList) (3 + start) 8 := by
            rw [toNat_getElem_vector bytes hi, hstart]
        _ = bitField (scalar % 2 ^ 254) (3 + start) 8 := by
            rw [hscalar, bitField_add_mul (by norm_num), bitField_bitField (by omega)]
        _ = bitField scalar (8 * i) 8 := by
            rw [hstart, bitField_mod (by omega)]
  rw [hclamp, Vector.length_toList]
  apply value_encode_of_lt
  unfold scalar
  omega

/-! ## Key pairs -/

/-- The number in the first half of a private key. -/
def secretScalar (privateKey : Vector UInt8 64) : ℕ := value (lowerHalf privateKey).toList

/-- The public key is the encoding of the secret multiple of the base point. -/
def IsKeyPair (publicKey : Vector UInt8 32) (privateKey : Vector UInt8 64) : Prop :=
  publicKey.toList = encodePoint (secretScalar privateKey • basePoint)

theorem secretScalar_ed25519CreateKeypair (seed : Vector UInt8 32) :
    secretScalar (ed25519CreateKeypair seed).2 =
      2 ^ 254 + 8 * bitField (value ((sha512Digest seed.toList).toList.take 32)) 3 251 := by
  have hkey : (ed25519CreateKeypair seed).2 = clamp (sha512Digest seed.toList) :=
    congrArg clamp (sha512_eq _ _)
  rw [secretScalar, hkey, lowerHalf_clamp, value_clamp, toList_lowerHalf]

theorem isKeyPair_ed25519CreateKeypair (seed : Vector UInt8 32) :
    IsKeyPair (ed25519CreateKeypair seed).1 (ed25519CreateKeypair seed).2 := by
  have hscalar := secretScalar_ed25519CreateKeypair seed
  have hfield := bitField_lt (value ((sha512Digest seed.toList).toList.take 32)) 3 251
  exact toList_geP3Tobytes (geScalarmultBase_standsFor
    (hscalar.trans_lt (show _ < 2 ^ 255 by omega)))

/-! ## Signing -/

/-- The number that hides the secret in a signature. -/
def nonce (privateKey : Vector UInt8 64) (message : List UInt8) : ℕ :=
  value (sha512Digest ((upperHalf privateKey).toList ++ message)).toList % groupOrder

def challenge (commitment : List UInt8) (publicKey : Vector UInt8 32) (message : List UInt8) : ℕ :=
  value (sha512Digest (commitment ++ (publicKey.toList ++ message))).toList % groupOrder

/-- The number in the second half of a signature. -/
def response (signature : Vector UInt8 64) : ℕ := value (upperHalf signature).toList

theorem flatten_pair (first second : List UInt8) : [first, second].flatten = first ++ second := by
  simp

theorem flatten_triple (first second third : List UInt8) :
    [first, second, third].flatten = first ++ (second ++ third) := by
  simp

section Sign

variable (message : List UInt8) (publicKey : Vector UInt8 32) (privateKey : Vector UInt8 64)

theorem value_nonceBytes :
    value (scReduce (hashPieces [(upperHalf privateKey).toList, message])).toList =
      nonce privateKey message := by
  rw [value_scReduce, hashPieces_eq, flatten_pair, nonce]

theorem value_challengeBytes (commitment : List UInt8) :
    value (scReduce (hashPieces [commitment, publicKey.toList, message])).toList =
      challenge commitment publicKey message := by
  rw [value_scReduce, hashPieces_eq, flatten_triple, challenge]

theorem toList_lowerHalf_ed25519Sign :
    (lowerHalf (ed25519Sign message publicKey privateKey)).toList =
      encodePoint (nonce privateKey message • basePoint) := by
  have hnonce := value_nonceBytes message privateKey
  have hlt : nonce privateKey message < 2 ^ 255 :=
    (mod_groupOrder_lt _).trans (by norm_num)
  rw [ed25519Sign, lowerHalf_joinHalves, ← hnonce]
  exact toList_geP3Tobytes (geScalarmultBase_standsFor (hnonce.trans_lt hlt))

theorem response_ed25519Sign :
    response (ed25519Sign message publicKey privateKey) =
      (challenge (lowerHalf (ed25519Sign message publicKey privateKey)).toList publicKey message *
        secretScalar privateKey + nonce privateKey message) % groupOrder := by
  rw [response, ed25519Sign, upperHalf_joinHalves, lowerHalf_joinHalves, value_scMuladd,
    value_challengeBytes, value_nonceBytes, secretScalar]

end Sign

/-! ## Verifying -/

set_option maxRecDepth 2000 in
/-- The three bits of the last byte that the verifier wants to be zero. -/
theorem and_eq_zero_iff_response_lt (signature : Vector UInt8 64) :
    signature[63] &&& 224 = 0 ↔ response signature < 2 ^ 253 := by
  have hlt := value_lt (upperHalf signature).toList
  have hget := getElem_upperHalf signature (show 31 < 32 by norm_num)
  have hbyte := toNat_getElem_vector (upperHalf signature) (show 31 < 32 by norm_num)
  have hbits : ∀ byte < 256, byte &&& 224 = 0 ↔ byte < 32 := by decide
  rw [Vector.length_toList, ← response] at hlt
  rw [hget, bitField, ← response] at hbyte
  generalize response signature = number at hlt hbyte ⊢
  have hmasked : signature[32 + 31] &&& 224 = 0 ↔ signature[32 + 31].toNat < 32 := by
    rw [← UInt8.toNat_inj, UInt8.toNat_and]
    exact hbits _ (UInt8.toNat_lt _)
  refine hmasked.trans ?_
  omega

theorem encodePoint_injective : Function.Injective encodePoint := by
  intro P Q h
  let bytes : Vector UInt8 32 := ⟨(encodePoint P).toArray, by simp [encodePoint]⟩
  have hbytes : bytes.toList = encodePoint P := by simp [bytes]
  exact (decodes_encodePoint hbytes).unique (decodes_encodePoint (hbytes.trans h))

section Verify

variable {signature : Vector UInt8 64} {message : List UInt8} {publicKey : Vector UInt8 32}

/-- Exactly which signatures are accepted: the response is below `2^253`, the public key is read as
a point, and the commitment is the encoding of the point that the equation asks for. -/
theorem ed25519Verify_iff :
    ed25519Verify signature message publicKey = true ↔
      response signature < 2 ^ 253 ∧ ∃ P C, Decodes publicKey P ∧
        (lowerHalf signature).toList = encodePoint C ∧
          Schnorr.Accepts basePoint P C
            (challenge (lowerHalf signature).toList publicKey message) (response signature) := by
  have hdecode := geFrombytesNegateVartime_spec publicKey
  rw [← and_eq_zero_iff_response_lt]
  by_cases htop : signature[63] &&& 224 = 0
  · rw [ed25519Verify, if_neg (not_not_intro htop), and_iff_right htop]
    have hresponse := (and_eq_zero_iff_response_lt signature).mp htop
    cases hread : geFrombytesNegateVartime publicKey with
    | none =>
      have hnone := hdecode.2 hread
      simp only [Bool.false_eq_true, false_iff]
      rintro ⟨P, C, hP, -⟩
      exact hnone P hP
    | some A =>
      obtain ⟨P, hP, hA⟩ := hdecode.1 A hread
      have hchallenge := value_challengeBytes message publicKey (lowerHalf signature).toList
      have hlt : challenge (lowerHalf signature).toList publicKey message < 2 ^ 253 :=
        mod_groupOrder_lt _
      have hpoint := toList_geTobytes (geDoubleScalarmultVartime_standsFor hA
        (hchallenge.trans_le (hlt.le.trans (by norm_num)))
        (show response signature ≤ 2 ^ 255 from hresponse.le.trans (by norm_num)))
      rw [hchallenge, ← response] at hpoint
      dsimp only
      rw [consttimeEqual_iff, ← Vector.toList_inj, hpoint]
      constructor
      · intro hequal
        exact ⟨P, _, hP, hequal.symm, rfl⟩
      · rintro ⟨Q, C, hQ, hC, haccepts⟩
        refine Eq.trans ?_ hC.symm
        rw [← haccepts, hQ.unique hP]
  · rw [ed25519Verify, if_pos htop]
    exact iff_of_false Bool.false_ne_true fun h ↦ htop h.1

theorem ed25519Verify_ed25519Sign {privateKey : Vector UInt8 64}
    (h : IsKeyPair publicKey privateKey) (message : List UInt8) :
    ed25519Verify (ed25519Sign message publicKey privateKey) message publicKey = true := by
  have hresponse := response_ed25519Sign message publicKey privateKey
  refine ed25519Verify_iff.mpr ⟨?_, secretScalar privateKey • basePoint,
    nonce privateKey message • basePoint, decodes_encodePoint h,
    toList_lowerHalf_ed25519Sign message publicKey privateKey, ?_⟩
  · rw [hresponse]
    exact mod_groupOrder_lt _
  · rw [hresponse]
    exact Schnorr.accepts_response groupOrder_nsmul_basePoint _ _ _

/-- Beside an accepted signature, exactly those with the same commitment are accepted whose response
is below `2^253` and differs by a multiple of the group order. -/
theorem ed25519Verify_iff_modEq {other : Vector UInt8 64}
    (h : ed25519Verify signature message publicKey = true)
    (hlower : lowerHalf other = lowerHalf signature) :
    ed25519Verify other message publicKey = true ↔
      response other < 2 ^ 253 ∧ response other ≡ response signature [MOD groupOrder] := by
  obtain ⟨-, P, C, hP, hC, haccepts⟩ := ed25519Verify_iff.mp h
  rw [ed25519Verify_iff, hlower]
  refine and_congr_right fun _ ↦ ⟨?_, ?_⟩
  · rintro ⟨Q, D, hQ, hD, hother⟩
    rw [hQ.unique hP, encodePoint_injective (hD.symm.trans hC)] at hother
    exact hother.modEq groupOrder_nsmul_basePoint prime_groupOrder basePoint_ne_zero haccepts
  · intro hresponse
    exact ⟨P, C, hP, hC,
      (Schnorr.accepts_iff_of_modEq groupOrder_nsmul_basePoint hresponse).mpr haccepts⟩

theorem ed25519Verify_iff_modEq_zero_seed :
    ed25519Verify
        (joinHalves
          (lowerHalf (ed25519Sign [] (ed25519CreateKeypair (Vector.replicate 32 0)).1
            (ed25519CreateKeypair (Vector.replicate 32 0)).2))
          (Vector.replicate 32 0))
        [] (ed25519CreateKeypair (Vector.replicate 32 0)).1 = true ↔
      response
          (joinHalves
            (lowerHalf (ed25519Sign [] (ed25519CreateKeypair (Vector.replicate 32 0)).1
              (ed25519CreateKeypair (Vector.replicate 32 0)).2))
            (Vector.replicate 32 0)) < 2 ^ 253 ∧
        response
            (joinHalves
              (lowerHalf (ed25519Sign [] (ed25519CreateKeypair (Vector.replicate 32 0)).1
                (ed25519CreateKeypair (Vector.replicate 32 0)).2))
              (Vector.replicate 32 0)) ≡
          response (ed25519Sign [] (ed25519CreateKeypair (Vector.replicate 32 0)).1
            (ed25519CreateKeypair (Vector.replicate 32 0)).2) [MOD groupOrder] :=
  ed25519Verify_iff_modEq (ed25519Verify_ed25519Sign (isKeyPair_ed25519CreateKeypair _) [])
    (lowerHalf_joinHalves _ _)

end Verify

end CEd25519

end RxLisk

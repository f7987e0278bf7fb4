import RxLisk.Crypto.KeyOperations
import RxLisk.Transactions.History
import RxLisk.Transactions.Posting

/-!
# Verification of what is posted

Whoever receives a posted transaction can verify it with the library: the signature under the posted
public key over the digest of the posted body, and the second signature over the body with the first.
In a run of calls the stored signatures are those of the last call, and each of them is verified
over the bytes that it was made for.
-/

namespace RxLisk

open SwiftString

namespace Wire

/-- The library verifies the signature over the body and the signatures before it. -/
def Verifies (value : Body) (earlier : List Signature) (publicKey : PublicKey)
    (signature : Signature) : Prop :=
  ∃ hash, SHA256.digestOf (signed.encode (value, earlier)) = some hash ∧
    publicKey.verify signature.toList hash = .ok true

variable {value : Body} {keyPair : KeyPair} {secondKeyPair : Option KeyPair}
  {stored signatures : List Signature} {hash : List UInt8}

theorem verifies_of_endorse {signature : Signature} (hkey : keyPair.Genuine)
    (h : endorse SHA256.digestOf .library value stored keyPair = some signature) :
    Verifies value stored keyPair.publicKey signature := by
  obtain ⟨hash, hhash, hsign⟩ := exists_hash_of_endorse h
  refine ⟨hash, hhash, ?_⟩
  rw [← hsign]
  exact hkey.verify_sign hash

/-- What one call leaves is verified, over the signatures that the call found. -/
theorem verifies_of_resign (hlength : stored.length ≤ 2) (hkey : keyPair.Genuine)
    (hsecond : ∀ second, secondKeyPair = some second → second.Genuine)
    (h : resign SHA256.digestOf .library value keyPair secondKeyPair stored =
      some (signatures, hash)) :
    ∃ signature rest, signatures = signature :: rest ∧ rest.length ≤ 1 ∧
      Verifies value stored keyPair.publicKey signature ∧
      ∀ second, secondKeyPair = some second → ∃ signSignature, rest = [signSignature] ∧
        Verifies value (signature :: stored.tail) second.publicKey signSignature := by
  cases secondKeyPair with
  | none =>
    simp only [resign, Option.bind_eq_bind, Option.bind_eq_some_iff, Option.pure_def,
      Option.bind_some, Option.some.injEq, Prod.mk.injEq] at h
    obtain ⟨signature, hsignature, _, -, rfl, -⟩ := h
    have htail : stored.tail.length ≤ 1 := by
      rw [List.length_tail]
      omega
    refine ⟨signature, stored.tail, rfl, htail, verifies_of_endorse hkey hsignature, ?_⟩
    rintro second ⟨⟩
  | some secondKeyPair =>
    simp only [resign, Option.bind_eq_bind, Option.bind_eq_some_iff, Option.pure_def,
      Option.bind_some, Option.some.injEq, Prod.mk.injEq] at h
    obtain ⟨signature, hsignature, signSignature, hsignSignature, _, -, rfl, -⟩ := h
    refine ⟨signature, [signSignature], rfl, le_rfl, verifies_of_endorse hkey hsignature, ?_⟩
    rintro second ⟨⟩
    exact ⟨signSignature, rfl, verifies_of_endorse (hsecond _ rfl) hsignSignature⟩

end Wire

namespace NewTransaction

/-! ## Runs of calls -/

/-- The keys of a call are genuine. -/
def GenuineCall (call : KeyPair × Option KeyPair) : Prop :=
  call.1.Genuine ∧ ∀ second, call.2 = some second → second.Genuine

/-- The signatures that the call leaves on a transaction with the given signatures: each of them is
verified over what it was made for. -/
def CallVerified (value : Wire.Body) (call : KeyPair × Option KeyPair)
    (earlier signatures : List Wire.Signature) : Prop :=
  ∃ signature rest, signatures = signature :: rest ∧
    Wire.Verifies value earlier call.1.publicKey signature ∧
    ∀ second, call.2 = some second → ∃ signSignature, rest = [signSignature] ∧
      Wire.Verifies value (signature :: earlier.tail) second.publicKey signSignature

/-- One call over stored signatures. -/
theorem callVerified_of_sign {self next : NewTransaction} {call : KeyPair × Option KeyPair}
    {stored : List Wire.Signature} (hstores : self.Stores stored) (hcall : GenuineCall call)
    (h : self.sign SHA256.digestOf .library call.1 call.2 = some next) :
    ∃ signatures, next.Stores signatures ∧
      next.senderPublicKey = some call.1.publicKeyString ∧ next.unsigned = self.unsigned ∧
      CallVerified (self.wireBody call.1.publicKey) call stored signatures := by
  rw [sign_eq_resign SHA256.digestOf .library hstores] at h
  obtain ⟨⟨signatures, hash⟩, hresign, rfl⟩ := Option.map_eq_some_iff.mp h
  obtain ⟨signature, rest, hsignatures, hrest, hverifies⟩ :=
    Wire.verifies_of_resign hstores.length_le hcall.1 hcall.2 hresign
  have hlength : signatures.length ≤ 2 := by
    rw [hsignatures, List.length_cons]
    omega
  exact ⟨signatures, ⟨rfl, rfl, hlength⟩, rfl, unsigned_store _ _ _ _, signature, rest,
    hsignatures, hverifies⟩

/-- Whatever was signed before, the last call of a run leaves signatures that are verified over the
body and what the calls before it had stored: nothing for the first call. -/
theorem callVerified_of_signAll {self final : NewTransaction}
    {earlier : List (KeyPair × Option KeyPair)} {call : KeyPair × Option KeyPair}
    (h : self.Unsigned) (hcall : GenuineCall call)
    (hfinal : signAll SHA256.digestOf .library self (earlier ++ [call]) = some final) :
    ∃ previous stored signatures,
      signAll SHA256.digestOf .library self earlier = some previous ∧ previous.Stores stored ∧
      stored.length ≤ 2 ∧ (stored = [] ↔ earlier = []) ∧
      final.Stores signatures ∧ final.senderPublicKey = some call.1.publicKeyString ∧
      final.unsigned = self ∧
      CallVerified (self.wireBody call.1.publicKey) call stored signatures := by
  rw [signAll, List.foldlM_append, Option.bind_eq_bind, Option.bind_eq_some_iff] at hfinal
  obtain ⟨previous, hprevious, hlast⟩ := hfinal
  simp only [List.foldlM_cons, List.foldlM_nil, bind_pure] at hlast
  by_cases hearlier : earlier = []
  · subst hearlier
    cases hprevious
    obtain ⟨signatures, hstores, hkey, hunsigned, hverified⟩ :=
      callVerified_of_sign h.stores hcall hlast
    exact ⟨self, [], signatures, rfl, h.stores, Nat.zero_le 2, iff_of_true rfl rfl, hstores, hkey,
      hunsigned.trans h.unsigned_eq, hverified⟩
  · obtain ⟨hbody, keyPair, stored, hsigned⟩ := signedBy_of_signAll h hearlier hprevious
    obtain ⟨signatures, hstores, hkey, hunsigned, hverified⟩ :=
      callVerified_of_sign hsigned.stores hcall hlast
    have hwire : previous.wireBody call.1.publicKey = self.wireBody call.1.publicKey :=
      wireBody_eq_of_unsigned_eq (hbody.trans h.unsigned_eq.symm) _
    rw [hwire] at hverified
    exact ⟨previous, stored, signatures, hprevious, hsigned.stores, hsigned.stores.length_le,
      iff_of_false hsigned.ne_nil hearlier, hstores, hkey, hunsigned.trans hbody, hverified⟩

/-- The transaction of the test, signed with one pair and then again with the pair for both. -/
theorem callVerified_of_signAll_tenthTransfer :
    ∃ keyPair previous final, signAll SHA256.digestOf .library tenthTransfer
          [(keyPair, none)] = some previous ∧
      signAll SHA256.digestOf .library tenthTransfer
          [(keyPair, none), (keyPair, some keyPair)] = some final ∧
      ∃ stored signatures, stored ≠ [] ∧ previous.Stores stored ∧ final.Stores signatures ∧
        CallVerified (tenthTransfer.wireBody keyPair.publicKey) (keyPair, some keyPair) stored
          signatures := by
  let keyPair := KeyPair.ofSeed .library ⟨Vector.replicate 32 0⟩
  have hkeyPair : keyPair.Genuine := KeyPair.genuine_ofSeed _
  have hcall : GenuineCall (keyPair, some keyPair) := by
    refine ⟨hkeyPair, ?_⟩
    rintro second ⟨⟩
    exact hkeyPair
  obtain ⟨final, -, -, hfinal, -⟩ := exists_signAll_recorded .library unsigned_tenthTransfer
    ([(keyPair, none)] ++ [(keyPair, some keyPair)])
  obtain ⟨previous, stored, signatures, hprevious, hstored, -, hempty, hstores, -, -, hverified⟩ :=
    callVerified_of_signAll unsigned_tenthTransfer hcall hfinal
  exact ⟨keyPair, previous, final, hprevious, hfinal, stored, signatures,
    fun hnil ↦ List.cons_ne_nil _ _ (hempty.mp hnil), hstored, hstores, hverified⟩

/-! ## What is posted -/

/-- The check of a posted transaction: the signature over the digest of the body, under the posted
public key. -/
def verifyPosted (dict : Dictionary) : ExceptT Ed25519Error Option Bool := do
  let body ← ExceptT.lift (postedBody dict)
  let hash ← ExceptT.lift (SHA256.digestOf body)
  let publicKey ← ExceptT.mk (some (PublicKey.ofBytes (postedBytes dict "senderPublicKey")))
  ExceptT.mk (some (publicKey.verify (postedBytes dict "signature") hash))

/-- The check of the second signature, over the body and the first one. -/
def verifyPostedSecond (dict : Dictionary) (secondPublicKey : PublicKey) :
    ExceptT Ed25519Error Option Bool := do
  let body ← ExceptT.lift (postedBody dict)
  let hash ← ExceptT.lift (SHA256.digestOf (body ++ postedBytes dict "signature"))
  ExceptT.mk (some (secondPublicKey.verify (postedBytes dict "signSignature") hash))

/-- Signing with secrets is signing with the genuine pairs that they give. -/
theorem exists_genuineCall_of_signSecret {self next : NewTransaction} {secret : SwiftString}
    {secondSecret : Option SwiftString}
    (h : (self.signSecret .library secret secondSecret).run = some (.ok next)) :
    ∃ call, GenuineCall call ∧ self.sign SHA256.digestOf .library call.1 call.2 = some next ∧
      ∀ second, secondSecret = some second → ∃ pair, call.2 = some pair ∧
        (Crypto.keyPair .library second).run = some (.ok pair) := by
  obtain ⟨keyPair, hkey, h⟩ := Run.exists_of_run_bind_eq_ok h
  cases secondSecret with
  | none =>
    exact ⟨(keyPair, none), ⟨KeyPair.genuine_of_keyPair hkey, nofun⟩,
      Run.eq_some_of_run_lift_eq_ok h, nofun⟩
  | some secondSecret =>
    obtain ⟨second, hsecond, h⟩ := Run.exists_of_run_bind_eq_ok h
    rw [ExceptT.run_map] at hsecond
    obtain ⟨result, hresult, hmap⟩ := Option.map_eq_some_iff.mp hsecond
    cases result with
    | error error => cases hmap
    | ok pair =>
      cases hmap
      refine ⟨(keyPair, some pair), ⟨KeyPair.genuine_of_keyPair hkey, ?_⟩,
        Run.eq_some_of_run_lift_eq_ok h, ?_⟩
      · rintro other ⟨⟩
        exact KeyPair.genuine_of_keyPair hresult
      · rintro other ⟨⟩
        exact ⟨pair, rfl, hresult⟩

/-- The library verifies every transaction that it signs with secrets, from the posted fields alone:
the signature under the posted key, and the second signature under the key of the second secret. -/
theorem verifyPosted_of_signSecret {amount : Double} {type : TransactionType}
    {recipientId : SwiftString} {timestamp : Option UInt32} {asset : Option Asset} {now : Double}
    {self signed : NewTransaction} {secret : SwiftString} {secondSecret : Option SwiftString}
    (h : init amount type recipientId timestamp asset now = some self)
    (hsign : (self.signSecret .library secret secondSecret).run = some (.ok signed)) :
    (verifyPosted signed.dict).run = some (.ok true) ∧
      ∀ second, secondSecret = some second → ∃ pair,
        (Crypto.keyPair .library second).run = some (.ok pair) ∧
          (verifyPostedSecond signed.dict pair.publicKey).run = some (.ok true) := by
  obtain ⟨hunsigned, -⟩ := eq_of_init_eq_some h
  obtain ⟨call, hcall, hcallSign, hsecondSecret⟩ := exists_genuineCall_of_signSecret hsign
  obtain ⟨signatures, hstores, hkey, hbody, signature, rest, rfl, hverifies, hsecond⟩ :=
    callVerified_of_sign hunsigned.stores hcall hcallSign
  have hwire : signed.wireBody call.1.publicKey = self.wireBody call.1.publicKey :=
    wireBody_eq_of_unsigned_eq hbody _
  have hposted : postedBody signed.dict =
      some (Wire.body.encode (self.wireBody call.1.publicKey)) := by
    rw [postedBody_dict hkey, bodyBytes, hwire]
  have hsignature : postedBytes signed.dict "signature" = signature.toList :=
    postedBytes_signature hstores.signature
  have hpublicKey : PublicKey.ofBytes (postedBytes signed.dict "senderPublicKey") =
      .ok call.1.publicKey := by
    have hbytes : postedBytes signed.dict "senderPublicKey" = call.1.publicKey.bytes := by
      simp [postedBytes, lookup_dict, hkey, KeyPair.publicKeyString]
    rw [hbytes, PublicKey.ofBytes_bytes]
  constructor
  · obtain ⟨hash, hhash, hverify⟩ := hverifies
    rw [Wire.encode_signed, List.flatMap_nil, List.append_nil] at hhash
    rw [verifyPosted, Run.run_bind_of_eq_ok (Run.run_lift_of_eq_some hposted),
      Run.run_bind_of_eq_ok (Run.run_lift_of_eq_some hhash),
      Run.run_bind_of_eq_ok (Run.run_mk_of_eq_ok hpublicKey), hsignature]
    exact Run.run_mk_of_eq_ok hverify
  · intro second hsome
    obtain ⟨pair, hpair, hrun⟩ := hsecondSecret second hsome
    obtain ⟨signSignature, rfl, hash, hhash, hverify⟩ := hsecond pair hpair
    have hsignSignature : postedBytes signed.dict "signSignature" = signSignature.toList := by
      have hstored : signed.signSignature = some (hexString signSignature.toList) :=
        hstores.signSignature
      rw [postedBytes_signSignature, signSignatureBytes, hstored]
      exact hexBytes_hexString _
    rw [Wire.encode_signed, List.tail_nil, List.flatMap_singleton, ← hsignature] at hhash
    refine ⟨pair, hrun, ?_⟩
    rw [verifyPostedSecond, Run.run_bind_of_eq_ok (Run.run_lift_of_eq_some hposted),
      Run.run_bind_of_eq_ok (Run.run_lift_of_eq_some hhash), hsignSignature]
    exact Run.run_mk_of_eq_ok hverify

/-- The test's transaction, signed with two secrets. -/
theorem verifyPosted_of_signSecret_two_secrets :
    ∃ signed second,
      (tenthTransfer.signSecret .library (ofScalars ['a']) (some (ofScalars ['b', 'c']))).run =
          some (.ok signed) ∧
        (verifyPosted signed.dict).run = some (.ok true) ∧
        (Crypto.keyPair .library (ofScalars ['b', 'c'])).run = some (.ok second) ∧
        (verifyPostedSecond signed.dict second.publicKey).run = some (.ok true) := by
  obtain ⟨keyPair, hkeyPair⟩ := Crypto.exists_keyPair_eq_some .library
    (show SHA256.Paddable (utf8 (ofScalars ['a'])).length by decide)
  obtain ⟨secondKeyPair, hsecondKeyPair⟩ := Crypto.exists_keyPair_eq_some .library
    (show SHA256.Paddable (utf8 (ofScalars ['b', 'c'])).length by decide)
  obtain ⟨signatures, hash, hsign, -⟩ :=
    exists_sign_of_unsigned .library unsigned_tenthTransfer keyPair (some secondKeyPair)
  have hsecond : (some <$> Crypto.keyPair .library (ofScalars ['b', 'c'])).run =
      some (.ok (some secondKeyPair)) := by
    rw [ExceptT.run_map, hsecondKeyPair]
    rfl
  have hrun : (tenthTransfer.signSecret .library (ofScalars ['a'])
      (some (ofScalars ['b', 'c']))).run =
        some (.ok (tenthTransfer.store keyPair signatures hash)) := by
    rw [signSecret, Run.run_bind_of_eq_ok hkeyPair, Run.run_bind_of_eq_ok hsecond]
    exact Run.run_lift_of_eq_some hsign
  obtain ⟨hverify, hverifySecond⟩ :=
    verifyPosted_of_signSecret (init_tenthTransfer none (.nearest 0)) hrun
  obtain ⟨second, hsecondRun, hsecondVerify⟩ := hverifySecond _ rfl
  exact ⟨_, second, hrun, hverify, hsecondRun, hsecondVerify⟩

end NewTransaction

end RxLisk

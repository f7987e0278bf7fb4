import RxLisk.Transactions.Recipient

/-!
# The posted dictionary

What is posted determines what was signed, and what was signed determines what is posted.
-/

namespace RxLisk

open SwiftString

namespace NewTransaction

/-! ## From the dictionary to the signed bytes -/

/-- The body, serialised again from the posted fields alone. -/
def postedBody (dict : Dictionary) : Option (List UInt8) := do
  let .number type ← dict.lookup "type" | none
  let .number timestamp ← dict.lookup "timestamp" | none
  let .string senderPublicKey ← dict.lookup "senderPublicKey" | none
  let .string recipientId ← dict.lookup "recipientId" | none
  let .string amountText ← dict.lookup "amount" | none
  let amount ← toUInt64 amountText
  return [UInt8.ofNat type.num.toNat] ++
    BytePacker.pack (UInt32.ofNat timestamp.num.toNat) .littleEndian ++
    hexBytes senderPublicKey ++ encodeRecipientId recipientId ++
    BytePacker.pack amount .littleEndian

/-- The bytes of a posted hexadecimal field, none when it is not posted. -/
def postedBytes (dict : Dictionary) (key : String) : List UInt8 :=
  match dict.lookup key with
  | some (.string text) => hexBytes text
  | _ => []

theorem postedBody_dict {self : NewTransaction} {keyPair : KeyPair}
    (h : self.senderPublicKey = some keyPair.publicKeyString) :
    postedBody self.dict = some (self.bodyBytes keyPair) := by
  simp [postedBody, lookup_dict, h, bodyBytes, Wire.encode_body, encodeRecipientId_eq, wireBody,
    KeyPair.publicKeyString, PublicKey.bytes]

/-- The posted results of signing. -/
theorem lookup_signed (self : NewTransaction) :
    self.dict.lookup "id" = self.id.map Json.string ∧
      self.dict.lookup "signature" = self.signature.map Json.string ∧
      self.dict.lookup "signSignature" = self.signSignature.map Json.string := by
  simp [lookup_dict]

theorem postedBytes_signature {self : NewTransaction} {signature : List UInt8}
    (h : self.signature = some (hexString signature)) :
    postedBytes self.dict "signature" = signature := by
  simp [postedBytes, lookup_dict, h]

theorem postedBytes_signSignature (self : NewTransaction) :
    postedBytes self.dict "signSignature" = self.signSignatureBytes := by
  cases h : self.signSignature <;>
    simp [postedBytes, lookup_dict, h, signSignatureBytes, optionalHexBytes]

/-- One call on a transaction that was never signed stores an endorsement of the body by its key
pairs, and the identifier of the result. -/
theorem exists_sign_of_unsigned (ed25519 : Ed25519) {self : NewTransaction} (h : self.Unsigned)
    (keyPair : KeyPair) (secondKeyPair : Option KeyPair) :
    ∃ signatures hash,
      self.sign SHA256.digestOf ed25519 keyPair secondKeyPair =
        some (self.store keyPair signatures hash) ∧
      Wire.Endorsed SHA256.digestOf ed25519 (self.wireBody keyPair.publicKey) []
        (keyPair :: secondKeyPair.toList) signatures ∧
      SHA256.digestOf (Wire.signed.encode (self.wireBody keyPair.publicKey, signatures)) =
        some hash := by
  obtain ⟨next, -, log, hrecorded, -⟩ :=
    exists_sign_recorded ed25519 ⟨[], h.stores⟩ keyPair secondKeyPair []
  have hsign := fst_sign_recorded ed25519 self keyPair secondKeyPair []
  rw [hrecorded, sign_eq_resign SHA256.digestOf ed25519 h.stores] at hsign
  obtain ⟨⟨signatures, hash⟩, hresign, hstore⟩ := Option.map_eq_some_iff.mp hsign.symm
  obtain ⟨hendorsed, hhash⟩ := Wire.endorsed_of_resign hresign
  refine ⟨signatures, hash, ?_, hendorsed, hhash⟩
  rw [sign_eq_resign SHA256.digestOf ed25519 h.stores, hresign]
  rfl

/-- A posted transaction can be verified from its own fields. -/
theorem dict_verifiable {amount : Double} {type : TransactionType} {recipientId : SwiftString}
    {timestamp : Option UInt32} {asset : Option Asset} {now : Double} {self : NewTransaction}
    (h : init amount type recipientId timestamp asset now = some self) (ed25519 : Ed25519)
    (keyPair : KeyPair) (secondKeyPair : Option KeyPair) :
    ∃ signed body, self.sign SHA256.digestOf ed25519 keyPair secondKeyPair = some signed ∧
      postedBody signed.dict = some body ∧
      (∃ hash, SHA256.digestOf body = some hash ∧
        signed.dict.lookup "signature" =
          some (.string (hexString (keyPair.sign ed25519 hash)))) ∧
      (secondKeyPair = none → signed.dict.lookup "signSignature" = none) ∧
      (∀ second, secondKeyPair = some second → ∃ hash,
        SHA256.digestOf (body ++ postedBytes signed.dict "signature") = some hash ∧
        signed.dict.lookup "signSignature" =
          some (.string (hexString (second.sign ed25519 hash)))) ∧
      ∃ hash, SHA256.digestOf (body ++ postedBytes signed.dict "signature" ++
          postedBytes signed.dict "signSignature") = some hash ∧
        signed.dict.lookup "id" =
          some (.string (decimal (LittleEndian.value (hash.take 8)))) := by
  obtain ⟨hunsigned, -⟩ := eq_of_init_eq_some h
  obtain ⟨signatures, hash, hsign, hendorsed, hhash⟩ :=
    exists_sign_of_unsigned ed25519 hunsigned keyPair secondKeyPair
  have hidentifier := Crypto.byteIdentifier_eq
    (by rw [SHA256.length_of_digestOf_eq_some hhash]; decide : 8 ≤ hash.length)
  have hbody : postedBody (self.store keyPair signatures hash).dict =
      some (self.bodyBytes keyPair) := postedBody_dict rfl
  obtain ⟨hid, hsignature, hsignSignature⟩ := lookup_signed (self.store keyPair signatures hash)
  have hpostedSecond := postedBytes_signSignature (self.store keyPair signatures hash)
  refine ⟨_, self.bodyBytes keyPair, hsign, hbody, ?_⟩
  rw [hid, hsignature, hsignSignature, hpostedSecond]
  rw [Wire.encode_signed] at hhash
  have hidText : (self.store keyPair signatures hash).id.map Json.string =
      some (.string (decimal (LittleEndian.value (hash.take 8)))) := by
    rw [← hidentifier]
    rfl
  obtain ⟨signature, rest, rfl, hendorse, hrest⟩ := Wire.exists_of_endorsed_cons hendorsed
  obtain ⟨bodyHash, hbodyHash, hbytes⟩ := Wire.exists_hash_of_endorse hendorse
  have hposted : postedBytes (self.store keyPair (signature :: rest) hash).dict "signature" =
      signature.toList := postedBytes_signature rfl
  rw [Wire.encode_signed] at hbodyHash
  rw [hposted]
  refine ⟨⟨bodyHash, by simpa [bodyBytes] using hbodyHash, by rw [hbytes]; rfl⟩, ?_⟩
  cases secondKeyPair with
  | none =>
    obtain rfl := Wire.eq_nil_of_endorsed_nil hrest
    refine ⟨fun _ ↦ rfl, ?_, hash, ?_, hidText⟩
    · intro other hother
      cases hother
    · simpa [bodyBytes, store, signSignatureBytes, optionalHexBytes] using hhash
  | some second =>
    obtain ⟨signSignature, rest, rfl, hendorseSecond, hrest⟩ := Wire.exists_of_endorsed_cons hrest
    obtain rfl := Wire.eq_nil_of_endorsed_nil hrest
    obtain ⟨firstHash, hfirstHash, hsecondBytes⟩ := Wire.exists_hash_of_endorse hendorseSecond
    rw [Wire.encode_signed] at hfirstHash
    refine ⟨?_, ?_, hash, ?_, hidText⟩
    · intro hnone
      cases hnone
    · intro other hother
      cases hother
      exact ⟨firstHash, by simpa [bodyBytes] using hfirstHash, by rw [hsecondBytes]; rfl⟩
    · simpa [bodyBytes, store, signSignatureBytes, optionalHexBytes] using hhash

theorem dict_verifiable_tenthTransfer :
    init (.nearest ((10 ^ 7 : ℕ) / 10 ^ 8)) .transfer
      (Crypto.addressOf 7371991915110534872) (some 0) none (.nearest 0) =
        some tenthTransfer ∧
    ∀ (ed25519 : Ed25519) (keyPair : KeyPair), ∃ signed body,
      tenthTransfer.sign SHA256.digestOf ed25519 keyPair none = some signed ∧
      postedBody signed.dict = some body ∧ signed.dict.lookup "signSignature" = none := by
  refine ⟨init_tenthTransfer _ _, fun ed25519 keyPair ↦ ?_⟩
  obtain ⟨signed, body, hsign, hbody, -, hnone, -⟩ :=
    dict_verifiable (init_tenthTransfer none (.nearest 0)) ed25519 keyPair none
  exact ⟨signed, body, hsign, hbody, hnone rfl⟩

/-! ## From the signed bytes to the dictionary -/

theorem signedBy_of_sign_eq_some {ed25519 : Ed25519} {self next : NewTransaction}
    {keyPair : KeyPair} {secondKeyPair : Option KeyPair} (h : ∃ signatures, self.Stores signatures)
    (hsign : self.sign SHA256.digestOf ed25519 keyPair secondKeyPair = some next) :
    next.unsigned = self.unsigned ∧ ∃ signatures, next.SignedBy keyPair signatures := by
  obtain ⟨other, signatures, hashed, hrecorded, hbody, hsigned, -⟩ :=
    exists_sign_recorded ed25519 h keyPair secondKeyPair []
  have hplain := fst_sign_recorded ed25519 self keyPair secondKeyPair []
  rw [hrecorded, hsign] at hplain
  cases hplain
  exact ⟨hbody, signatures, hsigned⟩

theorem DerivedFrom.of_sign_eq_some {ed25519 : Ed25519} {start self next : NewTransaction}
    {keyPair : KeyPair} {secondKeyPair : Option KeyPair} (h : self.DerivedFrom start)
    (hsign : self.sign SHA256.digestOf ed25519 keyPair secondKeyPair = some next) :
    next.DerivedFrom start := by
  obtain ⟨hbody, signatures, hsigned⟩ := signedBy_of_sign_eq_some h.stores hsign
  exact ⟨hbody.trans h.unsigned, signatures, hsigned.stores⟩

/-- A nonempty run ends with the signatures and the identifier of its last call. -/
theorem signedBy_of_signAll {ed25519 : Ed25519} {self final : NewTransaction}
    {calls : List (KeyPair × Option KeyPair)} (h : self.Unsigned) (hcalls : calls ≠ [])
    (hfinal : signAll SHA256.digestOf ed25519 self calls = some final) :
    final.unsigned = self ∧ ∃ keyPair signatures, final.SignedBy keyPair signatures := by
  obtain ⟨previous, call, hprevious, hlast⟩ :=
    Run.exists_last_step (fun transaction ↦ transaction.DerivedFrom self)
      (fun _ _ _ hstate hnext ↦ hstate.of_sign_eq_some hnext) hcalls h.derivedFrom hfinal
  obtain ⟨hbody, hsigned⟩ := signedBy_of_sign_eq_some hprevious.stores hlast
  refine ⟨?_, call.1, hsigned⟩
  calc
    final.unsigned = previous.unsigned := hbody
    _ = self.unsigned := hprevious.unsigned
    _ = self := h.unsigned_eq

/-- The bytes of a signed transaction determine its body, its key and its signatures. -/
theorem eq_of_signedBy_of_bytes_eq {left right : NewTransaction} {leftPair rightPair : KeyPair}
    {leftSignatures rightSignatures : List Wire.Signature}
    (hleft : left.SignedBy leftPair leftSignatures)
    (hright : right.SignedBy rightPair rightSignatures) (h : left.bytes = right.bytes) :
    left.wireBody leftPair.publicKey = right.wireBody rightPair.publicKey ∧
      leftSignatures = rightSignatures := by
  rw [bytes_eq_encode hleft.senderPublicKey hleft.stores,
    bytes_eq_encode hright.senderPublicKey hright.stores] at h
  exact Prod.mk.inj (Wire.signed.encode_injective h)

/-- Two signed transactions with the recipients of addresses that have the same bytes are posted as
the same dictionary. -/
theorem dict_eq_of_bytes_eq {leftAmount rightAmount : Double}
    {leftType rightType : TransactionType} {leftRecipient rightRecipient : UInt64}
    {leftTimestamp rightTimestamp : Option UInt32} {leftAsset rightAsset : Option Asset}
    {leftNow rightNow : Double} {leftStart rightStart left right : NewTransaction}
    {ed25519 : Ed25519} {leftCalls rightCalls : List (KeyPair × Option KeyPair)}
    (hleftStart : init leftAmount leftType (Crypto.addressOf leftRecipient) leftTimestamp leftAsset
      leftNow = some leftStart)
    (hrightStart : init rightAmount rightType (Crypto.addressOf rightRecipient) rightTimestamp
      rightAsset rightNow = some rightStart)
    (hleftCalls : leftCalls ≠ []) (hrightCalls : rightCalls ≠ [])
    (hleft : signAll SHA256.digestOf ed25519 leftStart leftCalls = some left)
    (hright : signAll SHA256.digestOf ed25519 rightStart rightCalls = some right)
    (h : left.bytes = right.bytes) : left.dict = right.dict := by
  obtain ⟨hleftUnsigned, -, -, hleftRecipient⟩ := eq_of_init_eq_some hleftStart
  obtain ⟨hrightUnsigned, -, -, hrightRecipient⟩ := eq_of_init_eq_some hrightStart
  obtain ⟨hleftBody, leftPair, leftSignatures, hleftSigned⟩ :=
    signedBy_of_signAll hleftUnsigned hleftCalls hleft
  obtain ⟨hrightBody, rightPair, rightSignatures, hrightSigned⟩ :=
    signedBy_of_signAll hrightUnsigned hrightCalls hright
  obtain ⟨hbody, rfl⟩ := eq_of_signedBy_of_bytes_eq hleftSigned hrightSigned h
  subst hleftBody hrightBody
  have hleftFee : left.type.transactionFee = some left.fee := hleftUnsigned.fee
  have hrightFee : right.type.transactionFee = some right.fee := hrightUnsigned.fee
  change left.recipientId = _ at hleftRecipient
  change right.recipientId = _ at hrightRecipient
  simp only [wireBody, Wire.Body.mk.injEq, hleftRecipient, hrightRecipient,
    recipientNumber_addressOf] at hbody
  obtain ⟨htype, htimestamp, hkey, hrecipient, hamount⟩ := hbody
  have hfee : left.fee = right.fee := by
    rw [htype, hrightFee] at hleftFee
    exact (Option.some.inj hleftFee).symm
  have hid : left.id = right.id := by
    obtain ⟨leftHash, hleftHash, hleftId⟩ := hleftSigned.id
    obtain ⟨rightHash, hrightHash, hrightId⟩ := hrightSigned.id
    rw [h, hrightHash] at hleftHash
    rw [hleftId, hrightId, Option.some.inj hleftHash]
  have hsender : left.senderPublicKey = right.senderPublicKey := by
    rw [hleftSigned.senderPublicKey, hrightSigned.senderPublicKey, KeyPair.publicKeyString,
      KeyPair.publicKeyString, PublicKey.bytes, PublicKey.bytes, hkey]
  have hsignature : left.signature = right.signature := by
    rw [hleftSigned.stores.signature, hrightSigned.stores.signature]
  have hsignSignature : left.signSignature = right.signSignature := by
    rw [hleftSigned.stores.signSignature, hrightSigned.stores.signSignature]
  unfold dict
  rw [hid, htype, hamount, hfee, hleftRecipient, hrightRecipient, hrecipient, hsender, htimestamp,
    hsignature, hsignSignature]

/-- A call with the scheme of zero bytes leaves the one signature of zero bytes. -/
theorem exists_sign_default {self : NewTransaction} {stored : List Wire.Signature}
    (h : self.Stores stored) (hlength : stored.length ≤ 1) (keyPair : KeyPair) :
    ∃ next, self.sign SHA256.digestOf default keyPair none = some next ∧
      next.unsigned = self.unsigned ∧ next.senderPublicKey = some keyPair.publicKeyString ∧
      next.Stores [Vector.replicate 64 0] := by
  have htail : stored.tail = [] := by
    rw [← List.length_eq_zero_iff, List.length_tail]
    omega
  obtain ⟨bodyHash, hbodyHash⟩ :=
    Wire.exists_digestOf_encode (self.wireBody keyPair.publicKey) h.length_le
  obtain ⟨hash, hhash⟩ := Wire.exists_digestOf_encode (self.wireBody keyPair.publicKey)
    (show [(Vector.replicate 64 0 : Wire.Signature)].length ≤ 2 by decide)
  refine ⟨self.store keyPair [Vector.replicate 64 0] hash, ?_, rfl, rfl, rfl, rfl, by decide⟩
  have hsign : (default : Ed25519).sign bodyHash keyPair.publicKey.buffer
      keyPair.privateKey.buffer = Vector.replicate 64 0 := rfl
  rw [sign_eq_resign SHA256.digestOf default h]
  simp [Wire.resign, Wire.endorse, hbodyHash, hsign, htail, hhash]

/-- The transaction of the test, built with different clocks and signed once and twice. -/
theorem dict_eq_of_bytes_eq_one_and_two_calls :
    Crypto.addressOf 7371991915110534872 = tenthTransfer.recipientId ∧
    ∀ keyPair : KeyPair, ∃ left right,
      signAll SHA256.digestOf default tenthTransfer [(keyPair, none)] = some left ∧
      signAll SHA256.digestOf default tenthTransfer [(keyPair, none), (keyPair, none)] =
        some right ∧
      left.bytes = right.bytes ∧ left.dict = right.dict := by
  refine ⟨rfl, fun keyPair ↦ ?_⟩
  obtain ⟨left, hleft, hleftBody, hleftKey, hleftStores⟩ :=
    exists_sign_default unsigned_tenthTransfer.stores (Nat.zero_le 1) keyPair
  obtain ⟨right, hright, hrightBody, hrightKey, hrightStores⟩ :=
    exists_sign_default hleftStores le_rfl keyPair
  have hleftRun : signAll SHA256.digestOf default tenthTransfer [(keyPair, none)] = some left := by
    simp [signAll, hleft]
  have hrightRun : signAll SHA256.digestOf default tenthTransfer
      [(keyPair, none), (keyPair, none)] = some right := by
    simp [signAll, hleft, hright]
  have hbytes : left.bytes = right.bytes := by
    rw [bytes_eq_encode hleftKey hleftStores, bytes_eq_encode hrightKey hrightStores,
      wireBody_eq_of_unsigned_eq hrightBody]
  exact ⟨left, right, hleftRun, hrightRun, hbytes,
    dict_eq_of_bytes_eq (init_tenthTransfer none (.nearest 0)) (init_tenthTransfer (some {}) .nan)
      (List.cons_ne_nil _ _) (List.cons_ne_nil _ _) hleftRun hrightRun hbytes⟩

/-! ## Reading the dictionary back -/

open Decoder

section Echo

variable {self : NewTransaction} {members : Dictionary} (h : members.Perm self.dict)
include h

theorem lookup_eq_of_perm_dict (key : String) : members.lookup key = self.dict.lookup key :=
  (Dictionary.lookup_eq_of_perm h.symm self.distinct_dict key).symm

theorem required_of_perm_dict {α : Type} (value : Decoder α) {key : String} {json : Json}
    (hkey : self.dict.lookup key = some json) :
    required value members [] key = value [.name key] json :=
  required_eq_of_lookup ((lookup_eq_of_perm_dict h key).trans hkey) []

theorem optional_of_perm_dict {α : Type} (value : Decoder α) {key : String}
    (hkey : self.dict.lookup key = none) :
    optional value members [] key = .ok none :=
  optional_eq_of_missing ((lookup_eq_of_perm_dict h key).trans hkey) []

end Echo

/-- The asset is posted empty, and a transaction of the node is only read with a delegate in its
asset. -/
theorem decode_eq_error_of_signedBy {final : NewTransaction} {keyPair : KeyPair}
    {signatures : List Wire.Signature} {members : Dictionary}
    (hsigned : final.SignedBy keyPair signatures) (hmembers : members.Perm final.dict) :
    Transaction.decode [] (.object members) =
      .error (.keyNotFound "delegate" [.name "asset"]) := by
  obtain ⟨signature, rest, rfl⟩ := List.exists_cons_of_ne_nil hsigned.ne_nil
  obtain ⟨hash, -, hid⟩ := hsigned.id
  have hsignature : final.signature = some (hexString signature.toList) :=
    hsigned.stores.signature
  -- the members in front of the asset are read in the order of their declarations
  have hstring (key : String) (text : SwiftString)
      (hkey : final.dict.lookup key = some (.string text)) :
      required string members [] key = .ok text :=
    required_of_perm_dict hmembers string hkey
  have hidRead := hstring "id" (Crypto.byteIdentifier hash) (by simp [lookup_dict, hid])
  have hamount := hstring "amount" (decimal final.amount.toNat) (by simp [lookup_dict])
  have hfee := hstring "fee" (decimal final.fee.toNat) (by simp [lookup_dict])
  have hkey := hstring "senderPublicKey" keyPair.publicKeyString
    (by simp [lookup_dict, hsigned.senderPublicKey])
  have hrecipient := hstring "recipientId" final.recipientId (by simp [lookup_dict])
  have hsignatureRead := hstring "signature" (hexString signature.toList)
    (by simp [lookup_dict, hsignature])
  have htype : required TransactionType.decode members [] "type" = .ok final.type :=
    (required_of_perm_dict hmembers _ (by simp [lookup_dict])).trans
      (TransactionType.decode_rawValue final.type _)
  have htimestamp : required (Decoder.unsigned (2 ^ 64)) members [] "timestamp" =
      .ok final.timestamp.toNat :=
    (required_of_perm_dict hmembers _ (by simp [lookup_dict])).trans
      (unsigned_natCast (final.timestamp.toNat_lt.trans (by norm_num)) _)
  have hsignSignature : optional string members [] "signSignature" = .ok final.signSignature :=
    optional_string ((lookup_eq_of_perm_dict hmembers _).trans (by simp [lookup_dict])) []
  have hmissing {α : Type} (value : Decoder α) (key : String)
      (hkey : final.dict.lookup key = none) : optional value members [] key = .ok none :=
    optional_of_perm_dict hmembers value hkey
  have hasset : required Transaction.Asset.decode members [] "asset" =
      .error (.keyNotFound "delegate" [.name "asset"]) := by
    rw [required_of_perm_dict hmembers _ (by simp [lookup_dict]; rfl)]
    exact Transaction.Asset.decode_eq_error rfl _
  simp only [Transaction.decode, container, bind, Except.bind, hidRead, hamount, hfee, htype,
    htimestamp, hkey, hrecipient, hsignatureRead, hsignSignature, hasset,
    hmissing _ "height" (by simp [lookup_dict]), hmissing _ "blockId" (by simp [lookup_dict]),
    hmissing _ "senderId" (by simp [lookup_dict]),
    hmissing _ "senderSecondPublicKey" (by simp [lookup_dict]),
    hmissing _ "recipientPublicKey" (by simp [lookup_dict]),
    hmissing _ "signatures" (by simp [lookup_dict]),
    hmissing _ "confirmations" (by simp [lookup_dict])]

/-- What is posted is never read back, whatever was built and however it was signed. -/
theorem decode_dict_eq_error {amount : Double} {type : TransactionType}
    {recipientId : SwiftString} {timestamp : Option UInt32} {asset : Option Asset} {now : Double}
    {self final : NewTransaction} {ed25519 : Ed25519} {calls : List (KeyPair × Option KeyPair)}
    {members : Dictionary} (h : init amount type recipientId timestamp asset now = some self)
    (hcalls : calls ≠ []) (hfinal : signAll SHA256.digestOf ed25519 self calls = some final)
    (hmembers : members.Perm final.dict) :
    Transaction.decode [] (.object members) =
        .error (.keyNotFound "delegate" [.name "asset"]) ∧
      ¬∃ transaction, Transaction.decode [] (.object members) = .ok transaction := by
  obtain ⟨hunsigned, -⟩ := eq_of_init_eq_some h
  obtain ⟨-, keyPair, signatures, hsigned⟩ := signedBy_of_signAll hunsigned hcalls hfinal
  have herror := decode_eq_error_of_signedBy hsigned hmembers
  refine ⟨herror, ?_⟩
  rintro ⟨transaction, hok⟩
  rw [herror] at hok
  cases hok

/-- The posted transaction of the test, echoed with its members in the order of posting. -/
theorem decode_dict_eq_error_tenthTransfer :
    tenthTransfer.type = .transfer ∧
    ∀ (ed25519 : Ed25519) (keyPair : KeyPair), ∃ signed,
      tenthTransfer.signAll SHA256.digestOf ed25519 [(keyPair, none)] = some signed ∧
      Transaction.decode [] (.object signed.dict) =
        .error (.keyNotFound "delegate" [.name "asset"]) := by
  refine ⟨rfl, fun ed25519 keyPair ↦ ?_⟩
  have hstart := init_tenthTransfer none (.nearest 0)
  obtain ⟨signed, -, -, hsigned, -⟩ :=
    exists_signAll_recorded ed25519 unsigned_tenthTransfer [(keyPair, none)]
  exact ⟨signed, hsigned,
    (decode_dict_eq_error hstart (List.cons_ne_nil _ _) hsigned (List.Perm.refl _)).1⟩

/-- A signed transaction that is echoed unchanged is not decoded. -/
theorem echoed_transaction_is_not_decoded :
    ¬∀ (ed25519 : Ed25519) (keyPair : KeyPair) (signed : NewTransaction),
      tenthTransfer.sign SHA256.digestOf ed25519 keyPair none = some signed →
        ∃ transaction, Transaction.decode [] (.object signed.dict) = .ok transaction := by
  intro hclaim
  have hunsigned := unsigned_tenthTransfer
  obtain ⟨signatures, hash, hsign, -⟩ := exists_sign_of_unsigned default hunsigned default none
  obtain ⟨-, stored, hsigned⟩ := signedBy_of_sign_eq_some ⟨[], hunsigned.stores⟩ hsign
  obtain ⟨transaction, hok⟩ := hclaim default default _ hsign
  rw [decode_eq_error_of_signedBy hsigned (List.Perm.refl _)] at hok
  cases hok

end NewTransaction

end RxLisk

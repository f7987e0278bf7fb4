import RxLisk.Transactions.Signing

/-!
# The recipient

The recipient is posted as a string and signed as a number.  A string of the form that
`Crypto.address` returns is signed as the number in front of its suffix; every other string is
signed as well, as the number that is left when all suffixes are stripped, or as zero.
-/

namespace RxLisk

open SwiftString

namespace NewTransaction

theorem removingOccurrences_addressOf (number : UInt64) :
    removingOccurrences Crypto.addressSuffix (Crypto.addressOf number) = decimal number.toNat := by
  apply removingOccurrences_decimal_append
  intro digit hdigit
  interval_cases digit <;> decide

/-- An address is signed as its number. -/
@[simp]
theorem recipientNumber_addressOf (number : UInt64) :
    recipientNumber (Crypto.addressOf number) = number := by
  rw [recipientNumber, removingOccurrences_addressOf, toUInt64_decimal]
  rfl

/-- The recipient bytes of a body, whatever follows it. -/
theorem recipient_of_encode (value : Wire.Body) (signatures : List UInt8) :
    ((Wire.body.encode value ++ signatures).drop 37).take 8 =
      BytePacker.pack value.recipient .bigEndian := by
  have hprefix : ([value.type.rawValue] ++ BytePacker.pack value.timestamp .littleEndian ++
      value.senderPublicKey.toList).length = 37 := by
    simp [MemoryLayout.size]
  have hrecipient : (BytePacker.pack value.recipient .bigEndian).length = 8 :=
    BytePacker.length_pack _ _
  rw [Wire.encode_body, List.append_assoc, List.append_assoc, List.drop_left' hprefix,
    List.take_left' hrecipient]

/-- A number in big-endian order, read from its last byte on. -/
theorem value_reverse_pack (number : UInt64) :
    LittleEndian.value (BytePacker.pack number .bigEndian).reverse = number.toNat := by
  have hbytes : (BytePacker.pack number .bigEndian).reverse = LittleEndian.encode 8 number.toNat :=
    List.reverse_reverse _
  rw [hbytes, LittleEndian.value_encode_of_lt number.toNat_lt]

/-- A string is an address exactly when it is the address of the number that is signed for it. -/
theorem exists_addressOf_iff (recipientId : SwiftString) :
    (∃ number, recipientId = Crypto.addressOf number) ↔
      recipientId = Crypto.addressOf (recipientNumber recipientId) := by
  constructor
  · rintro ⟨number, rfl⟩
    rw [recipientNumber_addressOf]
  · exact fun h ↦ ⟨_, h⟩

/-- A transfer is signed whatever its recipient is.  The hashed recipient is the number that is left
of the posted string without its suffixes, or zero, and the posted string is the address of that
number exactly when it is an address at all.  Whether the call returns does not depend on the
recipient. -/
theorem hashed_recipient {self : NewTransaction} (h : self.type = .transfer) (ed25519 : Ed25519)
    (keyPair : KeyPair) (secondKeyPair : Option KeyPair) :
    (∀ signed log,
      (self.sign recordedDigest ed25519 keyPair secondKeyPair).run [] = some (signed, log) →
        signed.type = .transfer ∧
        signed.dict.lookup "recipientId" = some (.string self.recipientId) ∧ log ≠ [] ∧
        ∀ bytes ∈ log, ∃ number : UInt64,
          LittleEndian.value ((bytes.drop 37).take 8).reverse = number.toNat ∧
          number = (toUInt64 (removingOccurrences Crypto.addressSuffix self.recipientId)).getD 0 ∧
          ((∃ other, self.recipientId = Crypto.addressOf other) ↔
            self.recipientId = Crypto.addressOf number)) ∧
    ∀ recipientId,
      (∃ signed, sign SHA256.digestOf ed25519 { self with recipientId := recipientId } keyPair
        secondKeyPair = some signed) ↔
      ∃ signed, self.sign SHA256.digestOf ed25519 keyPair secondKeyPair = some signed := by
  constructor
  · intro signed log hsigned
    obtain ⟨hunchanged, hne, hlog⟩ := hashed_of_sign ed25519 hsigned
    have htype := congrArg NewTransaction.type hunchanged
    have hposted := congrArg NewTransaction.recipientId hunchanged
    change signed.recipientId = self.recipientId at hposted
    refine ⟨htype.trans h, ?_, hne, ?_⟩
    · rw [lookup_dict, hposted]
      rfl
    · intro bytes hmem
      obtain ⟨signatures, rfl⟩ := hlog bytes hmem
      refine ⟨recipientNumber self.recipientId, ?_, rfl, exists_addressOf_iff self.recipientId⟩
      rw [bodyBytes, recipient_of_encode, value_reverse_pack]
      rfl
  · intro recipientId
    rw [exists_sign_iff, exists_sign_iff]
    rfl

theorem hashed_recipient_tenthTransfer :
    tenthTransfer.type = .transfer ∧
    ∀ (ed25519 : Ed25519) (keyPair : KeyPair), ∃ signed log,
      (tenthTransfer.sign recordedDigest ed25519 keyPair none).run [] = some (signed, log) ∧
      ∀ bytes ∈ log,
        LittleEndian.value ((bytes.drop 37).take 8).reverse = 7371991915110534872 := by
  have htype : tenthTransfer.type = .transfer := rfl
  refine ⟨htype, ?_⟩
  intro ed25519 keyPair
  have hunsigned := unsigned_tenthTransfer
  obtain ⟨signed, -, log, hsigned, -⟩ :=
    exists_sign_recorded ed25519 ⟨[], hunsigned.stores⟩ keyPair none []
  obtain ⟨-, -, -, hlog⟩ := (hashed_recipient htype ed25519 keyPair none).1 signed log hsigned
  refine ⟨signed, log, hsigned, ?_⟩
  intro bytes hmem
  obtain ⟨number, hvalue, hnumber, -⟩ := hlog bytes hmem
  have hrecipient := recipientNumber_addressOf 7371991915110534872
  rw [hvalue, hnumber]
  exact congrArg UInt64.toNat hrecipient

/-- A recipient that starts with the suffix is signed although it is no address. -/
theorem misplaced_suffix_is_signed :
    ¬∀ (ed25519 : Ed25519) (keyPair : KeyPair) (self signed : NewTransaction)
      (log : List (List UInt8)), self.type = .transfer →
      self.recipientId = [Crypto.addressSuffix, { scalar := '5' }] →
      (self.sign recordedDigest ed25519 keyPair none).run [] = some (signed, log) →
        ∀ bytes ∈ log, self.recipientId =
          decimal (LittleEndian.value ((bytes.drop 37).take 8).reverse) ++
            [Crypto.addressSuffix] := by
  intro hclaim
  let self : NewTransaction :=
    { tenthTransfer with recipientId := [Crypto.addressSuffix, { scalar := '5' }] }
  have hunsigned : self.Unsigned :=
    ⟨rfl, rfl, rfl, rfl, TransactionType.transactionFee_eq .transfer⟩
  obtain ⟨signed, -, log, hsigned, -, -, hne, -⟩ :=
    exists_sign_recorded default ⟨[], hunsigned.stores⟩ default none []
  obtain ⟨bytes, hmem⟩ := List.exists_mem_of_ne_nil log hne
  have hlast := congrArg List.getLast?
    (hclaim default default self signed log rfl rfl hsigned bytes hmem)
  rw [List.getLast?_append] at hlast
  simp [self, Crypto.addressSuffix] at hlast

/-! ## Addresses of public keys -/

/-- The address of a public key, used as a recipient, is packed into the first eight bytes of the
hash in reverse order. -/
theorem recipientIdBytes_address {publicKey : SwiftString} {hash : List UInt8}
    (h : SHA256.digestOf (hexBytes publicKey) = some hash) :
    ∃ address, Crypto.address publicKey = some address ∧
      address = decimal (LittleEndian.value (hash.take 8)) ++ [Crypto.addressSuffix] ∧
      (∀ self : NewTransaction, self.recipientId = address →
        self.recipientIdBytes = (hash.take 8).reverse) ∧
      (∃ number, toUInt64 (removingOccurrences Crypto.addressSuffix address) = some number ∧
        number.toNat = LittleEndian.value (hash.take 8)) ∧
      (encodeRecipientId address = List.replicate 8 0 ↔ hash.take 8 = List.replicate 8 0) := by
  have hlength := SHA256.length_of_digestOf_eq_some h
  have htake : (hash.take 8).length = 8 := by
    rw [List.length_take, hlength]
    rfl
  have hlt := Crypto.value_take_lt hash
  have hnumber : (UInt64.ofNat (LittleEndian.value (hash.take 8))).toNat =
      LittleEndian.value (hash.take 8) := UInt64.toNat_ofNat_of_lt' hlt
  generalize UInt64.ofNat (LittleEndian.value (hash.take 8)) = number at hnumber
  have hencode : encodeRecipientId (Crypto.addressOf number) = (hash.take 8).reverse := by
    rw [encodeRecipientId_eq, recipientNumber_addressOf]
    change (LittleEndian.encode 8 number.toNat).reverse = _
    rw [hnumber, LittleEndian.encode_value_of_length htake]
  refine ⟨Crypto.addressOf number, ?_, ?_, ?_, ?_, ?_⟩
  · rw [Crypto.address, h]
    simp [Crypto.byteIdentifier_eq (by omega : 8 ≤ hash.length), Crypto.addressOf, hnumber]
  · rw [Crypto.addressOf, hnumber]
  · intro self hself
    rw [recipientIdBytes, hself, hencode]
  · refine ⟨number, ?_, hnumber⟩
    rw [removingOccurrences_addressOf, toUInt64_decimal]
  · rw [hencode, List.reverse_eq_iff, List.reverse_replicate]

/-- The key of 64 digits whose bytes count from 0 to 31. -/
theorem recipientIdBytes_address_counting_key :
    ∃ key address, key = hexString ((List.range 32).map UInt8.ofNat) ∧ key.length = 64 ∧
      Crypto.address key = some address ∧
      encodeRecipientId address = [0x66, 0x33, 0xc4, 0x66, 0x29, 0xcd, 0x0d, 0x63] := by
  have hhash : SHA256.digestOf (hexBytes (hexString ((List.range 32).map UInt8.ofNat))) = some
      [0x63, 0x0d, 0xcd, 0x29, 0x66, 0xc4, 0x33, 0x66, 0x91, 0x12, 0x54, 0x48, 0xbb, 0xb2,
        0x5b, 0x4f, 0xf4, 0x12, 0xa4, 0x9c, 0x73, 0x2d, 0xb2, 0xc8, 0xab, 0xc1, 0xb8, 0x58,
        0x1b, 0xd7, 0x10, 0xdd] := by
    rw [hexBytes_hexString]
    decide +kernel
  obtain ⟨address, haddress, -, hbytes, -⟩ := recipientIdBytes_address hhash
  exact ⟨_, address, rfl, by simp [length_hexString], haddress,
    hbytes { tenthTransfer with recipientId := address } rfl⟩

end NewTransaction

end RxLisk

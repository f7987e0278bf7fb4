import RxLisk.Library.Run
import RxLisk.Transactions.Wire

/-!
# Signing

Signing hashes the bytes of the transaction as they are when a signature is made, including the
signatures that an earlier call left behind.  `sign_eq` says what one call does to any transaction;
over transactions that store well-formed signatures it is `Wire.resign`, and every later result is
derived from the one or the other.
-/

namespace RxLisk

open SwiftString

namespace NewTransaction

/-! ## The bytes of a transaction with a public key -/

/-- The number that is signed as the recipient. -/
def recipientNumber (recipientId : SwiftString) : UInt64 :=
  (toUInt64 (removingOccurrences Crypto.addressSuffix recipientId)).getD 0

theorem encodeRecipientId_eq (recipientId : SwiftString) :
    encodeRecipientId recipientId = BytePacker.pack (recipientNumber recipientId) .bigEndian := by
  unfold encodeRecipientId recipientNumber
  dsimp only
  cases toUInt64 (removingOccurrences Crypto.addressSuffix recipientId) with
  | none => decide
  | some number => rfl

/-- What a signature of the given key authorises. -/
def wireBody (self : NewTransaction) (publicKey : PublicKey) : Wire.Body where
  type := self.type
  timestamp := self.timestamp
  senderPublicKey := publicKey.buffer
  recipient := recipientNumber self.recipientId
  amount := self.amount

/-- The bytes in front of the signatures. -/
def bodyBytes (self : NewTransaction) (keyPair : KeyPair) : List UInt8 :=
  Wire.body.encode (self.wireBody keyPair.publicKey)

theorem length_bodyBytes (self : NewTransaction) (keyPair : KeyPair) :
    (self.bodyBytes keyPair).length = 53 :=
  Wire.body.length_encode _

@[simp]
theorem bodyBytes_unsigned (self : NewTransaction) (keyPair : KeyPair) :
    self.unsigned.bodyBytes keyPair = self.bodyBytes keyPair := rfl

@[simp]
theorem signatureBytes_unsigned (self : NewTransaction) : self.unsigned.signatureBytes = [] := rfl

@[simp]
theorem signSignatureBytes_unsigned (self : NewTransaction) :
    self.unsigned.signSignatureBytes = [] := rfl

theorem bytes_eq {self : NewTransaction} {keyPair : KeyPair}
    (h : self.senderPublicKey = some keyPair.publicKeyString) :
    self.bytes = self.bodyBytes keyPair ++ self.signatureBytes ++ self.signSignatureBytes := by
  have hkey : self.senderPublicKeyBytes = keyPair.publicKey.buffer.toList := by
    simp [senderPublicKeyBytes, optionalHexBytes, h, KeyPair.publicKeyString, PublicKey.bytes]
  rw [bytes, hkey, bodyBytes, Wire.encode_body, recipientIdBytes, encodeRecipientId_eq, assetBytes,
    List.append_nil]
  rfl

/-! ## One call -/

section Step

variable {m : Type → Type} [Monad m] [LawfulMonad m] (digest : List UInt8 → m (List UInt8))
  (ed25519 : Ed25519)

/-- What one call hashes, signs and stores. -/
theorem sign_eq (self : NewTransaction) (keyPair : KeyPair) (secondKeyPair : Option KeyPair) :
    self.sign digest ed25519 keyPair secondKeyPair = (do
      let hash ← digest
        (self.bodyBytes keyPair ++ self.signatureBytes ++ self.signSignatureBytes)
      let signature := keyPair.sign ed25519 hash
      let signed := { self with
        senderPublicKey := some keyPair.publicKeyString
        signature := some (hexString signature) }
      match secondKeyPair with
      | none =>
        let hash ← digest (self.bodyBytes keyPair ++ signature ++ self.signSignatureBytes)
        pure { signed with id := some (Crypto.byteIdentifier hash) }
      | some secondKeyPair =>
        let hash ← digest (self.bodyBytes keyPair ++ signature ++ self.signSignatureBytes)
        let signSignature := secondKeyPair.sign ed25519 hash
        let hash ← digest (self.bodyBytes keyPair ++ signature ++ signSignature)
        pure { signed with
          signSignature := some (hexString signSignature)
          id := some (Crypto.byteIdentifier hash) }) := by
  have hbytes (signature signSignature : Option SwiftString) :
      bytes { self with
        senderPublicKey := some keyPair.publicKeyString
        signature := signature
        signSignature := signSignature } =
      self.bodyBytes keyPair ++ optionalHexBytes signature ++ optionalHexBytes signSignature :=
    bytes_eq rfl
  have hhex (field : List UInt8) : optionalHexBytes (some (hexString field)) = field :=
    hexBytes_hexString field
  cases secondKeyPair <;>
    simp only [sign, generateSignature, generateId, signatureBytes, signSignatureBytes, hbytes,
      hhex, bind_assoc, pure_bind]

end Step

/-! ## Stored signatures -/

/-- The signature fields hold the hexadecimal text of at most two signatures, in their order. -/
structure Stores (transaction : NewTransaction) (signatures : List Wire.Signature) : Prop where
  signature : transaction.signature = signatures[0]?.map fun item ↦ hexString item.toList
  signSignature : transaction.signSignature = signatures[1]?.map fun item ↦ hexString item.toList
  length_le : signatures.length ≤ 2

/-- There are no signatures, the first one, or both. -/
theorem Stores.cases {transaction : NewTransaction} {signatures : List Wire.Signature}
    (h : transaction.Stores signatures) :
    signatures = [] ∨ (∃ first, signatures = [first]) ∨
      ∃ first second, signatures = [first, second] := by
  have hlength := h.length_le
  rcases signatures with _ | ⟨first, _ | ⟨second, _ | ⟨third, rest⟩⟩⟩
  · exact Or.inl rfl
  · exact Or.inr (Or.inl ⟨first, rfl⟩)
  · exact Or.inr (Or.inr ⟨first, second, rfl⟩)
  · simp only [List.length_cons] at hlength
    omega

/-- The transaction that one call leaves behind. -/
def store (self : NewTransaction) (keyPair : KeyPair) (signatures : List Wire.Signature)
    (hash : List UInt8) : NewTransaction :=
  { self with
    senderPublicKey := some keyPair.publicKeyString
    signature := signatures[0]?.map fun item ↦ hexString item.toList
    signSignature := signatures[1]?.map fun item ↦ hexString item.toList
    id := some (Crypto.byteIdentifier hash) }

theorem Unsigned.stores {self : NewTransaction} (h : self.Unsigned) : self.Stores [] :=
  ⟨h.signature, h.signSignature, Nat.zero_le 2⟩

/-- The bytes are the encoding of the body and the stored signatures. -/
theorem bytes_eq_encode {self : NewTransaction} {keyPair : KeyPair}
    {signatures : List Wire.Signature} (hkey : self.senderPublicKey = some keyPair.publicKeyString)
    (h : self.Stores signatures) :
    self.bytes = Wire.signed.encode (self.wireBody keyPair.publicKey, signatures) := by
  have hstored : self.signatureBytes ++ self.signSignatureBytes =
      signatures.flatMap Vector.toList := by
    rw [signatureBytes, signSignatureBytes, h.signature, h.signSignature]
    rcases h.cases with rfl | ⟨first, rfl⟩ | ⟨first, second, rfl⟩
    · rfl
    · simp [optionalHexBytes]
    · simp [optionalHexBytes]
  rw [bytes_eq hkey, Wire.encode_signed, List.append_assoc, hstored]
  rfl

/-- Over stored signatures a call is the abstract one. -/
theorem sign_eq_resign {m : Type → Type} [Monad m] [LawfulMonad m]
    (digest : List UInt8 → m (List UInt8)) (ed25519 : Ed25519) {self : NewTransaction}
    {signatures : List Wire.Signature} (h : self.Stores signatures) (keyPair : KeyPair)
    (secondKeyPair : Option KeyPair) :
    self.sign digest ed25519 keyPair secondKeyPair =
      (fun result ↦ self.store keyPair result.1 result.2) <$>
        Wire.resign digest ed25519 (self.wireBody keyPair.publicKey) keyPair secondKeyPair
          signatures := by
  have hsign (hash : List UInt8) (keyPair : KeyPair) :
      keyPair.sign ed25519 hash =
        (ed25519.sign hash keyPair.publicKey.buffer keyPair.privateKey.buffer).toList := rfl
  have hstored := Wire.encode_signed (self.wireBody keyPair.publicKey)
  rw [sign_eq]
  simp only [Wire.resign, Wire.endorse, store, signatureBytes, signSignatureBytes, h.signature,
    h.signSignature, hstored, hsign, bodyBytes, bind_assoc, pure_bind, map_bind]
  rcases h.cases with rfl | ⟨first, rfl⟩ | ⟨first, second, rfl⟩
  · cases secondKeyPair <;> simp [optionalHexBytes]
  · cases secondKeyPair <;> simp [optionalHexBytes]
  · cases secondKeyPair <;> simp [optionalHexBytes]

@[simp]
theorem unsigned_store (self : NewTransaction) (keyPair : KeyPair)
    (signatures : List Wire.Signature) (hash : List UInt8) :
    (self.store keyPair signatures hash).unsigned = self.unsigned := rfl

/-- The body is what no call changes. -/
theorem wireBody_eq_of_unsigned_eq {left right : NewTransaction}
    (h : left.unsigned = right.unsigned) (publicKey : PublicKey) :
    left.wireBody publicKey = right.wireBody publicKey :=
  congrArg (fun transaction ↦ transaction.wireBody publicKey) h

/-- The state after a call: the key and the signatures are stored, and the identifier is the one of
the current bytes. -/
structure SignedBy (transaction : NewTransaction) (keyPair : KeyPair)
    (signatures : List Wire.Signature) : Prop where
  stores : transaction.Stores signatures
  senderPublicKey : transaction.senderPublicKey = some keyPair.publicKeyString
  ne_nil : signatures ≠ []
  id : ∃ hash, SHA256.digestOf transaction.bytes = some hash ∧
    transaction.id = some (Crypto.byteIdentifier hash)

theorem signedBy_store (self : NewTransaction) (keyPair : KeyPair)
    {signatures : List Wire.Signature} {hash : List UInt8} (hne : signatures ≠ [])
    (hlength : signatures.length ≤ 2)
    (hhash : SHA256.digestOf (Wire.signed.encode (self.wireBody keyPair.publicKey, signatures)) =
      some hash) : (self.store keyPair signatures hash).SignedBy keyPair signatures := by
  have hstores : (self.store keyPair signatures hash).Stores signatures := ⟨rfl, rfl, hlength⟩
  refine ⟨hstores, rfl, hne, hash, ?_, rfl⟩
  rw [bytes_eq_encode rfl hstores]
  exact hhash

end NewTransaction

/-! ## Recorded hashing -/

/-- `SHA256`, with a record of everything that is hashed. -/
def recordedDigest (bytes : List UInt8) : StateT (List (List UInt8)) Option (List UInt8) := do
  modify (· ++ [bytes])
  SHA256.digestOf bytes

theorem run_recordedDigest (bytes : List UInt8) (log : List (List UInt8)) :
    (recordedDigest bytes).run log =
      (SHA256.digestOf bytes).map fun hash ↦ (hash, log ++ [bytes]) := by
  cases h : SHA256.digestOf bytes <;> simp [recordedDigest, h]

/-- One hash adds one entry to the record. -/
theorem log_of_run_recordedDigest {bytes hash : List UInt8} {log recorded : List (List UInt8)}
    (h : (recordedDigest bytes).run log = some (hash, recorded)) : recorded = log ++ [bytes] := by
  rw [run_recordedDigest] at h
  obtain ⟨_, -, heq⟩ := Option.map_eq_some_iff.mp h
  cases heq
  rfl

namespace Wire

/-- The encoding of a body with at most two signatures can be padded. -/
theorem exists_digestOf_encode (value : Body) {stored : List Signature} (h : stored.length ≤ 2) :
    ∃ hash, SHA256.digestOf (signed.encode (value, stored)) = some hash := by
  have hpaddable : SHA256.Paddable (signed.encode (value, stored)).length := by
    rw [length_encode_signed]
    unfold SHA256.Paddable
    omega
  obtain ⟨hash, hhash, _⟩ := SHA256.exists_digestOf_eq_some hpaddable
  exact ⟨hash, hhash⟩

/-- A call over at most two signatures hashes encodings of the same kind only, and leaves one or two
signatures. -/
theorem exists_resign_recorded (ed25519 : Ed25519) (value : Body) (keyPair : KeyPair)
    (secondKeyPair : Option KeyPair) {stored : List Signature} (h : stored.length ≤ 2)
    (log : List (List UInt8)) :
    ∃ signatures hash hashed,
      (resign recordedDigest ed25519 value keyPair secondKeyPair stored).run log =
        some ((signatures, hash), log ++ hashed) ∧
      signatures ≠ [] ∧ signatures.length ≤ 2 ∧
      SHA256.digestOf (signed.encode (value, signatures)) = some hash ∧ hashed ≠ [] ∧
      ∀ bytes ∈ hashed, ∃ stored : List Signature, stored.length ≤ 2 ∧
        bytes = signed.encode (value, stored) := by
  obtain ⟨bodyHash, hbodyHash⟩ := exists_digestOf_encode value h
  let signature := ed25519.sign bodyHash keyPair.publicKey.buffer keyPair.privateKey.buffer
  have hfirst : (signature :: stored.tail).length ≤ 2 := by
    rw [List.length_cons, List.length_tail]
    omega
  obtain ⟨firstHash, hfirstHash⟩ := exists_digestOf_encode value hfirst
  cases secondKeyPair with
  | none =>
    refine ⟨signature :: stored.tail, firstHash,
      [signed.encode (value, stored), signed.encode (value, signature :: stored.tail)], ?_,
      List.cons_ne_nil _ _, hfirst, hfirstHash, List.cons_ne_nil _ _, ?_⟩
    · simp [resign, endorse, run_recordedDigest, hbodyHash, hfirstHash, signature]
    · simp only [List.forall_mem_cons, List.not_mem_nil, false_implies, implies_true, and_true]
      exact ⟨⟨stored, h, rfl⟩, ⟨_, hfirst, rfl⟩⟩
  | some secondKeyPair =>
    let signSignature :=
      ed25519.sign firstHash secondKeyPair.publicKey.buffer secondKeyPair.privateKey.buffer
    have hsecond : [signature, signSignature].length ≤ 2 := le_rfl
    obtain ⟨hash, hhash⟩ := exists_digestOf_encode value hsecond
    refine ⟨[signature, signSignature], hash,
      [signed.encode (value, stored), signed.encode (value, signature :: stored.tail),
        signed.encode (value, [signature, signSignature])], ?_,
      List.cons_ne_nil _ _, hsecond, hhash, List.cons_ne_nil _ _, ?_⟩
    · simp [resign, endorse, run_recordedDigest, hbodyHash, hfirstHash, hhash, signature,
        signSignature]
    · simp only [List.forall_mem_cons, List.not_mem_nil, false_implies, implies_true, and_true]
      exact ⟨⟨stored, h, rfl⟩, ⟨_, hfirst, rfl⟩, ⟨_, hsecond, rfl⟩⟩

end Wire

namespace NewTransaction

variable (ed25519 : Ed25519)

/-- The record is not seen by the call. -/
theorem fst_sign_recorded (self : NewTransaction) (keyPair : KeyPair)
    (secondKeyPair : Option KeyPair) (log : List (List UInt8)) :
    ((self.sign recordedDigest ed25519 keyPair secondKeyPair).run log).map Prod.fst =
      self.sign SHA256.digestOf ed25519 keyPair secondKeyPair := by
  rw [sign_eq, sign_eq]
  cases secondKeyPair <;>
    simp [run_recordedDigest, Option.map_bind, Option.bind_map, Function.comp_def] <;>
    simp only [Option.map_eq_bind, Function.comp_def]

/-- One call over stored signatures: it returns, leaves the body alone and hashes only encodings of
the body with at most two signatures. -/
theorem exists_sign_recorded {self : NewTransaction} (h : ∃ signatures, self.Stores signatures)
    (keyPair : KeyPair) (secondKeyPair : Option KeyPair) (log : List (List UInt8)) :
    ∃ next signatures hashed,
      (self.sign recordedDigest ed25519 keyPair secondKeyPair).run log =
        some (next, log ++ hashed) ∧
      next.unsigned = self.unsigned ∧ next.SignedBy keyPair signatures ∧ hashed ≠ [] ∧
      ∀ bytes ∈ hashed, ∃ stored : List Wire.Signature, stored.length ≤ 2 ∧
        bytes = Wire.signed.encode (self.wireBody keyPair.publicKey, stored) := by
  obtain ⟨stored, hstores⟩ := h
  obtain ⟨signatures, hash, hashed, hrun, hne, hlength, hhash, hhashed, hencodings⟩ :=
    Wire.exists_resign_recorded ed25519 (self.wireBody keyPair.publicKey) keyPair secondKeyPair
      hstores.length_le log
  refine ⟨self.store keyPair signatures hash, signatures, hashed, ?_, unsigned_store _ _ _ _,
    signedBy_store self keyPair hne hlength hhash, hhashed, hencodings⟩
  rw [sign_eq_resign recordedDigest ed25519 hstores, StateT.run_map, hrun]
  rfl

/-- Whether a call returns is decided by the lengths of the signatures that it finds. -/
theorem exists_sign_iff (self : NewTransaction) (keyPair : KeyPair)
    (secondKeyPair : Option KeyPair) :
    (∃ next, self.sign SHA256.digestOf ed25519 keyPair secondKeyPair = some next) ↔
      SHA256.Paddable (53 + self.signatureBytes.length + self.signSignatureBytes.length) ∧
        SHA256.Paddable (117 + self.signSignatureBytes.length) := by
  have hpaddable (first second : List UInt8) :
      (∃ hash, SHA256.digestOf (self.bodyBytes keyPair ++ first ++ second) = some hash) ↔
        SHA256.Paddable (53 + first.length + second.length) := by
    rw [SHA256.exists_digestOf_iff, List.length_append, List.length_append, length_bodyBytes]
  have hsigned (signature : List UInt8) (hlength : signature.length = 64) :
      (∃ hash, SHA256.digestOf (self.bodyBytes keyPair ++ signature ++ self.signSignatureBytes) =
          some hash) ↔ SHA256.Paddable (117 + self.signSignatureBytes.length) := by
    rw [hpaddable, hlength]
  rw [sign_eq]
  constructor
  · intro ⟨next, hnext⟩
    obtain ⟨hash, hhash, hnext⟩ := Option.bind_eq_some_iff.mp hnext
    refine ⟨(hpaddable _ _).mp ⟨hash, hhash⟩, (hsigned _ (keyPair.length_sign ed25519 hash)).mp ?_⟩
    cases secondKeyPair with
    | none =>
      obtain ⟨idHash, hidHash, -⟩ := Option.bind_eq_some_iff.mp hnext
      exact ⟨idHash, hidHash⟩
    | some second =>
      obtain ⟨secondHash, hsecondHash, -⟩ := Option.bind_eq_some_iff.mp hnext
      exact ⟨secondHash, hsecondHash⟩
  · intro ⟨hfirst, hsecond⟩
    obtain ⟨hash, hhash⟩ := (hpaddable _ _).mpr hfirst
    obtain ⟨secondHash, hsecondHash⟩ := (hsigned _ (keyPair.length_sign ed25519 hash)).mpr hsecond
    cases secondKeyPair with
    | none =>
      simp only [Option.bind_eq_bind, hhash, hsecondHash, Option.bind_some]
      exact ⟨_, rfl⟩
    | some second =>
      -- two signatures always leave room for the padding
      obtain ⟨idHash, hidHash⟩ := (hpaddable (keyPair.sign ed25519 hash)
        (second.sign ed25519 secondHash)).mpr (by simp; decide)
      simp only [Option.bind_eq_bind, hhash, hsecondHash, hidHash, Option.bind_some]
      exact ⟨_, rfl⟩

/-- Everything that a call hashes begins with the body. -/
theorem hashed_of_sign {self next : NewTransaction} {keyPair : KeyPair}
    {secondKeyPair : Option KeyPair} {log : List (List UInt8)}
    (h : (self.sign recordedDigest ed25519 keyPair secondKeyPair).run [] = some (next, log)) :
    next.unsigned = self.unsigned ∧ log ≠ [] ∧
      ∀ bytes ∈ log, ∃ signatures, bytes = self.bodyBytes keyPair ++ signatures := by
  rw [sign_eq] at h
  obtain ⟨hash, bodyLog, hbody, h⟩ := Run.exists_of_run_bind_eq_some h
  have hbodyLog := log_of_run_recordedDigest hbody
  cases secondKeyPair with
  | none =>
    obtain ⟨idHash, idLog, hid, h⟩ := Run.exists_of_run_bind_eq_some h
    have hidLog := log_of_run_recordedDigest hid
    cases h
    rw [hidLog, hbodyLog]
    exact ⟨rfl, by simp, by simp⟩
  | some second =>
    obtain ⟨secondHash, secondLog, hsecond, h⟩ := Run.exists_of_run_bind_eq_some h
    have hsecondLog := log_of_run_recordedDigest hsecond
    obtain ⟨idHash, idLog, hid, h⟩ := Run.exists_of_run_bind_eq_some h
    have hidLog := log_of_run_recordedDigest hid
    cases h
    rw [hidLog, hsecondLog, hbodyLog]
    exact ⟨rfl, by simp, by simp⟩

/-! ## Runs of calls -/

/-- Any number of calls, one after the other. -/
def signAll {m : Type → Type} [Monad m] (digest : List UInt8 → m (List UInt8))
    (ed25519 : Ed25519) (self : NewTransaction) (calls : List (KeyPair × Option KeyPair)) :
    m NewTransaction :=
  calls.foldlM (fun transaction call ↦ transaction.sign digest ed25519 call.1 call.2) self

/-- One call of a run that records what is hashed. -/
def recordedStep (pair : NewTransaction × List (List UInt8)) (call : KeyPair × Option KeyPair) :
    Option (NewTransaction × List (List UInt8)) :=
  (pair.1.sign recordedDigest ed25519 call.1 call.2).run pair.2

theorem run_signAll (self : NewTransaction) (calls : List (KeyPair × Option KeyPair))
    (log : List (List UInt8)) :
    (signAll recordedDigest ed25519 self calls).run log =
      calls.foldlM (recordedStep ed25519) (self, log) :=
  Run.run_foldlM calls self log

theorem fst_run_signAll (self : NewTransaction) (calls : List (KeyPair × Option KeyPair))
    (log : List (List UInt8)) :
    ((signAll recordedDigest ed25519 self calls).run log).map Prod.fst =
      signAll SHA256.digestOf ed25519 self calls := by
  rw [run_signAll]
  apply Run.map_foldlM
  intro pair call
  exact fst_sign_recorded ed25519 pair.1 call.1 call.2 pair.2

/-- What every call keeps: the unsigned transaction, and well-formed signatures. -/
structure DerivedFrom (transaction start : NewTransaction) : Prop where
  unsigned : transaction.unsigned = start.unsigned
  stores : ∃ signatures, transaction.Stores signatures

theorem Unsigned.derivedFrom {self : NewTransaction} (h : self.Unsigned) :
    self.DerivedFrom self :=
  ⟨rfl, [], h.stores⟩

/-- With a record of what was hashed: encodings of the body, with some sender, and of at most two
signatures. -/
structure Recorded (start : NewTransaction) (pair : NewTransaction × List (List UInt8)) : Prop
    extends pair.1.DerivedFrom start where
  hashed : ∀ bytes ∈ pair.2, ∃ (publicKey : PublicKey) (stored : List Wire.Signature),
    stored.length ≤ 2 ∧ bytes = Wire.signed.encode (start.wireBody publicKey, stored)

theorem Unsigned.recorded {self : NewTransaction} (h : self.Unsigned) :
    self.Recorded (self, []) :=
  ⟨h.derivedFrom, fun _ hmem ↦ absurd hmem List.not_mem_nil⟩

/-- Every call returns and keeps the invariant. -/
theorem Recorded.exists_step {start : NewTransaction} {pair : NewTransaction × List (List UInt8)}
    (h : start.Recorded pair) (call : KeyPair × Option KeyPair) :
    ∃ next, recordedStep ed25519 pair call = some next ∧ start.Recorded next := by
  obtain ⟨next, signatures, hashed, hnext, hunsigned, hsigned, -, hencodings⟩ :=
    exists_sign_recorded ed25519 h.stores call.1 call.2 pair.2
  refine ⟨(next, pair.2 ++ hashed), hnext,
    ⟨hunsigned.trans h.unsigned, signatures, hsigned.stores⟩, ?_⟩
  intro bytes hmem
  rcases List.mem_append.mp hmem with hearlier | hnew
  · exact h.hashed bytes hearlier
  · obtain ⟨stored, hlength, hencoding⟩ := hencodings bytes hnew
    rw [wireBody_eq_of_unsigned_eq h.unsigned] at hencoding
    exact ⟨call.1.publicKey, stored, hlength, hencoding⟩

/-- A run of calls from a transaction that was never signed always returns. -/
theorem exists_signAll_recorded {self : NewTransaction} (h : self.Unsigned)
    (calls : List (KeyPair × Option KeyPair)) :
    ∃ final log, (signAll recordedDigest ed25519 self calls).run [] = some (final, log) ∧
      signAll SHA256.digestOf ed25519 self calls = some final ∧ self.Recorded (final, log) := by
  obtain ⟨⟨final, log⟩, hrun, hrecorded⟩ := Run.exists_eq_some self.Recorded
    (fun pair call hpair ↦ hpair.exists_step ed25519 call) calls h.recorded
  rw [← run_signAll] at hrun
  have hfinal := fst_run_signAll ed25519 self calls []
  rw [hrun] at hfinal
  exact ⟨final, log, hrun, hfinal.symm, hrecorded⟩

/-- A transaction built by the library can be signed any number of times: every hashed string has
one of three lengths, and each of them can be padded. -/
theorem signAll_returns {amount : Double} {type : TransactionType} {recipientId : SwiftString}
    {timestamp : Option UInt32} {asset : Option Asset} {now : Double} {self : NewTransaction}
    (h : init amount type recipientId timestamp asset now = some self)
    (calls : List (KeyPair × Option KeyPair)) :
    ∃ final log, (signAll recordedDigest ed25519 self calls).run [] = some (final, log) ∧
      signAll SHA256.digestOf ed25519 self calls = some final ∧
      ∀ bytes ∈ log, (bytes.length = 53 ∨ bytes.length = 117 ∨ bytes.length = 181) ∧
        0 ≤ SHA256.paddingCount ((bytes.length * 8 : ℕ) : ℤ) ∧
        ∃ hash, SHA256.digestOf bytes = some hash ∧ hash.length = 32 := by
  obtain ⟨hunsigned, -⟩ := eq_of_init_eq_some h
  obtain ⟨final, log, hrun, hplain, hrecorded⟩ :=
    exists_signAll_recorded ed25519 hunsigned calls
  refine ⟨final, log, hrun, hplain, ?_⟩
  intro bytes hmem
  obtain ⟨publicKey, stored, hstored, rfl⟩ := hrecorded.hashed bytes hmem
  obtain ⟨hash, hhash⟩ := Wire.exists_digestOf_encode (self.wireBody publicKey) hstored
  have hlength := Wire.length_encode_signed (self.wireBody publicKey) stored
  refine ⟨by omega, ?_, hash, hhash, SHA256.length_of_digestOf_eq_some hhash⟩
  rw [SHA256.paddingCount_nonneg_iff]
  omega

theorem signAll_returns_tenthTransfer :
    init (.nearest ((10 ^ 7 : ℕ) / 10 ^ 8)) .transfer
      (Crypto.addressOf 7371991915110534872) (some 0) none (.nearest 0) =
        some tenthTransfer ∧
    ∀ (ed25519 : Ed25519) (calls : List (KeyPair × Option KeyPair)), ∃ final log,
      (signAll recordedDigest ed25519 tenthTransfer calls).run [] = some (final, log) ∧
      ∀ bytes ∈ log, bytes.length = 53 ∨ bytes.length = 117 ∨ bytes.length = 181 := by
  have hinit := init_tenthTransfer none (.nearest 0)
  refine ⟨hinit, fun ed25519 calls ↦ ?_⟩
  obtain ⟨final, log, hrun, -, hlog⟩ := signAll_returns ed25519 hinit calls
  exact ⟨final, log, hrun, fun bytes hmem ↦ (hlog bytes hmem).1⟩

end NewTransaction

end RxLisk

import RxLisk.Library.Codec
import RxLisk.Transactions.NewTransaction

/-!
# The signed byte string

The abstract content of the bytes that are hashed: a body of 53 bytes and the signatures that have
been made over it.  The bytes of a `NewTransaction` with a public key are the encoding of this
content, and signing in place changes only the list of signatures.
-/

namespace RxLisk

namespace Wire

/-! ## Layout -/

section Words

variable {T : Type} [MemoryLayout T]

/-- The integer that was packed in the given order. -/
def unpack (byteOrder : BytePacker.ByteOrder) (memory : List UInt8) : T :=
  MemoryLayout.load (if byteOrder = .littleEndian then memory else memory.reverse)

theorem unpack_pack (byteOrder : BytePacker.ByteOrder) (value : T) :
    unpack byteOrder (BytePacker.pack value byteOrder) = value := by
  cases byteOrder <;> simp [unpack, BytePacker.pack]

theorem pack_unpack (byteOrder : BytePacker.ByteOrder) {memory : List UInt8}
    (h : memory.length = MemoryLayout.size T) :
    BytePacker.pack (unpack byteOrder memory : T) byteOrder = memory := by
  have hreverse : memory.reverse.length = MemoryLayout.size T := by rw [List.length_reverse, h]
  cases byteOrder with
  | bigEndian => simp [unpack, BytePacker.pack, MemoryLayout.bytes_load hreverse]
  | littleEndian => simp [unpack, BytePacker.pack, MemoryLayout.bytes_load h]

variable (T) in
/-- An integer in one of the two byte orders. -/
def word (byteOrder : BytePacker.ByteOrder) : FixedCodec T :=
  (FixedCodec.buffer (MemoryLayout.size T)).packed
    (fun value ↦ ⟨(BytePacker.pack value byteOrder).toArray, by simp⟩)
    (fun memory ↦ some (unpack byteOrder memory.toList))
    (fun value ↦ congrArg some (unpack_pack byteOrder value))
    (fun memory value h ↦ by
      cases h
      simp only [pack_unpack byteOrder memory.length_toList]
      rfl)

end Words

def transactionType : FixedCodec TransactionType :=
  (FixedCodec.buffer 1).packed (fun type ↦ #v[type.rawValue])
    (fun raw ↦ TransactionType.ofRawValue raw[0])
    (fun type ↦ TransactionType.ofRawValue_rawValue type)
    (fun raw type h ↦ by
      refine Vector.ext fun i hi ↦ ?_
      obtain rfl : i = 0 := by omega
      exact TransactionType.eq_of_ofRawValue_eq_some h)

/-- What a signature authorises. -/
structure Body where
  type : TransactionType
  timestamp : UInt32
  senderPublicKey : Vector UInt8 32
  recipient : UInt64
  amount : UInt64

/-- The fields of the body, in the order of their bytes. -/
def body : FixedCodec Body :=
  (transactionType.pair <| (word UInt32 .littleEndian).pair <| (FixedCodec.buffer 32).pair <|
    (word UInt64 .bigEndian).pair (word UInt64 .littleEndian)).packed
    (fun body ↦ (body.type, body.timestamp, body.senderPublicKey, body.recipient, body.amount))
    (fun (type, timestamp, senderPublicKey, recipient, amount) ↦
      some { type, timestamp, senderPublicKey, recipient, amount })
    (fun _ ↦ rfl)
    (fun _ _ h ↦ by
      cases h
      rfl)

abbrev Signature := Vector UInt8 64

/-- The body, followed by the signatures. -/
def signed : Codec (Body × List Signature) :=
  body.andThen ((FixedCodec.buffer 64).list (by decide))

theorem encode_body (value : Body) :
    body.encode value = [value.type.rawValue] ++ BytePacker.pack value.timestamp .littleEndian ++
      value.senderPublicKey.toList ++ BytePacker.pack value.recipient .bigEndian ++
      BytePacker.pack value.amount .littleEndian := by
  simp only [body, transactionType, word, FixedCodec.packed, FixedCodec.pair, FixedCodec.andThen,
    FixedCodec.buffer, List.append_assoc]
  rfl

theorem encode_signed (value : Body) (signatures : List Signature) :
    signed.encode (value, signatures) = body.encode value ++ signatures.flatMap Vector.toList :=
  rfl

theorem length_encode_signed (value : Body) (signatures : List Signature) :
    (signed.encode (value, signatures)).length = 53 + 64 * signatures.length := by
  have hbody : (body.encode value).length = 53 := body.length_encode value
  rw [encode_signed, List.length_append, hbody]
  induction signatures with
  | nil => rfl
  | cons signature signatures ih =>
    rw [List.flatMap_cons, List.length_append, Vector.length_toList, List.length_cons]
    omega

/-! ## Signing -/

section Signing

variable {m : Type → Type} [Monad m] (digest : List UInt8 → m (List UInt8)) (ed25519 : Ed25519)

/-- The signature of a key pair over a body and the signatures before it. -/
def endorse (value : Body) (signatures : List Signature) (keyPair : KeyPair) : m Signature := do
  let hash ← digest (signed.encode (value, signatures))
  return ed25519.sign hash keyPair.publicKey.buffer keyPair.privateKey.buffer

/-- Signing over the signatures that are already stored: the first one is replaced, the second one
only when there is a second key pair.  The hash of the result is returned with it. -/
def resign (value : Body) (keyPair : KeyPair) (secondKeyPair : Option KeyPair)
    (stored : List Signature) : m (List Signature × List UInt8) := do
  let signature ← endorse digest ed25519 value stored keyPair
  let stored := signature :: stored.tail
  let stored ← match secondKeyPair with
    | some secondKeyPair => do
      let signSignature ← endorse digest ed25519 value stored secondKeyPair
      pure [signature, signSignature]
    | none => pure stored
  let hash ← digest (signed.encode (value, stored))
  return (stored, hash)

end Signing

section Endorsement

variable (digest : List UInt8 → Option (List UInt8)) (ed25519 : Ed25519)

/-- What the signatures are for: each of them covers the body and the signatures before it. -/
def Endorsed (value : Body) : (earlier : List Signature) → List KeyPair → List Signature → Prop
  | _, [], [] => True
  | earlier, keyPair :: keyPairs, signature :: signatures =>
    endorse digest ed25519 value earlier keyPair = some signature ∧
      Endorsed value (earlier ++ [signature]) keyPairs signatures
  | _, _, _ => False

variable {digest ed25519} {value : Body} {keyPair : KeyPair} {secondKeyPair : Option KeyPair}
  {signatures : List Signature} {hash : List UInt8}

/-- Without stored signatures, signing endorses the body by each of the key pairs in turn. -/
theorem endorsed_of_resign
    (h : resign digest ed25519 value keyPair secondKeyPair [] = some (signatures, hash)) :
    Endorsed digest ed25519 value [] (keyPair :: secondKeyPair.toList) signatures ∧
      digest (signed.encode (value, signatures)) = some hash := by
  cases secondKeyPair with
  | none =>
    simp only [resign, Option.bind_eq_bind, Option.bind_eq_some_iff, Option.pure_def,
      Option.bind_some, Option.some.injEq, Prod.mk.injEq] at h
    obtain ⟨signature, hsignature, idHash, hhash, rfl, rfl⟩ := h
    exact ⟨⟨hsignature, trivial⟩, hhash⟩
  | some secondKeyPair =>
    simp only [resign, Option.bind_eq_bind, Option.bind_eq_some_iff, Option.pure_def,
      Option.bind_some, Option.some.injEq, Prod.mk.injEq] at h
    obtain ⟨signature, hsignature, signSignature, hsignSignature, idHash, hhash, rfl, rfl⟩ := h
    exact ⟨⟨hsignature, hsignSignature, trivial⟩, hhash⟩

theorem exists_of_endorsed_cons {earlier : List Signature} {keyPairs : List KeyPair}
    (h : Endorsed digest ed25519 value earlier (keyPair :: keyPairs) signatures) :
    ∃ signature rest, signatures = signature :: rest ∧
      endorse digest ed25519 value earlier keyPair = some signature ∧
      Endorsed digest ed25519 value (earlier ++ [signature]) keyPairs rest := by
  cases signatures with
  | nil => exact h.elim
  | cons signature rest => exact ⟨signature, rest, rfl, h.1, h.2⟩

theorem eq_nil_of_endorsed_nil {earlier : List Signature}
    (h : Endorsed digest ed25519 value earlier [] signatures) : signatures = [] := by
  cases signatures with
  | nil => rfl
  | cons signature rest => exact h.elim

theorem exists_hash_of_endorse {signature : Signature}
    (h : endorse digest ed25519 value signatures keyPair = some signature) :
    ∃ hash, digest (signed.encode (value, signatures)) = some hash ∧
      keyPair.sign ed25519 hash = signature.toList := by
  obtain ⟨hash, hhash, h⟩ := Option.bind_eq_some_iff.mp h
  cases h
  exact ⟨hash, hhash, rfl⟩

end Endorsement

end Wire

end RxLisk

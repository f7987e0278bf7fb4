import RxLisk.Foundation.Json

/-!
# Transactions of the node

`Transaction` is what the library reads from a node.  Its decoder is the synthesised one: the
properties are decoded in the order of their declarations, and the first failure is the result.
-/

namespace RxLisk

/-- Type of transactions supported on Lisk network. -/
inductive TransactionType where
  | transfer
  | registerSecondPassphrase
  | registerDelegate
  | castVotes
  | registerMultisignature
  | createDapp
  | transferIntoDapp
  | transferOutOfDapp
deriving DecidableEq

namespace TransactionType

def rawValue : TransactionType → UInt8
  | transfer => 0
  | registerSecondPassphrase => 1
  | registerDelegate => 2
  | castVotes => 3
  | registerMultisignature => 4
  | createDapp => 5
  | transferIntoDapp => 6
  | transferOutOfDapp => 7

def ofRawValue : UInt8 → Option TransactionType
  | 0 => some transfer
  | 1 => some registerSecondPassphrase
  | 2 => some registerDelegate
  | 3 => some castVotes
  | 4 => some registerMultisignature
  | 5 => some createDapp
  | 6 => some transferIntoDapp
  | 7 => some transferOutOfDapp
  | _ => none

@[simp]
theorem ofRawValue_rawValue (type : TransactionType) : ofRawValue type.rawValue = some type := by
  cases type <;> rfl

theorem eq_of_ofRawValue_eq_some {raw : UInt8} {type : TransactionType}
    (h : ofRawValue raw = some type) : type.rawValue = raw := by
  unfold ofRawValue at h
  split at h <;> cases h <;> rfl

end TransactionType

namespace Transaction

structure Asset.Delegate where
  username : SwiftString
  publicKey : SwiftString
  address : SwiftString
deriving DecidableEq

structure Asset where
  delegate : Asset.Delegate
deriving DecidableEq

end Transaction

structure Transaction where
  /-- Unique identifier of the transaction. Derived from the transaction signature. -/
  id : SwiftString
  /-- Amount of Lisk to be transferred in this transaction. -/
  amount : SwiftString
  /-- Transaction fee associated with this transaction. -/
  fee : SwiftString
  type : TransactionType
  /-- The height of the network when the transaction was included in the blockchain. -/
  height : Option ℕ
  blockId : Option SwiftString
  /-- Time when the transaction was created. -/
  timestamp : ℕ
  senderId : Option SwiftString
  senderPublicKey : SwiftString
  senderSecondPublicKey : Option SwiftString
  recipientId : SwiftString
  recipientPublicKey : Option SwiftString
  signature : SwiftString
  signSignature : Option SwiftString
  signatures : Option (List SwiftString)
  confirmations : Option ℤ
  asset : Transaction.Asset
  receivedAt : Option SwiftString
  relays : Option ℤ
  ready : Option Bool
deriving DecidableEq

namespace TransactionType

/-- The raw value is decoded first and then looked up among the cases. -/
def decode : Decoder TransactionType := fun codingPath json ↦ do
  let raw ← Decoder.unsigned (2 ^ 8) codingPath json
  match ofRawValue (UInt8.ofNat raw) with
  | some type => return type
  | none => throw (.dataCorrupted codingPath)

theorem decode_rawValue (type : TransactionType) (codingPath : List CodingKey) :
    decode codingPath (.number type.rawValue.toNat) = .ok type := by
  rw [decode, Decoder.unsigned_natCast type.rawValue.toNat_lt]
  simp only [bind, Except.bind, UInt8.ofNat_toNat, ofRawValue_rawValue]
  rfl

end TransactionType

namespace Transaction

open Decoder

def Asset.Delegate.decode : Decoder Asset.Delegate := fun codingPath json ↦ do
  let members ← container codingPath json
  return {
    username := ← required string members codingPath "username"
    publicKey := ← required string members codingPath "publicKey"
    address := ← required string members codingPath "address" }

def Asset.decode : Decoder Asset := fun codingPath json ↦ do
  let members ← container codingPath json
  return { delegate := ← required Asset.Delegate.decode members codingPath "delegate" }

def decode : Decoder Transaction := fun codingPath json ↦ do
  let members ← container codingPath json
  return {
    id := ← required string members codingPath "id"
    amount := ← required string members codingPath "amount"
    fee := ← required string members codingPath "fee"
    type := ← required TransactionType.decode members codingPath "type"
    height := ← optional (unsigned (2 ^ 64)) members codingPath "height"
    blockId := ← optional string members codingPath "blockId"
    timestamp := ← required (unsigned (2 ^ 64)) members codingPath "timestamp"
    senderId := ← optional string members codingPath "senderId"
    senderPublicKey := ← required string members codingPath "senderPublicKey"
    senderSecondPublicKey := ← optional string members codingPath "senderSecondPublicKey"
    recipientId := ← required string members codingPath "recipientId"
    recipientPublicKey := ← optional string members codingPath "recipientPublicKey"
    signature := ← required string members codingPath "signature"
    signSignature := ← optional string members codingPath "signSignature"
    signatures := ← optional (array string) members codingPath "signatures"
    confirmations := ← optional int members codingPath "confirmations"
    asset := ← required Asset.decode members codingPath "asset"
    receivedAt := ← optional string members codingPath "receivedAt"
    relays := ← optional int members codingPath "relays"
    ready := ← optional bool members codingPath "ready" }

/-- An asset without a delegate is rejected, with the path of the asset. -/
theorem Asset.decode_eq_error {members : Dictionary} (h : members.lookup "delegate" = none)
    (codingPath : List CodingKey) :
    Asset.decode codingPath (.object members) = .error (.keyNotFound "delegate" codingPath) := by
  simp only [Asset.decode, container, bind, Except.bind, required_eq_of_missing h]

end Transaction

end RxLisk

import RxLisk.Crypto.Crypto
import RxLisk.Transactions.Amount
import RxLisk.Transactions.Transaction

/-!
# New transactions

A `NewTransaction` is built unsigned, signed in place and posted as a dictionary.  Every signature
is made over the current bytes of the transaction, which contain the signatures that are already
stored in it.

The hash function is an argument of the signing functions, in the monad of the caller: the library
hashes with `SHA256` and may trap, and the same functions run with a hash that also records what is
hashed.
-/

namespace RxLisk

open SwiftString

namespace LiskConstants

namespace Fee

/-- `UInt64(amount * fixedPoint)`. -/
def ofLisk (amount : ℚ) : Option UInt64 :=
  (Double.nearest amount * fixedPoint).toUInt64

def transfer : Option UInt64 := ofLisk (1 / 10)

def inTransfer : Option UInt64 := ofLisk (1 / 10)

def outTransfer : Option UInt64 := ofLisk (1 / 10)

def signature : Option UInt64 := ofLisk 5

def delegate : Option UInt64 := ofLisk 25

def vote : Option UInt64 := ofLisk 1

def multisignature : Option UInt64 := ofLisk 5

def dapp : Option UInt64 := ofLisk 25

end Fee

namespace Time

def epochMilliseconds : Double := .nearest 1464109200000

def epochSeconds : Double := epochMilliseconds / .nearest 1000

end Time

end LiskConstants

/-- Epoch time relative to genesis block, from the seconds that the clock shows. -/
def Crypto.timeIntervalSinceGenesis (offset timeIntervalSince1970 : Double) : Option UInt32 :=
  let now := timeIntervalSince1970 + offset
  (now - LiskConstants.Time.epochSeconds).toUInt32

def TransactionType.transactionFee : TransactionType → Option UInt64
  | transfer => LiskConstants.Fee.transfer
  | registerSecondPassphrase => LiskConstants.Fee.signature
  | registerDelegate => LiskConstants.Fee.delegate
  | castVotes => LiskConstants.Fee.vote
  | registerMultisignature => LiskConstants.Fee.multisignature
  | createDapp => LiskConstants.Fee.dapp
  | transferIntoDapp => LiskConstants.Fee.inTransfer
  | transferOutOfDapp => LiskConstants.Fee.outTransfer

/-- The asset of a new transaction has no properties. -/
structure NewTransaction.Asset where
deriving DecidableEq

structure NewTransaction where
  /-- Unique identifier of the transaction. Derived from the transaction signature. -/
  id : Option SwiftString
  /-- Amount of Lisk to be transferred in this transaction. -/
  amount : UInt64
  fee : UInt64
  type : TransactionType
  /-- Time when the transaction was created. -/
  timestamp : UInt32
  senderId : Option SwiftString
  senderPublicKey : Option SwiftString
  senderSecondPublicKey : Option SwiftString
  recipientId : SwiftString
  /-- Signature by the private key of the account who created the transaction. -/
  signature : Option SwiftString
  /-- The second signature, if the account has a second passphrase. -/
  signSignature : Option SwiftString
  signatures : Option (List SwiftString)
  asset : NewTransaction.Asset
deriving DecidableEq

namespace NewTransaction

/-- The initialiser, with the time that the clock shows when it is called. -/
def init (amount : Double) (type : TransactionType) (recipientId : SwiftString)
    (timestamp : Option UInt32) (asset : Option Asset) (now : Double) : Option NewTransaction := do
  let amount ← amount.fixedPoint
  let fee ← type.transactionFee
  let timestamp ← timestamp <|> Crypto.timeIntervalSinceGenesis (.nearest 0) now
  return {
    amount := amount
    fee := fee
    type := type
    timestamp := timestamp
    senderId := none
    senderSecondPublicKey := none
    recipientId := recipientId
    signatures := none
    asset := asset.getD {}
    -- not signed
    id := none
    senderPublicKey := none
    signature := none
    signSignature := none }

/-- The dictionary that is posted. -/
def dict (self : NewTransaction) : Dictionary :=
  let dict : Dictionary := []
  let dict := dict.set "id" (self.id.map Json.string)
  let dict := dict.set "type" (some (.number self.type.rawValue.toNat))
  let dict := dict.set "amount" (some (.string (decimal self.amount.toNat)))
  let dict := dict.set "fee" (some (.string (decimal self.fee.toNat)))
  let dict := dict.set "recipientId" (some (.string self.recipientId))
  let dict := dict.set "senderPublicKey" (self.senderPublicKey.map Json.string)
  let dict := dict.set "timestamp" (some (.number self.timestamp.toNat))
  let dict := dict.set "asset" (some (.object []))
  let dict := dict.set "signature" (self.signature.map Json.string)
  dict.set "signSignature" (self.signSignature.map Json.string)

theorem distinct_dict (self : NewTransaction) : self.dict.Distinct := by
  unfold dict
  exact ((((((((((Dictionary.distinct_nil.set _ _).set _ _).set _ _).set _ _).set _ _).set _ _).set
    _ _).set _ _).set _ _).set _ _)

/-- The posted entries. -/
theorem lookup_dict (self : NewTransaction) (key : String) :
    self.dict.lookup key =
      if key = "signSignature" then self.signSignature.map Json.string
      else if key = "signature" then self.signature.map Json.string
      else if key = "asset" then some (.object [])
      else if key = "timestamp" then some (.number self.timestamp.toNat)
      else if key = "senderPublicKey" then self.senderPublicKey.map Json.string
      else if key = "recipientId" then some (.string self.recipientId)
      else if key = "fee" then some (.string (decimal self.fee.toNat))
      else if key = "amount" then some (.string (decimal self.amount.toNat))
      else if key = "type" then some (.number self.type.rawValue.toNat)
      else if key = "id" then self.id.map Json.string
      else none := by
  simp only [dict, Dictionary.lookup_set, List.lookup_nil]

/-! ## Bytes -/

/-- The address without its suffix as a big-endian number; zeros when it is not a number. -/
def encodeRecipientId (recipientId : SwiftString) : List UInt8 :=
  let value := removingOccurrences Crypto.addressSuffix recipientId
  match toUInt64 value with
  | none => List.replicate 8 0
  | some number => BytePacker.pack number .bigEndian

/-- The bytes of an optional hexadecimal field. -/
def optionalHexBytes (field : Option SwiftString) : List UInt8 :=
  (field.map hexBytes).getD []

section Encoders

variable (self : NewTransaction)

def typeBytes : List UInt8 := [self.type.rawValue]

def timestampBytes : List UInt8 := BytePacker.pack self.timestamp .littleEndian

def senderPublicKeyBytes : List UInt8 := optionalHexBytes self.senderPublicKey

def recipientIdBytes : List UInt8 := encodeRecipientId self.recipientId

def amountBytes : List UInt8 := BytePacker.pack self.amount .littleEndian

def signatureBytes : List UInt8 := optionalHexBytes self.signature

def signSignatureBytes : List UInt8 := optionalHexBytes self.signSignature

def assetBytes : List UInt8 := []

def bytes : List UInt8 :=
  self.typeBytes ++ self.timestampBytes ++ self.senderPublicKeyBytes ++ self.recipientIdBytes ++
    self.amountBytes ++ assetBytes ++ self.signatureBytes ++ self.signSignatureBytes

end Encoders

/-! ## Signing -/

section Signing

variable {m : Type → Type} [Monad m] (digest : List UInt8 → m (List UInt8)) (ed25519 : Ed25519)

/-- Generates transaction id. -/
def generateId (bytes : List UInt8) : m SwiftString := do
  let hash ← digest bytes
  return Crypto.byteIdentifier hash

/-- Generates transaction signature. -/
def generateSignature (bytes : List UInt8) (keyPair : KeyPair) : m SwiftString := do
  let hash ← digest bytes
  return hexString (keyPair.sign ed25519 hash)

/-- Signs the current transaction. -/
def sign (self : NewTransaction) (keyPair : KeyPair) (secondKeyPair : Option KeyPair) :
    m NewTransaction := do
  -- public key
  let self := { self with senderPublicKey := some keyPair.publicKeyString }
  -- signature
  let signature ← generateSignature digest ed25519 self.bytes keyPair
  let self := { self with signature := some signature }
  -- sign signature
  let self ← match secondKeyPair with
    | some secondKeyPair => do
      let signSignature ← generateSignature digest ed25519 self.bytes secondKeyPair
      pure { self with signSignature := some signSignature }
    | none => pure self
  -- id
  let id ← generateId digest self.bytes
  return { self with id := some id }

end Signing

/-- Signs the current transaction, with the keys of one or two secrets. -/
def signSecret (ed25519 : Ed25519) (self : NewTransaction) (secret : SwiftString)
    (secondSecret : Option SwiftString) : ExceptT Ed25519Error Option NewTransaction := do
  let keyPair ← Crypto.keyPair ed25519 secret
  let secondKeyPair ← match secondSecret with
    | some secondSecret => some <$> Crypto.keyPair ed25519 secondSecret
    | none => pure none
  ExceptT.lift (self.sign SHA256.digestOf ed25519 keyPair secondKeyPair)

/-! ## The initialiser -/

/-- A transaction that was never signed; its fee is the one of its type. -/
structure Unsigned (transaction : NewTransaction) : Prop where
  id : transaction.id = none
  senderPublicKey : transaction.senderPublicKey = none
  signature : transaction.signature = none
  signSignature : transaction.signSignature = none
  fee : transaction.type.transactionFee = some transaction.fee

/-- The transaction as it was before any signature. -/
def unsigned (self : NewTransaction) : NewTransaction :=
  { self with id := none, senderPublicKey := none, signature := none, signSignature := none }

theorem Unsigned.unsigned_eq {self : NewTransaction} (h : self.Unsigned) :
    self.unsigned = self := by
  obtain ⟨hid, hkey, hsignature, hsignSignature, _⟩ := h
  cases self
  simp only at hid hkey hsignature hsignSignature
  rw [unsigned, hid, hkey, hsignature, hsignSignature]

end NewTransaction

/-- A fee of `k` beddows that is not misconverted is charged as such. -/
theorem LiskConstants.Fee.ofLisk_eq {k : ℕ} (hk : k < 2 ^ 53) (h : ¬Misconverts k) :
    ofLisk (k / 10 ^ 8) = some (UInt64.ofNat k) :=
  (fixedPoint_decimal_eq_iff hk).mpr h

/-- The fee of each type in beddows. -/
def TransactionType.feeInBeddows : TransactionType → ℕ
  | transfer => 10 ^ 7
  | registerSecondPassphrase => 5 * 10 ^ 8
  | registerDelegate => 25 * 10 ^ 8
  | castVotes => 10 ^ 8
  | registerMultisignature => 5 * 10 ^ 8
  | createDapp => 25 * 10 ^ 8
  | transferIntoDapp => 10 ^ 7
  | transferOutOfDapp => 10 ^ 7

/-- No fee is misconverted. -/
theorem TransactionType.transactionFee_eq (type : TransactionType) :
    type.transactionFee = some (UInt64.ofNat type.feeInBeddows) := by
  have hlt : type.feeInBeddows < 2 ^ 53 := by cases type <;> decide
  have hexact : ¬Misconverts type.feeInBeddows := by cases type <;> decide
  have hfee := LiskConstants.Fee.ofLisk_eq hlt hexact
  rw [← hfee]
  cases type <;> simp only [transactionFee, feeInBeddows, LiskConstants.Fee.transfer,
    LiskConstants.Fee.inTransfer, LiskConstants.Fee.outTransfer, LiskConstants.Fee.signature,
    LiskConstants.Fee.delegate, LiskConstants.Fee.vote, LiskConstants.Fee.multisignature,
    LiskConstants.Fee.dapp] <;> congr 1 <;> norm_num

namespace NewTransaction

/-- What the initialiser builds. -/
theorem eq_of_init_eq_some {amount : Double} {type : TransactionType} {recipientId : SwiftString}
    {timestamp : Option UInt32} {asset : Option Asset} {now : Double} {self : NewTransaction}
    (h : init amount type recipientId timestamp asset now = some self) :
    self.Unsigned ∧ amount.fixedPoint = some self.amount ∧ self.type = type ∧
      self.recipientId = recipientId := by
  simp only [init, Option.bind_eq_bind, Option.bind_eq_some_iff, Option.pure_def,
    Option.some.injEq] at h
  obtain ⟨stored, hstored, fee, hfee, time, -, rfl⟩ := h
  exact ⟨⟨rfl, rfl, rfl, rfl, hfee⟩, hstored, rfl, rfl⟩

/-- With a timestamp the initialiser returns whenever the amount is in range. -/
theorem exists_init_eq_some {amount : Double} {stored : UInt64}
    (hamount : amount.fixedPoint = some stored) (type : TransactionType)
    (recipientId : SwiftString) (timestamp : UInt32) (asset : Option Asset) (now : Double) :
    ∃ self, init amount type recipientId (some timestamp) asset now = some self := by
  simp [init, hamount, type.transactionFee_eq]

/-- The transaction of the test: a tenth of a Lisk to a fixed address, not signed yet. -/
def tenthTransfer : NewTransaction where
  id := none
  amount := UInt64.ofNat (10 ^ 7)
  fee := UInt64.ofNat (10 ^ 7)
  type := .transfer
  timestamp := 0
  senderId := none
  senderPublicKey := none
  senderSecondPublicKey := none
  recipientId := Crypto.addressOf 7371991915110534872
  signature := none
  signSignature := none
  signatures := none
  asset := {}

theorem init_tenthTransfer (asset : Option Asset) (now : Double) :
    init (.nearest ((10 ^ 7 : ℕ) / 10 ^ 8)) .transfer
      (Crypto.addressOf 7371991915110534872) (some 0) asset now =
        some tenthTransfer := by
  have hamount := (fixedPoint_decimal_eq_iff (k := 10 ^ 7) (by decide)).mpr (by decide)
  rw [init, hamount, TransactionType.transactionFee_eq]
  rfl

theorem unsigned_tenthTransfer : tenthTransfer.Unsigned :=
  (eq_of_init_eq_some (init_tenthTransfer none (.nearest 0))).1

/-- A decimal amount of `k` beddows is stored as `k` beddows exactly when it is not misconverted. -/
theorem init_stores_amount_iff {k : ℕ} (hk : k < 2 ^ 53) :
    ((Double.nearest (k / 10 ^ 8)).fixedPoint = some (UInt64.ofNat k) ↔ ¬Misconverts k) ∧
      ∀ (type : TransactionType) (recipientId : SwiftString) (asset : Option Asset)
        (now : Double),
        (∀ timestamp : UInt32, ∃ self,
          init (.nearest (k / 10 ^ 8)) type recipientId (some timestamp) asset now = some self) ∧
        ∀ (timestamp : Option UInt32) (self : NewTransaction),
          init (.nearest (k / 10 ^ 8)) type recipientId timestamp asset now = some self →
            (self.amount.toNat = k ↔ ¬Misconverts k) := by
  have hexact := fixedPoint_decimal_eq_iff hk
  refine ⟨hexact, fun type recipientId asset now ↦ ⟨fun timestamp ↦ ?_, ?_⟩⟩
  · exact exists_init_eq_some (fixedPoint_decimal hk) type recipientId timestamp asset now
  · intro timestamp self hinit
    obtain ⟨-, hamount, -, -⟩ := eq_of_init_eq_some hinit
    have hfits : k < 2 ^ 64 := by omega
    rw [hamount, Option.some_inj, ← UInt64.toNat_inj, UInt64.toNat_ofNat_of_lt' hfits] at hexact
    exact hexact

/-- The amount of the test, a tenth of a Lisk. -/
theorem init_stores_amount_iff_tenth :
    10 ^ 7 < 2 ^ 53 ∧
      (Double.nearest ((10 ^ 7 : ℕ) / 10 ^ 8)).fixedPoint = some (UInt64.ofNat (10 ^ 7)) :=
  ⟨by decide, (init_stores_amount_iff (k := 10 ^ 7) (by decide)).1.mpr (by decide)⟩

/-- The amount of 0.29 Lisk loses one beddow. -/
theorem init_loses_beddow_of_29_hundredths :
    ¬∀ k : ℕ, k < 2 ^ 53 → ∀ (type : TransactionType) (recipientId : SwiftString)
      (timestamp : Option UInt32) (asset : Option Asset) (now : Double) (self : NewTransaction),
      init (.nearest (k / 10 ^ 8)) type recipientId timestamp asset now = some self →
        self.amount.toNat = k := by
  intro hclaim
  have hk : 29000000 < 2 ^ 53 := by decide
  obtain ⟨self, hself⟩ :=
    exists_init_eq_some (fixedPoint_decimal hk) .transfer [] 0 none .nan
  have hamount := hclaim 29000000 hk _ _ _ _ _ _ hself
  obtain ⟨-, hstored, -, -⟩ := eq_of_init_eq_some hself
  rw [fixedPoint_decimal hk, Option.some_inj] at hstored
  have hlost : storedAmount 29000000 = 28999999 := by decide
  rw [← hstored, hlost] at hamount
  exact absurd hamount (by decide)

end NewTransaction

end RxLisk

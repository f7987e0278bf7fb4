import RxLisk.CEd25519.AddScalar
import RxLisk.CEd25519.KeyExchange
import RxLisk.Crypto.Crypto
import RxLisk.Library.Run

/-!
# Operations on keys

The wrappers around the C library check the lengths of what they are given and pass buffers on.  A
pair is genuine when its public key belongs to its private key.  Pairs that come from seeds and
secrets are genuine, adding a scalar keeps them so, and what a genuine pair signs is verified.  Two
pairs of seeds compute one shared secret; after an addition they may not.
-/

namespace RxLisk

open SwiftString MontgomeryLadder

/-- The C library behind the key pairs. -/
def Ed25519.library : Ed25519 where
  createKeypair := CEd25519.ed25519CreateKeypair
  sign := CEd25519.ed25519Sign

/-! ## The wrappers -/

theorem checkedBuffer_toList {size : ℕ} (error : Ed25519Error) (buffer : Vector UInt8 size) :
    checkedBuffer size error buffer.toList = .ok buffer := by
  obtain ⟨result, hresult, hlist⟩ := checkedBuffer_of_length error buffer.length_toList
  rw [hresult, Vector.toList_inj.mp hlist]

/-- The call behind the three functions that add a scalar; `memory` is what the call finds in the
local variable that it may leave unwritten. -/
def addScalarTo (memory : CEd25519.Fe) (keys : CEd25519.KeyBuffers) (scalar : List UInt8) :
    Except Ed25519Error CEd25519.KeyBuffers := do
  let scalar ← checkedBuffer 32 .invalidScalarLength scalar
  return CEd25519.ed25519AddScalar memory keys scalar

theorem addScalarTo_eq_ok {bytes : List UInt8} {scalar : Vector UInt8 32}
    (h : checkedBuffer 32 .invalidScalarLength bytes = .ok scalar) (memory : CEd25519.Fe)
    (keys : CEd25519.KeyBuffers) :
    addScalarTo memory keys bytes = .ok (CEd25519.ed25519AddScalar memory keys scalar) := by
  rw [addScalarTo, h]
  rfl

theorem addScalarTo_eq_error {bytes : List UInt8} (h : bytes.length ≠ 32)
    (memory : CEd25519.Fe) (keys : CEd25519.KeyBuffers) :
    addScalarTo memory keys bytes = .error .invalidScalarLength := by
  have herror : checkedBuffer 32 .invalidScalarLength bytes = .error .invalidScalarLength :=
    dif_neg h
  rw [addScalarTo, herror]
  rfl

namespace PublicKey

def verify (key : PublicKey) (signature message : List UInt8) : Except Ed25519Error Bool := do
  let signature ← checkedBuffer 64 .invalidSignatureLength signature
  return CEd25519.ed25519Verify signature message key.buffer

def add (memory : CEd25519.Fe) (key : PublicKey) (scalar : List UInt8) :
    Except Ed25519Error PublicKey := do
  let keys ← addScalarTo memory ⟨some key.buffer, none⟩ scalar
  return ⟨keys.publicKey.getD key.buffer⟩

theorem ofBytes_bytes (key : PublicKey) : ofBytes key.bytes = .ok key := by
  rw [ofBytes, bytes, checkedBuffer_toList]
  rfl

end PublicKey

namespace PrivateKey

def add (memory : CEd25519.Fe) (key : PrivateKey) (scalar : List UInt8) :
    Except Ed25519Error PrivateKey := do
  let keys ← addScalarTo memory ⟨none, some key.buffer⟩ scalar
  return ⟨keys.privateKey.getD key.buffer⟩

theorem ofBytes_bytes (key : PrivateKey) : ofBytes key.bytes = .ok key := by
  rw [ofBytes, bytes, checkedBuffer_toList]
  rfl

end PrivateKey

namespace KeyPair

/-- The initialiser from bytes. -/
def ofBytes (publicKey privateKey : List UInt8) : Except Ed25519Error KeyPair := do
  let publicKey ← PublicKey.ofBytes publicKey
  let privateKey ← PrivateKey.ofBytes privateKey
  return { publicKey := publicKey, privateKey := privateKey }

def verify (keyPair : KeyPair) (signature message : List UInt8) : Except Ed25519Error Bool :=
  keyPair.publicKey.verify signature message

def keyExchange (keyPair : KeyPair) : List UInt8 :=
  (CEd25519.ed25519KeyExchange keyPair.publicKey.buffer keyPair.privateKey.buffer).toList

/-- `KeyPair.keyExchange(publicKey:privateKey:)` -/
def keyExchangeOf (publicKey : PublicKey) (privateKey : PrivateKey) : List UInt8 :=
  let keyPair : KeyPair := { publicKey := publicKey, privateKey := privateKey }
  keyPair.keyExchange

/-- `KeyPair.keyExchange(publicKey:privateKey:)` for bytes -/
def keyExchangeOfBytes (publicKey privateKey : List UInt8) :
    Except Ed25519Error (List UInt8) := do
  let keyPair ← ofBytes publicKey privateKey
  return keyPair.keyExchange

def add (memory : CEd25519.Fe) (keyPair : KeyPair) (scalar : List UInt8) :
    Except Ed25519Error KeyPair := do
  let keys ← addScalarTo memory
    ⟨some keyPair.publicKey.buffer, some keyPair.privateKey.buffer⟩ scalar
  return {
    publicKey := ⟨keys.publicKey.getD keyPair.publicKey.buffer⟩
    privateKey := ⟨keys.privateKey.getD keyPair.privateKey.buffer⟩ }

theorem length_of_add {keyPair next : KeyPair} {memory : CEd25519.Fe} {scalar : List UInt8}
    (h : keyPair.add memory scalar = .ok next) : scalar.length = 32 := by
  by_contra hlength
  rw [add, addScalarTo_eq_error hlength] at h
  cases h

/-! ## Genuine pairs -/

/-- The public key belongs to the private key. -/
def Genuine (keyPair : KeyPair) : Prop :=
  CEd25519.IsKeyPair keyPair.publicKey.buffer keyPair.privateKey.buffer

theorem genuine_ofSeed (seed : Seed) : (ofSeed .library seed).Genuine :=
  CEd25519.isKeyPair_ed25519CreateKeypair seed.buffer

/-- The pair of a secret is the one of a seed. -/
theorem exists_seed_of_keyPair {secret : SwiftString} {keyPair : KeyPair}
    (h : (Crypto.keyPair .library secret).run = some (.ok keyPair)) :
    ∃ seed, keyPair = ofSeed .library seed := by
  obtain ⟨bytes, -, hseed⟩ := Run.exists_of_run_bind_eq_ok h
  obtain ⟨seed, -, hpair⟩ := Run.exists_of_run_bind_eq_ok hseed
  cases hpair
  exact ⟨seed, rfl⟩

theorem genuine_of_keyPair {secret : SwiftString} {keyPair : KeyPair}
    (h : (Crypto.keyPair .library secret).run = some (.ok keyPair)) : keyPair.Genuine := by
  obtain ⟨seed, rfl⟩ := exists_seed_of_keyPair h
  exact genuine_ofSeed seed

theorem Genuine.verify_sign {keyPair : KeyPair} (h : keyPair.Genuine) (message : List UInt8) :
    keyPair.verify (keyPair.sign .library message) message = .ok true := by
  rw [verify, PublicKey.verify, sign, checkedBuffer_toList]
  exact congrArg Except.ok (CEd25519.ed25519Verify_ed25519Sign h message)

/-- Adding a scalar to a genuine pair, to its public key or to its private key gives the parts of
one genuine pair. -/
theorem Genuine.exists_add {keyPair : KeyPair} (h : keyPair.Genuine) {scalar : List UInt8}
    (hscalar : scalar.length = 32) :
    ∃ next, next.Genuine ∧ ∀ memory, keyPair.add memory scalar = .ok next ∧
      keyPair.publicKey.add memory scalar = .ok next.publicKey ∧
      keyPair.privateKey.add memory scalar = .ok next.privateKey := by
  obtain ⟨buffer, hbuffer, -⟩ := checkedBuffer_of_length .invalidScalarLength hscalar
  obtain ⟨publicKey, privateKey, hcalls, hnext, -⟩ := CEd25519.exists_ed25519AddScalar h buffer
  refine ⟨{ publicKey := ⟨publicKey⟩, privateKey := ⟨privateKey⟩ }, hnext, fun memory ↦ ?_⟩
  obtain ⟨hboth, hpublic, hprivate⟩ := hcalls memory
  refine ⟨?_, ?_, ?_⟩
  · rw [add, addScalarTo_eq_ok hbuffer, hboth]
    rfl
  · rw [PublicKey.add, addScalarTo_eq_ok hbuffer, hpublic]
    rfl
  · rw [PrivateKey.add, addScalarTo_eq_ok hbuffer, hprivate]
    rfl

/-- The pairs that calls of the library lead to: from a seed, and by adding a scalar. -/
inductive Reachable : KeyPair → Prop
  | created (seed : Seed) : Reachable (ofSeed .library seed)
  | added {keyPair next : KeyPair} {memory : CEd25519.Fe} {scalar : List UInt8}
      (h : Reachable keyPair) (hadd : keyPair.add memory scalar = .ok next) : Reachable next

theorem Reachable.genuine {keyPair : KeyPair} (h : Reachable keyPair) : keyPair.Genuine := by
  induction h with
  | created seed => exact genuine_ofSeed seed
  | @added _ _ memory _ _ hadd hgenuine =>
    obtain ⟨next, hnext, hcalls⟩ := hgenuine.exists_add (length_of_add hadd)
    rw [(hcalls memory).1] at hadd
    cases hadd
    exact hnext

/-- Every reachable pair signs every message so that it is verified, and a scalar of 32 bytes leads
to the same reachable pair whether it is added to the pair or to its two keys. -/
theorem Reachable.verify_sign_and_add {keyPair : KeyPair} (h : Reachable keyPair)
    (message : List UInt8) :
    keyPair.verify (keyPair.sign .library message) message = .ok true ∧
      ∀ scalar : List UInt8, scalar.length = 32 →
        ∃ next, Reachable next ∧ ∀ memory, keyPair.add memory scalar = .ok next ∧
          keyPair.publicKey.add memory scalar = .ok next.publicKey ∧
          keyPair.privateKey.add memory scalar = .ok next.privateKey := by
  refine ⟨h.genuine.verify_sign message, fun scalar hscalar ↦ ?_⟩
  obtain ⟨next, -, hcalls⟩ := h.genuine.exists_add hscalar
  exact ⟨next, h.added (hcalls CEd25519.fe0).1, hcalls⟩

/-- A pair after an addition signs a message, and another scalar is added. -/
theorem Reachable.verify_sign_and_add_after_addition :
    ∃ keyPair next,
      (ofSeed .library ⟨Vector.replicate 32 0⟩).add CEd25519.fe0 (List.replicate 32 1) =
          .ok keyPair ∧
        keyPair.verify (keyPair.sign .library [1, 2, 3]) [1, 2, 3] = .ok true ∧
        keyPair.add CEd25519.fe0 (List.replicate 32 2) = .ok next ∧
        keyPair.publicKey.add CEd25519.fe1 (List.replicate 32 2) = .ok next.publicKey ∧
        keyPair.privateKey.add CEd25519.fe1 (List.replicate 32 2) = .ok next.privateKey := by
  let pair := ofSeed .library ⟨Vector.replicate 32 0⟩
  have hpair : Reachable pair := .created _
  obtain ⟨keyPair, -, hcalls⟩ :=
    hpair.genuine.exists_add (List.length_replicate : (List.replicate 32 (1 : UInt8)).length = 32)
  have hkeyPair : Reachable keyPair := hpair.added (hcalls CEd25519.fe0).1
  obtain ⟨hverify, hadd⟩ := Reachable.verify_sign_and_add hkeyPair [1, 2, 3]
  obtain ⟨next, -, hnext⟩ := hadd (List.replicate 32 2) List.length_replicate
  exact ⟨keyPair, next, (hcalls CEd25519.fe0).1, hverify, (hnext CEd25519.fe0).1,
    (hnext CEd25519.fe1).2⟩

/-! ## Key exchange -/

theorem ofBytes_bytes (publicKey : PublicKey) (privateKey : PrivateKey) :
    ofBytes publicKey.bytes privateKey.bytes =
      .ok { publicKey := publicKey, privateKey := privateKey } := by
  rw [ofBytes, PublicKey.ofBytes_bytes, PrivateKey.ofBytes_bytes]
  rfl

theorem keyExchangeOfBytes_bytes (publicKey : PublicKey) (privateKey : PrivateKey) :
    keyExchangeOfBytes publicKey.bytes privateKey.bytes =
      .ok (keyExchangeOf publicKey privateKey) := by
  rw [keyExchangeOfBytes, ofBytes_bytes]
  rfl

/-- Bytes are exchanged exactly when they have the sizes of the two keys; the public key is checked
first. -/
theorem keyExchangeOfBytes_cases (publicKey privateKey : List UInt8) :
    publicKey.length ≠ 32 ∧
        keyExchangeOfBytes publicKey privateKey = .error .invalidPublicKeyLength ∨
      publicKey.length = 32 ∧ privateKey.length ≠ 64 ∧
        keyExchangeOfBytes publicKey privateKey = .error .invalidPrivateKeyLength ∨
      ∃ key key', key.bytes = publicKey ∧ key'.bytes = privateKey ∧
        keyExchangeOfBytes publicKey privateKey = .ok (keyExchangeOf key key') := by
  by_cases hpublic : publicKey.length = 32
  · obtain ⟨buffer, hbuffer, hlist⟩ :=
      checkedBuffer_of_length .invalidPublicKeyLength hpublic
    by_cases hprivate : privateKey.length = 64
    · obtain ⟨buffer', -, hlist'⟩ :=
        checkedBuffer_of_length .invalidPrivateKeyLength hprivate
      subst hlist hlist'
      exact .inr (.inr ⟨⟨buffer⟩, ⟨buffer'⟩, rfl, rfl, keyExchangeOfBytes_bytes ⟨buffer⟩ ⟨buffer'⟩⟩)
    · refine .inr (.inl ⟨hpublic, hprivate, ?_⟩)
      have herror : checkedBuffer 64 .invalidPrivateKeyLength privateKey =
          .error .invalidPrivateKeyLength := dif_neg hprivate
      rw [keyExchangeOfBytes, ofBytes, PublicKey.ofBytes, PrivateKey.ofBytes, hbuffer, herror]
      rfl
  · refine .inl ⟨hpublic, ?_⟩
    have herror : checkedBuffer 32 .invalidPublicKeyLength publicKey =
        .error .invalidPublicKeyLength := dif_neg hpublic
    rw [keyExchangeOfBytes, ofBytes, PublicKey.ofBytes, herror]
    rfl

/-- The number that two secret numbers give in an exchange. -/
def sharedNumber (privateKey privateKey' : PrivateKey) : ℕ :=
  (coordinate ((CEd25519.secretScalar privateKey.buffer *
    CEd25519.secretScalar privateKey'.buffer) • CEd25519.basePoint)).val

theorem keyExchangeOf_ofSeed (seed seed' : Seed) :
    keyExchangeOf (ofSeed .library seed').publicKey (ofSeed .library seed).privateKey =
      LittleEndian.encode 32
        (sharedNumber (ofSeed .library seed).privateKey (ofSeed .library seed').privateKey) :=
  CEd25519.toList_ed25519KeyExchange_seeds seed.buffer seed'.buffer

/-- When two genuine pairs agree. -/
theorem Genuine.keyExchangeOf_eq_iff {keyPair keyPair' : KeyPair} (h : keyPair.Genuine)
    (h' : keyPair'.Genuine) :
    keyExchangeOf keyPair'.publicKey keyPair.privateKey =
        keyExchangeOf keyPair.publicKey keyPair'.privateKey ↔
      coordinate ((CEd25519.exchangeScalar keyPair.privateKey.buffer *
          CEd25519.secretScalar keyPair'.privateKey.buffer) • CEd25519.basePoint) =
        coordinate ((CEd25519.exchangeScalar keyPair'.privateKey.buffer *
          CEd25519.secretScalar keyPair.privateKey.buffer) • CEd25519.basePoint) :=
  Vector.toList_inj.trans (CEd25519.ed25519KeyExchange_eq_iff_coordinate h h')

/-- A public key of small order gives a secret of zeros. -/
theorem keyExchangeOf_of_small_order {publicKey : PublicKey}
    {P : TwistedEdwards.Point CEd25519.curveD} (hP : CEd25519.Decodes publicKey.buffer P)
    (horder : 8 • P = 0) (privateKey : PrivateKey) :
    keyExchangeOf publicKey privateKey = List.replicate 32 0 :=
  CEd25519.toList_ed25519KeyExchange_eq_zero hP
    (CEd25519.exchangeScalar_nsmul_of_small_order horder privateKey.buffer)

theorem sharedNumber_comm (privateKey privateKey' : PrivateKey) :
    sharedNumber privateKey privateKey' = sharedNumber privateKey' privateKey := by
  rw [sharedNumber, sharedNumber, mul_comm]

/-- Two holders of secrets who send each other their public keys, as keys or as bytes, reach one and
the same secret, also through a pair that is built from the bytes. -/
theorem keyExchangeOfBytes_of_keyPair {secret secret' : SwiftString} {keyPair keyPair' : KeyPair}
    (h : (Crypto.keyPair .library secret).run = some (.ok keyPair))
    (h' : (Crypto.keyPair .library secret').run = some (.ok keyPair')) :
    ∃ shared,
      shared =
          LittleEndian.encode 32 (sharedNumber keyPair.privateKey keyPair'.privateKey) ∧
        keyExchangeOf keyPair'.publicKey keyPair.privateKey = shared ∧
        keyExchangeOf keyPair.publicKey keyPair'.privateKey = shared ∧
        keyExchangeOfBytes keyPair'.publicKey.bytes keyPair.privateKey.bytes = .ok shared ∧
        keyExchangeOfBytes keyPair.publicKey.bytes keyPair'.privateKey.bytes = .ok shared ∧
        (∃ mixed, ofBytes keyPair'.publicKey.bytes keyPair.privateKey.bytes = .ok mixed ∧
          mixed.keyExchange = shared) ∧
        ∃ mixed, ofBytes keyPair.publicKey.bytes keyPair'.privateKey.bytes = .ok mixed ∧
          mixed.keyExchange = shared := by
  obtain ⟨seed, rfl⟩ := exists_seed_of_keyPair h
  obtain ⟨seed', rfl⟩ := exists_seed_of_keyPair h'
  have hleft := keyExchangeOf_ofSeed seed seed'
  have hright := keyExchangeOf_ofSeed seed' seed
  rw [sharedNumber_comm] at hright
  refine ⟨_, rfl, hleft, hright, ?_, ?_, ⟨_, ofBytes_bytes _ _, hleft⟩,
    ⟨_, ofBytes_bytes _ _, hright⟩⟩
  · rw [keyExchangeOfBytes_bytes, hleft]
  · rw [keyExchangeOfBytes_bytes, hright]

/-- The holders of two secrets. -/
theorem keyExchangeOfBytes_of_keyPair_two_secrets :
    ∃ keyPair keyPair',
      (Crypto.keyPair .library (ofScalars ['a'])).run = some (.ok keyPair) ∧
        (Crypto.keyPair .library (ofScalars ['b'])).run = some (.ok keyPair') ∧
        ∃ shared,
          keyExchangeOfBytes keyPair'.publicKey.bytes keyPair.privateKey.bytes = .ok shared ∧
            keyExchangeOfBytes keyPair.publicKey.bytes keyPair'.privateKey.bytes = .ok shared := by
  obtain ⟨keyPair, hkeyPair⟩ := Crypto.exists_keyPair_eq_some .library
    (show SHA256.Paddable (utf8 (ofScalars ['a'])).length by decide)
  obtain ⟨keyPair', hkeyPair'⟩ := Crypto.exists_keyPair_eq_some .library
    (show SHA256.Paddable (utf8 (ofScalars ['b'])).length by decide)
  obtain ⟨shared, -, -, -, hbytes, hbytes', -⟩ := keyExchangeOfBytes_of_keyPair hkeyPair hkeyPair'
  exact ⟨keyPair, keyPair', hkeyPair, hkeyPair', shared, hbytes, hbytes'⟩

/-- From every reachable pair one scalar leads to a reachable pair that computes another secret than
the pair of any seed. -/
theorem Reachable.exists_keyExchangeOf_ne {keyPair : KeyPair} (h : Reachable keyPair) :
    ∃ scalar next, scalar.length = 32 ∧ (∀ memory, keyPair.add memory scalar = .ok next) ∧
      Reachable next ∧
      ∀ seed, keyExchangeOf (ofSeed .library seed).publicKey next.privateKey ≠
        keyExchangeOf next.publicKey (ofSeed .library seed).privateKey := by
  obtain ⟨scalar, publicKey, privateKey, hcalls, -, hne⟩ :=
    CEd25519.exists_ed25519KeyExchange_ne h.genuine
  have hadd (memory : CEd25519.Fe) : keyPair.add memory scalar.toList =
      .ok { publicKey := ⟨publicKey⟩, privateKey := ⟨privateKey⟩ } := by
    rw [add, addScalarTo_eq_ok (checkedBuffer_toList _ scalar), hcalls memory]
    rfl
  exact ⟨scalar.toList, _, scalar.length_toList, hadd, h.added (hadd CEd25519.fe0),
    fun seed hequal ↦ hne seed.buffer (Vector.toList_inj.mp hequal)⟩

/-- The pairs of two seeds, before and after an addition to one of them. -/
theorem Reachable.exists_keyExchangeOf_ne_two_seeds :
    Reachable (ofSeed .library ⟨Vector.replicate 32 0⟩) ∧
      ∃ scalar next, scalar.length = 32 ∧
        (ofSeed .library ⟨Vector.replicate 32 0⟩).add CEd25519.fe0 scalar = .ok next ∧
          Reachable next ∧
          keyExchangeOf (ofSeed .library ⟨Vector.replicate 32 1⟩).publicKey next.privateKey ≠
            keyExchangeOf next.publicKey (ofSeed .library ⟨Vector.replicate 32 1⟩).privateKey := by
  obtain ⟨scalar, next, hlength, hadd, hnext, hne⟩ :=
    Reachable.exists_keyExchangeOf_ne (.created ⟨Vector.replicate 32 0⟩)
  exact ⟨.created _, scalar, next, hlength, hadd CEd25519.fe0, hnext, hne _⟩

end KeyPair

end RxLisk

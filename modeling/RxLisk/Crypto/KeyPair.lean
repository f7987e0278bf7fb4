import RxLisk.Foundation.Text

/-!
# Ed25519 keys and signatures

The C library works on buffers whose sizes the Swift wrappers fix: 32 bytes for seeds and public
keys, 64 bytes for private keys and signatures.  The wrappers carry the size in their types, so a
key of another length cannot be built, and the checked initialisers throw instead.
-/

namespace RxLisk

inductive Ed25519Error where
  | seedGenerationFailed
  | invalidSeedLength
  | invalidScalarLength
  | invalidPublicKeyLength
  | invalidPrivateKeyLength
  | invalidSignatureLength
deriving DecidableEq

/-- The two functions of the C library behind key creation and signing. -/
structure Ed25519 where
  /-- `ed25519_create_keypair`, from the seed to the public and the private buffer. -/
  createKeypair : Vector UInt8 32 → Vector UInt8 32 × Vector UInt8 64
  /-- `ed25519_sign`, from the message and both key buffers to the signature buffer. -/
  sign : List UInt8 → Vector UInt8 32 → Vector UInt8 64 → Vector UInt8 64

/-- Keys and signatures of zero bytes. -/
instance : Inhabited Ed25519 where
  default :=
    { createKeypair := fun _ ↦ (Vector.replicate 32 0, Vector.replicate 64 0)
      sign := fun _ _ _ ↦ Vector.replicate 64 0 }

/-- The length check shared by the throwing initialisers. -/
def checkedBuffer (size : ℕ) (error : Ed25519Error) (bytes : List UInt8) :
    Except Ed25519Error (Vector UInt8 size) :=
  if h : bytes.length = size then .ok ⟨bytes.toArray, by simpa using h⟩ else .error error

theorem checkedBuffer_of_length {size : ℕ} (error : Ed25519Error) {bytes : List UInt8}
    (h : bytes.length = size) :
    ∃ buffer, checkedBuffer size error bytes = .ok buffer ∧ buffer.toList = bytes :=
  ⟨⟨bytes.toArray, by simpa using h⟩, by simp [checkedBuffer, h], by simp⟩

structure Seed where
  buffer : Vector UInt8 32

structure PublicKey where
  buffer : Vector UInt8 32

structure PrivateKey where
  buffer : Vector UInt8 64

def Seed.ofBytes (bytes : List UInt8) : Except Ed25519Error Seed :=
  Seed.mk <$> checkedBuffer 32 .invalidSeedLength bytes

def PublicKey.ofBytes (bytes : List UInt8) : Except Ed25519Error PublicKey :=
  PublicKey.mk <$> checkedBuffer 32 .invalidPublicKeyLength bytes

def PrivateKey.ofBytes (bytes : List UInt8) : Except Ed25519Error PrivateKey :=
  PrivateKey.mk <$> checkedBuffer 64 .invalidPrivateKeyLength bytes

def PublicKey.bytes (key : PublicKey) : List UInt8 := key.buffer.toList

def PrivateKey.bytes (key : PrivateKey) : List UInt8 := key.buffer.toList

structure KeyPair where
  publicKey : PublicKey
  privateKey : PrivateKey

namespace KeyPair

variable (ed25519 : Ed25519)

def ofSeed (seed : Seed) : KeyPair :=
  let buffers := ed25519.createKeypair seed.buffer
  { publicKey := ⟨buffers.1⟩, privateKey := ⟨buffers.2⟩ }

def sign (keyPair : KeyPair) (message : List UInt8) : List UInt8 :=
  (ed25519.sign message keyPair.publicKey.buffer keyPair.privateKey.buffer).toList

instance : Inhabited KeyPair := ⟨ofSeed default ⟨Vector.replicate 32 0⟩⟩

@[simp]
theorem length_sign (keyPair : KeyPair) (message : List UInt8) :
    (keyPair.sign ed25519 message).length = 64 := by
  simp [sign]

end KeyPair

@[simp]
theorem PublicKey.length_bytes (key : PublicKey) : key.bytes.length = 32 := by
  simp [bytes]

@[simp]
theorem PrivateKey.length_bytes (key : PrivateKey) : key.bytes.length = 64 := by
  simp [bytes]

theorem Seed.exists_ofBytes_eq_ok {bytes : List UInt8} (h : bytes.length = 32) :
    ∃ seed, Seed.ofBytes bytes = .ok seed ∧ seed.buffer.toList = bytes := by
  obtain ⟨buffer, hbuffer, hlist⟩ := checkedBuffer_of_length .invalidSeedLength h
  exact ⟨⟨buffer⟩, by rw [ofBytes, hbuffer]; rfl, hlist⟩

end RxLisk

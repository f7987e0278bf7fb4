import RxLisk.Crypto.Hex
import RxLisk.Crypto.KeyPair
import RxLisk.Crypto.SHA256

/-!
# Keys and addresses from secrets and public keys

A call that may trap returns `none`, and one that may also throw runs in `ExceptT` over that.  An
address is the first eight bytes of a digest, read as a little-endian number and printed in decimal
with the suffix `L`.
-/

namespace RxLisk

open SwiftString

namespace Crypto

/-- The suffix of every address. -/
def addressSuffix : Character := { scalar := 'L' }

def byteIdentifier (bytes : List UInt8) : SwiftString :=
  if bytes.length < 8 then []
  else
    let leadingBytes := (bytes.take 8).reverse
    let value : UInt64 := MemoryLayout.byteSwapped (MemoryLayout.load leadingBytes)
    decimal value.toNat

/-- Extract Lisk address from a public key. -/
def address (publicKey : SwiftString) : Option SwiftString := do
  let bytes ← SHA256.digestOf (hexBytes publicKey)
  let identifier := byteIdentifier bytes
  return identifier ++ [addressSuffix]

end Crypto

namespace KeyPair

/-- Hex representation of public key. -/
def publicKeyString (keyPair : KeyPair) : SwiftString := hexString keyPair.publicKey.bytes

/-- Hex representation of private key. -/
def privateKeyString (keyPair : KeyPair) : SwiftString := hexString keyPair.privateKey.bytes

end KeyPair

namespace Crypto

variable (ed25519 : Ed25519)

/-- Generate key pair from a given secret. -/
def keyPair (secret : SwiftString) : ExceptT Ed25519Error Option KeyPair := do
  let bytes ← ExceptT.lift (SHA256.digestOf (utf8 secret))
  let seed ← ExceptT.mk (some (Seed.ofBytes bytes))
  return KeyPair.ofSeed ed25519 seed

/-- Generate public key from a given secret. -/
def publicKey (secret : SwiftString) : ExceptT Ed25519Error Option SwiftString := do
  let keyPair ← keyPair ed25519 secret
  return keyPair.publicKeyString

/-- Generate private key from a given secret. -/
def privateKey (secret : SwiftString) : ExceptT Ed25519Error Option SwiftString := do
  let keyPair ← keyPair ed25519 secret
  return keyPair.privateKeyString

/-- Extract Lisk address from a secret. -/
def addressFromSecret (secret : SwiftString) : ExceptT Ed25519Error Option SwiftString := do
  let publicKey ← publicKey ed25519 secret
  ExceptT.lift (address publicKey)

/-! ## The identifier of a digest -/

/-- Reversing the leading bytes, loading them and swapping the result reads them little-endian. -/
theorem byteIdentifier_eq {bytes : List UInt8} (h : 8 ≤ bytes.length) :
    byteIdentifier bytes = decimal (LittleEndian.value (bytes.take 8)) := by
  have hlength : (bytes.take 8).reverse.length = MemoryLayout.size UInt64 := by
    simp only [List.length_reverse, List.length_take]
    exact Nat.min_eq_left h
  have hreversed : (bytes.take 8).reverse.reverse.length = MemoryLayout.size UInt64 := by
    rw [List.length_reverse, hlength]
  have hword := MemoryLayout.word_load hreversed
  rw [List.reverse_reverse] at hword
  simp only [byteIdentifier, if_neg (by omega : ¬ bytes.length < 8),
    MemoryLayout.byteSwapped_load hlength, List.reverse_reverse]
  exact congrArg decimal hword

/-- The number in front of the suffix fits into `UInt64`. -/
theorem value_take_lt (bytes : List UInt8) : LittleEndian.value (bytes.take 8) < 2 ^ 64 := by
  have hlt := LittleEndian.value_lt (bytes.take 8)
  have hwidth : (256 : ℕ) ^ (bytes.take 8).length ≤ 256 ^ 8 :=
    Nat.pow_le_pow_right (by norm_num) (List.length_take_le _ _)
  exact hlt.trans_le hwidth

/-- The text of an address: a number without leading zeros and the suffix. -/
def addressOf (number : UInt64) : SwiftString :=
  decimal number.toNat ++ [addressSuffix]

theorem addressOf_injective : Function.Injective addressOf := by
  intro left right h
  have hdigits := List.append_cancel_right h
  exact UInt64.toNat_inj.mp (decimal_injective hdigits)

/-! ## When a secret gives a key pair -/

theorem exists_keyPair_eq_some {secret : SwiftString}
    (h : SHA256.Paddable (utf8 secret).length) :
    ∃ pair, (keyPair ed25519 secret).run = some (.ok pair) := by
  obtain ⟨bytes, hbytes, hlength⟩ := SHA256.exists_digestOf_eq_some h
  obtain ⟨seed, hseed, _⟩ := Seed.exists_ofBytes_eq_ok hlength
  refine ⟨KeyPair.ofSeed ed25519 seed, ?_⟩
  simp [keyPair, hbytes, hseed]

theorem keyPair_eq_none {secret : SwiftString} (h : ¬ SHA256.Paddable (utf8 secret).length) :
    (keyPair ed25519 secret).run = none := by
  simp [keyPair, SHA256.digestOf_eq_none h]

/-- Whether a text is turned into an address does not depend on its characters. -/
theorem exists_address_iff (publicKey : SwiftString) :
    (∃ result, address publicKey = some result) ↔ SHA256.Paddable (publicKey.length / 2) := by
  rw [← length_hexBytes, ← SHA256.exists_digestOf_iff]
  constructor
  · rintro ⟨result, hresult⟩
    obtain ⟨digest, hdigest, -⟩ := Option.bind_eq_some_iff.mp hresult
    exact ⟨digest, hdigest⟩
  · rintro ⟨digest, hdigest⟩
    refine ⟨byteIdentifier digest ++ [addressSuffix], ?_⟩
    rw [address, hdigest]
    rfl

/-- The address of a public key made by the library never traps: its 32 bytes can be padded. -/
theorem exists_address_eq_some (pair : KeyPair) :
    ∃ result, address pair.publicKeyString = some result := by
  apply (exists_address_iff pair.publicKeyString).mpr
  rw [KeyPair.publicKeyString, length_hexString, PublicKey.length_bytes]
  decide

/-- A secret gives keys and an address, hashed from its standard padding, exactly when its UTF-8
length leaves at most 56 bytes in the last block. -/
theorem keyPair_returns_iff (secret : SwiftString) :
    ((∃ pair, (keyPair ed25519 secret).run = some (.ok pair)) ∧
      (∃ key, (publicKey ed25519 secret).run = some (.ok key)) ∧
      (∃ key, (privateKey ed25519 secret).run = some (.ok key)) ∧
      (∃ result, (addressFromSecret ed25519 secret).run = some (.ok result)) ∧
      0 ≤ SHA256.paddingCount (((utf8 secret).length * 8 : ℕ) : ℤ) ∧
      ∃ result object, SHA256.digest (SHA256.ofString secret) = some (result, object) ∧
        SHA256.IsPadding (utf8 secret) object.input) ↔
      (utf8 secret).length < 2 ^ 60 ∧ (utf8 secret).length % 64 ≤ 56 := by
  constructor
  · rintro ⟨⟨pair, hpair⟩, -⟩
    by_contra hlength
    rw [keyPair_eq_none ed25519 hlength] at hpair
    cases hpair
  · intro hlength
    obtain ⟨pair, hpair⟩ := exists_keyPair_eq_some ed25519 hlength
    obtain ⟨result, haddress⟩ := exists_address_eq_some pair
    obtain ⟨digest, object, hdigest, _, hpadding⟩ := SHA256.exists_digest_eq_some hlength
    refine ⟨⟨pair, hpair⟩, ⟨pair.publicKeyString, ?_⟩, ⟨pair.privateKeyString, ?_⟩,
      ⟨result, ?_⟩, (SHA256.paddingCount_nonneg_iff _).mpr hlength.2,
      ⟨digest, object, hdigest, hpadding⟩⟩
    · simp [publicKey, hpair, Except.map]
    · simp [privateKey, hpair, Except.map]
    · simp [addressFromSecret, publicKey, ExceptT.run_bind, hpair, haddress]

/-- A secret of 57 letters asks for a negative number of zero bytes and traps. -/
theorem keyPair_traps_on_57_letters :
    ¬ ∀ ed25519 : Ed25519, ∃ pair,
      (keyPair ed25519 (ofScalars (List.replicate 57 'a'))).run = some (.ok pair) := by
  intro h
  obtain ⟨pair, hpair⟩ := h default
  rw [keyPair_eq_none default (by decide)] at hpair
  cases hpair

end Crypto

end RxLisk

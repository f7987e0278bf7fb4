import RxLisk.Crypto.BytePacker
import RxLisk.Foundation.Text
import Mathlib.Data.List.FinRange

/-!
# The SHA-256 object

An object holds the chaining value, the input and, once `digest` has run, the result.  `digest`
pads the input in place, folds `process` over its 64-byte blocks and caches the 32 result bytes.

`pad` computes its zero count with signed arithmetic.  The count is right for every input length
except those that leave 57 to 63 bytes in the last block: there it is negative, and building an
array with a negative count traps.  A trap is modelled by `none`.
-/

namespace RxLisk

structure SHA256 where
  /-- The hash that is being computed. -/
  hash : Vector UInt32 8
  /-- The input that was provided; padded when the digest is computed. -/
  input : List UInt8
  /-- The result, once computed. -/
  result : Option (List UInt8)

namespace SHA256

abbrev blockBitSize : ℕ := 512

def initalHashValue : Vector UInt32 8 :=
  #v[0x6a09e667, 0xbb67ae85, 0x3c6ef372, 0xa54ff53a, 0x510e527f, 0x9b05688c, 0x1f83d9ab, 0x5be0cd19]

/-- The constants in the algorithm (K). -/
def konstants : Vector UInt32 64 :=
  #v[0x428a2f98, 0x71374491, 0xb5c0fbcf, 0xe9b5dba5, 0x3956c25b, 0x59f111f1, 0x923f82a4, 0xab1c5ed5,
    0xd807aa98, 0x12835b01, 0x243185be, 0x550c7dc3, 0x72be5d74, 0x80deb1fe, 0x9bdc06a7, 0xc19bf174,
    0xe49b69c1, 0xefbe4786, 0x0fc19dc6, 0x240ca1cc, 0x2de92c6f, 0x4a7484aa, 0x5cb0a9dc, 0x76f988da,
    0x983e5152, 0xa831c66d, 0xb00327c8, 0xbf597fc7, 0xc6e00bf3, 0xd5a79147, 0x06ca6351, 0x14292967,
    0x27b70a85, 0x2e1b2138, 0x4d2c6dfc, 0x53380d13, 0x650a7354, 0x766a0abb, 0x81c2c92e, 0x92722c85,
    0xa2bfe8a1, 0xa81a664b, 0xc24b8b70, 0xc76c51a3, 0xd192e819, 0xd6990624, 0xf40e3585, 0x106aa070,
    0x19a4c116, 0x1e376c08, 0x2748774c, 0x34b0bcb5, 0x391c0cb3, 0x4ed8aa4a, 0x5b9cca4f, 0x682e6ff3,
    0x748f82ee, 0x78a5636f, 0x84c87814, 0x8cc70208, 0x90befffa, 0xa4506ceb, 0xbef9a3f7, 0xc67178f2]

def ofBytes (input : List UInt8) : SHA256 :=
  { hash := initalHashValue, input := input, result := none }

def ofString (string : SwiftString) : SHA256 :=
  ofBytes (SwiftString.utf8 string)

/-! ## Compression -/

def rotateRight (word amount : UInt32) : UInt32 :=
  (word >>> amount) ||| (word <<< (32 - amount))

/-- Compute message schedule. -/
def messageSchedule (block : Vector UInt8 64) : Vector UInt32 64 :=
  (List.finRange 64).foldl (fun W (t : Fin 64) ↦
    if h : t.val ≤ 15 then
      -- Put 4 bytes in each message.
      W.set t
        ((block[t.val * 4].toUInt32 <<< 24) ||| (block[t.val * 4 + 1].toUInt32 <<< 16) |||
          (block[t.val * 4 + 2].toUInt32 <<< 8) ||| block[t.val * 4 + 3].toUInt32)
    else
      let σ1 := rotateRight W[t.val - 2] 17 ^^^ rotateRight W[t.val - 2] 19 ^^^ (W[t.val - 2] >>> 10)
      let σ0 := rotateRight W[t.val - 15] 7 ^^^ rotateRight W[t.val - 15] 18 ^^^
        (W[t.val - 15] >>> 3)
      W.set t (σ1 + W[t.val - 7] + σ0 + W[t.val - 16]))
    (Vector.replicate 64 0)

/-- The eight working variables of the main loop. -/
structure Working where
  (a b c d e f g h : UInt32)

/-- One iteration of the main loop. -/
def round (W : Vector UInt32 64) (working : Working) (t : Fin 64) : Working :=
  let { a, b, c, d, e, f, g, h } := working
  let Sigma1 := rotateRight e 6 ^^^ rotateRight e 11 ^^^ rotateRight e 25
  let ch := (e &&& f) ^^^ (~~~e &&& g)
  let t1 := h + Sigma1 + ch + konstants[t] + W[t]
  let Sigma0 := rotateRight a 2 ^^^ rotateRight a 13 ^^^ rotateRight a 22
  let maj := (a &&& b) ^^^ (a &&& c) ^^^ (b &&& c)
  let t2 := Sigma0 + maj
  { a := t1 + t2, b := a, c := b, d := c, e := d + t1, f := e, g := f, h := g }

/-- Process and compute hash from a block. -/
def process (hash : Vector UInt32 8) (block : Vector UInt8 64) : Vector UInt32 8 :=
  let W := messageSchedule block
  let final := (List.finRange 64).foldl (round W)
    { a := hash[0], b := hash[1], c := hash[2], d := hash[3],
      e := hash[4], f := hash[5], g := hash[6], h := hash[7] }
  #v[final.a + hash[0], final.b + hash[1], final.c + hash[2], final.d + hash[3],
    final.e + hash[4], final.f + hash[5], final.g + hash[6], final.h + hash[7]]

/-! ## Padding and blocks -/

/-- The count of zero bytes that `pad` asks for, as the signed value it computes. -/
def paddingCount (inputBitLength : ℤ) : ℤ :=
  let mod := inputBitLength.tmod 512
  let bitsToAppend := if mod = 448 then 512 else 448 - mod - 1
  -- We already appended first 7 bits with 0x80.
  (bitsToAppend - 7).tdiv 8

/-- Pad the given byte array to be a multiple of 512 bits. -/
def pad (input : List UInt8) : Option (List UInt8) :=
  let inputBitLength := input.length * 8
  let count := paddingCount inputBitLength
  -- the product overflows `Int`, or the array is built with a negative count
  if 2 ^ 63 ≤ inputBitLength ∨ count < 0 then none
  else
    let padded := input ++ [0x80] ++ List.replicate count.toNat 0 ++
      (MemoryLayout.bytes (UInt64.ofNat inputBitLength)).reverse
    -- the closing assertion of the source
    if padded.length * 8 % 512 = 0 then some padded else none

/-- Breaks the array into the given size, for at most `fuel` blocks. -/
def blocksUpTo (size : ℕ) : (fuel : ℕ) → List UInt8 → List (Vector UInt8 size)
  | 0, _ => []
  | fuel + 1, bytes =>
    if h : size ≤ bytes.length then
      ⟨(bytes.take size).toArray, by simp [h]⟩ :: blocksUpTo size fuel (bytes.drop size)
    else []

/-- Breaks the array into the given size; an incomplete last block is dropped. -/
def blocks (size : ℕ) (bytes : List UInt8) : List (Vector UInt8 size) :=
  blocksUpTo size bytes.length bytes

/-- The bytes of the chaining value, each word most significant byte first. -/
def resultBytes (hash : Vector UInt32 8) : List UInt8 :=
  hash.toList.flatMap fun (element : UInt32) ↦
    let hash := MemoryLayout.byteSwapped element
    [(hash &&& 0xff).toUInt8, ((hash >>> 8) &&& 0xff).toUInt8,
      ((hash >>> 16) &&& 0xff).toUInt8, ((hash >>> 24) &&& 0xff).toUInt8]

/-- Returns the digest, with the object after the call. -/
def digest (object : SHA256) : Option (List UInt8 × SHA256) :=
  match object.result with
  -- If we already have the result, we're done.
  | some result => some (result, object)
  | none => do
    let input ← pad object.input
    let messageBlocks := blocks (blockBitSize / 8) input
    let hash := messageBlocks.foldl process object.hash
    let result := resultBytes hash
    return (result, { hash := hash, input := input, result := some result })

/-- `SHA256(bytes).digest()`. -/
def digestOf (bytes : List UInt8) : Option (List UInt8) :=
  (digest (ofBytes bytes)).map Prod.fst

/-! ## When padding succeeds -/

/-- The message followed by `0x80`, the least number of zero bytes that completes a block, and the
64-bit big-endian bit length. -/
def IsPadding (input padded : List UInt8) : Prop :=
  ∃ zeros, padded = input ++ [0x80] ++ List.replicate zeros 0 ++
      (LittleEndian.encode 8 (8 * input.length)).reverse ∧
    64 ∣ padded.length ∧
    ∀ other, 64 ∣ input.length + 1 + other + 8 → zeros ≤ other

/-- The lengths that `pad` handles: at most 56 bytes in the last block, and a bit length that fits
into `Int`. -/
def Paddable (length : ℕ) : Prop :=
  length < 2 ^ 60 ∧ length % 64 ≤ 56

instance (length : ℕ) : Decidable (Paddable length) :=
  inferInstanceAs (Decidable (_ ∧ _))

/-- The signed count in closed form: it is exact below the boundary, a full block short of one byte
on it, and negative beyond. -/
theorem paddingCount_eq (length : ℕ) :
    paddingCount ((length * 8 : ℕ) : ℤ) =
      if length % 64 = 56 then 63 else 55 - ((length % 64 : ℕ) : ℤ) := by
  have hmod : ((length * 8 : ℕ) : ℤ).tmod 512 = 8 * ((length % 64 : ℕ) : ℤ) := by
    rw [Int.tmod_eq_emod_of_nonneg (by positivity)]
    omega
  have hresidue : length % 64 < 64 := Nat.mod_lt _ (by norm_num)
  unfold paddingCount
  rw [hmod]
  generalize length % 64 = residue at hresidue ⊢
  interval_cases residue <;> rfl

theorem paddingCount_nonneg_iff (length : ℕ) :
    0 ≤ paddingCount ((length * 8 : ℕ) : ℤ) ↔ length % 64 ≤ 56 := by
  rw [paddingCount_eq]
  split <;> omega

/-- Padding a paddable input gives the standard padding. -/
theorem exists_pad_eq_some {input : List UInt8} (h : Paddable input.length) :
    ∃ padded, pad input = some padded ∧ IsPadding input padded := by
  obtain ⟨hsmall, hresidue⟩ := h
  have hcount := (paddingCount_nonneg_iff input.length).mpr hresidue
  have hvalue := paddingCount_eq input.length
  obtain ⟨zeros, hzeros⟩ := Int.eq_ofNat_of_zero_le hcount
  -- the count completes a block and is below the block size
  have hcomplete : (input.length + 1 + zeros + 8) % 64 = 0 ∧ zeros < 64 := by
    rw [hzeros] at hvalue
    split at hvalue <;> omega
  have hbytes : MemoryLayout.bytes (UInt64.ofNat (input.length * 8)) =
      LittleEndian.encode 8 (8 * input.length) := by
    have hword := MemoryLayout.word_ofWord (T := UInt64) (input.length * 8)
      (by change _ < 256 ^ 8; omega)
    rw [MemoryLayout.bytes, Nat.mul_comm 8]
    exact congrArg (LittleEndian.encode 8) hword
  let padded := input ++ [0x80] ++ List.replicate zeros 0 ++
    (LittleEndian.encode 8 (8 * input.length)).reverse
  have hlength : padded.length = input.length + 1 + zeros + 8 := by
    simp only [padded, List.length_append, List.length_replicate, List.length_reverse,
      LittleEndian.length_encode, List.length_singleton]
  refine ⟨padded, ?_, zeros, rfl, ?_, ?_⟩
  · have hfits : ¬ (2 ^ 63 ≤ input.length * 8 ∨ (zeros : ℤ) < 0) := by omega
    have hassert : padded.length * 8 % 512 = 0 := by omega
    simp only [pad, hzeros, if_neg hfits, hbytes, Int.toNat_natCast]
    exact if_pos hassert
  · rw [hlength]
    omega
  · intro other hother
    omega

theorem pad_eq_none {input : List UInt8} (h : ¬ Paddable input.length) : pad input = none := by
  have hnonneg := paddingCount_nonneg_iff input.length
  have hfault : 2 ^ 63 ≤ input.length * 8 ∨ paddingCount ((input.length * 8 : ℕ) : ℤ) < 0 := by
    unfold Paddable at h
    omega
  simp only [pad, if_pos hfault]

/-! ## The digest -/

@[simp]
theorem length_resultBytes (hash : Vector UInt32 8) : (resultBytes hash).length = 32 := by
  simp [resultBytes]

/-- The blocks are the consecutive pieces of the padded input, with nothing left over. -/
theorem flatMap_blocksUpTo {size : ℕ} (hsize : 0 < size) {fuel : ℕ} {bytes : List UInt8}
    (hfuel : bytes.length ≤ fuel) (hmultiple : size ∣ bytes.length) :
    (blocksUpTo size fuel bytes).flatMap Vector.toList = bytes := by
  induction fuel generalizing bytes with
  | zero => simpa [blocksUpTo, eq_comm] using hfuel
  | succ fuel ih =>
    rw [blocksUpTo]
    split
    · rename_i hblock
      have hrest : (bytes.drop size).length = bytes.length - size := List.length_drop
      have htail : (blocksUpTo size fuel (bytes.drop size)).flatMap Vector.toList =
          bytes.drop size :=
        ih (by omega) (by rw [hrest]; exact Nat.dvd_sub hmultiple dvd_rfl)
      rw [List.flatMap_cons, htail]
      simp
    · rename_i hshort
      have hempty : bytes.length = 0 := Nat.eq_zero_of_dvd_of_lt hmultiple (by omega)
      simpa [eq_comm] using hempty

theorem flatMap_blocks {size : ℕ} (hsize : 0 < size) {bytes : List UInt8}
    (hmultiple : size ∣ bytes.length) :
    (blocks size bytes).flatMap Vector.toList = bytes :=
  flatMap_blocksUpTo hsize le_rfl hmultiple

/-- A fresh object with a paddable input returns 32 bytes and keeps the padded buffer. -/
theorem exists_digest_eq_some {input : List UInt8} (h : Paddable input.length) :
    ∃ result object, digest (ofBytes input) = some (result, object) ∧ result.length = 32 ∧
      IsPadding input object.input := by
  obtain ⟨padded, hpad, hpadding⟩ := exists_pad_eq_some h
  let hash := (blocks (blockBitSize / 8) padded).foldl process initalHashValue
  refine ⟨resultBytes hash, ⟨hash, padded, some (resultBytes hash)⟩, ?_, length_resultBytes _,
    hpadding⟩
  simp [digest, ofBytes, hpad, hash]

theorem digest_ofBytes_eq_none {input : List UInt8} (h : ¬ Paddable input.length) :
    digest (ofBytes input) = none := by
  simp [digest, ofBytes, pad_eq_none h]

/-- The digest is cached: a second call returns the same bytes and leaves the object alone. -/
theorem digest_digest {object next : SHA256} {result : List UInt8}
    (h : digest object = some (result, next)) : digest next = some (result, next) := by
  unfold digest at h
  cases hresult : object.result with
  | some cached =>
    rw [hresult] at h
    cases h
    simp [digest, hresult]
  | none =>
    rw [hresult] at h
    obtain ⟨padded, _, hfinal⟩ := Option.bind_eq_some_iff.mp h
    cases hfinal
    rfl

theorem exists_digestOf_eq_some {bytes : List UInt8} (h : Paddable bytes.length) :
    ∃ result, digestOf bytes = some result ∧ result.length = 32 := by
  obtain ⟨result, object, hdigest, hlength, _⟩ := exists_digest_eq_some h
  exact ⟨result, by simp [digestOf, hdigest], hlength⟩

theorem digestOf_eq_none {bytes : List UInt8} (h : ¬ Paddable bytes.length) :
    digestOf bytes = none := by
  simp [digestOf, digest_ofBytes_eq_none h]

theorem exists_digestOf_iff (bytes : List UInt8) :
    (∃ result, digestOf bytes = some result) ↔ Paddable bytes.length := by
  constructor
  · intro ⟨result, hresult⟩
    by_contra h
    rw [digestOf_eq_none h] at hresult
    cases hresult
  · intro h
    obtain ⟨result, hresult, _⟩ := exists_digestOf_eq_some h
    exact ⟨result, hresult⟩

theorem length_of_digestOf_eq_some {bytes result : List UInt8} (h : digestOf bytes = some result) :
    result.length = 32 := by
  have hpaddable := (exists_digestOf_iff bytes).mp ⟨result, h⟩
  obtain ⟨other, hother, hlength⟩ := exists_digestOf_eq_some hpaddable
  rw [h] at hother
  cases hother
  exact hlength

/-- The digest of the empty message. -/
example : digestOf [] = some
    [0xe3, 0xb0, 0xc4, 0x42, 0x98, 0xfc, 0x1c, 0x14, 0x9a, 0xfb, 0xf4, 0xc8, 0x99, 0x6f, 0xb9,
      0x24, 0x27, 0xae, 0x41, 0xe4, 0x64, 0x9b, 0x93, 0x4c, 0xa4, 0x95, 0x99, 0x1b, 0x78, 0x52,
      0xb8, 0x55] := by
  decide +kernel

end SHA256

end RxLisk

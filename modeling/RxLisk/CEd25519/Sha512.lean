import RxLisk.CEd25519.FieldElement
import RxLisk.Library.BlockBuffer

/-!
# SHA-512

A context takes a message in pieces of any length: whole blocks are compressed straight from the
input while the buffer is empty, everything else goes through the buffer.  However the message is
cut, the digest is that of the padded message, block by block.
-/

namespace RxLisk

namespace CEd25519

/-- The K array. -/
def K : Vector UInt64 80 :=
  #v[0x428a2f98d728ae22, 0x7137449123ef65cd, 0xb5c0fbcfec4d3b2f, 0xe9b5dba58189dbbc,
    0x3956c25bf348b538, 0x59f111f1b605d019, 0x923f82a4af194f9b, 0xab1c5ed5da6d8118,
    0xd807aa98a3030242, 0x12835b0145706fbe, 0x243185be4ee4b28c, 0x550c7dc3d5ffb4e2,
    0x72be5d74f27b896f, 0x80deb1fe3b1696b1, 0x9bdc06a725c71235, 0xc19bf174cf692694,
    0xe49b69c19ef14ad2, 0xefbe4786384f25e3, 0x0fc19dc68b8cd5b5, 0x240ca1cc77ac9c65,
    0x2de92c6f592b0275, 0x4a7484aa6ea6e483, 0x5cb0a9dcbd41fbd4, 0x76f988da831153b5,
    0x983e5152ee66dfab, 0xa831c66d2db43210, 0xb00327c898fb213f, 0xbf597fc7beef0ee4,
    0xc6e00bf33da88fc2, 0xd5a79147930aa725, 0x06ca6351e003826f, 0x142929670a0e6e70,
    0x27b70a8546d22ffc, 0x2e1b21385c26c926, 0x4d2c6dfc5ac42aed, 0x53380d139d95b3df,
    0x650a73548baf63de, 0x766a0abb3c77b2a8, 0x81c2c92e47edaee6, 0x92722c851482353b,
    0xa2bfe8a14cf10364, 0xa81a664bbc423001, 0xc24b8b70d0f89791, 0xc76c51a30654be30,
    0xd192e819d6ef5218, 0xd69906245565a910, 0xf40e35855771202a, 0x106aa07032bbd1b8,
    0x19a4c116b8d2d0c8, 0x1e376c085141ab53, 0x2748774cdf8eeb99, 0x34b0bcb5e19b48a8,
    0x391c0cb3c5c95a63, 0x4ed8aa4ae3418acb, 0x5b9cca4f7763e373, 0x682e6ff3d6b2b8a3,
    0x748f82ee5defb2fc, 0x78a5636f43172f60, 0x84c87814a1f0ab72, 0x8cc702081a6439ec,
    0x90befffa23631e28, 0xa4506cebde82bde9, 0xbef9a3f7b2c67915, 0xc67178f2e372532b,
    0xca273eceea26619c, 0xd186b8c721c0c207, 0xeada7dd6cde0eb1e, 0xf57d4f7fee6ed178,
    0x06f067aa72176fba, 0x0a637dc5a2c898a6, 0x113f9804bef90dae, 0x1b710b35131c471b,
    0x28db77f523047d84, 0x32caab7b40c72493, 0x3c9ebe0a15c9bebc, 0x431d67c49c100d4c,
    0x4cc5d4becb3e42b6, 0x597f299cfc657e2a, 0x5fcb6fab3ad6faec, 0x6c44198c4a475817]

/-! ## Various logical functions -/

section Functions

variable (x y z n : UInt64)

def ror64c : UInt64 := x >>> (y &&& 63) ||| x <<< (64 - (y &&& 63))

def Ch : UInt64 := z ^^^ (x &&& (y ^^^ z))

def Maj : UInt64 := (x ||| y) &&& z ||| x &&& y

def S : UInt64 := ror64c x n

def R : UInt64 := x >>> n

def Sigma0 : UInt64 := S x 28 ^^^ S x 34 ^^^ S x 39

def Sigma1 : UInt64 := S x 14 ^^^ S x 18 ^^^ S x 41

def Gamma0 : UInt64 := S x 1 ^^^ S x 8 ^^^ R x 7

def Gamma1 : UInt64 := S x 19 ^^^ S x 61 ^^^ R x 6

end Functions

/-- Eight bytes, most significant byte first. -/
def store64h (x : UInt64) : Vector UInt8 8 :=
  #v[(x >>> 56 &&& 255).toUInt8, (x >>> 48 &&& 255).toUInt8, (x >>> 40 &&& 255).toUInt8,
    (x >>> 32 &&& 255).toUInt8, (x >>> 24 &&& 255).toUInt8, (x >>> 16 &&& 255).toUInt8,
    (x >>> 8 &&& 255).toUInt8, (x &&& 255).toUInt8]

def load64h (y : Vector UInt8 128) (offset : ℕ) (h : offset + 8 ≤ 128) : UInt64 :=
  (y[offset] &&& 255).toUInt64 <<< 56 ||| (y[offset + 1] &&& 255).toUInt64 <<< 48 |||
    (y[offset + 2] &&& 255).toUInt64 <<< 40 ||| (y[offset + 3] &&& 255).toUInt64 <<< 32 |||
    (y[offset + 4] &&& 255).toUInt64 <<< 24 ||| (y[offset + 5] &&& 255).toUInt64 <<< 16 |||
    (y[offset + 6] &&& 255).toUInt64 <<< 8 ||| (y[offset + 7] &&& 255).toUInt64

/-! ## Compression -/

/-- The array `W`, filled from its start. -/
def sha512Schedule (buf : Vector UInt8 128) : Vector UInt64 80 :=
  (List.finRange 80).foldl (fun W (i : Fin 80) ↦
    if h : i.val < 16 then W.set i (load64h buf (8 * i.val) (by omega))
    else W.set i (Gamma1 W[i.val - 2] + W[i.val - 7] + Gamma0 W[i.val - 15] + W[i.val - 16]))
    (Vector.replicate 80 0)

/-- The copy of the state, named from the round on that comes next. -/
structure Sha512Working where
  (a b c d e f g h : UInt64)

/-- One round; where the source names the words anew for each round, the words move on here. -/
def rnd (W : Vector UInt64 80) (working : Sha512Working) (i : Fin 80) : Sha512Working :=
  let { a, b, c, d, e, f, g, h } := working
  let t0 := h + Sigma1 e + Ch e f g + K[i] + W[i]
  let t1 := Sigma0 a + Maj a b c
  { a := t0 + t1, b := a, c := b, d := c, e := d + t0, f := e, g := f, h := g }

/-- Compress 1024 bits. -/
def sha512Compress (state : Vector UInt64 8) (buf : Vector UInt8 128) : Vector UInt64 8 :=
  let W := sha512Schedule buf
  let final := (List.finRange 80).foldl (rnd W)
    { a := state.get 0, b := state.get 1, c := state.get 2, d := state.get 3,
      e := state.get 4, f := state.get 5, g := state.get 6, h := state.get 7 }
  #v[state.get 0 + final.a, state.get 1 + final.b, state.get 2 + final.c, state.get 3 + final.d,
    state.get 4 + final.e, state.get 5 + final.f, state.get 6 + final.g, state.get 7 + final.h]

/-! ## The context -/

/-- The hash state.  The functions of the source refuse a buffer that is already full, which none of
them ever leaves behind. -/
structure Sha512Context where
  length : UInt64
  state : Vector UInt64 8
  curlen : ℕ
  buf : Vector UInt8 128
  curlen_lt : curlen < 128

def sha512InitialState : Vector UInt64 8 :=
  #v[0x6a09e667f3bcc908, 0xbb67ae8584caa73b, 0x3c6ef372fe94f82b, 0xa54ff53a5f1d36f1,
    0x510e527fade682d1, 0x9b05688c2b3e6c1f, 0x1f83d9abfb41bd6b, 0x5be0cd19137e2179]

/-- Initialize the hash state.  The buffer keeps what was in memory. -/
def sha512Init (memory : Vector UInt8 128) : Sha512Context :=
  { length := 0, state := sha512InitialState, curlen := 0, buf := memory, curlen_lt := by norm_num }

/-- Copies bytes into the buffer. -/
def copyInto (buf : Vector UInt8 128) (start : ℕ) (bytes : List UInt8) : Vector UInt8 128 :=
  Vector.ofFn fun i ↦
    if h : start ≤ i.val ∧ i.val - start < bytes.length then bytes[i.val - start] else buf[i]

/-- The loop of `sha512_update`, for at most `fuel` rounds. -/
def sha512UpdateUpTo : ℕ → Sha512Context → List UInt8 → Sha512Context
  | 0, md, _ => md
  | fuel + 1, md, input =>
    if input = [] then md
    else if h : md.curlen = 0 ∧ 128 ≤ input.length then
      let block : Vector UInt8 128 := ⟨(input.take 128).toArray, by simp [h.2]⟩
      sha512UpdateUpTo fuel
        { md with state := sha512Compress md.state block, length := md.length + 128 * 8 }
        (input.drop 128)
    else
      let n := min input.length (128 - md.curlen)
      let buf := copyInto md.buf md.curlen (input.take n)
      if h : md.curlen + n = 128 then
        sha512UpdateUpTo fuel
          { length := md.length + 8 * 128, state := sha512Compress md.state buf, curlen := 0,
            buf := buf, curlen_lt := by norm_num }
          (input.drop n)
      else
        sha512UpdateUpTo fuel
          { md with curlen := md.curlen + n, buf := buf,
                    curlen_lt := by have hlt := md.curlen_lt; omega }
          (input.drop n)

/-- Process a block of memory through the hash. -/
def sha512Update (md : Sha512Context) (input : List UInt8) : Sha512Context :=
  sha512UpdateUpTo input.length md input

/-- The words of the state, most significant byte first. -/
def sha512Output (state : Vector UInt64 8) : Vector UInt8 64 :=
  Vector.ofFn fun i ↦ (store64h state[i.val / 8])[i.val % 8]

/-- Terminate the hash to get the digest. -/
def sha512Final (md : Sha512Context) : Vector UInt8 64 :=
  let length := md.length + UInt64.ofNat md.curlen * 8
  let buf := md.buf.set md.curlen 0x80 md.curlen_lt
  let curlen := md.curlen + 1
  -- a length above 112 bytes leaves no room for the length of the message
  let (state, buf, curlen) :=
    if 112 < curlen then
      let buf := copyInto buf curlen (List.replicate (128 - curlen) 0)
      (sha512Compress md.state buf, buf, 0)
    else (md.state, buf, curlen)
  let buf := copyInto buf curlen (List.replicate (120 - curlen) 0)
  let buf := copyInto buf 120 (store64h length).toList
  sha512Output (sha512Compress state buf)

def sha512 (memory : Vector UInt8 128) (message : List UInt8) : Vector UInt8 64 :=
  sha512Final (sha512Update (sha512Init memory) message)

/-! ## What a context has taken in -/

open BlockBuffer

/-- Compression of the bytes of a block. -/
def compressBlock (state : Vector UInt64 8) (block : List UInt8) : Vector UInt64 8 :=
  if h : block.length = 128 then sha512Compress state ⟨block.toArray, by simp [h]⟩ else state

/-- The bytes of the buffer that wait for the rest of their block. -/
def Sha512Context.pending (md : Sha512Context) : List UInt8 := md.buf.toList.take md.curlen

theorem Sha512Context.length_pending (md : Sha512Context) : md.pending.length = md.curlen := by
  have hlt := md.curlen_lt
  rw [pending, List.length_take, Vector.length_toList]
  omega

/-- Taking in the input leads from one context to another. -/
structure Continues (md : Sha512Context) (input : List UInt8) (next : Sha512Context) : Prop where
  absorb_eq : absorb 128 compressBlock (md.state, md.pending) input = (next.state, next.pending)
  length_eq : (next.length.toNat + 8 * next.curlen) % 2 ^ 64 =
    (md.length.toNat + 8 * md.curlen + 8 * input.length) % 2 ^ 64

theorem Continues.refl (md : Sha512Context) : Continues md [] md := ⟨rfl, rfl⟩

theorem Continues.trans {md middle next : Sha512Context} {left right : List UInt8}
    (hleft : Continues md left middle) (hright : Continues middle right next) :
    Continues md (left ++ right) next := by
  constructor
  · rw [absorb_append, hleft.absorb_eq, hright.absorb_eq]
  · have h := hleft.length_eq
    have h' := hright.length_eq
    rw [List.length_append]
    omega

theorem Continues.split {md middle next : Sha512Context} {input : List UInt8} (count : ℕ)
    (hleft : Continues md (input.take count) middle)
    (hright : Continues middle (input.drop count) next) : Continues md input next := by
  have h := hleft.trans hright
  rwa [List.take_append_drop] at h

theorem sha512Compress_eq {state : Vector UInt64 8} {buf : Vector UInt8 128} {block : List UInt8}
    (h : buf.toList = block) : sha512Compress state buf = compressBlock state block := by
  subst h
  rw [compressBlock, dif_pos (Vector.length_toList ..)]
  rfl

theorem take_copyInto {buf : Vector UInt8 128} {start : ℕ} {bytes : List UInt8}
    (h : start + bytes.length ≤ 128) :
    (copyInto buf start bytes).toList.take (start + bytes.length) =
      buf.toList.take start ++ bytes := by
  have hlow : (buf.toList.take start).length = start := by
    rw [List.length_take, Vector.length_toList]
    omega
  apply List.ext_getElem
  · rw [List.length_take, Vector.length_toList, List.length_append, hlow]
    omega
  · intro i hi hi'
    rw [List.length_append, hlow] at hi'
    have hlt : i < 128 := by omega
    have hget : (copyInto buf start bytes)[i] =
        if h : start ≤ i ∧ i - start < bytes.length then bytes[i - start] else buf[i] :=
      Vector.getElem_ofFn hlt
    rw [List.getElem_take, Vector.getElem_toList, hget]
    split_ifs with hinner
    · rw [List.getElem_append_right (hlow.trans_le hinner.1)]
      simp only [hlow]
    · have hbefore : i < (buf.toList.take start).length := by omega
      rw [List.getElem_append_left hbefore, List.getElem_take, Vector.getElem_toList]

/-- Bytes that are copied up to the end leave only the bytes before them. -/
theorem toList_copyInto {buf : Vector UInt8 128} {start : ℕ} {bytes : List UInt8}
    (h : start + bytes.length = 128) :
    (copyInto buf start bytes).toList = buf.toList.take start ++ bytes := by
  have htake : (copyInto buf start bytes).toList.take (start + bytes.length) =
      buf.toList.take start ++ bytes := take_copyInto h.le
  have hall : (copyInto buf start bytes).toList.length ≤ start + bytes.length := by
    rw [Vector.length_toList, h]
  rwa [List.take_of_length_le hall] at htake

theorem take_set (buf : Vector UInt8 128) {i : ℕ} (hi : i < 128) (byte : UInt8) :
    (buf.set i byte hi).toList.take (i + 1) = buf.toList.take i ++ [byte] := by
  have hlength : i < buf.toList.length := by rwa [Vector.length_toList]
  rw [Vector.toList_set, List.take_set, List.take_succ_eq_append_getElem hlength,
    List.set_append_right _ _ (by simp)]
  simp [hi.le]

/-! ## Updates -/

/-- A whole block, straight from the input. -/
theorem continues_block {md next : Sha512Context} {input : List UInt8} (hcurlen : md.curlen = 0)
    (hinput : 128 ≤ input.length) (hnext : next.curlen = 0)
    (hstate : next.state = compressBlock md.state (input.take 128))
    (hlength : next.length = md.length + 128 * 8) : Continues md (input.take 128) next := by
  have hpending (md : Sha512Context) (h : md.curlen = 0) : md.pending = [] := by
    rw [Sha512Context.pending, h, List.take_zero]
  have htake : (input.take 128).length = 128 := by simp [hinput]
  constructor
  · rw [hpending md hcurlen, hpending next hnext, absorb_of_eq, List.nil_append, hstate]
    · exact List.ne_nil_of_length_pos (by omega)
    · rw [htake]
      rfl
  · rw [hcurlen, hnext, hlength, htake, UInt64.toNat_add]
    simp

/-- Bytes that fill the buffer, which is then compressed. -/
theorem continues_full {md next : Sha512Context} {bytes : List UInt8}
    (hbytes : md.curlen + bytes.length = 128) (hnext : next.curlen = 0)
    (hstate : next.state = sha512Compress md.state (copyInto md.buf md.curlen bytes))
    (hlength : next.length = md.length + 8 * 128) : Continues md bytes next := by
  have hlt := md.curlen_lt
  have hpending : next.pending = [] := by rw [Sha512Context.pending, hnext, List.take_zero]
  constructor
  · rw [hpending, absorb_of_eq, hstate, sha512Compress_eq (toList_copyInto hbytes)]
    · rfl
    · exact List.ne_nil_of_length_pos (by omega)
    · rw [md.length_pending, hbytes]
  · have hword : (8 * 128 : UInt64).toNat = 1024 := rfl
    rw [hnext, hlength, UInt64.toNat_add, hword]
    omega

/-- Bytes that leave room in the buffer. -/
theorem continues_partial {md next : Sha512Context} {bytes : List UInt8}
    (hbytes : md.curlen + bytes.length < 128) (hnext : next.curlen = md.curlen + bytes.length)
    (hbuf : next.buf = copyInto md.buf md.curlen bytes) (hstate : next.state = md.state)
    (hlength : next.length = md.length) : Continues md bytes next := by
  constructor
  · have hpending : next.pending = md.pending ++ bytes := by
      rw [Sha512Context.pending, hnext, hbuf, take_copyInto hbytes.le]
      rfl
    rw [absorb_of_lt _ _ _ (by rwa [md.length_pending]), hstate, hpending]
  · rw [hnext, hlength]
    omega

theorem continues_sha512UpdateUpTo {fuel : ℕ} {md : Sha512Context} {input : List UInt8}
    (hfuel : input.length ≤ fuel) : Continues md input (sha512UpdateUpTo fuel md input) := by
  induction fuel generalizing md input with
  | zero =>
    obtain rfl : input = [] := List.length_eq_zero_iff.mp (by omega)
    exact .refl md
  | succ fuel ih =>
    have hlt := md.curlen_lt
    unfold sha512UpdateUpTo
    split_ifs with hempty hdirect
    · subst hempty
      exact .refl md
    · obtain ⟨hcurlen, hinput⟩ := hdirect
      have hrest : (input.drop 128).length ≤ fuel := by
        rw [List.length_drop]
        omega
      have hblock : (input.take 128).length = 128 := by simp [hinput]
      refine .split 128 ?_ (ih hrest)
      exact continues_block hcurlen hinput hcurlen (by rw [compressBlock, dif_pos hblock]) rfl
    · have hinput : 0 < input.length := List.length_pos_of_ne_nil hempty
      have htake : (input.take (min input.length (128 - md.curlen))).length =
          min input.length (128 - md.curlen) := by
        rw [List.length_take]
        omega
      have hrest : (input.drop (min input.length (128 - md.curlen))).length ≤ fuel := by
        rw [List.length_drop]
        omega
      dsimp only
      split_ifs with hfull
      · refine .split (min input.length (128 - md.curlen)) ?_ (ih hrest)
        exact continues_full (by rw [htake, hfull]) rfl rfl rfl
      · refine .split (min input.length (128 - md.curlen)) ?_ (ih hrest)
        exact continues_partial (by rw [htake]; omega) (by rw [htake]) rfl rfl rfl

theorem continues_sha512Update (md : Sha512Context) (input : List UInt8) :
    Continues md input (sha512Update md input) :=
  continues_sha512UpdateUpTo le_rfl

/-! ## The digest -/

/-- The bytes after a message: `0x80`, zeros up to 112 bytes in the last block, the upper half of
the bit length, which is taken to be zero, and the lower half. -/
def sha512Padding (message : List UInt8) : List UInt8 :=
  0x80 :: List.replicate ((239 - message.length % 128) % 128 + 8) 0 ++
    (store64h (UInt64.ofNat (8 * message.length))).toList

/-- The digest of the whole message, with the padding, block by block. -/
def sha512Digest (message : List UInt8) : Vector UInt8 64 :=
  sha512Output
    (absorb 128 compressBlock (sha512InitialState, []) (message ++ sha512Padding message)).1

theorem absorb_block (chain : Vector UInt64 8) {pending bytes : List UInt8} (hbytes : bytes ≠ [])
    (h : pending.length + bytes.length = 128) (rest : List UInt8) :
    absorb 128 compressBlock (chain, pending) (bytes ++ rest) =
      absorb 128 compressBlock (compressBlock chain (pending ++ bytes), []) rest := by
  rw [absorb_append, absorb_of_eq 128 compressBlock chain hbytes h]

/-- The bit length that is stored. -/
theorem length_of_continues {memory : Vector UInt8 128} {md : Sha512Context}
    {message : List UInt8} (h : Continues (sha512Init memory) message md) :
    md.length + UInt64.ofNat md.curlen * 8 = UInt64.ofNat (8 * message.length) := by
  have hlt := md.curlen_lt
  have hlength := h.length_eq
  have hzero : (sha512Init memory).length.toNat + 8 * (sha512Init memory).curlen = 0 := rfl
  have height : (8 : UInt64).toNat = 8 := rfl
  rw [hzero, zero_add] at hlength
  apply UInt64.toNat_inj.mp
  rw [UInt64.toNat_add, UInt64.toNat_mul, UInt64.toNat_ofNat', UInt64.toNat_ofNat', height]
  omega

/-- The last block: what is there, zeros, and the length. -/
theorem toList_lastBlock {buf : Vector UInt8 128} {start : ℕ} {stored : List UInt8}
    (hstart : start ≤ 120) (hstored : stored.length = 8) :
    (copyInto (copyInto buf start (List.replicate (120 - start) 0)) 120 stored).toList =
      buf.toList.take start ++ List.replicate (120 - start) 0 ++ stored := by
  have hzeros : start + (List.replicate (120 - start) (0 : UInt8)).length = 120 := by
    rw [List.length_replicate]
    omega
  have htake : (copyInto buf start (List.replicate (120 - start) 0)).toList.take
      (start + (List.replicate (120 - start) (0 : UInt8)).length) =
        buf.toList.take start ++ List.replicate (120 - start) 0 :=
    take_copyInto (hzeros.trans_le (by norm_num))
  rw [hzeros] at htake
  rw [toList_copyInto (by rw [hstored]), htake]

/-- A context that has taken in a message gives the digest of the message, whatever its buffer held
before. -/
theorem sha512Final_eq {memory : Vector UInt8 128} {md : Sha512Context} {message : List UInt8}
    (h : Continues (sha512Init memory) message md) : sha512Final md = sha512Digest message := by
  have hlt := md.curlen_lt
  have hstart : absorb 128 compressBlock (sha512InitialState, []) message =
      (md.state, md.pending) := h.absorb_eq
  have hempty : (sha512InitialState, ([] : List UInt8)).2.length < 128 := by norm_num
  have hcurlen : message.length % 128 = md.curlen := by
    have hpending := length_absorb 128 compressBlock hempty message
    rw [hstart, List.length_nil, zero_add, md.length_pending] at hpending
    exact hpending.symm
  have hset : (md.buf.set md.curlen 0x80 md.curlen_lt).toList.take (md.curlen + 1) =
      md.pending ++ [0x80] := take_set md.buf md.curlen_lt 0x80
  have hstored : (store64h (UInt64.ofNat (8 * message.length))).toList.length = 8 :=
    Vector.length_toList ..
  rw [sha512Digest, sha512Padding, absorb_append, hstart, hcurlen, sha512Final,
    length_of_continues h]
  dsimp only
  generalize (store64h (UInt64.ofNat (8 * message.length))).toList = stored at hstored ⊢
  generalize md.buf.set md.curlen 0x80 md.curlen_lt = marked at hset ⊢
  have hpending := md.length_pending
  split_ifs with hroom
  · -- the length needs a block of its own
    have hcount : (239 - md.curlen) % 128 + 8 = 128 - (md.curlen + 1) + 120 := by omega
    have hpadding : 0x80 :: List.replicate (128 - (md.curlen + 1) + 120) 0 ++ stored =
        ([0x80] ++ List.replicate (128 - (md.curlen + 1)) 0) ++
          (List.replicate 120 0 ++ stored) := by
      rw [List.replicate_add]
      simp
    have hfirst : (copyInto marked (md.curlen + 1)
        (List.replicate (128 - (md.curlen + 1)) 0)).toList =
          md.pending ++ ([0x80] ++ List.replicate (128 - (md.curlen + 1)) 0) := by
      rw [toList_copyInto, hset, List.append_assoc]
      rw [List.length_replicate]
      omega
    dsimp only
    rw [hcount, hpadding, absorb_block, absorb_of_eq, sha512Compress_eq hfirst,
      sha512Compress_eq (toList_lastBlock (Nat.zero_le 120) hstored), List.take_zero,
      List.append_assoc]
    · simp
    · simp [hstored]
    · simp
    · simp
      omega
  · have hcount : (239 - md.curlen) % 128 + 8 = 120 - (md.curlen + 1) := by omega
    have hlast := @toList_lastBlock marked _ _ (show md.curlen + 1 ≤ 120 by omega) hstored
    dsimp only
    rw [hcount, absorb_of_eq, sha512Compress_eq hlast, hset]
    · simp
    · simp
    · simp [hstored]
      omega

/-- However a message is cut into pieces, the digest is the one of the message. -/
theorem sha512Final_foldl_sha512Update (memory : Vector UInt8 128) (pieces : List (List UInt8)) :
    sha512Final (pieces.foldl sha512Update (sha512Init memory)) = sha512Digest pieces.flatten := by
  have hpieces (md : Sha512Context) (pieces : List (List UInt8)) :
      Continues md pieces.flatten (pieces.foldl sha512Update md) := by
    induction pieces generalizing md with
    | nil => exact .refl md
    | cons piece pieces ih => exact (continues_sha512Update md piece).trans (ih _)
  exact sha512Final_eq (hpieces _ pieces)

theorem sha512_eq (memory : Vector UInt8 128) (message : List UInt8) :
    sha512 memory message = sha512Digest message :=
  sha512Final_eq (continues_sha512Update _ message)

end CEd25519

end RxLisk

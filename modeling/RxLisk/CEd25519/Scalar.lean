import RxLisk.CEd25519.Curve

/-!
# Scalars modulo the group order

A number is kept in limbs of 21 bits.  The limbs from `2^252` on are folded into the lower ones,
with carries between the folds so that no 64-bit operation overflows; a last fold of the sign brings
the number into the range below the group order, so that what is stored is the canonical remainder.
-/

namespace RxLisk

namespace CEd25519

open LimbSteps BitFields LittleEndian

/-- The limbs while they are computed, least significant first. -/
abbrev ScLimbs : Type := Vector Int64 24

def scWeight (i : Fin 24) : ℤ := 2 ^ (21 * i.val)

/-! ## Loads -/

section Loads

variable {n : ℕ} (s : Vector UInt8 n)

/-- What the three or four bytes at the bit `21 i` hold from that bit on. -/
def scLoad (i : ℕ) (h : 21 * i / 8 + 4 ≤ n) : UInt64 :=
  if 21 * i % 8 ≤ 3 then load3 s (21 * i / 8) (by omega) >>> UInt64.ofNat (21 * i % 8)
  else load4 s (21 * i / 8) h >>> UInt64.ofNat (21 * i % 8)

/-- The limbs of all bytes: each limb is cut to 21 bits, but for the last one. -/
def scLimbs (count : ℕ) (h : 21 * (count - 1) / 8 + 4 = n) : Vector Int64 count :=
  Vector.ofFn fun i ↦
    if i.val + 1 < count then (2097151 &&& scLoad s i (by omega)).toInt64
    else (load4 s (21 * i / 8) (by omega) >>> UInt64.ofNat (21 * i % 8)).toInt64

end Loads

/-! ## Steps -/

/-- The carry out of a limb, rounded to the nearest. -/
def scCarry (i : Fin 24) : Step 24 where
  source := i
  shift := 21
  round := 2 ^ 20
  targets := [(i + 1, 1)]

/-- The carry out of a limb, rounded down. -/
def scFloorCarry (i : Fin 24) : Step 24 where
  source := i
  shift := 21
  round := 0
  targets := [(i + 1, 1)]

/-- Moves a limb down by 252 bits: `2^252` is congruent to a number of six limbs. -/
def scFold (i : Fin 24) : Step 24 where
  source := i
  shift := 0
  round := 0
  targets := [(i - 12, 666643), (i - 11, 470296), (i - 10, 654183), (i - 9, -997805),
    (i - 8, 136657), (i - 7, -683901)]

/-- Everything up to the last fold. -/
def scFoldSteps : List (Step 24) :=
  [23, 22, 21, 20, 19, 18].map scFold ++
  [6, 8, 10, 12, 14, 16, 7, 9, 11, 13, 15].map scCarry ++
  [17, 16, 15, 14, 13, 12].map scFold ++
  [0, 2, 4, 6, 8, 10, 1, 3, 5, 7, 9, 11].map scCarry ++
  [scFold 12] ++
  [0, 1, 2, 3, 4, 5, 6, 7, 8, 9, 10, 11].map scFloorCarry

/-- The last fold, and the carries after it. -/
def scLastSteps : List (Step 24) :=
  scFold 12 :: [0, 1, 2, 3, 4, 5, 6, 7, 8, 9, 10].map scFloorCarry

/-- The carries after a multiplication. -/
def scProductSteps : List (Step 24) :=
  [0, 2, 4, 6, 8, 10, 12, 14, 16, 18, 20, 22, 1, 3, 5, 7, 9, 11, 13, 15, 17, 19, 21].map scCarry

/-! ## Stores -/

/-- The limb and the shift that each byte starts from. -/
def scPacking : Vector (Fin 12 × ℕ) 32 :=
  #v[(0, 0), (0, 8), (0, 16), (1, 3), (1, 11), (1, 19), (2, 6), (2, 14), (3, 1), (3, 9), (3, 17),
    (4, 4), (4, 12), (4, 20), (5, 7), (5, 15), (6, 2), (6, 10), (6, 18), (7, 5), (7, 13), (8, 0),
    (8, 8), (8, 16), (9, 3), (9, 11), (9, 19), (10, 6), (10, 14), (11, 1), (11, 9), (11, 17)]

/-- A byte from one limb or, at the end of a limb, from two. -/
def scPackedByte (s : Vector UInt64 24) (position : Fin 12 × ℕ) : UInt8 :=
  let (i, shift) := position
  if i ≠ 11 ∧ 21 < shift + 8 then
    (s[i.val] >>> UInt64.ofNat shift ||| s[i.val + 1] <<< UInt64.ofNat (21 - shift)).toUInt8
  else (s[i.val] >>> UInt64.ofNat shift).toUInt8

def scStore (s : ScLimbs) : Vector UInt8 32 :=
  let limbs := s.map Int64.toUInt64
  scPacking.map (scPackedByte limbs)

/-- The bytes that are stored over the first half of `s`. -/
def scReduce (s : Vector UInt8 64) : Vector UInt8 32 :=
  scStore (run (scFoldSteps ++ scLastSteps) (scLimbs s 24 (by norm_num)))

/-- The pairs of limbs that make the limb `k` of a product. -/
def scPairs (k : Fin 24) : List (Fin 12 × Fin 12) :=
  (List.finRange 12 ×ˢ List.finRange 12).filter fun pair ↦ pair.1.val + pair.2.val = k.val

/-- `ab + c`, limb by limb and uncarried. -/
def scProducts (a b c : Vector Int64 12) : ScLimbs :=
  Vector.ofFn fun k ↦
    (scPairs k).foldl (fun sum pair ↦ sum + a[pair.1] * b[pair.2])
      (if h : k.val < 12 then (c)[k.val] else 0)

def scMuladd (a b c : Vector UInt8 32) : Vector UInt8 32 :=
  let limbs (bytes : Vector UInt8 32) := scLimbs bytes 12 (by norm_num)
  scStore (run (scProductSteps ++ scFoldSteps ++ scLastSteps)
    (scProducts (limbs a) (limbs b) (limbs c)))

/-! ## The loaded limbs -/

section Loads

variable {n : ℕ} (s : Vector UInt8 n)

theorem toNat_shiftRight_uInt64 (word : UInt64) {amount : ℕ} (hamount : amount < 64) :
    (word >>> UInt64.ofNat amount).toNat = word.toNat / 2 ^ amount := by
  rw [UInt64.toNat_shiftRight, UInt64.toNat_ofNat', Nat.shiftRight_eq_div_pow,
    Nat.mod_eq_of_lt (a := amount) (by omega), Nat.mod_eq_of_lt hamount]

/-- A field of a loaded word, masked to 21 bits. -/
theorem toNat_masked {word : UInt64} {number start length shift : ℕ}
    (hword : word.toNat = bitField number start length) (hlength : shift + 21 ≤ length)
    (hshift : shift < 64) :
    (2097151 &&& word >>> UInt64.ofNat shift).toNat = bitField number (start + shift) 21 := by
  obtain ⟨rest, rfl⟩ := Nat.exists_eq_add_of_le hlength
  have hmask : (2097151 : UInt64).toNat = 2 ^ 21 - 1 := rfl
  rw [UInt64.toNat_and, hmask, Nat.and_comm, Nat.and_two_pow_sub_one_eq_mod,
    toNat_shiftRight_uInt64 _ hshift, hword, add_assoc, bitField_div, ← bitField_zero,
    bitField_bitField (by omega), add_zero]

theorem toNat_scLoad (i : ℕ) (h : 21 * i / 8 + 4 ≤ n) :
    (2097151 &&& scLoad s i h).toNat = bitField (value s.toList) (21 * i) 21 := by
  have hstart : 8 * (21 * i / 8) + 21 * i % 8 = 21 * i := Nat.div_add_mod _ _
  have hshift : 21 * i % 8 < 8 := Nat.mod_lt _ (by norm_num)
  unfold scLoad
  split
  · rw [toNat_masked (toNat_load3 s _ _) (by omega) (by omega), hstart]
  · rw [toNat_masked (toNat_load4 s _ _) (by omega) (by omega), hstart]

/-- The last limb has all bits that are left. -/
theorem toNat_lastLoad (i : ℕ) (h : 21 * i / 8 + 4 = n) :
    (load4 s (21 * i / 8) h.le >>> UInt64.ofNat (21 * i % 8)).toNat =
      bitField (value s.toList) (21 * i) (8 * n - 21 * i) := by
  have hstart : 8 * (21 * i / 8) + 21 * i % 8 = 21 * i := Nat.div_add_mod _ _
  have hshift : 21 * i % 8 < 8 := Nat.mod_lt _ (by norm_num)
  have hlength : 32 = 21 * i % 8 + (8 * n - 21 * i) := by omega
  rw [toNat_shiftRight_uInt64 _ (by omega), toNat_load4, hlength, bitField_div, hstart]

variable {count : ℕ} (h : 21 * (count - 1) / 8 + 4 = n)

/-- The width of a loaded limb. -/
def scWidth (n count i : ℕ) : ℕ := if i + 1 < count then 21 else 8 * n - 21 * i

theorem toInt_scLimbs (i : Fin count) :
    toInt (scLimbs s count h)[i] =
      bitField (value s.toList) (21 * i.val) (scWidth n count i.val) := by
  rw [Fin.getElem_fin, scLimbs, Vector.getElem_ofFn]
  by_cases hinner : i.val + 1 < count
  · have hnat := toNat_scLoad s i.val (by omega)
    have hlt := (bitField_lt (value s.toList) (21 * i.val) 21).trans
      (show 2 ^ 21 < 2 ^ 63 by norm_num)
    rw [if_pos hinner, scWidth, if_pos hinner, toInt_toInt64 (by rwa [hnat]), hnat]
  · have hi : i.val = count - 1 := by omega
    have hend : 21 * i.val / 8 + 4 = n := by rw [hi]; exact h
    have hnat := toNat_lastLoad s i.val hend
    have hlt := (bitField_lt (value s.toList) (21 * i.val) (8 * n - 21 * i.val)).trans
      (Nat.pow_lt_pow_right (by norm_num) (show 8 * n - 21 * i.val < 63 by omega))
    rw [if_neg hinner, scWidth, if_neg hinner, toInt_toInt64 (by rwa [hnat]), hnat]

/-- The limbs together are the number. -/
theorem sum_scLimbs (hcount : 0 < count) :
    ∑ i : Fin count, (2 : ℤ) ^ (21 * i.val) * toInt (scLimbs s count h)[i] = value s.toList := by
  have hlt : value s.toList < 2 ^ (21 * (count - 1) + (8 * n - 21 * (count - 1))) := by
    have hvalue := value_lt s.toList
    rw [Vector.length_toList] at hvalue
    have hexponent : 21 * (count - 1) + (8 * n - 21 * (count - 1)) = 8 * n := by omega
    rwa [hexponent, pow_mul]
  obtain ⟨rest, rfl⟩ : ∃ rest, count = rest + 1 := ⟨count - 1, by omega⟩
  rw [Nat.add_sub_cancel] at hlt
  have hjoin := bitField_add (value s.toList) 0 (21 * rest) (8 * n - 21 * rest)
  rw [zero_add, bitField_zero _ (21 * rest + _), Nat.mod_eq_of_lt hlt, ← sum_bitField,
    Finset.sum_range] at hjoin
  simp only [toInt_scLimbs]
  rw [Fin.sum_univ_castSucc]
  simp only [scWidth, Fin.val_castSucc, Fin.val_last, add_lt_add_iff_right, Fin.is_lt, if_true,
    lt_irrefl, if_false]
  exact_mod_cast hjoin

end Loads

/-! ## Reduction -/

/-- The limbs before the last fold: the sign of the number is left in the limb of `2^252`. -/
def foldedBox : Vector Interval 24 :=
  Vector.ofFn fun i ↦
    if i.val < 12 then ⟨0, 2 ^ 21 - 1⟩ else if i.val = 12 then ⟨-1, 0⟩ else ⟨0, 0⟩

/-- The limbs as they are stored. -/
def storedBox : Vector Interval 24 :=
  Vector.ofFn fun i ↦
    if i.val < 11 then ⟨0, 2 ^ 21 - 1⟩ else if i.val = 11 then ⟨-1, 2 ^ 21⟩ else ⟨0, 0⟩

theorem balanced_scSteps :
    ∀ step ∈ scProductSteps ++ scFoldSteps, step.Balanced groupOrder scWeight := by
  decide +kernel

theorem balanced_scFoldSteps : ∀ step ∈ scFoldSteps, step.Balanced groupOrder scWeight :=
  fun step hstep ↦ balanced_scSteps step (List.mem_append_right _ hstep)

/-- The carries after the last fold keep the number itself. -/
theorem balanced_scFloorCarries :
    ∀ step ∈ [0, 1, 2, 3, 4, 5, 6, 7, 8, 9, 10].map scFloorCarry, step.Balanced 0 scWeight := by
  decide

theorem scFold_weights :
    ((scFold 12).targets.map fun target ↦ target.2 * scWeight target.1).sum -
      2 ^ (scFold 12).shift * scWeight (scFold 12).source = -(groupOrder : ℤ) := by
  rw [groupOrder_eq]
  decide

theorem within_foldedBox {limbs : ScLimbs} (h : Within foldedBox limbs) (i : Fin 24) :
    (i.val < 12 → 0 ≤ toInt limbs[i] ∧ toInt limbs[i] < 2 ^ 21) ∧
      (12 < i.val → toInt limbs[i] = 0) := by
  have hmem := h i
  rw [Fin.getElem_fin foldedBox, foldedBox, Vector.getElem_ofFn, Fin.eta, Interval.mem_iff] at hmem
  split_ifs at hmem <;> dsimp only at hmem <;> omega

theorem within_storedBox {limbs : ScLimbs} (h : Within storedBox limbs) (i : Fin 24) :
    (i.val < 11 → 0 ≤ toInt limbs[i] ∧ toInt limbs[i] < 2 ^ 21) ∧
      (i.val = 11 → -1 ≤ toInt limbs[i] ∧ toInt limbs[i] < 2 ^ 25) ∧
      (12 ≤ i.val → toInt limbs[i] = 0) := by
  have hmem := h i
  rw [Fin.getElem_fin storedBox, storedBox, Vector.getElem_ofFn, Fin.eta, Interval.mem_iff] at hmem
  split_ifs at hmem <;> dsimp only at hmem <;> omega

/-- Folding the sign adds the group order to a negative number. -/
theorem value_scFold {limbs : ScLimbs} {box : Vector Interval 24} (hlimbs : Within foldedBox limbs)
    (hbox : (scFold 12).box (limit Int64) foldedBox = some box) :
    value scWeight ((scFold 12).apply limbs) = value scWeight limbs % groupOrder := by
  obtain ⟨_, hvalue⟩ := (scFold 12).apply_spec scWeight hlimbs hbox
  have horder : (2 : ℤ) ^ 252 < groupOrder := by
    rw [groupOrder_eq]
    norm_num
  have hlow : ∀ i < 12, 0 ≤ limbAt limbs i ∧ limbAt limbs i < 2 ^ 21 := by
    intro i hi
    rw [limbAt_val limbs ⟨i, by omega⟩]
    exact (within_foldedBox hlimbs ⟨i, by omega⟩).1 hi
  have hsum : value scWeight limbs =
      ∑ i ∈ Finset.range 13, 2 ^ (21 * i) * limbAt limbs i := by
    apply value_uniform limbs (by norm_num)
    intro i hi
    exact (within_foldedBox hlimbs i).2 hi
  obtain ⟨low, high, hsplit, hnonneg, hlt, hhigh⟩ :=
    exists_split (show 12 < 13 by norm_num) hlow
  have hplace : (2 : ℤ) ^ (21 * 12) = 2 ^ 252 := by norm_num
  rw [hhigh rfl, mul_zero, add_zero, hplace] at hsplit
  rw [hplace] at hlt
  have htop : toInt limbs[12] ∈ (⟨-1, 0⟩ : Interval) := hlimbs 12
  have hlimb : limbAt limbs 12 = toInt limbs[12] := limbAt_val limbs 12
  have hfold : value scWeight ((scFold 12).apply limbs) =
      value scWeight limbs - toInt limbs[12] * groupOrder := by
    rw [hvalue, scFold_weights]
    change _ + (toInt limbs[12] + 0) / 2 ^ 0 * _ = _
    rw [pow_zero, Int.ediv_one]
    ring
  rw [hfold, hsum, hsplit, hlimb]
  obtain hneg | hzero : toInt limbs[12] = -1 ∨ toInt limbs[12] = 0 := by
    obtain ⟨hlo, hhi⟩ := htop
    dsimp only at hlo hhi
    omega
  · rw [hneg, ← Int.add_emod_right, Int.emod_eq_of_lt] <;> linarith
  · rw [hzero, mul_zero, add_zero, zero_mul, sub_zero, Int.emod_eq_of_lt hnonneg]
    linarith

theorem scLastSteps_endsIn : EndsIn (limit Int64) scLastSteps foldedBox storedBox := by
  decide

/-- The steps leave the remainder by the group order. -/
theorem run_scSteps {steps : List (Step 24)} (start : Vector Interval 24) {limbs : ScLimbs}
    (hbalanced : ∀ step ∈ steps, step.Balanced groupOrder scWeight)
    (hlimbs : Within start limbs) (hends : EndsIn (2 ^ 63) steps start foldedBox) :
    Within storedBox (run (steps ++ scLastSteps) limbs) ∧
      value scWeight (run (steps ++ scLastSteps) limbs) = value scWeight limbs % groupOrder := by
  obtain ⟨hfolded, hmod⟩ := run_spec hbalanced hlimbs hends
  obtain ⟨box, hbox, hlast⟩ := scLastSteps_endsIn.cons
  obtain ⟨hwithin, _⟩ := (scFold 12).apply_spec scWeight hfolded hbox
  obtain ⟨hstored, hcarried⟩ := run_spec balanced_scFloorCarries hwithin hlast
  rw [run_append, scLastSteps, run_cons]
  refine ⟨hstored, ?_⟩
  rw [Int.modEq_zero_iff.mp hcarried, value_scFold hfolded hbox]
  exact hmod

/-! ## The stored bytes -/

/-- The table has the byte `k` start at the bit `8 k`. -/
theorem scPacking_position : ∀ k : Fin 32,
    21 * (scPacking.get k).1.val + (scPacking.get k).2 = 8 * k.val ∧ (scPacking.get k).2 < 21 ∧
      ((scPacking.get k).1 = 11 → (scPacking.get k).2 + 8 ≤ 25) := by
  decide

/-- The width of a stored limb. -/
def storedWidth (i : Fin 12) : ℕ := if i = 11 then 25 else 21

theorem toNat_shiftLeft_uInt64 (word : UInt64) {amount : ℕ} (hamount : amount < 64) :
    (word <<< UInt64.ofNat amount).toNat = word.toNat <<< amount % 2 ^ 64 := by
  rw [UInt64.toNat_shiftLeft, UInt64.toNat_ofNat', Nat.mod_eq_of_lt (a := amount) (by omega),
    Nat.mod_eq_of_lt hamount]

/-- A packed byte is the byte of the number at the position that its limb and shift name. -/
theorem toNat_scPackedByte {s : Vector UInt64 24} {number : ℕ}
    (hfield : ∀ i : Fin 12, s[i.val].toNat = bitField number (21 * i.val) (storedWidth i))
    (k : Fin 32) : (scPackedByte s (scPacking.get k)).toNat = bitField number (8 * k.val) 8 := by
  obtain ⟨hstart, hshift, hlast⟩ := scPacking_position k
  generalize scPacking.get k = position at hstart hshift hlast ⊢
  obtain ⟨i, shift⟩ := position
  dsimp only at hstart hshift hlast
  rw [← hstart]
  unfold scPackedByte
  dsimp only
  split
  · rename_i hacross
    obtain ⟨hne, hend⟩ := hacross
    have hnext : ∀ i : Fin 12, i ≠ 11 →
        i.val + 1 = (i + 1).val ∧ storedWidth i = 21 ∧ 21 ≤ storedWidth (i + 1) := by
      decide
    obtain ⟨hsucc, hwidth, hnextWidth⟩ := hnext i hne
    obtain ⟨kept, hkept⟩ := Nat.exists_eq_add_of_lt hshift
    have hsplit : storedWidth i = shift + (kept + 1) := by omega
    have hnextStart : 21 * (i.val + 1) = 21 * i.val + (shift + (kept + 1)) := by omega
    have hfieldNext : s[i.val + 1].toNat =
        bitField number (21 * i.val + (shift + (kept + 1))) (storedWidth (i + 1)) := by
      have hget := hfield (i + 1)
      simp only [← hsucc] at hget
      rw [hget, hnextStart]
    rw [UInt64.toNat_toUInt8, UInt64.toNat_or, toNat_shiftRight_uInt64 _ (by omega),
      toNat_shiftLeft_uInt64 _ (by omega), hfield, hfieldNext, hsplit,
      show 21 - shift = kept + 1 by omega, Nat.or_mod_two_pow,
      Nat.mod_mod_of_dvd _ (by norm_num), ← Nat.or_mod_two_pow]
    exact bitField_or_mod (by omega) (by omega)
  · rename_i hinner
    rw [UInt64.toNat_toUInt8, toNat_shiftRight_uInt64 _ (by omega), hfield]
    apply bitField_bitField
    unfold storedWidth
    split
    · rename_i hi
      exact hlast hi
    · omega

theorem natCast_toNat_toUInt64 {word : Int64} (h : 0 ≤ toInt word) :
    (word.toUInt64.toNat : ℤ) = toInt word := by
  change (word.toBitVec.toNat : ℤ) = word.toBitVec.toInt
  change 0 ≤ word.toBitVec.toInt at h
  rw [BitVec.toInt_eq_toNat_cond] at h ⊢
  have hlt := word.toBitVec.isLt
  split_ifs at h ⊢ <;> omega

/-- Stored limbs are the fields of the number that they form. -/
theorem toInt_stored {limbs : ScLimbs} (h : Within storedBox limbs)
    (hnonneg : 0 ≤ value scWeight limbs) (i : Fin 12) :
    toInt limbs[i.val] = bitField (value scWeight limbs).toNat (21 * i.val) (storedWidth i) := by
  have hsum : value scWeight limbs = ∑ i ∈ Finset.range 12, 2 ^ (21 * i) * limbAt limbs i :=
    value_uniform limbs (by norm_num) fun i hi ↦ (within_storedBox h i).2.2 hi
  have hlow : ∀ j < i.val, 0 ≤ limbAt limbs j ∧ limbAt limbs j < 2 ^ 21 := by
    intro j hj
    rw [limbAt_val limbs ⟨j, by omega⟩]
    exact (within_storedBox h ⟨j, by omega⟩).1 (by change j < 11; omega)
  have hlimb : limbAt limbs i.val = toInt limbs[i.val] :=
    limbAt_val limbs ⟨i.val, by omega⟩
  obtain ⟨low, high, hsplit, hlowNonneg, hlowLt, hhigh⟩ := exists_split i.isLt hlow
  rw [hlimb] at hsplit
  have hquotient := ediv_of_split (hsum.trans hsplit) hlowNonneg hlowLt
  have hfield : (bitField (value scWeight limbs).toNat (21 * i.val) (storedWidth i) : ℤ) =
      (toInt limbs[i.val] + 2 ^ 21 * high) % 2 ^ storedWidth i := by
    rw [bitField, Int.natCast_mod, Int.natCast_ediv, Int.toNat_of_nonneg hnonneg, Nat.cast_pow,
      Nat.cast_pow, Nat.cast_ofNat, hquotient]
  rw [hfield]
  obtain ⟨hinner, htop, _⟩ := within_storedBox h ⟨i.val, by omega⟩
  unfold storedWidth
  split
  · rename_i hi
    subst hi
    rw [hhigh rfl, mul_zero, add_zero] at hquotient ⊢
    have hlimbNonneg : 0 ≤ toInt limbs[(11 : Fin 12).val] :=
      hquotient ▸ Int.ediv_nonneg hnonneg (by positivity)
    exact (Int.emod_eq_of_lt hlimbNonneg (htop rfl).2).symm
  · rename_i hi
    have hval : i.val < 11 := by
      have hne : i.val ≠ 11 := fun heq ↦ hi (Fin.ext heq)
      omega
    rw [Int.add_mul_emod_self_left]
    exact (Int.emod_eq_of_lt (hinner hval).1 (hinner hval).2).symm

theorem toList_scStore {limbs : ScLimbs} (h : Within storedBox limbs)
    (hnonneg : 0 ≤ value scWeight limbs) :
    (scStore limbs).toList = encode 32 (value scWeight limbs).toNat := by
  have hbytes : (scStore limbs).toList =
      encode (scStore limbs).toList.length (value scWeight limbs).toNat := by
    apply eq_encode_of_forall
    intro k hk
    rw [Vector.length_toList] at hk
    have hbyte : (scStore limbs)[k] =
        scPackedByte (limbs.map Int64.toUInt64) (scPacking.get ⟨k, hk⟩) := Vector.getElem_map ..
    rw [Vector.getElem_toList, hbyte]
    refine toNat_scPackedByte ?_ ⟨k, hk⟩
    intro i
    have hi := toInt_stored h hnonneg i
    have hcast : (limbs[i.val].toUInt64.toNat : ℤ) = toInt limbs[i.val] :=
      natCast_toNat_toUInt64 (by omega)
    rw [Vector.getElem_map]
    omega
  rwa [Vector.length_toList] at hbytes

/-- The remainder of any number in limbs, as the steps leave it, is stored. -/
theorem toList_scStore_run {steps : List (Step 24)} (start : Vector Interval 24) {limbs : ScLimbs}
    {number : ℕ} (hbalanced : ∀ step ∈ steps, step.Balanced groupOrder scWeight)
    (hlimbs : Within start limbs) (hends : EndsIn (2 ^ 63) steps start foldedBox)
    (hvalue : value scWeight limbs = number) :
    (scStore (run (steps ++ scLastSteps) limbs)).toList = encode 32 (number % groupOrder) := by
  obtain ⟨hstored, hremainder⟩ := run_scSteps start hbalanced hlimbs hends
  rw [hvalue] at hremainder
  have hnumber : value scWeight (run (steps ++ scLastSteps) limbs) =
      (number % groupOrder : ℕ) := by
    rw [hremainder]
    push_cast
    rfl
  rw [toList_scStore hstored (hnumber ▸ Int.natCast_nonneg _), hnumber, Int.toNat_natCast]

/-! ## Products -/

theorem mem_scPairs {k : Fin 24} (pair : Fin 12 × Fin 12) :
    pair ∈ scPairs k ↔ pair.1.val + pair.2.val = k.val := by
  obtain ⟨i, j⟩ := pair
  simp [scPairs]

/-- Every pair of limbs occurs once in a product. -/
theorem sum_scPairs {R : Type} [CommRing R] (u v : Fin 12 → R) :
    ∑ k, ((scPairs k).map fun pair ↦ u pair.1 * v pair.2).sum = (∑ i, u i) * ∑ j, v j := by
  let place (pair : Fin 12 × Fin 12) : Fin 24 := ⟨pair.1.val + pair.2.val, by omega⟩
  have hnodup : (List.finRange 12 ×ˢ List.finRange 12).Nodup :=
    (List.nodup_finRange 12).product (List.nodup_finRange 12)
  have hmem (k : Fin 24) : (scPairs k).toFinset = Finset.univ.filter fun pair ↦ place pair = k := by
    ext pair
    rw [List.mem_toFinset, mem_scPairs, Finset.mem_filter_univ, Fin.ext_iff]
  have hsum (k : Fin 24) : ((scPairs k).map fun pair ↦ u pair.1 * v pair.2).sum =
      ∑ pair with place pair = k, u pair.1 * v pair.2 := by
    rw [← hmem]
    exact (List.sum_toFinset _ (hnodup.filter _)).symm
  simp only [hsum]
  rw [Finset.sum_fiberwise, Fintype.sum_prod_type, Finset.sum_mul_sum]

/-- More than a loaded limb of an operand. -/
def scSize (i : Fin 12) : ℕ := 2 ^ scWidth 32 12 i.val

/-- The sizes of the limbs before the carries. -/
def productBound (k : Fin 24) : ℕ :=
  (if h : k.val < 12 then scSize ⟨k.val, h⟩ else 0) +
    ((scPairs k).map fun pair ↦ scSize pair.1 * scSize pair.2).sum

def productsBox : Vector Interval 24 := Vector.ofFn fun k ↦ ⟨-productBound k, productBound k⟩

theorem scMuladd_endsIn :
    EndsIn (2 ^ 63) (scProductSteps ++ scFoldSteps) productsBox foldedBox := by
  decide

/-- The limbs are as small as loaded ones. -/
def ScSized (limbs : Vector Int64 12) : Prop := ∀ i : Fin 12, |toInt limbs[i]| ≤ scSize i

section Products

variable {a b c : Vector Int64 12} (ha : ScSized a) (hb : ScSized b) (hc : ScSized c)

include ha hb in
theorem toInt_scProduct (pair : Fin 12 × Fin 12) :
    toInt (a[pair.1] * b[pair.2]) = toInt a[pair.1] * toInt b[pair.2] ∧
      |toInt a[pair.1] * toInt b[pair.2]| ≤ (scSize pair.1 * scSize pair.2 : ℕ) := by
  have habs : |toInt a[pair.1] * toInt b[pair.2]| ≤ (scSize pair.1 * scSize pair.2 : ℕ) := by
    rw [abs_mul, Nat.cast_mul]
    exact mul_le_mul (ha pair.1) (hb pair.2) (abs_nonneg _) (Nat.cast_nonneg _)
  have hsize : ∀ i j, scSize i * scSize j < limit Int64 := by
    decide
  have hlt := abs_lt.mp (habs.trans_lt (Int.ofNat_lt.mpr (hsize pair.1 pair.2)))
  exact ⟨MachineInt.toInt_mul _ _ hlt.1.le hlt.2, habs⟩

include ha hb hc in
/-- The sums of products are exact. -/
theorem toInt_scProducts (k : Fin 24) :
    toInt (scProducts a b c)[k] = limbAt c k.val +
        ((scPairs k).map fun pair ↦ toInt a[pair.1] * toInt b[pair.2]).sum ∧
      toInt (scProducts a b c)[k] ∈ productsBox[k] := by
  have hproduct := toInt_scProduct ha hb
  let start : Int64 := if h : k.val < 12 then (c)[k.val] else 0
  have hstart : toInt start = limbAt c k.val := by
    unfold start limbAt
    split
    · rfl
    · rfl
  have htaken : |toInt start| ≤ (if h : k.val < 12 then scSize ⟨k.val, h⟩ else 0 : ℕ) := by
    rw [hstart, limbAt]
    split
    · rename_i hk
      exact hc ⟨k.val, hk⟩
    · simp
  have hbound : ∀ k, productBound k < limit Int64 := by
    decide
  have hsize : ∀ pair ∈ scPairs k,
      |toInt (a[pair.1] * b[pair.2])| ≤ (scSize pair.1 * scSize pair.2 : ℕ) := by
    intro pair _
    rw [(hproduct pair).1]
    exact (hproduct pair).2
  have hk := hbound k
  rw [productBound] at hk
  have hresult := toInt_foldl_add (fun pair : Fin 12 × Fin 12 ↦ a[pair.1] * b[pair.2])
    (fun pair ↦ scSize pair.1 * scSize pair.2) hsize start _ htaken hk
  have hget : (scProducts a b c)[k] =
      (scPairs k).foldl (fun sum pair ↦ sum + a[pair.1] * b[pair.2]) start := by
    rw [Fin.getElem_fin, scProducts, Vector.getElem_ofFn]
  rw [hget]
  constructor
  · rw [hresult.1, hstart]
    simp only [fun pair ↦ (hproduct pair).1]
  · rw [Fin.getElem_fin, productsBox, Vector.getElem_ofFn, Fin.eta, Interval.mem_iff, hresult.1]
    dsimp only
    rw [productBound]
    exact abs_le.mp hresult.2

include ha hb hc in
theorem value_scProducts :
    value scWeight (scProducts a b c) =
      (∑ i : Fin 12, (2 : ℤ) ^ (21 * i.val) * toInt a[i]) *
          (∑ i : Fin 12, (2 : ℤ) ^ (21 * i.val) * toInt b[i]) +
        ∑ i : Fin 12, (2 : ℤ) ^ (21 * i.val) * toInt (c)[i] := by
  have hlimbs : ∑ k : Fin 24, (2 : ℤ) ^ (21 * k.val) * limbAt c k.val =
      ∑ i : Fin 12, (2 : ℤ) ^ (21 * i.val) * toInt (c)[i] := by
    rw [← Finset.sum_range fun k ↦ (2 : ℤ) ^ (21 * k) * limbAt c k,
      Finset.eventually_constant_sum (N := 12) _ (by norm_num), Finset.sum_range]
    · simp only [limbAt_val]
    · intro k hk
      rw [limbAt, dif_neg (by omega), mul_zero]
  have hpairs (k : Fin 24) : (2 : ℤ) ^ (21 * k.val) *
        ((scPairs k).map fun pair ↦ toInt a[pair.1] * toInt b[pair.2]).sum =
      ((scPairs k).map fun pair ↦ ((2 : ℤ) ^ (21 * pair.1.val) * toInt a[pair.1]) *
        ((2 : ℤ) ^ (21 * pair.2.val) * toInt b[pair.2])).sum := by
    rw [← List.sum_map_mul_left]
    congr 1
    apply List.map_congr_left
    intro pair hpair
    rw [← (mem_scPairs pair).mp hpair, Nat.mul_add, pow_add]
    ring
  unfold LimbSteps.value
  simp only [(toInt_scProducts ha hb hc _).1, scWeight, mul_add, Finset.sum_add_distrib, hlimbs,
    hpairs]
  rw [sum_scPairs (fun i ↦ (2 : ℤ) ^ (21 * i.val) * toInt a[i])
    (fun j ↦ (2 : ℤ) ^ (21 * j.val) * toInt b[j]), add_comm]

end Products

/-! ## The two operations -/

theorem scSized_scLimbs (s : Vector UInt8 32) : ScSized (scLimbs s 12 (by norm_num)) := by
  intro i
  rw [toInt_scLimbs, Nat.abs_cast]
  exact_mod_cast (bitField_lt _ _ _).le

/-- The limbs of 64 bytes as they are loaded. -/
def reduceBox : Vector Interval 24 :=
  Vector.ofFn fun i ↦ ⟨0, 2 ^ scWidth 64 24 i.val⟩

theorem scReduce_endsIn : EndsIn (2 ^ 63) scFoldSteps reduceBox foldedBox := by
  decide

/-- `sc_reduce` stores the remainder of its input by the group order. -/
theorem toList_scReduce (s : Vector UInt8 64) :
    (scReduce s).toList = encode 32 (LittleEndian.value s.toList % groupOrder) := by
  apply toList_scStore_run reduceBox balanced_scFoldSteps _ scReduce_endsIn
  · exact sum_scLimbs s _ (by norm_num)
  · intro i
    rw [toInt_scLimbs, Fin.getElem_fin, reduceBox, Vector.getElem_ofFn, Interval.mem_iff]
    dsimp only
    exact ⟨Int.natCast_nonneg _, by exact_mod_cast (bitField_lt _ _ _).le⟩

/-- `sc_muladd` stores the remainder of `ab + c` by the group order. -/
theorem toList_scMuladd (a b c : Vector UInt8 32) :
    (scMuladd a b c).toList = encode 32
      ((LittleEndian.value a.toList * LittleEndian.value b.toList + LittleEndian.value c.toList) %
        groupOrder) := by
  apply toList_scStore_run productsBox balanced_scSteps _ scMuladd_endsIn
  · rw [value_scProducts (scSized_scLimbs a) (scSized_scLimbs b) (scSized_scLimbs c),
      sum_scLimbs a _ (by norm_num), sum_scLimbs b _ (by norm_num), sum_scLimbs c _ (by norm_num)]
    push_cast
    rfl
  · intro k
    exact (toInt_scProducts (scSized_scLimbs a) (scSized_scLimbs b) (scSized_scLimbs c) k).2

end CEd25519

end RxLisk

import RxLisk.Library.Residues
import Mathlib.Data.Set.Card

/-!
# Random indices of a passphrase

The words of a passphrase are chosen by indices drawn with rejection from a stream of raw 64-bit
values.  The accepted interval has one value more than a multiple of the limit, so one index is
produced by one raw value more than the others.
-/

namespace RxLisk

namespace MnemonicPassphrase

/-- `repeat ... while value < minValue` on a stream of raw values, with the values that are left;
`none` while the loop has not ended. -/
def rejectionLoop (minValue : Int64) : List Int64 → Option (Int64 × List Int64)
  | [] => none
  | value :: stream =>
    if value < minValue then rejectionLoop minValue stream else some (value, stream)

/-- `Int.secureRandom(betweenZeroAnd:)`, which asserts that the limit is positive. -/
def secureRandom (limit : Int64) (stream : List Int64) : Option (Int64 × List Int64) := do
  guard (0 < limit)
  let minValue := Int64.maxValue % limit
  let (value, stream) ← rejectionLoop minValue stream
  return (value % limit, stream)

/-- The raw values that are accepted and give the result. -/
def rawValues (limit result : Int64) : Set Int64 :=
  {value | secureRandom limit [value] = some (result, [])}

/-! ## The loop -/

theorem toInt_mod (left right : Int64) : (left % right).toInt = left.toInt.tmod right.toInt :=
  BitVec.toInt_srem _ _

/-- The remainder of a value that is not negative. -/
theorem toInt_mod_of_nonneg {value : Int64} (h : 0 ≤ value.toInt) (limit : Int64) :
    (value % limit).toInt = value.toInt % limit.toInt := by
  rw [toInt_mod, Int.tmod_eq_emod_of_nonneg h]

theorem secureRandom_nil (limit : Int64) : secureRandom limit [] = none := by
  simp [secureRandom, rejectionLoop]

/-- A value is accepted when it is at least the lower end of the interval, which is not negative. -/
theorem accepted_iff (limit value : Int64) :
    ¬value < Int64.maxValue % limit ↔ (2 ^ 63 - 1) % limit.toInt ≤ value.toInt := by
  rw [Int64.lt_iff_toInt_lt, not_lt, toInt_mod_of_nonneg (by decide), Int64.toInt_maxValue]

section Limit

variable {limit : Int64} (h : 0 < limit)
include h

theorem toInt_pos : 0 < limit.toInt :=
  Int64.lt_iff_toInt_lt.mp h

theorem secureRandom_cons (value : Int64) (stream : List Int64) :
    secureRandom limit (value :: stream) =
      if value < Int64.maxValue % limit then secureRandom limit stream
      else some (value % limit, stream) := by
  simp only [secureRandom, guard, if_pos h, rejectionLoop]
  split <;> rfl

theorem nonneg_of_accepted {value : Int64} (hvalue : ¬value < Int64.maxValue % limit) :
    0 ≤ value.toInt :=
  (Int.emod_nonneg _ (toInt_pos h).ne').trans ((accepted_iff limit value).mp hvalue)

theorem mod_range {value : Int64} (hvalue : 0 ≤ value.toInt) :
    0 ≤ value % limit ∧ value % limit < limit := by
  have hmod := toInt_mod_of_nonneg hvalue limit
  rw [Int64.le_iff_toInt_le, Int64.lt_iff_toInt_lt, Int64.toInt_zero, hmod]
  exact ⟨Int.emod_nonneg _ (toInt_pos h).ne', Int.emod_lt_of_pos _ (toInt_pos h)⟩

/-- The results lie in the requested range. -/
theorem secureRandom_range {stream rest : List Int64} {result : Int64}
    (hresult : secureRandom limit stream = some (result, rest)) : 0 ≤ result ∧ result < limit := by
  induction stream with
  | nil =>
    rw [secureRandom_nil] at hresult
    cases hresult
  | cons value stream ih =>
    rw [secureRandom_cons h] at hresult
    split at hresult
    · exact ih hresult
    · rename_i haccepted
      cases hresult
      exact mod_range h (nonneg_of_accepted h haccepted)

theorem mem_rawValues_iff (value result : Int64) :
    value ∈ rawValues limit result ↔
      (2 ^ 63 - 1) % limit.toInt ≤ value.toInt ∧ value.toInt % limit.toInt = result.toInt := by
  rw [rawValues, Set.mem_ofPred_eq, secureRandom_cons h, secureRandom_nil, ← accepted_iff]
  split
  · rename_i hrejected
    simp [hrejected]
  · rename_i haccepted
    rw [← toInt_mod_of_nonneg (nonneg_of_accepted h haccepted), Int64.toInt_inj]
    simp [haccepted]

/-! ## Counting -/

/-- The accepted values are the numbers of an interval of whole blocks and one more. -/
theorem rawValues_eq_image {result : Int64} (hresult : 0 ≤ result) :
    rawValues limit result =
      Int64.ofNat '' ((Finset.Icc ((2 ^ 63 - 1) % limit.toInt.toNat)
        ((2 ^ 63 - 1) % limit.toInt.toNat + (2 ^ 63 - 1) / limit.toInt.toNat * limit.toInt.toNat)
          ).filter (· % limit.toInt.toNat = result.toInt.toNat) : Set ℕ) := by
  have hlimit := toInt_pos h
  have hnonneg : 0 ≤ result.toInt := Int64.le_iff_toInt_le.mp hresult
  have hlast : (2 ^ 63 - 1) % limit.toInt.toNat +
      (2 ^ 63 - 1) / limit.toInt.toNat * limit.toInt.toNat = 2 ^ 63 - 1 :=
    Nat.mod_add_div' _ _
  rw [hlast]
  obtain ⟨size, hsize⟩ := Int.eq_ofNat_of_zero_le hlimit.le
  obtain ⟨residue, hresidue⟩ := Int.eq_ofNat_of_zero_le hnonneg
  ext value
  have hmax : (2 ^ 63 - 1 : ℤ) = ((2 ^ 63 - 1 : ℕ) : ℤ) := by norm_num
  rw [mem_rawValues_iff h, hsize, hresidue, hmax]
  simp only [Int.toNat_natCast, Set.mem_image, Finset.coe_filter, Finset.mem_Icc,
    Set.mem_ofPred_eq]
  constructor
  · rintro ⟨hlow, hmod⟩
    have hupper := value.toInt_lt
    obtain ⟨number, hnumber⟩ :=
      Int.eq_ofNat_of_zero_le ((Int.emod_nonneg _ (by omega)).trans hlow)
    rw [hnumber] at hlow hmod hupper
    refine ⟨number, ⟨⟨by exact_mod_cast hlow, by omega⟩, by exact_mod_cast hmod⟩, ?_⟩
    rw [← Int64.toInt_inj, Int64.toInt_ofNat_of_lt (by omega), hnumber]
  · rintro ⟨number, ⟨⟨hlow, hhigh⟩, hmod⟩, rfl⟩
    rw [Int64.toInt_ofNat_of_lt (by omega)]
    exact ⟨by exact_mod_cast hlow, by exact_mod_cast hmod⟩

/-- Every result is produced by the same number of raw values, but for one that is produced once
more. -/
theorem ncard_rawValues {result : Int64} (hresult : 0 ≤ result) (hlt : result < limit) :
    (rawValues limit result).ncard = (2 ^ 63 - 1) / limit.toInt.toNat +
      if Int64.maxValue % limit = result then 1 else 0 := by
  have hlimit := toInt_pos h
  have hnonneg : 0 ≤ result.toInt := Int64.le_iff_toInt_le.mp hresult
  have hbound : result.toInt < limit.toInt := Int64.lt_iff_toInt_lt.mp hlt
  have hlast : (2 ^ 63 - 1) % limit.toInt.toNat +
      (2 ^ 63 - 1) / limit.toInt.toNat * limit.toInt.toNat = 2 ^ 63 - 1 :=
    Nat.mod_add_div' _ _
  have hend : Int64.maxValue % limit = result ↔
      (2 ^ 63 - 1) % limit.toInt.toNat % limit.toInt.toNat = result.toInt.toNat := by
    have hmax : (2 ^ 63 - 1 : ℤ) = ((2 ^ 63 - 1 : ℕ) : ℤ) := by norm_num
    rw [Nat.mod_mod, ← Int64.toInt_inj, toInt_mod_of_nonneg (by decide), Int64.toInt_maxValue, hmax]
    obtain ⟨size, hsize⟩ := Int.eq_ofNat_of_zero_le hlimit.le
    obtain ⟨residue, hresidue⟩ := Int.eq_ofNat_of_zero_le hnonneg
    rw [hsize, hresidue, Int.toNat_natCast, Int.toNat_natCast]
    exact_mod_cast Iff.rfl
  rw [rawValues_eq_image h hresult, Set.InjOn.ncard_image, Set.ncard_coe_finset,
    Residues.card_interval _ _ (by omega)]
  · simp only [hend]
  · intro left hleft right hright heq
    simp only [Finset.coe_filter, Finset.mem_Icc, Set.mem_ofPred_eq, hlast] at hleft hright
    have hvalues := congrArg Int64.toInt heq
    rw [Int64.toInt_ofNat_of_lt (by omega), Int64.toInt_ofNat_of_lt (by omega)] at hvalues
    exact_mod_cast hvalues

end Limit

/-- The raw values are spread evenly over the results exactly when there is only one result. -/
theorem uniform_iff {limit : Int64} (h : 0 < limit) :
    ((∀ left right, 0 ≤ left → left < limit → 0 ≤ right → right < limit →
        (rawValues limit left).ncard = (rawValues limit right).ncard) ∧
      ∀ stream result rest, secureRandom limit stream = some (result, rest) →
        0 ≤ result ∧ result < limit) ↔ limit = 1 := by
  constructor
  · rintro ⟨huniform, -⟩
    by_contra hne
    have hlimit := toInt_pos h
    have hone : limit.toInt ≠ 1 := fun hvalue ↦ hne (Int64.toInt_inj.mp hvalue)
    -- the result of the largest raw value, and any other one
    obtain ⟨hlow, hhigh⟩ := mod_range h (show 0 ≤ Int64.maxValue.toInt by decide)
    obtain ⟨other, hotherLow, hotherHigh, hother⟩ :
        ∃ other, 0 ≤ other ∧ other < limit ∧ Int64.maxValue % limit ≠ other := by
      by_cases hzero : Int64.maxValue % limit = 0
      · refine ⟨1, by decide, ?_, by rw [hzero]; decide⟩
        rw [Int64.lt_iff_toInt_lt, Int64.toInt_one]
        omega
      · exact ⟨0, by decide, h, hzero⟩
    have hcount := huniform _ other hlow hhigh hotherLow hotherHigh
    rw [ncard_rawValues h hlow hhigh, ncard_rawValues h hotherLow hotherHigh, if_pos rfl,
      if_neg hother] at hcount
    omega
  · rintro rfl
    refine ⟨fun left right hleft hleftLt hright hrightLt ↦ ?_, fun stream result rest ↦ ?_⟩
    · have hsame : left = right := by
        rw [Int64.le_iff_toInt_le, Int64.toInt_zero] at hleft hright
        rw [Int64.lt_iff_toInt_lt, Int64.toInt_one] at hleftLt hrightLt
        rw [← Int64.toInt_inj]
        omega
      rw [hsame]
    · exact secureRandom_range h

/-- The only limit without bias. -/
theorem uniform_iff_one : (0 : Int64) < 1 ∧
    ∀ stream result rest, secureRandom 1 stream = some (result, rest) →
      0 ≤ result ∧ result < 1 :=
  ⟨by decide, ((uniform_iff (show (0 : Int64) < 1 by decide)).mpr rfl).2⟩

/-- Among the 2048 words the last one is chosen by one raw value more than the first one. -/
theorem last_of_2048_words_is_favoured :
    ¬∀ limit : Int64, 0 < limit → ∀ left right, 0 ≤ left → left < limit → 0 ≤ right →
      right < limit → (rawValues limit left).ncard = (rawValues limit right).ncard := by
  intro hclaim
  have h : (0 : Int64) < 2048 := by decide
  have hcount := hclaim 2048 h 2047 0 (by decide) (by decide) (by decide) (by decide)
  rw [ncard_rawValues h (by decide) (by decide), ncard_rawValues h (by decide) (by decide),
    if_pos (by decide), if_neg (by decide)] at hcount
  omega

end MnemonicPassphrase

end RxLisk

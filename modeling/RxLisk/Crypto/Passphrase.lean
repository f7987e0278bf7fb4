import RxLisk.Crypto.MnemonicPassphrase
import RxLisk.Crypto.Words
import RxLisk.Library.Run

/-!
# Passphrases

The initialiser draws one index for each word, and the words are joined with spaces.  The static
entry point does not pass its strength on: it always draws as many words as the default says.

Both run on a list of raw random values, the part of the stream that is drawn, and leave the values
that they did not use.
-/

namespace RxLisk

open SwiftString

structure MnemonicPassphrase where
  /-- Random words that make up the passphrase. -/
  words : List SwiftString
deriving DecidableEq

namespace MnemonicPassphrase

/-- Words joined as a string. -/
def passphrase (self : MnemonicPassphrase) : SwiftString :=
  joined space self.words

/-- `mnemonics[index]`, which traps outside of the list. -/
def mnemonicAt (index : Int64) : Option SwiftString :=
  if index < 0 then none else mnemonics[index.toInt.toNat]?

/-- `Int.secureRandom(betweenZeroAnd: mnemonics.count)`. -/
def randomIndex : StateT (List Int64) Option Int64 :=
  secureRandom (Int64.ofNat mnemonics.length)

/-- The closure of the initialiser. -/
def randomWord : StateT (List Int64) Option SwiftString := do
  let index ← randomIndex
  StateT.lift (mnemonicAt index)

def defaultStrength : UInt64 := 12

/-- Generates a secure passphrase, from the number of words to use. -/
def init (strength : UInt64) : StateT (List Int64) Option MnemonicPassphrase := do
  let words ← (List.range strength.toNat).mapM fun _ ↦ randomWord
  return { words := words }

/-- The static `passphrase(strength:)`, whose body is `MnemonicPassphrase().passphrase`. -/
def passphraseOfStrength (_strength : UInt64) : StateT (List Int64) Option SwiftString := do
  let mnemonic ← init defaultStrength
  return mnemonic.passphrase

/-! ## The words that are drawn -/

theorem mem_of_mnemonicAt {index : Int64} {word : SwiftString} (h : mnemonicAt index = some word) :
    word ∈ mnemonics := by
  unfold mnemonicAt at h
  split at h
  · cases h
  · exact List.mem_of_getElem? h

theorem mem_of_randomWord {stream rest : List Int64} {word : SwiftString}
    (h : randomWord.run stream = some (word, rest)) : word ∈ mnemonics := by
  obtain ⟨index, middle, -, hword⟩ := Run.exists_of_run_bind_eq_some h
  exact mem_of_mnemonicAt (Run.eq_of_run_lift_eq_some hword).1

/-- The initialiser draws as many words as it was asked for, all of them from the list. -/
theorem words_of_init {strength : UInt64} {stream rest : List Int64}
    {mnemonic : MnemonicPassphrase} (h : (init strength).run stream = some (mnemonic, rest)) :
    mnemonic.words.length = strength.toNat ∧ ∀ word ∈ mnemonic.words, word ∈ mnemonics := by
  obtain ⟨words, last, hwords, hinit⟩ := Run.exists_of_run_bind_eq_some h
  cases hinit
  have hdrawn := Run.values_of_mapM (· ∈ mnemonics)
    (fun _ _ _ _ hword ↦ mem_of_randomWord hword) hwords
  rwa [List.length_range] at hdrawn

theorem split_passphrase {mnemonic : MnemonicPassphrase}
    (h : ∀ word ∈ mnemonic.words, word ∈ mnemonics) :
    split space mnemonic.passphrase = mnemonic.words :=
  split_joined fun word hword ↦ word_of_mem_mnemonics (h word hword)

/-- The passphrase has the given number of words: it is their join, and splitting gives them
back. -/
def HasStrength (strength : UInt64) (passphrase : SwiftString) : Prop :=
  ∃ words : List SwiftString, words.length = strength.toNat ∧ (∀ word ∈ words, word ∈ mnemonics) ∧
    passphrase = joined space words ∧ split space passphrase = words

theorem hasStrength_of_init {strength : UInt64} {stream rest : List Int64}
    {mnemonic : MnemonicPassphrase} (h : (init strength).run stream = some (mnemonic, rest)) :
    HasStrength strength mnemonic.passphrase := by
  obtain ⟨hlength, hmem⟩ := words_of_init h
  exact ⟨mnemonic.words, hlength, hmem, rfl, split_passphrase hmem⟩

/-- A passphrase has one strength only. -/
theorem HasStrength.unique {left right : UInt64} {passphrase : SwiftString}
    (hleft : HasStrength left passphrase) (hright : HasStrength right passphrase) :
    left = right := by
  obtain ⟨leftWords, hleftLength, -, -, hleftSplit⟩ := hleft
  obtain ⟨rightWords, hrightLength, -, -, hrightSplit⟩ := hright
  apply UInt64.toNat_inj.mp
  rw [← hleftLength, ← hrightLength, ← hleftSplit, ← hrightSplit]

/-- What the static entry point returns is what the initialiser gives for the default strength. -/
theorem passphraseOfStrength_eq_some {strength : UInt64} {stream rest : List Int64}
    {text : SwiftString} (h : (passphraseOfStrength strength).run stream = some (text, rest)) :
    ∃ mnemonic, (init defaultStrength).run stream = some (mnemonic, rest) ∧
      text = mnemonic.passphrase := by
  obtain ⟨mnemonic, last, hmnemonic, hjoin⟩ := Run.exists_of_run_bind_eq_some h
  cases hjoin
  exact ⟨mnemonic, hmnemonic, rfl⟩

/-! ## Streams on which the loops end -/

/-- One accepted value gives one word. -/
theorem exists_randomWord {value : Int64} (h : ¬value < Int64.maxValue % 2048)
    (stream : List Int64) :
    ∃ word, randomWord.run (value :: stream) = some (word, stream) := by
  have hpositive : (0 : Int64) < 2048 := by decide
  obtain ⟨hlow, hhigh⟩ := mod_range hpositive (nonneg_of_accepted hpositive h)
  have hindex : (value % 2048).toInt.toNat < mnemonics.length := by
    rw [Int64.lt_iff_toInt_lt] at hhigh
    rw [Int64.le_iff_toInt_le] at hlow
    rw [length_mnemonics]
    change (value % 2048).toInt < 2048 at hhigh
    change 0 ≤ (value % 2048).toInt at hlow
    omega
  have hword : mnemonicAt (value % 2048) = some mnemonics[(value % 2048).toInt.toNat] := by
    rw [mnemonicAt, if_neg (Int64.not_lt.mpr hlow), List.getElem?_eq_getElem hindex]
  have hdrawn : randomIndex.run (value :: stream) = some (value % 2048, stream) := by
    rw [randomIndex, length_mnemonics]
    exact (secureRandom_cons hpositive value stream).trans (if_neg h)
  refine ⟨mnemonics[(value % 2048).toInt.toNat], ?_⟩
  rw [randomWord, Run.run_bind_of_eq_some hdrawn, hword]
  rfl

/-- With one accepted value for each word the initialiser uses exactly these values. -/
theorem exists_init (strength : UInt64) {values : List Int64}
    (hlength : values.length = strength.toNat)
    (h : ∀ value ∈ values, ¬value < Int64.maxValue % 2048) (rest : List Int64) :
    ∃ mnemonic, (init strength).run (values ++ rest) = some (mnemonic, rest) := by
  have hindices : values.length = (List.range strength.toNat).length := by
    rw [hlength, List.length_range]
  obtain ⟨words, hwords⟩ := Run.exists_mapM_of_tokens (¬· < Int64.maxValue % 2048)
    (fun _ _ stream haccepted ↦ exists_randomWord haccepted stream) hindices h rest
  refine ⟨{ words := words }, ?_⟩
  rw [init, Run.run_bind_of_eq_some hwords]
  rfl

theorem exists_passphraseOfStrength (strength : UInt64) {values : List Int64}
    (hlength : values.length = 12) (h : ∀ value ∈ values, ¬value < Int64.maxValue % 2048)
    (rest : List Int64) :
    ∃ text, (passphraseOfStrength strength).run (values ++ rest) = some (text, rest) := by
  obtain ⟨mnemonic, hmnemonic⟩ := exists_init defaultStrength hlength h rest
  refine ⟨mnemonic.passphrase, ?_⟩
  rw [passphraseOfStrength, Run.run_bind_of_eq_some hmnemonic]
  rfl

/-! ## The two entry points -/

/-- On every stream on which both loops end, the two entry points agree on a passphrase of the
requested strength exactly when the requested strength is the default one. -/
theorem passphrase_iff {strength : UInt64} {stream rest rest' : List Int64} {text : SwiftString}
    {mnemonic : MnemonicPassphrase}
    (htext : (passphraseOfStrength strength).run stream = some (text, rest))
    (hmnemonic : (init strength).run stream = some (mnemonic, rest')) :
    (text = mnemonic.passphrase ∧ rest = rest' ∧ HasStrength strength text) ↔ strength = 12 := by
  obtain ⟨drawn, hdrawn, rfl⟩ := passphraseOfStrength_eq_some htext
  constructor
  · rintro ⟨-, -, hstrength⟩
    exact hstrength.unique (hasStrength_of_init hdrawn)
  · rintro rfl
    have hsame := hdrawn.symm.trans hmnemonic
    cases hsame
    exact ⟨rfl, rfl, hasStrength_of_init hmnemonic⟩

theorem accepted_replicate (count : ℕ) : ∀ value ∈ List.replicate count Int64.maxValue,
    ¬value < Int64.maxValue % 2048 := by
  intro value hvalue
  rw [List.eq_of_mem_replicate hvalue]
  decide

/-- Twelve times the largest raw value, for the default strength. -/
theorem passphrase_iff_twelve : ∃ text mnemonic,
    (passphraseOfStrength 12).run (List.replicate 12 Int64.maxValue) = some (text, []) ∧
    (init 12).run (List.replicate 12 Int64.maxValue) = some (mnemonic, []) ∧
    text = mnemonic.passphrase := by
  obtain ⟨text, htext⟩ := exists_passphraseOfStrength 12 rfl (accepted_replicate 12) []
  obtain ⟨mnemonic, hmnemonic⟩ := exists_init 12 rfl (accepted_replicate 12) []
  exact ⟨text, mnemonic, htext, hmnemonic, ((passphrase_iff htext hmnemonic).mpr rfl).1⟩

/-- Asked for 24 words, the static entry point returns 12. -/
theorem passphrase_of_24_words_has_12 :
    ¬∀ (strength : UInt64) (stream rest rest' : List Int64) (text : SwiftString)
      (mnemonic : MnemonicPassphrase),
      (passphraseOfStrength strength).run stream = some (text, rest) →
      (init strength).run stream = some (mnemonic, rest') → text = mnemonic.passphrase := by
  intro hclaim
  obtain ⟨text, htext⟩ := exists_passphraseOfStrength 24 rfl (accepted_replicate 12)
    (List.replicate 12 Int64.maxValue)
  obtain ⟨mnemonic, hmnemonic⟩ := exists_init 24 rfl (accepted_replicate 24) []
  obtain ⟨drawn, hdrawn, hjoin⟩ := passphraseOfStrength_eq_some htext
  have heq := hclaim 24 (List.replicate 24 Int64.maxValue) _ [] text mnemonic htext hmnemonic
  have hstrength := hasStrength_of_init hmnemonic
  rw [← heq, hjoin] at hstrength
  exact absurd (hstrength.unique (hasStrength_of_init hdrawn)) (by decide)

end MnemonicPassphrase

end RxLisk

import Mathlib.Data.List.Basic
import Mathlib.Logic.Equiv.Basic
import Mathlib.Tactic.Linarith

/-!
# Codecs for concatenated byte layouts

A codec writes values as byte strings and reads back exactly the strings that it writes.  Fields of
fixed width are written one after the other without tags or lengths; a field of fixed width may be
followed by anything, and a list of items of one width ends with the input.
-/

universe u

/-- A writer and a reader that are inverse to each other, with no other accepted input. -/
structure Codec (α : Type u) where
  encode : α → List UInt8
  decode : List UInt8 → Option α
  decode_encode : ∀ value, decode (encode value) = some value
  encode_decode : ∀ bytes value, decode bytes = some value → encode value = bytes

/-- A codec whose encodings all have the same length. -/
structure FixedCodec (α : Type u) extends Codec α where
  width : ℕ
  length_encode : ∀ value, (encode value).length = width

attribute [simp] Codec.decode_encode FixedCodec.length_encode

namespace Codec

variable {α : Type u}

theorem encode_injective (codec : Codec α) : Function.Injective codec.encode := by
  intro left right h
  have hread := congrArg codec.decode h
  simpa using hread

end Codec

namespace FixedCodec

variable {α β : Type u}

/-- A byte string of known length. -/
def buffer (width : ℕ) : FixedCodec (Vector UInt8 width) where
  encode := Vector.toList
  decode bytes := if h : bytes.length = width then some ⟨bytes.toArray, h⟩ else none
  decode_encode value := by
    rw [dif_pos value.length_toList]
    rfl
  encode_decode bytes value h := by
    split at h
    · cases h
      simp
    · cases h
  width := width
  length_encode value := by simp

/-- Values that are packed into those of another codec; packed values that no value has are
refused. -/
def packed (codec : FixedCodec α) (pack : β → α) (unpack : α → Option β)
    (unpack_pack : ∀ value, unpack (pack value) = some value)
    (pack_unpack : ∀ item value, unpack item = some value → pack value = item) :
    FixedCodec β where
  encode value := codec.encode (pack value)
  decode bytes := (codec.decode bytes).bind unpack
  decode_encode value := by simp [unpack_pack]
  encode_decode bytes value h := by
    obtain ⟨item, hitem, hvalue⟩ := Option.bind_eq_some_iff.mp h
    rw [pack_unpack item value hvalue]
    exact codec.encode_decode bytes item hitem
  width := codec.width
  length_encode value := codec.length_encode (pack value)

/-- A field of fixed width in front of the rest. -/
def andThen (first : FixedCodec α) (rest : Codec β) : Codec (α × β) where
  encode value := first.encode value.1 ++ rest.encode value.2
  decode bytes := do
    let left ← first.decode (bytes.take first.width)
    let right ← rest.decode (bytes.drop first.width)
    return (left, right)
  decode_encode value := by
    have hwidth := first.length_encode value.1
    rw [List.take_left' hwidth, List.drop_left' hwidth]
    simp
  encode_decode bytes value h := by
    obtain ⟨left, hleft, hrest⟩ := Option.bind_eq_some_iff.mp h
    obtain ⟨right, hright, hvalue⟩ := Option.bind_eq_some_iff.mp hrest
    cases hvalue
    rw [first.encode_decode _ _ hleft, rest.encode_decode _ _ hright, List.take_append_drop]

/-- Two fields of fixed width. -/
def pair (first : FixedCodec α) (second : FixedCodec β) : FixedCodec (α × β) where
  toCodec := first.andThen second.toCodec
  width := first.width + second.width
  length_encode value := by simp [andThen]

/-- Reads items until the input is used up; `fuel` bounds their number. -/
def decodeItems (item : FixedCodec α) : (fuel : ℕ) → List UInt8 → Option (List α)
  | _, [] => some []
  | 0, _ => none
  | fuel + 1, bytes => do
    let head ← item.decode (bytes.take item.width)
    let tail ← decodeItems item fuel (bytes.drop item.width)
    return head :: tail

theorem decodeItems_encode (item : FixedCodec α) (hwidth : 0 < item.width) (values : List α)
    {fuel : ℕ} (hfuel : (values.flatMap item.encode).length ≤ fuel) :
    item.decodeItems fuel (values.flatMap item.encode) = some values := by
  induction values generalizing fuel with
  | nil => cases fuel <;> rfl
  | cons value values ih =>
    have hlength := item.length_encode value
    rw [List.flatMap_cons, List.length_append, hlength] at hfuel
    obtain ⟨rest, rfl⟩ := Nat.exists_eq_add_of_lt (show 0 < fuel by omega)
    rw [Nat.zero_add, List.flatMap_cons]
    obtain ⟨byte, bytes, hbytes⟩ := List.exists_cons_of_ne_nil
      (List.ne_nil_of_length_pos (by omega : 0 < (item.encode value).length))
    rw [show item.encode value ++ values.flatMap item.encode =
      byte :: (bytes ++ values.flatMap item.encode) by rw [hbytes]; rfl, decodeItems]
    · rw [← List.cons_append, ← hbytes, List.take_left' hlength, List.drop_left' hlength,
        ih (by omega)]
      simp
    · exact List.cons_ne_nil _ _

theorem encode_decodeItems (item : FixedCodec α) {fuel : ℕ} {bytes : List UInt8}
    {values : List α} (h : item.decodeItems fuel bytes = some values) :
    values.flatMap item.encode = bytes := by
  induction fuel generalizing bytes values with
  | zero =>
    cases bytes with
    | nil =>
      cases h
      rfl
    | cons byte bytes => cases h
  | succ fuel ih =>
    cases bytes with
    | nil =>
      cases h
      rfl
    | cons byte bytes =>
      obtain ⟨head, hhead, hrest⟩ := Option.bind_eq_some_iff.mp h
      obtain ⟨tail, htail, hvalues⟩ := Option.bind_eq_some_iff.mp hrest
      cases hvalues
      rw [List.flatMap_cons, ih htail, item.encode_decode _ _ hhead, List.take_append_drop]

/-- Items up to the end of the input. -/
def list (item : FixedCodec α) (hwidth : 0 < item.width) : Codec (List α) where
  encode values := values.flatMap item.encode
  decode bytes := item.decodeItems bytes.length bytes
  decode_encode values := item.decodeItems_encode hwidth values le_rfl
  encode_decode _ _ h := item.encode_decodeItems h

end FixedCodec

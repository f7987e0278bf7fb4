import RxLisk.Foundation.Text
import Mathlib.Data.Rat.Defs
import Mathlib.Data.List.Perm.Basic
import Mathlib.Data.List.Nodup

/-!
# JSON values, dictionaries and synthesised decoding

A dictionary is an association list with one entry for each key; storing an absent value removes the
key.  Decoding follows the synthesised `Decodable`: a required property must be present, not null
and of its declared type, and an optional one decodes to `none` when it is missing or null.  Every
error carries the coding path at which it was found.
-/

namespace RxLisk

inductive Json where
  | null
  | bool (value : Bool)
  | number (value : ℚ)
  | string (text : SwiftString)
  | array (elements : List Json)
  | object (members : List (String × Json))

/-- A dictionary from strings to JSON values. -/
abbrev Dictionary := List (String × Json)

namespace Dictionary

/-- The subscript setter: an absent value removes the key. -/
def set (dict : Dictionary) (key : String) (value : Option Json) : Dictionary :=
  match value with
  | none => dict.filter (·.1 ≠ key)
  | some value => dict.filter (·.1 ≠ key) ++ [(key, value)]

/-- The keys of a dictionary are distinct. -/
def Distinct (dict : Dictionary) : Prop :=
  (dict.map Prod.fst).Nodup

theorem distinct_nil : Distinct [] := List.nodup_nil

theorem Distinct.set {dict : Dictionary} (h : dict.Distinct) (key : String)
    (value : Option Json) : (dict.set key value).Distinct := by
  have hfilter : Distinct (dict.filter (·.1 ≠ key)) := by
    exact h.sublist (List.filter_sublist.map Prod.fst)
  cases value with
  | none => exact hfilter
  | some value =>
    unfold Distinct Dictionary.set
    rw [List.map_append, List.nodup_append]
    refine ⟨hfilter, List.nodup_singleton _, ?_⟩
    intro earlier hearlier last hlast
    simp only [List.mem_map, List.mem_filter, decide_eq_true_eq] at hearlier
    obtain ⟨entry, ⟨_, hne⟩, rfl⟩ := hearlier
    simp only [List.map_cons, List.map_nil, List.mem_singleton] at hlast
    rw [hlast]
    exact hne

theorem lookup_filter_ne (dict : Dictionary) (key name : String) :
    (dict.filter (·.1 ≠ key)).lookup name = if name = key then none else dict.lookup name := by
  induction dict with
  | nil => simp
  | cons entry dict ih =>
    obtain ⟨other, value⟩ := entry
    by_cases hother : other = key
    · subst hother
      rw [List.filter_cons_of_neg (by simp), ih, List.lookup_cons]
      by_cases hname : name = other
      · rw [if_pos hname, if_pos hname]
      · rw [if_neg hname, if_neg hname, beq_false_of_ne hname]
    · rw [List.filter_cons_of_pos (by simpa using hother), List.lookup_cons, List.lookup_cons, ih]
      by_cases hname : name = other
      · subst hname
        simp only [beq_self_eq_true, if_neg hother]
      · rw [beq_false_of_ne hname]

/-- Reading a key after the setter. -/
theorem lookup_set (dict : Dictionary) (key name : String) (value : Option Json) :
    (dict.set key value).lookup name = if name = key then value else dict.lookup name := by
  cases value with
  | none => exact lookup_filter_ne dict key name
  | some value =>
    rw [Dictionary.set, List.lookup_append, lookup_filter_ne]
    by_cases hname : name = key
    · subst hname
      simp
    · simp [hname, List.lookup_cons, beq_false_of_ne hname]

/-- With distinct keys the order of the entries is not seen. -/
theorem lookup_eq_of_perm {left right : Dictionary} (h : left.Perm right) (hleft : left.Distinct)
    (key : String) : left.lookup key = right.lookup key := by
  induction h with
  | nil => rfl
  | cons entry _ ih =>
    obtain ⟨name, value⟩ := entry
    rw [Distinct, List.map_cons, List.nodup_cons] at hleft
    rw [List.lookup_cons, List.lookup_cons, ih hleft.2]
  | swap first second rest =>
    obtain ⟨firstName, firstValue⟩ := first
    obtain ⟨secondName, secondValue⟩ := second
    rw [Distinct, List.map_cons, List.map_cons, List.nodup_cons, List.mem_cons] at hleft
    have hne : secondName ≠ firstName := fun heq ↦ hleft.1 (Or.inl heq)
    simp only [List.lookup_cons]
    by_cases hfirst : key = firstName
    · subst hfirst
      rw [beq_self_eq_true, beq_false_of_ne hne.symm]
    · rw [beq_false_of_ne hfirst]
  | trans hfirst _ ihFirst ihSecond =>
    have hmiddle : Distinct _ := (hfirst.map Prod.fst).nodup_iff.mp hleft
    exact (ihFirst hleft).trans (ihSecond hmiddle)

end Dictionary

/-! ## Decoding -/

inductive CodingKey where
  | name (key : String)
  | index (position : ℕ)
deriving DecidableEq

inductive DecodingError where
  | typeMismatch (codingPath : List CodingKey)
  | valueNotFound (codingPath : List CodingKey)
  | keyNotFound (key : String) (codingPath : List CodingKey)
  | dataCorrupted (codingPath : List CodingKey)
deriving DecidableEq

/-- A decoder of one type, started at a coding path. -/
abbrev Decoder (α : Type) := List CodingKey → Json → Except DecodingError α

namespace Decoder

def string : Decoder SwiftString
  | _, .string text => .ok text
  | codingPath, .null => .error (.valueNotFound codingPath)
  | codingPath, _ => .error (.typeMismatch codingPath)

def bool : Decoder Bool
  | _, .bool value => .ok value
  | codingPath, .null => .error (.valueNotFound codingPath)
  | codingPath, _ => .error (.typeMismatch codingPath)

/-- An integer type with the values `low ≤ value < high`; other numbers do not fit. -/
def integer (low high : ℤ) : Decoder ℤ
  | codingPath, .number value =>
    if value.den = 1 ∧ low ≤ value.num ∧ value.num < high then .ok value.num
    else .error (.dataCorrupted codingPath)
  | codingPath, .null => .error (.valueNotFound codingPath)
  | codingPath, _ => .error (.typeMismatch codingPath)

/-- `UInt`, `UInt8` and the other unsigned types. -/
def unsigned (bound : ℕ) : Decoder ℕ := fun codingPath json ↦
  Int.toNat <$> integer 0 bound codingPath json

def int : Decoder ℤ := integer (-2 ^ 63) (2 ^ 63)

def array {α : Type} (element : Decoder α) : Decoder (List α)
  | codingPath, .array elements =>
    elements.zipIdx.mapM fun (json, position) ↦ element (codingPath ++ [.index position]) json
  | codingPath, .null => .error (.valueNotFound codingPath)
  | codingPath, _ => .error (.typeMismatch codingPath)

/-- `container(keyedBy:)`: the members of an object. -/
def container : Decoder Dictionary
  | _, .object members => .ok members
  | codingPath, .null => .error (.valueNotFound codingPath)
  | codingPath, _ => .error (.typeMismatch codingPath)

variable {α : Type}

/-- `decode(_:forKey:)`, for a required property. -/
def required (value : Decoder α) (members : Dictionary) (codingPath : List CodingKey)
    (key : String) : Except DecodingError α :=
  match members.lookup key with
  | none => .error (.keyNotFound key codingPath)
  | some json => value (codingPath ++ [.name key]) json

/-- `decodeIfPresent(_:forKey:)`, for an optional property. -/
def optional (value : Decoder α) (members : Dictionary) (codingPath : List CodingKey)
    (key : String) : Except DecodingError (Option α) :=
  match members.lookup key with
  | none => .ok none
  | some .null => .ok none
  | some json => some <$> value (codingPath ++ [.name key]) json

/-! ## Reading members back -/

@[simp]
theorem unsigned_natCast {bound number : ℕ} (h : number < bound) (codingPath : List CodingKey) :
    unsigned bound codingPath (.number number) = .ok number := by
  have hfits : (number : ℚ).den = 1 ∧ 0 ≤ (number : ℚ).num ∧ (number : ℚ).num < bound := by
    rw [Rat.num_natCast]
    exact ⟨Rat.den_natCast number, Int.natCast_nonneg number, by exact_mod_cast h⟩
  rw [unsigned, integer, if_pos hfits, Rat.num_natCast]
  rfl

theorem required_eq_of_lookup {value : Decoder α} {members : Dictionary} {key : String}
    {json : Json} (h : members.lookup key = some json) (codingPath : List CodingKey) :
    required value members codingPath key = value (codingPath ++ [.name key]) json := by
  rw [required, h]

theorem required_eq_of_missing {value : Decoder α} {members : Dictionary} {key : String}
    (h : members.lookup key = none) (codingPath : List CodingKey) :
    required value members codingPath key = .error (.keyNotFound key codingPath) := by
  rw [required, h]

theorem optional_eq_of_missing {value : Decoder α} {members : Dictionary} {key : String}
    (h : members.lookup key = none) (codingPath : List CodingKey) :
    optional value members codingPath key = .ok none := by
  rw [optional, h]

/-- An absent value, or a string that the dictionary holds, decodes to itself. -/
theorem optional_string {members : Dictionary} {key : String} {text : Option SwiftString}
    (h : members.lookup key = text.map Json.string) (codingPath : List CodingKey) :
    optional string members codingPath key = .ok text := by
  cases text with
  | none => exact optional_eq_of_missing h codingPath
  | some text => rw [optional, h]; rfl

end Decoder

end RxLisk

import Mathlib.Data.List.Basic
import Mathlib.Data.Nat.Basic
import Mathlib.Tactic.Common

/-!
# Streams that are consumed in blocks

A chaining value and the bytes of an incomplete block are the state of a hash function while its
input arrives.  Bytes are taken one at a time here; taking them in pieces of any length, or a whole
block at a time, comes to the same.
-/

namespace BlockBuffer

variable {Chain Byte : Type*} (size : ℕ) (compress : Chain → List Byte → Chain)

/-- Takes one byte, and compresses the block that it completes. -/
def absorbByte (state : Chain × List Byte) (byte : Byte) : Chain × List Byte :=
  let block := state.2 ++ [byte]
  if block.length = size then (compress state.1 block, []) else (state.1, block)

def absorb (state : Chain × List Byte) (bytes : List Byte) : Chain × List Byte :=
  bytes.foldl (absorbByte size compress) state

@[simp]
theorem absorb_nil (state : Chain × List Byte) : absorb size compress state [] = state := rfl

theorem absorb_append (state : Chain × List Byte) (left right : List Byte) :
    absorb size compress state (left ++ right) =
      absorb size compress (absorb size compress state left) right :=
  List.foldl_append ..

/-- Bytes that do not complete the block are kept. -/
theorem absorb_of_lt (chain : Chain) {pending bytes : List Byte}
    (h : pending.length + bytes.length < size) :
    absorb size compress (chain, pending) bytes = (chain, pending ++ bytes) := by
  induction bytes generalizing pending with
  | nil => simp
  | cons byte bytes ih =>
    rw [List.length_cons] at h
    have hshort : (pending ++ [byte]).length ≠ size := by simp; omega
    rw [absorb, List.foldl_cons, absorbByte, if_neg hshort]
    have hrest : absorb size compress (chain, pending ++ [byte]) bytes =
        (chain, pending ++ [byte] ++ bytes) := ih (by simp; omega)
    rwa [List.append_assoc, List.singleton_append] at hrest

/-- Bytes that complete the block are compressed with it. -/
theorem absorb_of_eq (chain : Chain) {pending bytes : List Byte} (hbytes : bytes ≠ [])
    (h : pending.length + bytes.length = size) :
    absorb size compress (chain, pending) bytes = (compress chain (pending ++ bytes), []) := by
  obtain ⟨front, last, rfl⟩ := (List.eq_nil_or_concat' bytes).resolve_left hbytes
  rw [List.length_append, List.length_singleton] at h
  have hfull : (pending ++ front ++ [last]).length = size := by simp; omega
  rw [absorb_append, absorb_of_lt size compress chain (by omega), absorb, List.foldl_cons,
    absorbByte, if_pos hfull, List.append_assoc]
  rfl

/-- What is kept is the remainder of the length by the size of a block. -/
theorem length_absorb {state : Chain × List Byte} (h : state.2.length < size)
    (bytes : List Byte) :
    (absorb size compress state bytes).2.length = (state.2.length + bytes.length) % size := by
  induction bytes generalizing state with
  | nil => simp [Nat.mod_eq_of_lt h]
  | cons byte bytes ih =>
    rw [absorb, List.foldl_cons]
    change (absorb size compress (absorbByte size compress state byte) bytes).2.length = _
    have hlength : (absorbByte size compress state byte).2.length =
        (state.2.length + 1) % size := by
      unfold absorbByte
      dsimp only
      rw [List.length_append, List.length_singleton]
      split_ifs with hfull
      · rw [hfull, Nat.mod_self, List.length_nil]
      · rw [List.length_append, List.length_singleton, Nat.mod_eq_of_lt (by omega)]
    rw [ih (by rw [hlength]; exact Nat.mod_lt _ (by omega)), hlength, Nat.mod_add_mod,
      List.length_cons, Nat.add_assoc, Nat.add_comm 1]

end BlockBuffer

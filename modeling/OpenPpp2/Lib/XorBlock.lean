import Mathlib.Data.LawfulXor.Basic
import Mathlib.Data.List.Basic
import Mathlib.Tactic.Common

/-!
# Position-wise XOR of blocks of unequal length

An accumulator block grows with zeros to the longest block folded into it.
-/

namespace OpenPpp2.Lib.XorBlock

open List

section Grow

variable {Byte : Type*} [Zero Byte]

def grow (size : Nat) (block : List Byte) : List Byte :=
  block ++ List.replicate (size - block.length) 0

@[simp] theorem length_grow (size : Nat) (block : List Byte) :
    (grow size block).length = max block.length size := by
  simp only [grow, length_append, length_replicate]
  omega

@[simp] theorem getD_grow (size index : Nat) (block : List Byte) :
    (grow size block).getD index 0 = block.getD index 0 := by
  simp only [grow, getD_eq_getElem?_getD, getElem?_append, getElem?_replicate]
  split_ifs with inside padded
  · rfl
  · simp [getElem?_eq_none (Nat.le_of_not_lt inside)]
  · simp [getElem?_eq_none (Nat.le_of_not_lt inside)]

end Grow

section Block

variable {Byte : Type*} [XorOp Byte]

def xorInto : List Byte → List Byte → List Byte
  | byte :: rest, other :: others => (byte ^^^ other) :: xorInto rest others
  | accumulator, [] => accumulator
  | [], _ :: _ => []

@[simp] theorem length_xorInto (accumulator block : List Byte) :
    (xorInto accumulator block).length = accumulator.length := by
  fun_induction xorInto accumulator block with
  | case1 byte rest other others ih => simp [ih]
  | case2 accumulator => rfl
  | case3 head tail => rfl

theorem length_foldl_xorInto (accumulator : List Byte) (blocks : List (List Byte)) :
    (blocks.foldl xorInto accumulator).length = accumulator.length := by
  induction blocks generalizing accumulator with
  | nil => rfl
  | cons block rest ih => rw [foldl_cons, ih, length_xorInto]

variable [Zero Byte]

def column (index : Nat) : List (List Byte) → Byte
  | [] => 0
  | block :: rest => block.getD index 0 ^^^ column index rest

variable [LawfulXor Byte]

theorem xor_left_comm (first second third : Byte) :
    first ^^^ (second ^^^ third) = second ^^^ (first ^^^ third) := by
  rw [← LawfulXor.xor_assoc, LawfulXor.xor_comm first second, LawfulXor.xor_assoc]

theorem getD_xorInto {accumulator block : List Byte}
    (fits : block.length ≤ accumulator.length) (index : Nat) :
    (xorInto accumulator block).getD index 0 = accumulator.getD index 0 ^^^ block.getD index 0 := by
  induction block generalizing accumulator index with
  | nil => cases accumulator <;> simp [xorInto]
  | cons other others ih =>
    cases accumulator with
    | nil => simp at fits
    | cons byte rest =>
      have restFits : others.length ≤ rest.length := by simpa using fits
      cases index with
      | zero => simp [xorInto]
      | succ index => simpa [xorInto] using ih restFits index

theorem getD_foldl_xorInto {accumulator : List Byte} {blocks : List (List Byte)}
    (fits : ∀ block ∈ blocks, block.length ≤ accumulator.length) (index : Nat) :
    (blocks.foldl xorInto accumulator).getD index 0 =
      accumulator.getD index 0 ^^^ column index blocks := by
  induction blocks generalizing accumulator with
  | nil => simp [column]
  | cons block rest ih =>
    simp only [forall_mem_cons] at fits
    rw [foldl_cons, ih (by simpa using fits.2), getD_xorInto fits.1, LawfulXor.xor_assoc, column]

theorem column_append (index : Nat) (first second : List (List Byte)) :
    column index (first ++ second) = column index first ^^^ column index second := by
  induction first with
  | nil => simp [column]
  | cons block rest ih => simp [column, ih, LawfulXor.xor_assoc]

theorem column_perm (index : Nat) {first second : List (List Byte)} (perm : first.Perm second) :
    column index first = column index second := by
  induction perm with
  | nil => rfl
  | cons block _ ih => rw [column, column, ih]
  | swap first second rest => simp only [column, xor_left_comm (first.getD index 0)]
  | trans _ _ left right => exact left.trans right

theorem column_filter_ne {Index : Type*} [DecidableEq Index] (position : Nat)
    (block : Index → List Byte) {indices : List Index} {missing : Index}
    (nodup : indices.Nodup) (member : missing ∈ indices) : column position (indices.map block) ^^^
        column position ((indices.filter (· != missing)).map block) =
      (block missing).getD position 0 := by
  rw [column_perm position ((perm_cons_erase member).map block), ← nodup.erase_eq_filter, map_cons,
    column, LawfulXor.xor_assoc, LawfulXor.xor_self, xor_zero]

end Block

end OpenPpp2.Lib.XorBlock

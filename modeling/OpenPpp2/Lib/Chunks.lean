import Mathlib.Data.List.Basic
import Mathlib.Tactic.Ring

/-!
# Lists cut into chunks

Chunks of one size, of which only the last may be shorter: joined, they are found again at the
multiples of the size.
-/

namespace OpenPpp2.Lib.Chunks

open List

variable {α : Type*}

inductive Chunked (size : Nat) : List (List α) → Prop
  | last (chunk : List α) (some : 0 < chunk.length) (fits : chunk.length ≤ size) :
      Chunked size [chunk]
  | cons (chunk : List α) (rest : List (List α)) (full : chunk.length = size)
      (chunked : Chunked size rest) : Chunked size (chunk :: rest)

variable {size : Nat} {chunks : List (List α)}

theorem Chunked.size_pos (chunked : Chunked size chunks) : 0 < size := by
  induction chunked with
  | last chunk some fits => omega
  | cons chunk rest full chunked ih => exact ih

theorem Chunked.length_flatten (chunked : Chunked size chunks) :
    (chunks.length - 1) * size < chunks.flatten.length ∧
      chunks.flatten.length ≤ chunks.length * size := by
  induction chunked with
  | last chunk some fits => simpa using ⟨some, fits⟩
  | cons chunk rest full chunked ih =>
    have more : 1 ≤ rest.length := by cases chunked <;> simp
    have split : rest.length * size = (rest.length - 1) * size + size := by
      rw [← Nat.succ_mul]
      congr 1
      omega
    simp only [flatten_cons, length_append, length_cons, Nat.add_mul, full,
      Nat.one_mul, Nat.add_sub_cancel]
    omega

theorem Chunked.count (chunked : Chunked size chunks) :
    (chunks.flatten.length + size - 1) / size = chunks.length := by
  have positive := chunked.size_pos
  have ⟨above, below⟩ := chunked.length_flatten
  have more : 1 ≤ chunks.length := by cases chunked <;> simp
  have split : chunks.length * size = (chunks.length - 1) * size + size := by
    rw [← Nat.succ_mul]
    congr 1
    omega
  rw [Nat.div_eq_iff positive]
  omega

theorem Chunked.getElem?_eq (chunked : Chunked size chunks) {index : Nat} {chunk : List α}
    (found : chunks[index]? = some chunk) :
    (chunks.flatten.drop (index * size)).take size = chunk := by
  induction chunked generalizing index with
  | last only some fits =>
    cases index with
    | zero =>
      cases found
      simp [take_of_length_le fits]
    | succ index => simp at found
  | cons first rest full chunked ih =>
    cases index with
    | zero =>
      cases found
      rw [Nat.zero_mul, drop_zero, flatten_cons, ← full, take_left]
    | succ index =>
      have later : rest[index]? = some chunk := found
      rw [flatten_cons, Nat.succ_mul, Nat.add_comm, ← drop_drop, drop_left' full, ih later]

theorem chunked_of_places (some : chunks ≠ [])
    (places : ∀ index chunk, chunks[index]? = Option.some chunk →
      0 < chunk.length ∧ chunk.length ≤ size ∧ (index + 1 ≠ chunks.length → chunk.length = size)) :
    Chunked size chunks := by
  induction chunks with
  | nil => exact absurd rfl some
  | cons first rest ih =>
    have ⟨positive, fits, full⟩ := places 0 first rfl
    cases rest with
    | nil => exact .last first positive fits
    | cons second rest =>
      apply Chunked.cons first _ (full (by simp))
      apply ih (cons_ne_nil _ _)
      intro index chunk found
      have ⟨positive, fits, full⟩ := places (index + 1) chunk found
      refine ⟨positive, fits, ?_⟩
      intro earlier
      apply full
      rw [length_cons]
      omega

end OpenPpp2.Lib.Chunks

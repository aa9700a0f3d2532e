import Mathlib.Order.Lattice

/-!
# Masks of leading bits

The word with its `length` most significant bits set, and what masking with it keeps: two words have
the same masked value exactly when their leading bits agree.
-/

namespace OpenPpp2.Lib.PrefixMask

open BitVec

section Words

variable {width : Nat}

def mask (width length : Nat) : BitVec width := allOnes width <<< (width - length)

theorem getMsbD_mask (length index : Nat) (inside : index < width) :
    (mask width length).getMsbD index = decide (index < length) := by
  simp only [mask, getMsbD_shiftLeft, getMsbD_allOnes]
  by_cases leading : index < length
  · simp only [leading, decide_true, decide_eq_true_eq]
    omega
  · simp only [leading, decide_false, decide_eq_false_iff_not]
    omega

variable (word : BitVec width)

theorem getMsbD_and_mask (length index : Nat) : (word &&& mask width length).getMsbD index =
      (word.getMsbD index && decide (index < length)) := by
  by_cases inside : index < width
  · rw [getMsbD_and, getMsbD_mask length index inside]
  · rw [getMsbD_of_ge _ _ (by omega), getMsbD_of_ge _ _ (by omega), Bool.false_and]

theorem eq_of_getMsbD_eq {first second : BitVec width}
    (same : ∀ index, first.getMsbD index = second.getMsbD index) : first = second := by
  apply BitVec.eq_of_getMsbD_eq
  intro index _
  exact same index

theorem and_mask_eq_and_mask_iff (first second : BitVec width) (length : Nat) :
    first &&& mask width length = second &&& mask width length ↔
      ∀ index < length, first.getMsbD index = second.getMsbD index := by
  constructor
  · intro equal index leading
    have bits := congrArg (fun word => word.getMsbD index) equal
    simp only [getMsbD_and_mask, leading, decide_true, Bool.and_true] at bits
    exact bits
  · intro agree
    apply eq_of_getMsbD_eq
    intro index
    rw [getMsbD_and_mask, getMsbD_and_mask]
    by_cases leading : index < length
    · rw [agree index leading]
    · simp [leading]

theorem and_mask_and_mask (first second : Nat) :
    word &&& mask width first &&& mask width second = word &&& mask width (min first second) := by
  apply eq_of_getMsbD_eq
  intro index
  simp only [getMsbD_and_mask, Bool.and_assoc, ← Bool.decide_and, Nat.lt_min]

end Words

section Cuts

variable {Address : Type*} {cut : Nat → Address → Address}
  (nested : ∀ first second address, cut second (cut first address) = cut (min first second) address)

include nested

theorem cut_eq_of_bucket {address network : Address} {length cutLength : Nat}
    (bucket : cut cutLength address = network) (own : cut length network = network)
    (shorter : length ≤ cutLength) : cut length address = network := by
  rw [← bucket, nested, Nat.min_eq_right shorter, bucket] at own
  exact own

theorem bucket_eq_of_between {address network other : Address} {length between cutLength : Nat}
    (bucket : cut cutLength address = network) (own : cut length network = network)
    (above : length ≤ between) (below : between ≤ cutLength)
    (contains : cut between address = other) : other = network := by
  calc other = cut between address := contains.symm
    _ = cut between (cut cutLength address) := by rw [nested, Nat.min_eq_right below]
    _ = cut between (cut length network) := by rw [bucket, own]
    _ = cut length network := by rw [nested, Nat.min_eq_left above]
    _ = network := own

end Cuts

end OpenPpp2.Lib.PrefixMask

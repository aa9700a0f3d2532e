import OpenPpp2.Lib.ByteLayout
import OpenPpp2.Lib.OnesComplement

/-!
# Writing into byte strings

`patch` puts bytes at an offset of a byte string.
-/

namespace OpenPpp2.Lib.BytePatch

open Lib.BigEndian Lib.ByteLayout Lib.OnesComplement List

def patch (offset : Nat) (new bytes : List UInt8) : List UInt8 :=
  bytes.take offset ++ new ++ bytes.drop (offset + new.length)

variable {offset : Nat} {new bytes : List UInt8} (inside : offset + new.length ≤ bytes.length)

include inside

@[simp] theorem length_patch : (patch offset new bytes).length = bytes.length := by
  simp only [patch, length_append, length_take, length_drop]
  omega

variable {place size width : Nat}

theorem getElem?_patch_before (before : place < offset) :
    (patch offset new bytes)[place]? = bytes[place]? := by
  have short : place < (bytes.take offset).length := by
    rw [length_take]
    omega
  rw [patch, append_assoc, getElem?_append_left short, getElem?_take, if_pos before]

theorem getElem?_patch_after (after : offset + new.length ≤ place) :
    (patch offset new bytes)[place]? = bytes[place]? := by
  have front : (bytes.take offset ++ new).length = offset + new.length := by
    rw [length_append, length_take]
    omega
  rw [patch, getElem?_append_right (by omega), front, getElem?_drop]
  congr 1
  omega

theorem take_patch (before : size ≤ offset) :
    (patch offset new bytes).take size = bytes.take size := by
  rw [patch, append_assoc, take_append_of_le_length, take_take, Nat.min_eq_left before]
  rw [length_take]
  omega

theorem take_patch_inside (within : offset + new.length ≤ size) :
    (patch offset new bytes).take size = patch offset new (bytes.take size) := by
  have front : (bytes.take offset ++ new).length = offset + new.length := by
    rw [length_append, length_take]
    omega
  rw [patch, patch, take_append, front, take_of_length_le (by omega), take_take,
    Nat.min_eq_left (by omega), drop_take]

theorem drop_patch (before : size ≤ offset) :
    (patch offset new bytes).drop size = patch (offset - size) new (bytes.drop size) := by
  have front : size ≤ (bytes.take offset).length := by
    rw [length_take]
    omega
  rw [patch, patch, append_assoc, drop_append_of_le_length front, drop_take,
    drop_drop, append_assoc]
  congr 3
  omega

theorem drop_patch_after (after : offset + new.length ≤ size) :
    (patch offset new bytes).drop size = bytes.drop size := by
  apply ext_getElem?
  intro place
  rw [getElem?_drop, getElem?_drop, getElem?_patch_after inside (by omega)]

theorem patch_patch {newer : List UInt8} (same : newer.length = new.length) :
    patch offset newer (patch offset new bytes) = patch offset newer bytes := by
  rw [patch, take_patch inside (Nat.le_refl offset), drop_patch_after inside (by omega), patch]

theorem slice_patch : slice offset new.length (patch offset new bytes) = new := by
  rw [slice, drop_patch inside (Nat.le_refl offset), Nat.sub_self, patch, take_zero,
    nil_append, take_left]

theorem slice_patch_apart (apart : place + size ≤ offset ∨ offset + new.length ≤ place) :
    slice place size (patch offset new bytes) = slice place size bytes := by
  apply ext_getElem?
  intro index
  simp only [slice, getElem?_take, getElem?_drop]
  split
  · rcases apart with before | after
    · exact getElem?_patch_before inside (by omega)
    · exact getElem?_patch_after inside (by omega)
  · rfl

theorem byteAt_patch_apart (apart : place < offset ∨ offset + new.length ≤ place) :
    byteAt place (patch offset new bytes) = byteAt place bytes := by
  rw [byteAt, byteAt, getD_eq_getElem?_getD, getD_eq_getElem?_getD]
  rcases apart with before | after
  · rw [getElem?_patch_before inside before]
  · rw [getElem?_patch_after inside after]

theorem word_patch_apart (apart : place + width / 8 ≤ offset ∨ offset + new.length ≤ place) :
    word place width (patch offset new bytes) = word place width bytes := by
  rw [word, word, slice_patch_apart inside apart]

omit inside in
theorem word_patch (whole : 8 * (width / 8) = width) (value : BitVec width)
    (inside : offset + width / 8 ≤ bytes.length) :
    word offset width (patch offset (wordBytes value) bytes) = value := by
  have size := length_wordBytes value
  have same := @slice_patch offset (wordBytes value) bytes (by rw [size]; exact inside)
  rw [size] at same
  rw [word, same, word_wordBytes whole]

omit inside in
theorem wordSum_patch (even : offset % 2 = 0) (value : BitVec 16)
    (inside : offset + 2 ≤ bytes.length) : wordSum (patch offset (wordBytes value) bytes) =
      wordSum (patch offset [0, 0] bytes) + value.toNat := by
  have front : (bytes.take offset).length % 2 = 0 := by
    rw [length_take]
    omega
  have two : (wordBytes value).length = 2 := length_wordBytes value
  have word : wordSum (wordBytes value) = value.toNat := by
    simp only [wordBytes, bigEndian, wordSum, UInt8.toNat_ofNat']
    omega
  rw [patch, patch, append_assoc, append_assoc, wordSum_append front,
    wordSum_append front, wordSum_append (by rw [two]), wordSum_append (by rfl), word, two]
  simp only [wordSum, UInt8.toNat_zero, length_cons, length_nil, Nat.reduceAdd]
  omega

omit inside

/-- The byte strings have one length, and differ at most in the given region. -/
structure Within (offset size : Nat) (before after : List UInt8) : Prop where
  length : after.length = before.length
  apart : ∀ place, place < offset ∨ offset + size ≤ place → byteAt place after = byteAt place before

theorem within_patch (length : new.length = size)
    (inside : offset + size ≤ bytes.length) : Within offset size bytes (patch offset new bytes) :=
    by
  subst length
  constructor
  · exact length_patch inside
  · intro place apart
    exact byteAt_patch_apart inside apart

theorem Within.trans {first second third : List UInt8} (early : Within offset size first second)
    (late : Within offset size second third) : Within offset size first third := by
  constructor
  · rw [late.length, early.length]
  · intro place apart
    rw [late.apart place apart, early.apart place apart]

theorem Within.word_eq {before after : List UInt8} (within : Within offset size before after)
    (apart : place + width / 8 ≤ offset ∨ offset + size ≤ place) :
    word place width after = word place width before := by
  have same : slice place (width / 8) after = slice place (width / 8) before := by
    apply ext_byteAt
    · simp only [slice, length_take, length_drop, within.length]
    · intro index inside
      have small : index < width / 8 := by
        simp only [slice, length_take] at inside
        omega
      rw [byteAt_slice small, byteAt_slice small, within.apart _ (by omega)]
  rw [word, word, same]

end OpenPpp2.Lib.BytePatch

import Mathlib.Algebra.Order.Ring.Nat
import Mathlib.Tactic.Ring
import Mathlib.Data.List.GetD

/-!
# Big-endian byte strings

`bigEndian size value` writes the low `size` bytes of a number, most significant first.
-/

namespace OpenPpp2.Lib.BigEndian

open List

/-- The low `size` bytes of `value`, most significant byte first. -/
def bigEndian : Nat → Nat → List UInt8
  | 0, _ => []
  | size + 1, value => UInt8.ofNat (value / 256 ^ size) :: bigEndian size value

def ofBigEndian (bytes : List UInt8) : Nat :=
  bytes.foldl (fun value byte => value * 256 + byte.toNat) 0

@[simp] theorem bigEndian_length (size value : Nat) : (bigEndian size value).length = size := by
  induction size with
  | zero => rfl
  | succ size ih => simp [bigEndian, ih]

theorem foldl_bigEndian (size value acc : Nat) :
    (bigEndian size value).foldl (fun value byte => value * 256 + byte.toNat) acc =
      acc * 256 ^ size + value % 256 ^ size := by
  induction size generalizing acc with
  | zero => simp [bigEndian, Nat.mod_one]
  | succ size ih =>
    have digits : value % 256 ^ (size + 1) =
        256 ^ size * (value / 256 ^ size % 256) + value % 256 ^ size := by
      rw [pow_succ, Nat.mod_mul, Nat.add_comm]
    simp only [bigEndian, foldl_cons, ih, digits, UInt8.toNat_ofNat']
    ring

theorem ofBigEndian_bigEndian (size value : Nat) :
    ofBigEndian (bigEndian size value) = value % 256 ^ size := by
  simp [ofBigEndian, foldl_bigEndian]

variable (bytes : List UInt8)

theorem foldl_bytes (acc : Nat) : bytes.foldl (fun value byte => value * 256 + byte.toNat) acc =
      acc * 256 ^ bytes.length + ofBigEndian bytes := by
  induction bytes generalizing acc with
  | nil => simp [ofBigEndian]
  | cons byte rest ih =>
    rw [ofBigEndian, foldl_cons, foldl_cons, ih, ih, length_cons, pow_succ]
    ring

theorem ofBigEndian_cons (byte : UInt8) (rest : List UInt8) :
    ofBigEndian (byte :: rest) = byte.toNat * 256 ^ rest.length + ofBigEndian rest := by
  rw [ofBigEndian, foldl_cons, foldl_bytes, Nat.zero_mul, Nat.zero_add]

theorem ofBigEndian_lt : ofBigEndian bytes < 256 ^ bytes.length := by
  induction bytes with
  | nil => simp [ofBigEndian]
  | cons byte rest ih =>
    have small : byte.toNat < 256 := byte.toNat_lt
    have bound : byte.toNat * 256 ^ rest.length ≤ 255 * 256 ^ rest.length :=
      Nat.mul_le_mul_right _ (by omega)
    rw [ofBigEndian_cons, length_cons, pow_succ]
    omega

theorem ofBigEndian_injective {left right : List UInt8} (lengths : left.length = right.length)
    (equal : ofBigEndian left = ofBigEndian right) : left = right := by
  induction left generalizing right with
  | nil => exact (eq_nil_of_length_eq_zero lengths.symm).symm
  | cons byte rest ih =>
    cases right with
    | nil => cases lengths
    | cons other others =>
      have same : rest.length = others.length := Nat.succ.inj lengths
      have low := ofBigEndian_lt rest
      have high := ofBigEndian_lt others
      rw [ofBigEndian_cons, ofBigEndian_cons, same] at equal
      rw [same] at low
      -- The first byte is the quotient of the number, the rest its remainder.
      have first : byte.toNat = other.toNat := by
        have quotient := congrArg (· / 256 ^ others.length) equal
        have positive : 0 < 256 ^ others.length := by omega
        simp only [Nat.mul_comm _ (256 ^ others.length), Nat.mul_add_div positive,
          Nat.div_eq_of_lt low, Nat.div_eq_of_lt high, Nat.add_zero] at quotient
        exact quotient
      have later : ofBigEndian rest = ofBigEndian others := by
        rw [first] at equal
        omega
      rw [UInt8.toNat_inj.mp first, ih same later]

theorem ofNat_ofBigEndian_bigEndian (word : BitVec 32) :
    BitVec.ofNat 32 (ofBigEndian (bigEndian 4 word.toNat)) = word := by
  rw [ofBigEndian_bigEndian, Nat.mod_eq_of_lt (by simpa using word.isLt)]
  simp

end OpenPpp2.Lib.BigEndian

namespace OpenPpp2.Lib.ByteLayout

open Lib.BigEndian List

/-- The `size` bytes at `offset`. -/
def slice (offset size : Nat) (bytes : List UInt8) : List UInt8 := (bytes.drop offset).take size

/-- The byte at `offset`; out of range it is zero. -/
def byteAt (offset : Nat) (bytes : List UInt8) : UInt8 := bytes.getD offset 0

/-- The unsigned number of `width` bits stored at `offset`, big endian. -/
def word (offset width : Nat) (bytes : List UInt8) : BitVec width :=
  BitVec.ofNat width (ofBigEndian (slice offset (width / 8) bytes))

def wordBytes {width : Nat} (value : BitVec width) : List UInt8 := bigEndian (width / 8) value.toNat

variable {offset size width : Nat} {front back bytes left right : List UInt8}

@[simp] theorem length_wordBytes (value : BitVec width) :
    (wordBytes value).length = width / 8 := bigEndian_length ..

theorem slice_append_left (inside : offset + size ≤ front.length) :
    slice offset size (front ++ back) = slice offset size front := by
  rw [slice, slice, drop_append_of_le_length (by omega),
    take_append_of_le_length (by rw [length_drop]; omega)]

theorem slice_append_right (past : front.length ≤ offset) :
    slice offset size (front ++ back) = slice (offset - front.length) size back := by
  rw [slice, slice, drop_append, drop_eq_nil_of_le past, nil_append]

theorem slice_whole (start : offset = 0)
    (whole : bytes.length = size) : slice offset size bytes = bytes := by
  rw [slice, start, drop_zero, take_of_length_le (by omega)]

theorem byteAt_append_left (inside : offset < front.length) :
    byteAt offset (front ++ back) = byteAt offset front := by
  rw [byteAt, byteAt, getD_append _ _ _ _ inside]

theorem byteAt_append_right (past : front.length ≤ offset) :
    byteAt offset (front ++ back) = byteAt (offset - front.length) back := by
  rw [byteAt, byteAt, getD_append_right _ _ _ _ past]

variable {outer inner : Nat}

theorem slice_slice (inside : inner + size ≤ outer) :
    slice inner size (slice offset outer bytes) = slice (offset + inner) size bytes := by
  rw [slice, slice, slice, drop_take, take_take, drop_drop, Nat.min_eq_left (by omega)]

theorem byteAt_slice (inside : inner < outer) :
    byteAt inner (slice offset outer bytes) = byteAt (offset + inner) bytes := by
  simp [byteAt, slice, inside]

theorem length_slice
    (inside : offset + size ≤ bytes.length) : (slice offset size bytes).length = size := by
  rw [slice, length_take, length_drop]
  omega

theorem word_wordBytes (whole : 8 * (width / 8) = width) (value : BitVec width) :
    BitVec.ofNat width (ofBigEndian (wordBytes value)) = value := by
  have fits : value.toNat < 256 ^ (width / 8) := by
    calc value.toNat < 2 ^ width := value.isLt
      _ = 2 ^ (8 * (width / 8)) := by rw [whole]
      _ = 256 ^ (width / 8) := by rw [pow_mul]; norm_num
  rw [wordBytes, ofBigEndian_bigEndian, Nat.mod_eq_of_lt fits]
  simp

theorem word_append_left (inside : offset + width / 8 ≤ front.length) :
    word offset width (front ++ back) = word offset width front := by
  rw [word, word, slice_append_left inside]

theorem word_wordBytes_append (whole : 8 * (width / 8) = width) (value : BitVec width)
    (rest : List UInt8) : word 0 width (wordBytes value ++ rest) = value := by
  rw [word_append_left (by simp), word, slice_whole rfl (by simp), word_wordBytes whole]

section Parts

variable {part : List UInt8} {parts : List (List UInt8)}

theorem slice_flatten (place : Nat) (here : parts[place]? = some part)
    (start : (parts.take place).flatten.length = offset) (whole : part.length = size) :
    slice offset size parts.flatten = part := by
  induction place generalizing parts offset with
  | zero =>
    cases parts with
    | nil => cases here
    | cons front parts =>
      obtain rfl := Option.some.inj here
      rw [flatten_cons, slice_append_left (by rw [← start, whole]; simp),
        slice_whole start.symm whole]
  | succ place rest =>
    cases parts with
    | nil => cases here
    | cons front parts =>
      rw [take_succ_cons, flatten_cons, length_append] at start
      rw [flatten_cons, slice_append_right (by omega), rest here (by omega)]

theorem word_flatten {width : Nat} {value : BitVec width} (place : Nat)
    (here : parts[place]? = some (wordBytes value))
    (start : (parts.take place).flatten.length = offset) (whole : 8 * (width / 8) = width) :
    word offset width parts.flatten = value := by
  rw [word, slice_flatten place here start (length_wordBytes value), word_wordBytes whole]

theorem byteAt_flatten {byte : UInt8} (place inner : Nat) (here : parts[place]? = some part)
    (start : (parts.take place).flatten.length + inner = offset)
    (holds : part[inner]? = some byte) : byteAt offset parts.flatten = byte := by
  obtain ⟨inside, _⟩ := List.getElem?_eq_some_iff.1 holds
  rw [← start, ← byteAt_slice inside, slice_flatten place here rfl rfl, byteAt,
    getD_eq_getElem?_getD, holds, Option.getD_some]

end Parts

theorem forall_byte {property : UInt8 → Prop}
    (all : ∀ value : Fin 256, property (UInt8.ofFin value)) (byte : UInt8) : property byte :=
  all byte.toFin

theorem slice_take {limit : Nat} (inside : offset + size ≤ limit) :
    slice offset size (bytes.take limit) = slice offset size bytes := by
  rw [slice, slice, drop_take, take_take, Nat.min_eq_left (by omega)]

theorem byteAt_take {limit : Nat} (inside : offset < limit) :
    byteAt offset (bytes.take limit) = byteAt offset bytes := by
  rw [byteAt, byteAt, getD_eq_getElem?_getD, getD_eq_getElem?_getD, getElem?_take, if_pos inside]

theorem ext_byteAt (lengths : left.length = right.length)
    (same : ∀ offset, offset < left.length → byteAt offset left = byteAt offset right) :
    left = right := by
  apply ext_getElem lengths
  intro offset here there
  have byte := same offset here
  rwa [byteAt, byteAt, getD_eq_getElem _ _ here, getD_eq_getElem _ _ there] at byte

theorem byteAt_eq_of_slice {place : Nat}
    (same : slice offset size left = slice offset size right) (from_ : offset ≤ place)
    (below : place < offset + size) : byteAt place left = byteAt place right := by
  have inner : place - offset < size := by omega
  have byte := congrArg (byteAt (place - offset)) same
  rwa [byteAt_slice inner, byteAt_slice inner, Nat.add_sub_cancel' from_] at byte

theorem wordBytes_word (whole : 8 * (width / 8) = width) (inside : offset + width / 8 ≤ bytes.length) :
    wordBytes (word offset width bytes) = slice offset (width / 8) bytes := by
  have bound : ofBigEndian (slice offset (width / 8) bytes) < 256 ^ (width / 8) := by
    calc ofBigEndian (slice offset (width / 8) bytes)
        < 256 ^ (slice offset (width / 8) bytes).length := ofBigEndian_lt _
      _ = 256 ^ (width / 8) := by rw [length_slice inside]
  have size : 2 ^ width = 256 ^ (width / 8) := by
    calc 2 ^ width = 2 ^ (8 * (width / 8)) := by rw [whole]
      _ = 256 ^ (width / 8) := by rw [pow_mul]; norm_num
  apply ofBigEndian_injective
  · rw [length_wordBytes, length_slice inside]
  · rw [wordBytes, ofBigEndian_bigEndian, word, BitVec.toNat_ofNat, size, Nat.mod_mod,
      Nat.mod_eq_of_lt bound]

theorem slice_eq_of_word (whole : 8 * (width / 8) = width)
    (inLeft : offset + width / 8 ≤ left.length) (inRight : offset + width / 8 ≤ right.length)
    (same : word offset width left = word offset width right) :
    slice offset (width / 8) left = slice offset (width / 8) right := by
  rw [← wordBytes_word whole inLeft, same, wordBytes_word whole inRight]

theorem slice_add (first second : Nat) : slice offset (first + second) bytes =
      slice offset first bytes ++ slice (offset + first) second bytes := by
  rw [slice, slice, slice, take_add, drop_drop]

theorem slice_succ (inside : offset < bytes.length) :
    slice offset (size + 1) bytes = byteAt offset bytes :: slice (offset + 1) size bytes := by
  rw [slice, byteAt, getD_eq_getElem _ _ inside, drop_eq_getElem_cons inside, take_succ_cons]
  rfl

end OpenPpp2.Lib.ByteLayout

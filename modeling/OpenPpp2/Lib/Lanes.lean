import Mathlib.Data.List.OfFn
import Mathlib.Data.BitVec
import Mathlib.Data.UInt

/-!
# Registers of sixteen byte lanes

The byte instructions of a 128-bit vector unit, and memory that a register is stored to.
-/

namespace OpenPpp2.Lib.Lanes

abbrev Register := Fin 16 → UInt8

instance lanes_ne_zero : NeZero 16 := ⟨by decide⟩

def set1 (byte : UInt8) : Register := fun _ => byte

def map2 (op : UInt8 → UInt8 → UInt8) (x y : Register) : Register := fun lane => op (x lane) (y lane)

def xor8 : Register → Register → Register := map2 (· ^^^ ·)

def and8 : Register → Register → Register := map2 (· &&& ·)

def or8 : Register → Register → Register := map2 (· ||| ·)

def andnot8 : Register → Register → Register := map2 fun x y => ~~~ x &&& y

def add8 : Register → Register → Register := map2 (· + ·)

def sub8 : Register → Register → Register := map2 (· - ·)

def ones (truth : Bool) : UInt8 := if truth then 255 else 0

def cmpgt : Register → Register → Register := map2 fun x y => ones (y.toInt8 < x.toInt8)

def blendv (x y mask : Register) : Register :=
  fun lane => if 128 ≤ mask lane then y lane else x lane

def slli (count : Nat) (x : Register) : Register :=
  fun lane => if count ≤ lane.val then x (Fin.ofNat 16 (lane.val - count)) else 0

def srli (count : Nat) (x : Register) : Register :=
  fun lane => if lane.val + count < 16 then x (Fin.ofNat 16 (lane.val + count)) else 0

def movemask (x : Register) : BitVec 16 :=
  (BitVec.ofBoolListLE (List.ofFn fun lane => decide (128 ≤ x lane))).setWidth 16

def unpacklo (x y : Register) : Register :=
  fun lane => if lane.val % 2 = 0 then x (Fin.ofNat 16 (lane.val / 2))
    else y (Fin.ofNat 16 (lane.val / 2))

def shuffle (x index : Register) : Register :=
  fun lane => if 128 ≤ index lane then 0 else x (Fin.ofNat 16 ((index lane).toNat % 16))

def store (memory : Nat → UInt8) (address : Nat) (x : Register) : Nat → UInt8 :=
  fun place => if address ≤ place ∧ place < address + 16 then x (Fin.ofNat 16 (place - address))
    else memory place

theorem ones_and (first second : Bool) : ones first &&& ones second = ones (first && second) := by
  cases first <;> cases second <;> rfl

theorem ones_or (first second : Bool) : ones first ||| ones second = ones (first || second) := by
  cases first <;> cases second <;> rfl

variable (truth : Bool) (x : Register) (bound : UInt8) (lane : Fin 16)

theorem ones_and_byte (byte : UInt8) : ones truth &&& byte = if truth then byte else 0 := by
  cases truth
  · exact UInt8.zero_and
  · exact UInt8.neg_one_and

theorem ones_top : decide (128 ≤ ones truth) = truth := by
  cases truth <;> rfl

theorem ones_select (x y : UInt8) :
    ones truth &&& y ||| ~~~ ones truth &&& x = if truth then y else x := by
  have flipped : ~~~ ones truth = ones (!truth) := by cases truth <;> rfl
  rw [flipped, ones_and_byte, ones_and_byte]
  cases truth
  · exact UInt8.zero_or
  · exact UInt8.or_zero

theorem getLsbD_movemask : (movemask x).getLsbD lane = decide (128 ≤ x lane) := by
  rw [movemask, BitVec.getLsbD_setWidth, BitVec.getLsbD_ofBoolListLE,
    List.getD_eq_getElem?_getD, List.getElem?_ofFn, dif_pos lane.isLt]
  simp only [lane.isLt, decide_true, Bool.true_and, Option.getD_some]

theorem flipped_lt (x y : UInt8) : (x ^^^ 128).toInt8 < (y ^^^ 128).toInt8 ↔ x < y := by
  have flipped : ∀ byte : Fin 256,
      ((UInt8.ofFin byte ^^^ 128).toInt8.toInt : Int) = (UInt8.ofFin byte).toNat - 128 := by
    decide +kernel
  rw [Int8.lt_iff_toInt_lt, UInt8.lt_iff_toNat_lt]
  have first := flipped x.toFin
  have second := flipped y.toFin
  rw [UInt8.ofFin_toFin] at first second
  omega

theorem cmpgt_bound :
    cmpgt (xor8 x (set1 128)) (set1 (bound ^^^ 128)) lane = ones (decide (bound < x lane)) :=
  congrArg ones (decide_eq_decide.mpr (flipped_lt bound (x lane)))

theorem bound_cmpgt :
    cmpgt (set1 (bound ^^^ 128)) (xor8 x (set1 128)) lane = ones (decide (x lane < bound)) :=
  congrArg ones (decide_eq_decide.mpr (flipped_lt (x lane) bound))

end OpenPpp2.Lib.Lanes

import Mathlib.Data.BitVec

/-!
# Shifts of the software `Int128`

`operator<<` and `operator>>` of `Int128.h` on platforms without a 128-bit integer.  Each calls the
other on a negative count, so that a shift takes the depth of the calls it may still make.
-/

namespace OpenPpp2

open BitVec

structure Int128 where
  hi : BitVec 64
  lo : BitVec 64
  deriving DecidableEq, Repr

namespace Int128

def bits (value : Int128) : BitVec 128 := value.hi ++ value.lo

/-- `operator<<` once the count is below 128. -/
def leftBelow (value : Int128) (shift : Nat) : Int128 :=
  if shift = 0 then value
  else if 64 ≤ shift then ⟨value.lo <<< (shift - 64), 0#64⟩
  else ⟨value.hi <<< shift ||| value.lo >>> (64 - shift), value.lo <<< shift⟩

/-- `operator>>` once the count is below 128. -/
def rightBelow (value : Int128) (shift : Nat) : Int128 :=
  if shift = 0 then value
  else
    let negative := value.hi.msb
    let signExt := if negative then allOnes 64 else 0#64
    if 64 ≤ shift then
      let shift1 := shift - 64
      let lo := if shift1 = 0 then value.hi else value.hi >>> shift1
      ⟨signExt, if negative ∧ 0 < shift1 then lo ||| allOnes 64 <<< (64 - shift1) else lo⟩
    else
      let hi := value.hi >>> shift
      ⟨if negative then hi ||| allOnes 64 <<< (64 - shift) else hi,
        value.lo >>> shift ||| value.hi <<< (64 - shift)⟩

inductive Direction where
  | left
  | right
  deriving DecidableEq, Repr

namespace Direction

def other : Direction → Direction
  | left => right
  | right => left

def below : Direction → Int128 → Nat → Int128
  | left => leftBelow
  | right => rightBelow

def shifted : Direction → BitVec 128 → Nat → BitVec 128
  | left => BitVec.shiftLeft
  | right => BitVec.sshiftRight

def signed (direction : Direction) (count : Int) : Direction :=
  if count < 0 then direction.other else direction

end Direction

/-- `pos_shift`, as the parameter `int shift` of the other operator takes it. -/
def posShift (shift : BitVec 32) : BitVec 32 := -(shift + 1) + 1

def shift : Nat → Direction → Int128 → BitVec 32 → Option Int128
  | 0, _, _, _ => none
  | depth + 1, direction, value, count =>
    if count = 0 ∨ value.lo = 0#64 ∧ value.hi = 0#64 then some value
    else if count.msb then shift depth direction.other value (posShift count)
    else some (direction.below value (count.toNat % 128))

def shiftLeft (depth : Nat) : Int128 → BitVec 32 → Option Int128 := shift depth .left

def shiftRight (depth : Nat) : Int128 → BitVec 32 → Option Int128 := shift depth .right

variable (value : Int128) {shift : Nat}

theorem getLsbD_bits (place : Nat) : value.bits.getLsbD place =
    if place < 64 then value.lo.getLsbD place else value.hi.getLsbD (place - 64) := by
  rw [bits, getLsbD_append]

theorem bits_leftBelow : (value.leftBelow shift).bits = value.bits <<< shift := by
  unfold leftBelow
  split_ifs with unmoved far
  · rw [unmoved, shiftLeft_zero]
  all_goals
    apply eq_of_getLsbD_eq
    intro place inside
    have beyond : 64 ≤ shift → place - 64 - (shift - 64) = place - shift := by omega
    have across : 64 ≤ place → shift < 64 → 64 - shift + (place - 64) = place - shift := by omega
    rw [getLsbD_shiftLeft, getLsbD_bits, getLsbD_bits]
    by_cases low : place < 64 <;> by_cases moved : place < shift <;> simp [*] <;> grind

theorem fill_eq_sshiftRight {width : Nat} (word : BitVec width) (inside : shift ≤ width) :
    (if word.msb then word >>> shift ||| allOnes width <<< (width - shift)
      else word >>> shift) = word.sshiftRight shift := by
  apply eq_of_getLsbD_eq
  intro place _
  have above := word.getLsbD_of_ge (shift + place)
  rw [getLsbD_sshiftRight]
  cases word.msb <;> by_cases moved : shift + place < width <;> simp [*] <;> grind

theorem bits_rightBelow (below : shift < 128) :
    (value.rightBelow shift).bits = value.bits.sshiftRight shift := by
  have sign : value.bits.msb = value.hi.msb := by
    rw [bits, msb_append]
    rfl
  unfold rightBelow
  split_ifs with unmoved far
  · rw [unmoved, sshiftRight_zero]
  all_goals
    apply eq_of_getLsbD_eq
    intro place inside
    rw [getLsbD_sshiftRight, sign, getLsbD_bits, getLsbD_bits]
    dsimp only
  · have high := fill_eq_sshiftRight value.hi le_rfl
    rw [ushiftRight_eq_zero le_rfl, Nat.sub_self, shiftLeft_zero,
      zero_or] at high
    have low : (if value.hi.msb ∧ 0 < shift - 64 then
          (if shift - 64 = 0 then value.hi else value.hi >>> (shift - 64)) |||
            allOnes 64 <<< (64 - (shift - 64))
        else if shift - 64 = 0 then value.hi else value.hi >>> (shift - 64)) =
        value.hi.sshiftRight (shift - 64) := by
      rw [← fill_eq_sshiftRight value.hi (by omega)]
      grind
    rw [low, high]
    have beyond : shift - 64 + place = shift + place - 64 := by omega
    by_cases low : place < 64 <;> by_cases moved : shift + place < 128 <;> simp [*] <;> grind
  · rw [fill_eq_sshiftRight _ (by omega)]
    have within : 64 ≤ place → shift + (place - 64) = shift + place - 64 := by omega
    have across : place < 64 → 64 ≤ shift + place →
        place - (64 - shift) = shift + place - 64 := by omega
    by_cases low : place < 64 <;> by_cases moved : shift + place < 128 <;>
      by_cases first : shift + place < 64 <;> simp [*] <;> grind

variable (direction : Direction) (depth : Nat) {count : BitVec 32}

theorem shifted_bits_of_zero (zero : value.lo = 0#64 ∧ value.hi = 0#64) :
    value.bits = direction.shifted value.bits shift := by
  have bits : value.bits = 0#128 := by
    rw [bits, zero.1, zero.2]
    rfl
  rw [bits]
  cases direction
  · exact (BitVec.zero_shiftLeft _).symm
  · exact BitVec.zero_sshiftRight.symm

theorem shift_of_nonneg (nonneg : count.msb = false) :
    ∃ result, Int128.shift (depth + 1) direction value count = some result ∧
      result.bits = direction.shifted value.bits (count.toNat % 128) := by
  unfold Int128.shift
  split_ifs with still negative
  · refine ⟨value, rfl, ?_⟩
    rcases still with rfl | zero
    · cases direction
      · exact (BitVec.shiftLeft_zero _).symm
      · exact BitVec.sshiftRight_zero.symm
    · exact shifted_bits_of_zero value direction zero
  · rw [nonneg] at negative
    cases negative
  · refine ⟨_, rfl, ?_⟩
    cases direction
    · exact bits_leftBelow value
    · exact bits_rightBelow value (Nat.mod_lt _ (by decide))

theorem posShift_of_neg (negative : count.msb) (ordinary : count ≠ intMin 32) :
    (posShift count).msb = false ∧ (posShift count).toNat = count.toInt.natAbs := by
  unfold posShift
  have big := msb_eq_true_iff_two_mul_ge.mp negative
  have signed := toInt_eq_msb_cond count
  rw [if_pos negative] at signed
  have other : count.toNat ≠ 2 ^ 31 := fun same => ordinary (eq_of_toNat_eq same)
  have opposite : (-(count + 1) + 1).toNat = 2 ^ 32 - count.toNat := by bv_omega
  rw [msb_eq_false_iff_two_mul_lt, opposite]
  omega

theorem shift_of_ordinary (ordinary : count ≠ intMin 32 ∨ value = ⟨0, 0⟩) :
    ∃ result, Int128.shift (depth + 2) direction value count = some result ∧
      result.bits = (direction.signed count.toInt).shifted value.bits
        (count.toInt.natAbs % 128) := by
  unfold Direction.signed
  cases sign : count.msb with
  | false =>
    have same := toInt_eq_toNat_of_msb sign
    rw [same, if_neg (by omega)]
    exact shift_of_nonneg value direction (depth + 1) sign
  | true =>
    rw [if_pos (toInt_neg_of_msb_true sign), Int128.shift]
    split_ifs with still
    · refine ⟨value, rfl, shifted_bits_of_zero value _ (still.resolve_left ?_)⟩
      rintro rfl
      cases sign
    · have moved : count ≠ intMin 32 :=
        ordinary.resolve_right fun zero => still (.inr (zero ▸ ⟨rfl, rfl⟩))
      obtain ⟨nonneg, size⟩ := posShift_of_neg sign moved
      rw [← size]
      exact shift_of_nonneg value direction.other depth nonneg

/-- The magnitude of the most negative count is that count again. -/
theorem shift_intMin (moved : value ≠ ⟨0, 0⟩) :
    Int128.shift depth direction value (intMin 32) = none := by
  induction depth generalizing direction with
  | zero => rfl
  | succ depth ih =>
    have magnitude : posShift (intMin 32) = intMin 32 := by decide
    rw [Int128.shift, if_neg, if_pos (by decide), magnitude]
    · exact ih direction.other
    · rintro (zero | ⟨lo, hi⟩)
      · exact absurd zero (by decide)
      · exact moved (by cases value; cases lo; cases hi; rfl)

theorem shift_iff : (∃ result, Int128.shift (depth + 2) direction value count = some result ∧
      result.bits = (direction.signed count.toInt).shifted value.bits
        (count.toInt.natAbs % 128)) ↔ count ≠ intMin 32 ∨ value = ⟨0, 0⟩ := by
  refine ⟨?_, shift_of_ordinary value direction depth⟩
  rintro ⟨result, returns, _⟩
  by_contra extreme
  obtain ⟨rfl, moved⟩ : count = intMin 32 ∧ value ≠ ⟨0, 0⟩ := by tauto
  cases (shift_intMin value direction (depth + 2) moved).symm.trans returns

/-- Both operators return the shift by the count modulo 128, a negative one in the other direction,
if and only if the count is not the most negative one or there is nothing to shift. -/
theorem shift_modulo_width :
    ((∃ result, shiftLeft (depth + 2) value count = some result ∧ result.bits =
        (Direction.left.signed count.toInt).shifted value.bits (count.toInt.natAbs % 128)) ↔
      count ≠ intMin 32 ∨ value = ⟨0, 0⟩) ∧
    ((∃ result, shiftRight (depth + 2) value count = some result ∧ result.bits =
        (Direction.right.signed count.toInt).shifted value.bits (count.toInt.natAbs % 128)) ↔
      count ≠ intMin 32 ∨ value = ⟨0, 0⟩) :=
  ⟨shift_iff value .left depth, shift_iff value .right depth⟩

theorem shift_intMin_never_returns :
    ¬ ∃ depth result, shiftLeft depth ⟨0, 1⟩ (intMin 32) = some result := by
  rintro ⟨depth, result, returns⟩
  cases (shift_intMin ⟨0, 1⟩ .left depth (by decide)).symm.trans returns

end Int128

end OpenPpp2

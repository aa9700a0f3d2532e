import Mathlib.Data.BitVec
import Mathlib.Tactic.Ring

/-!
# Circular order on machine words

Sequence numbers of a fixed width are compared by the sign of their wrapped difference.
-/

namespace OpenPpp2.Lib.CircularOrder

open List BitVec Nat

variable {width : Nat}

/-- `left` precedes `right`: their wrapped difference is negative as a signed
word. -/
def before (left right : BitVec width) : Bool := decide ((left - right).toInt < 0)

/-- How far `value` lies ahead of `reference` on the circle. -/
def ahead (reference value : BitVec width) : Nat := (value - reference).toNat

variable (origin reference value start : BitVec width) (count : Nat)

theorem ahead_lt : ahead reference value < 2 ^ width := (value - reference).isLt

@[simp] theorem ahead_self : ahead value value = 0 := by
  simp [ahead]

theorem ahead_eq_ite :
    ahead reference value = if reference.toNat ≤ value.toNat then value.toNat - reference.toNat else
      2 ^ width + value.toNat - reference.toNat := by
  unfold ahead
  rw [toNat_sub]
  split_ifs with order
  · have shifted : 2 ^ width - reference.toNat + value.toNat =
        value.toNat - reference.toNat + 2 ^ width := by omega
    rw [shifted, add_mod_right, mod_eq_of_lt (by omega)]
  · rw [mod_eq_of_lt (by omega)]
    omega

theorem ahead_inj {reference left right : BitVec width}
    (same : ahead reference left = ahead reference right) : left = right := by
  have equal : left - reference = right - reference := eq_of_toNat_eq same
  exact BitVec.sub_left_inj reference |>.mp equal

@[simp] theorem ahead_eq_zero {reference value : BitVec width} :
    ahead reference value = 0 ↔ value = reference := by
  constructor
  · intro zero
    exact ahead_inj (zero.trans (ahead_self reference).symm)
  · rintro rfl
    exact ahead_self value

theorem before_iff_half_le (left right : BitVec width) :
    before left right ↔ 2 ^ width ≤ 2 * ahead right left := by
  unfold before ahead
  rw [decide_eq_true_iff, toInt_neg_iff]

theorem ahead_via :
    ahead reference value = if ahead origin reference ≤ ahead origin value then ahead origin value -
      ahead origin reference else 2 ^ width + ahead origin value - ahead origin reference := by
  have relative : value - reference = (value - origin) - (reference - origin) := by
    ring
  have shifted := ahead_eq_ite (reference - origin) (value - origin)
  unfold ahead at shifted ⊢
  rw [relative]
  exact shifted

theorem before_iff_ahead_lt {origin left right : BitVec width}
    (leftWindow : 2 * ahead origin left < 2 * ahead origin right + 2 ^ width)
    (rightWindow : 2 * ahead origin right < 2 * ahead origin left + 2 ^ width) :
    before left right ↔ ahead origin left < ahead origin right := by
  rw [before_iff_half_le, ahead_via origin right left]
  split_ifs <;> omega

theorem before_reference_iff : before reference value ↔
    0 < ahead reference value ∧ 2 * ahead reference value ≤ 2 ^ width := by
  have bound := ahead_lt reference value
  rw [before_iff_half_le, ahead_via reference value reference]
  simp only [ahead_self]
  split_ifs <;> omega

theorem ahead_succ {reference value : BitVec width} (positive : 0 < width)
    (strict : 0 < ahead reference value) :
    ahead (reference + 1) value + 1 = ahead reference value := by
  have one : ahead reference (reference + 1) = 1 := by
    have wide : 1 < 2 ^ width := Nat.one_lt_two_pow positive.ne'
    simp [ahead, mod_eq_of_lt wide]
  rw [ahead_via reference (reference + 1) value, one]
  split_ifs <;> omega

theorem add_ahead_mod (first second : Nat) :
    (first + ahead (origin + BitVec.ofNat width first) (origin + BitVec.ofNat width second)) %
      2 ^ width = second % 2 ^ width := by
  have words : BitVec.ofNat width (first + ahead (origin + BitVec.ofNat width first)
      (origin + BitVec.ofNat width second)) = BitVec.ofNat width second := by
    rw [ofNat_add, ahead, ofNat_toNat, setWidth_eq]
    ring
  simpa using congrArg BitVec.toNat words

/-- `count` consecutive values from `start`, wrapping round the circle. -/
def consecutive (start : BitVec width) (count : Nat) : List (BitVec width) :=
  (List.range count).map fun offset => start + BitVec.ofNat width offset

@[simp] theorem length_consecutive : (consecutive start count).length = count := by
  simp [consecutive]

theorem consecutive_append (first second : Nat) : consecutive start (first + second) =
      consecutive start first ++ consecutive (start + BitVec.ofNat width first) second := by
  simp only [consecutive, range_add, map_append, map_map]
  congr 1
  apply map_congr_left
  intro offset _
  simp [ofNat_add, add_assoc]

theorem consecutive_succ : consecutive start (count + 1) =
      consecutive start count ++ [start + BitVec.ofNat width count] := by
  rw [consecutive_append]
  simp [consecutive]

theorem consecutive_cons :
    consecutive start (count + 1) = start :: consecutive (start + 1) count := by
  rw [add_comm, consecutive_append]
  simp [consecutive]

theorem getElem?_consecutive {count index : Nat} (bound : index < count) :
    (consecutive start count)[index]? = some (start + BitVec.ofNat width index) := by
  simp [consecutive, bound]

theorem map_toNat_consecutive_one {count : Nat} (positive : 0 < width) (fits : count < 2 ^ width) :
    (consecutive (1 : BitVec width) count).map BitVec.toNat = List.range' 1 count := by
  have wide : 1 < 2 ^ width := Nat.one_lt_two_pow positive.ne'
  rw [consecutive, map_map, range'_eq_map_range]
  apply map_congr_left
  intro offset member
  have below := mem_range.mp member
  have one : (1 : BitVec width).toNat = 1 := by simp [mod_eq_of_lt wide]
  rw [Function.comp_apply, toNat_add, toNat_ofNat, one,
    mod_eq_of_lt (by omega : offset < 2 ^ width), mod_eq_of_lt (by omega)]

theorem nodup_consecutive {count : Nat} (fits : count ≤ 2 ^ width) :
    (consecutive start count).Nodup := by
  refine .map_on ?_ nodup_range
  intro left leftMem right rightMem same
  have leftLt := mem_range.mp leftMem
  have rightLt := mem_range.mp rightMem
  have words := congrArg BitVec.toNat (add_left_cancel same)
  simpa [mod_eq_of_lt (leftLt.trans_le fits), mod_eq_of_lt (rightLt.trans_le fits)]
    using words

end OpenPpp2.Lib.CircularOrder

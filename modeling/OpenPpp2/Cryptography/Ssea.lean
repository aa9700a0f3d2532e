import Mathlib.Data.Nat.Digits.Lemmas
import OpenPpp2.Lib.Swaps

/-!
# The byte transforms of `ssea`

Delta coding, the mask of an evolving key, the shuffle of a buffer, and numbers in base 94, as the
scalar reference computes them.
-/

namespace OpenPpp2.Ssea

open Lib List Nat

abbrev Bytes := List UInt8

def byteOf (word : BitVec 32) (index : Nat) : UInt8 :=
  UInt8.ofBitVec ((word >>> (8 * index)).setWidth 8)

def lowByte (word : BitVec 32) : UInt8 := byteOf word 0

def advance (next : BitVec 32) : BitVec 32 := next * 1103515245#32 + 12345#32

def randomNext (seed : BitVec 32) : BitVec 32 :=
  let first := advance seed
  let result := first / 65536#32 % 2048#32
  let second := advance first
  let result := result <<< 10 ^^^ second / 65536#32 % 1024#32
  let third := advance second
  result <<< 10 ^^^ third / 65536#32 % 1024#32

def lcgmod (kf : BitVec 32) (min max : Nat) : Nat := (randomNext kf).toNat % (max - min + 1) + min

variable (kf : BitVec 32) {modulus : Nat} (key : BitVec 32) (previous : UInt8) (data : Bytes)
    {value : Nat}

theorem lcgmod_bounds {min max : Nat} (order : min ≤ max) :
    min ≤ lcgmod kf min max ∧ lcgmod kf min max ≤ max := by
  unfold lcgmod
  have small : (randomNext kf).toNat % (max - min + 1) < max - min + 1 := mod_lt _ (succ_pos _)
  omega

theorem hidden_mod {number key : Nat} (small : number < modulus) (below : key < modulus) :
    ((number + key) % modulus + modulus - key) % modulus = number := by
  by_cases wraps : number + key < modulus
  · rw [mod_eq_of_lt wraps]
    have sum : number + key + modulus - key = number + modulus := by omega
    rw [sum, add_mod_right, mod_eq_of_lt small]
  · have once : (number + key) % modulus = number + key - modulus := by
      rw [mod_eq_sub_mod (not_lt.mp wraps), mod_eq_of_lt (by omega)]
    have sum : number + key - modulus + modulus - key = number := by omega
    rw [once, sum, mod_eq_of_lt small]

theorem natAbs_tmod_lt (positive : 0 < modulus) : (key.toInt.tmod modulus).natAbs < modulus := by
  rw [Int.natAbs_tmod, Int.natAbs_natCast]
  exact mod_lt _ positive

def differences : UInt8 → Bytes → Bytes
  | _, [] => []
  | previous, byte :: rest => (byte - previous) :: differences byte rest

def sums : UInt8 → Bytes → Bytes
  | _, [] => []
  | previous, byte :: rest => (byte + previous) :: sums (byte + previous) rest

def deltaEncode (kf : BitVec 32) (data : Bytes) : Option Bytes :=
  if data.isEmpty then none else some (differences (lowByte kf) data)

def deltaDecode (kf : BitVec 32) (data : Bytes) : Option Bytes :=
  if data.isEmpty then none else some (sums (lowByte kf) data)

@[simp] theorem length_differences : (differences previous data).length = data.length := by
  induction data generalizing previous with
  | nil => rfl
  | cons byte rest ih => simp [differences, ih]

theorem sums_differences : sums previous (differences previous data) = data := by
  induction data generalizing previous with
  | nil => rfl
  | cons byte rest ih =>
    simp only [differences, sums, UInt8.sub_add_cancel]
    rw [ih]

theorem deltaEncode_spec {kf : BitVec 32} {data encoded : Bytes}
    (coded : deltaEncode kf data = some encoded) :
    encoded.length = data.length ∧ deltaDecode kf encoded = some data := by
  unfold deltaEncode at coded
  split at coded
  · cases coded
  case isFalse nonempty =>
    cases coded
    apply And.intro (length_differences _ _)
    unfold deltaDecode
    rw [sums_differences, if_neg]
    cases data with
    | nil => exact absurd rfl nonempty
    | cons byte rest => exact Bool.false_ne_true

/-- `masked_xor_random_next_scalar_tail`: words of four bytes, then a half word and a byte. -/
def maskWords : BitVec 32 → Bytes → Bytes
  | kf, first :: second :: third :: fourth :: rest =>
    (first ^^^ byteOf kf 0) :: (second ^^^ byteOf kf 1) :: (third ^^^ byteOf kf 2) ::
      (fourth ^^^ byteOf kf 3) :: maskWords (randomNext kf) rest
  | kf, [first, second, third] =>
    [first ^^^ byteOf kf 0, second ^^^ byteOf kf 1, third ^^^ byteOf kf 0]
  | kf, [first, second] => [first ^^^ byteOf kf 0, second ^^^ byteOf kf 1]
  | kf, [first] => [first ^^^ byteOf kf 0]
  | _, [] => []

def maskedXorRandomNext (kf : BitVec 32) (data : Bytes) : Bytes := maskWords (randomNext kf) data

@[simp] theorem length_maskWords : (maskWords kf data).length = data.length := by
  fun_induction maskWords kf data with
  | case1 kf first second third fourth rest ih => simp [ih]
  | _ => rfl

theorem xor_xor_self (byte key : UInt8) : byte ^^^ key ^^^ key = byte := by
  rw [UInt8.xor_assoc, UInt8.xor_self, UInt8.xor_zero]

theorem maskWords_maskWords : maskWords kf (maskWords kf data) = data := by
  fun_induction maskWords kf data with
  | case1 kf first second third fourth rest ih => simp only [maskWords, xor_xor_self, ih]
  | _ => simp only [maskWords, xor_xor_self]

@[simp] theorem length_maskedXorRandomNext : (maskedXorRandomNext kf data).length = data.length :=
  length_maskWords _ _

theorem maskedXorRandomNext_twice : maskedXorRandomNext kf (maskedXorRandomNext kf data) = data :=
  maskWords_maskWords _ _

def partner (key : BitVec 32) (size index : Nat) : Nat :=
  ((BitVec.ofNat 32 index ^^^ key) % BitVec.ofNat 32 size).toNat

def shuffleData (key : BitVec 32) (data : Bytes) : Bytes :=
  Swaps.swaps (partner key data.length) (List.range data.length) data

def unshuffleData (key : BitVec 32) (data : Bytes) : Bytes :=
  Swaps.swaps (partner key data.length) (List.range data.length).reverse data

@[simp] theorem length_shuffleData : (shuffleData key data).length = data.length :=
  Swaps.length_swaps _ _ _

theorem unshuffleData_shuffleData : unshuffleData key (shuffleData key data) = data := by
  unfold unshuffleData
  rw [length_shuffleData]
  exact Swaps.swaps_reverse_swaps _ _ _

/-- `base94_decimal` of a number: its digits, at least one. -/
def base94Text (value : Nat) : Bytes :=
  if value = 0 then [32]
  else (Nat.digits 94 value).reverse.map fun digit => UInt8.ofNat (digit + 32)

/-- The loop of `base94_decimal` on a text; a byte outside the alphabet ends it with 0. -/
def base94From : Nat → Bytes → Nat
  | value, [] => value
  | value, byte :: rest =>
    if byte < 32 ∨ byte - 32 ≥ 94 then 0
    else base94From (value * 94 + (byte - 32).toNat) rest

def base94Number (text : Bytes) : Nat := if text.isEmpty then 0 else base94From 0 text

def digit (value : Nat) : UInt8 := UInt8.ofNat (value + 32)

theorem digit_sub (small : value < 94) :
    ¬ (digit value < 32 ∨ digit value - 32 ≥ 94) ∧ (digit value - 32).toNat = value := by
  have bytes : (digit value).toNat = value + 32 := by
    simp only [digit, UInt8.toNat_ofNat']
    omega
  have above : (32 : UInt8) ≤ digit value := by
    rw [UInt8.le_iff_toNat_le, bytes]
    exact le_add_left _ _
  have offset : (digit value - 32).toNat = value := by
    rw [UInt8.toNat_sub_of_le _ _ above, bytes]
    exact Nat.add_sub_cancel _ _
  apply And.intro _ offset
  rw [UInt8.lt_iff_toNat_lt, ge_iff_le, UInt8.le_iff_toNat_le, offset, bytes]
  change ¬ (value + 32 < 32 ∨ 94 ≤ value)
  omega

theorem base94Number_digits {first second third : Nat} (one : first < 94) (two : second < 94)
    (three : third < 94) :
    base94Number [digit first, digit second, digit third] = (first * 94 + second) * 94 + third := by
  simp only [base94Number, base94From, isEmpty_cons, Bool.false_eq_true, if_false,
    if_neg (digit_sub one).1, if_neg (digit_sub two).1, if_neg (digit_sub three).1,
    (digit_sub one).2, (digit_sub two).2, (digit_sub three).2, zero_mul, zero_add]

theorem base94Text_of_lt (small : value < 94 ^ 3) :
    base94Text value = if value < 94 then [digit value] else if value < 8836 then
      [digit (value / 94), digit (value % 94)] else
      [digit (value / 8836), digit (value / 94 % 94), digit (value % 94)] := by
  unfold base94Text
  by_cases zero : value = 0
  · subst zero
    rfl
  · rw [if_neg zero]
    split_ifs with short medium
    · rw [digits_of_lt 94 value zero short]
      rfl
    · rw [digits_def' (by decide) (by omega), digits_of_lt 94 _ (by omega) (by omega)]
      rfl
    · rw [digits_def' (by decide) (by omega), digits_def' (by decide) (by omega),
        digits_of_lt 94 _ (by omega) (by omega), Nat.div_div_eq_div_mul]
      rfl

theorem base94Text_padded (small : value < 94 ^ 3) :
    List.replicate (3 - (base94Text value).length) 32 ++ base94Text value =
      [digit (value / 8836), digit (value / 94 % 94), digit (value % 94)] := by
  rw [base94Text_of_lt small]
  split_ifs with short medium
  · rw [div_eq_of_lt short, div_eq_of_lt (by omega), mod_eq_of_lt short]
    rfl
  · have middle : value / 94 % 94 = value / 94 := mod_eq_of_lt (by omega)
    rw [div_eq_of_lt medium, middle]
    rfl
  · rfl

theorem length_base94Text (small : value < 94 ^ 3) :
    1 ≤ (base94Text value).length ∧ (base94Text value).length ≤ 3 ∧
      ((base94Text value).length = 3 ↔ 8836 ≤ value) := by
  rw [base94Text_of_lt small]
  split_ifs with short medium
  · simp only [length_cons, length_nil]
    omega
  · simp only [length_cons, length_nil]
    omega
  · have long : 8836 ≤ value := not_lt.mp medium
    simp [long]

/-- `masked_xor_implement<true>` from the first word on; its key also moves behind a half word. -/
def implementWords : BitVec 32 → Bytes → Bytes
  | kf, first :: second :: third :: fourth :: rest =>
    (first ^^^ byteOf kf 0) :: (second ^^^ byteOf kf 1) :: (third ^^^ byteOf kf 2) ::
      (fourth ^^^ byteOf kf 3) :: implementWords (randomNext kf) rest
  | kf, [first, second, third] =>
    [first ^^^ byteOf kf 0, second ^^^ byteOf kf 1, third ^^^ byteOf (randomNext kf) 0]
  | kf, [first, second] => [first ^^^ byteOf kf 0, second ^^^ byteOf kf 1]
  | kf, [first] => [first ^^^ byteOf kf 0]
  | _, [] => []

/-- A mask on a range whose length is an `int`; a negative one is refused. -/
def ranged (mask : Bytes → Bytes) (data : Bytes) : Option Bytes :=
  let length := (BitVec.ofNat 32 data.length).toInt
  if length = 0 then some data
  else if length < 0 then none
  else some (mask (data.take length.toNat) ++ data.drop length.toNat)

def maskedXorImplement (kf : BitVec 32) : Bytes → Option Bytes :=
  ranged (implementWords (randomNext kf))

def keystream : Nat → BitVec 32 → Bytes
  | 0, _ => []
  | words + 1, kf =>
    byteOf kf 0 :: byteOf kf 1 :: byteOf kf 2 :: byteOf kf 3 :: keystream words (randomNext kf)

/-- Registers of that many words, then `masked_xor_random_next_scalar_tail`. -/
def maskRounds (words : Nat) (kf : BitVec 32) (data : Bytes) : Bytes :=
  if 0 < words ∧ 4 * words ≤ data.length then
    zipWith (· ^^^ ·) data (keystream words kf) ++
      maskRounds words (randomNext^[words] kf) (data.drop (4 * words))
  else maskWords kf data
termination_by data.length

inductive SimdLevel where
  | scalar
  | sse2
  | sse3
  | ssse3
  | sse41
  | sse42
  | avx
  | avx2
  deriving DecidableEq, Repr

namespace SimdLevel

/-- `k_masked_xor_random_next_pref`, which is also the order of the fallbacks. -/
def preferences : List SimdLevel := [avx2, avx, sse42, sse41, ssse3, sse3, sse2, scalar]

/-- `masked_xor_random_next` of the table of a level, from the first word on. -/
def mask : SimdLevel → BitVec 32 → Bytes → Bytes
  | scalar => maskWords
  | avx2 => maskRounds 8
  | _ => maskRounds 4

/-- `ssea_dispatch_for`: the highest level from this one down that was compiled. -/
def dispatchFor (compiled : SimdLevel → Bool) (level : SimdLevel) : SimdLevel :=
  ((preferences.dropWhile (· ≠ level)).find? compiled).getD scalar

/-- `pick_best_impl`. -/
def pickBest (cpu : SimdLevel) : SimdLevel :=
  (preferences.find? fun level => level.ctorIdx ≤ cpu.ctorIdx).getD scalar

end SimdLevel

def dispatchedMask (compiled : SimdLevel → Bool) (cpu : SimdLevel) (kf : BitVec 32) :
    Bytes → Option Bytes :=
  ranged ((SimdLevel.dispatchFor compiled cpu.pickBest).mask (randomNext kf))

variable {words : Nat} {kf : BitVec 32} {data : Bytes}

theorem keystream_maskWords (full : 4 * words ≤ data.length) :
    zipWith (· ^^^ ·) data (keystream words kf) ++
      maskWords (randomNext^[words] kf) (data.drop (4 * words)) = maskWords kf data := by
  induction words generalizing kf data with
  | zero => simp [keystream]
  | succ words ih =>
    match data, full with
    | first :: second :: third :: fourth :: rest, full =>
      have fewer : 4 * words ≤ rest.length := by
        simp only [length_cons] at full
        omega
      have left : (first :: second :: third :: fourth :: rest).drop (4 * (words + 1)) =
          rest.drop (4 * words) := by
        rw [mul_succ, Nat.add_comm, ← drop_drop]
        rfl
      rw [left, maskWords, keystream, Function.iterate_succ_apply]
      simp only [zipWith_cons_cons, cons_append, ih fewer]

theorem maskRounds_eq : maskRounds words kf data = maskWords kf data := by
  fun_induction maskRounds words kf data with
  | case1 kf data full ih => rw [ih, keystream_maskWords full.2]
  | case2 => rfl

theorem mask_eq (level : SimdLevel) : level.mask = maskWords := by
  funext kf data
  cases level <;> first | rfl | exact maskRounds_eq

theorem implementWords_eq_iff : implementWords kf data = maskWords kf data ↔
    (data.length % 4 = 3 → lowByte (randomNext^[data.length / 4] kf) =
      lowByte (randomNext^[data.length / 4 + 1] kf)) := by
  fun_induction implementWords kf data with
  | case1 kf first second third fourth rest ih =>
    have words : (rest.length + 1 + 1 + 1 + 1) / 4 = rest.length / 4 + 1 := by omega
    have left : (rest.length + 1 + 1 + 1 + 1) % 4 = rest.length % 4 := by omega
    have moved := Function.iterate_succ_apply randomNext
    simp only [maskWords, length_cons, words, left, cons.injEq, true_and, ih, moved]
  | case2 kf first second third =>
    simp [maskWords, lowByte, UInt8.xor_right_inj, eq_comm]
  | _ => simp [maskWords]

theorem ranged_eq_iff {first second : Bytes → Bytes} :
    ranged first data = ranged second data ↔ (0 < data.length % 2 ^ 32 →
      data.length % 2 ^ 32 < 2 ^ 31 → first (data.take (data.length % 2 ^ 32)) =
        second (data.take (data.length % 2 ^ 32))) := by
  have signed := (BitVec.ofNat 32 data.length).toInt_eq_toNat_cond
  rw [BitVec.toNat_ofNat] at signed
  unfold ranged
  rw [signed]
  have bounded := Nat.mod_lt data.length (by decide : 0 < 2 ^ 32)
  generalize data.length % 2 ^ 32 = length at bounded
  by_cases low : 2 * length < 2 ^ 32
  · have small : length < 2 ^ 31 := by omega
    simp only [if_pos low, Int.natCast_eq_zero, Int.toNat_natCast, small, true_implies]
    split_ifs with empty negative
    · simp [empty]
    · omega
    · simp [Nat.pos_of_ne_zero empty]
  · rw [if_neg low]
    dsimp only
    split_ifs
    · omega
    · exact iff_of_true rfl fun _ small => by omega
    · omega

/-- Whatever was compiled and detected, the mask is the original one if and only if the length, as
an `int`, is refused, is not three more than a multiple of four, or meets two keys in a row with the
same low byte behind its last whole word. -/
theorem dispatchedMask_eq_implement (compiled : SimdLevel → Bool) (cpu : SimdLevel)
    (kf : BitVec 32) (data : Bytes) :
    let length := data.length % 2 ^ 32
    dispatchedMask compiled cpu kf data = maskedXorImplement kf data ↔
      (length < 2 ^ 31 → length % 4 = 3 → lowByte (randomNext^[length / 4 + 1] kf) =
        lowByte (randomNext^[length / 4 + 2] kf)) := by
  intro length
  have taken : (data.take length).length = length := length_take_of_le (Nat.mod_le _ _)
  rw [dispatchedMask, mask_eq, maskedXorImplement, ranged_eq_iff, eq_comm, implementWords_eq_iff,
    taken]
  have moved := Function.iterate_succ_apply randomNext
  rw [← moved, ← moved]
  constructor
  · exact fun same small three => same (by omega) small three
  · exact fun same _ => same

/-- The last of three bytes is masked with the key of the half word before it. -/
theorem dispatchedMask_three : ¬ ∃ compiled cpu,
    dispatchedMask compiled cpu 7 [1, 2, 3] = maskedXorImplement 7 [1, 2, 3] := by
  rintro ⟨compiled, cpu, same⟩
  unfold dispatchedMask at same
  rw [mask_eq] at same
  revert same
  decide

end OpenPpp2.Ssea

import Mathlib.Data.BitVec
import OpenPpp2.Lib.OnesComplement

/-!
# The Internet checksum

`ip_standard_chksum` and `inet_chksum`, on a little-endian host.
-/

namespace OpenPpp2.Net

open Lib.OnesComplement

/-- `FOLD_U32T`. -/
def foldCarry (acc : BitVec 32) : BitVec 32 := (acc >>> 16) + (acc &&& 0xffff#32)

/-- `ntohs`. -/
def swapBytes (word : BitVec 16) : BitVec 16 := word <<< 8 ||| word >>> 8

def ipStandardChksum (data : List UInt8) : BitVec 16 :=
  let acc := foldCarry (BitVec.ofNat 32 (wordSum data))
  let acc := if acc &&& 0xffff0000#32 ≠ 0 then foldCarry acc else acc
  swapBytes (acc.setWidth 16)

def inetChksum (data : List UInt8) : BitVec 16 := ~~~ ipStandardChksum data

theorem toNat_foldCarry (acc : BitVec 32) :
    (foldCarry acc).toNat = acc.toNat % 65536 + acc.toNat / 65536 := by
  have low : (acc &&& 0xffff#32).toNat = acc.toNat % 65536 := by
    rw [BitVec.toNat_and]
    exact Nat.and_two_pow_sub_one_eq_mod _ 16
  have := acc.isLt
  rw [foldCarry, BitVec.toNat_add, BitVec.toNat_ushiftRight, low, Nat.shiftRight_eq_div_pow]
  omega

theorem toNat_swapBytes (word : BitVec 16) :
    (swapBytes word).toNat = word.toNat % 256 * 256 + word.toNat / 256 := by
  have := word.isLt
  have low : word.toNat <<< 8 % 2 ^ 16 = (word.toNat % 256) <<< 8 := by
    simp only [Nat.shiftLeft_eq]
    omega
  rw [swapBytes, BitVec.toNat_or, BitVec.toNat_shiftLeft, BitVec.toNat_ushiftRight, low,
    Nat.shiftRight_eq_div_pow, ← Nat.shiftLeft_add_eq_or_of_lt (by omega), Nat.shiftLeft_eq]

theorem toNat_inetChksum (first second third fourth : UInt8) :
    let sum := (first.toNat + third.toNat) * 256 + (second.toNat + fourth.toNat)
    let folded := sum % 65536 + sum / 65536
    (inetChksum [first, second, third, fourth]).toNat =
      65535 - (folded % 256 * 256 + folded / 256) := by
  intro sum folded
  have bounds : first.toNat < 256 ∧ second.toNat < 256 ∧ third.toNat < 256 ∧ fourth.toNat < 256 :=
    ⟨first.toNat_lt, second.toNat_lt, third.toNat_lt, fourth.toNat_lt⟩
  have words : (BitVec.ofNat 32 (wordSum [first, second, third, fourth])).toNat = sum := by
    simp only [wordSum, BitVec.toNat_ofNat, sum]
    omega
  have once := toNat_foldCarry (.ofNat 32 (wordSum [first, second, third, fourth]))
  rw [words] at once
  have small : sum % 65536 + sum / 65536 < 65536 := by omega
  -- a second fold finds no carry
  have twice := toNat_foldCarry (foldCarry (.ofNat 32 (wordSum [first, second, third, fourth])))
  rw [once, Nat.mod_eq_of_lt small, Nat.div_eq_of_lt small, Nat.add_zero] at twice
  unfold inetChksum ipStandardChksum
  dsimp only
  split_ifs
  · rw [BitVec.toNat_not, toNat_swapBytes, BitVec.toNat_setWidth, twice, Nat.mod_eq_of_lt small]
  · rw [BitVec.toNat_not, toNat_swapBytes, BitVec.toNat_setWidth, once, Nat.mod_eq_of_lt small]

end OpenPpp2.Net

import Mathlib.Data.Nat.ModEq
import Mathlib.Tactic.Ring

/-!
# Sums in ones' complement

The checksum of a byte string: the sum of its words of two bytes, the carries folded back in, and
the complement of that.
-/

namespace OpenPpp2.Lib.OnesComplement

/-- The sum of the words, each with its first byte on top; a last byte is a word of its own. -/
def wordSum : List UInt8 → Nat
  | high :: low :: rest => high.toNat * 256 + low.toNat + wordSum rest
  | [high] => high.toNat * 256
  | [] => 0

def fold (sum : Nat) : Nat :=
  if 65536 ≤ sum then fold (sum % 65536 + sum / 65536) else sum
termination_by sum
decreasing_by omega

def complement (sum : Nat) : Nat := 65535 - fold sum

variable (sum : Nat)

theorem fold_spec :
    fold sum ≤ 65535 ∧ fold sum % 65535 = sum % 65535 ∧ (0 < sum → 0 < fold sum) := by
  induction sum using Nat.strong_induction_on with
  | _ sum induction =>
  rw [fold]
  split
  · rcases induction (sum % 65536 + sum / 65536) (by omega) with ⟨below, same, positive⟩
    refine ⟨below, ?_, fun _ => positive (by omega)⟩
    omega
  · exact ⟨by omega, rfl, id⟩

theorem complement_lt : complement sum < 65536 := by
  rw [complement]
  omega

theorem complement_add_complement : complement (sum + complement sum) = 0 := by
  rcases fold_spec sum with ⟨below, same, positive⟩
  rcases fold_spec (sum + complement sum) with ⟨belowAll, sameAll, positiveAll⟩
  have filled : 0 < sum + complement sum := by
    by_cases zero : sum = 0
    · rw [zero, complement, fold]
      decide
    · omega
  have some := positiveAll filled
  rw [complement] at sameAll
  rw [complement]
  rw [complement] at belowAll some ⊢
  omega

theorem wordSum_append {first : List UInt8} (even : first.length % 2 = 0) (second : List UInt8) :
    wordSum (first ++ second) = wordSum first + wordSum second := by
  induction first using wordSum.induct with
  | case1 high low rest induction =>
    have shorter : rest.length % 2 = 0 := by
      simp only [List.length_cons] at even
      omega
    rw [List.cons_append, List.cons_append, wordSum, wordSum, induction shorter]
    ring
  | case2 high => simp at even
  | case3 => simp [wordSum]

end OpenPpp2.Lib.OnesComplement

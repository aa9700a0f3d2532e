import Mathlib.Algebra.Order.Ring.Nat
import Mathlib.Data.List.Pairwise
import Mathlib.Tactic.Common

/-!
# Ordered maps under a caller-supplied comparator

A map ordered by a comparator is the list of its entries in comparator order.
-/

namespace OpenPpp2.Lib.OrderedMap

open List

section Comparator

variable {Key Value : Type*} (less : Key → Key → Bool)

/-- Insert unless an equivalent key is present; the flag tells whether the
entry was placed. -/
def emplace (key : Key) (value : Value) : List (Key × Value) → List (Key × Value) × Bool
  | [] => ([(key, value)], true)
  | entry :: rest =>
    if less entry.1 key then
      let placed := emplace key value rest
      (entry :: placed.1, placed.2)
    else if less key entry.1 then ((key, value) :: entry :: rest, true)
    else (entry :: rest, false)

theorem mem_emplace (key : Key) (value : Value) (entries : List (Key × Value))
    (entry : Key × Value) : entry ∈ (emplace less key value entries).1 ↔
      entry ∈ entries ∨ ((emplace less key value entries).2 ∧ entry = (key, value)) := by
  induction entries with
  | nil => simp [emplace]
  | cons head rest ih =>
    simp only [emplace]
    split_ifs with precedes follows
    · simp only [mem_cons, ih]
      tauto
    · simp only [mem_cons, true_and]
      tauto
    · simp

theorem sum_emplace (weight : Value → Nat) (key : Key) (value : Value)
    (entries : List (Key × Value)) :
    ((emplace less key value entries).1.map fun entry => weight entry.2).sum =
      (entries.map fun entry => weight entry.2).sum +
        if (emplace less key value entries).2 then weight value else 0 := by
  induction entries with
  | nil => simp [emplace]
  | cons head rest ih =>
    simp only [emplace]
    by_cases precedes : less head.1 key
    · simp only [if_pos precedes, map_cons, sum_cons, ih]
      omega
    · by_cases follows : less key head.1
      · simp only [if_neg precedes, if_pos follows, map_cons, sum_cons, if_true]
        omega
      · simp [precedes, follows]

structure RankedBy (rank : Key → Nat) (keys : Key → Prop) : Prop where
  less_iff : ∀ {left right : Key}, keys left → keys right →
    (less left right ↔ rank left < rank right)

def Sorted (rank : Key → Nat) (entries : List (Key × Value)) : Prop :=
  entries.Pairwise fun left right => rank left.1 < rank right.1

variable {less} {rank : Key → Nat} {keys : Key → Prop}

theorem sorted_emplace (ranked : RankedBy less rank keys) {key : Key} (keyKnown : keys key)
    (value : Value) {entries : List (Key × Value)} (known : ∀ entry ∈ entries, keys entry.1)
    (sorted : Sorted rank entries) : Sorted rank (emplace less key value entries).1 := by
  induction entries with
  | nil => simp [emplace, Sorted]
  | cons head rest ih =>
    have headKnown : keys head.1 := known head (by simp)
    have restKnown : ∀ entry ∈ rest, keys entry.1 :=
      fun entry member => known entry (mem_cons_of_mem _ member)
    obtain ⟨headFirst, restSorted⟩ := pairwise_cons.mp sorted
    simp only [emplace]
    split_ifs with precedes follows
    · refine pairwise_cons.mpr ⟨?_, ih restKnown restSorted⟩
      intro entry member
      rcases (mem_emplace less key value rest entry).mp member with old | ⟨_, rfl⟩
      · exact headFirst entry old
      · exact (ranked.less_iff headKnown keyKnown).mp precedes
    · have keyFirst : rank key < rank head.1 := (ranked.less_iff keyKnown headKnown).mp follows
      refine pairwise_cons.mpr ⟨?_, sorted⟩
      intro entry member
      rcases mem_cons.mp member with rfl | later
      · exact keyFirst
      · exact Nat.lt_trans keyFirst (headFirst entry later)
    · exact sorted

end Comparator

end OpenPpp2.Lib.OrderedMap

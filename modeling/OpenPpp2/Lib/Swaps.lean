import Mathlib.Data.List.Basic

/-!
# Swaps in a list

A sequence of swaps of list entries.
-/

namespace OpenPpp2.Lib.Swaps

open List

variable {α : Type*}

def swap (list : List α) (first second : Nat) : List α :=
  match list[first]?, list[second]? with
  | some one, some two => (list.set first two).set second one
  | _, _ => list

def swaps (partner : Nat → Nat) (indices : List Nat) (list : List α) : List α :=
  indices.foldl (fun current index => swap current index (partner index)) list

variable (partner : Nat → Nat) (indices : List Nat) (list : List α)

@[simp] theorem length_swap (first second : Nat) :
    (swap list first second).length = list.length := by
  unfold swap
  split
  · rw [length_set, length_set]
  · rfl

@[simp] theorem length_swaps : (swaps partner indices list).length = list.length := by
  induction indices generalizing list with
  | nil => rfl
  | cons index rest ih =>
    change (swaps partner rest (swap list index (partner index))).length = _
    rw [ih, length_swap]

theorem swap_swap (first second : Nat) : swap (swap list first second) first second = list := by
  cases one : list[first]? with
  | none => simp [swap, one]
  | some left =>
    cases two : list[second]? with
    | none => simp [swap, one, two]
    | some right =>
      rcases List.getElem?_eq_some_iff.mp one with ⟨firstInside, rfl⟩
      rcases List.getElem?_eq_some_iff.mp two with ⟨secondInside, rfl⟩
      by_cases same : first = second
      · subst same
        have fixed : swap list first first = list := by simp [swap, one]
        rw [fixed, fixed]
      · have back : second ≠ first := fun equal => same equal.symm
        have exchanged : swap list first second =
            (list.set first list[second]).set second list[first] := by
          simp [swap, one, two]
        have atFirst : ((list.set first list[second]).set second list[first])[first]? =
            some list[second] := by
          simp [back, firstInside]
        have atSecond : ((list.set first list[second]).set second list[first])[second]? =
            some list[first] := by
          simp [secondInside]
        rw [exchanged]
        simp only [swap, atFirst, atSecond]
        apply ext_getElem?
        intro index
        grind

theorem swaps_reverse_swaps :
    swaps partner indices.reverse (swaps partner indices list) = list := by
  induction indices generalizing list with
  | nil => rfl
  | cons index rest ih =>
    have first : swaps partner (index :: rest) list =
        swaps partner rest (swap list index (partner index)) := rfl
    have last : ∀ current : List α, swaps partner (rest.reverse ++ [index]) current =
        swap (swaps partner rest.reverse current) index (partner index) := by
      intro current
      simp [swaps]
    rw [reverse_cons, last, first, ih, swap_swap]

end OpenPpp2.Lib.Swaps

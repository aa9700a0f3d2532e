import Mathlib.Order.Lattice
import Mathlib.Data.List.Basic

/-!
# The best of a list

A loop that keeps the best candidate so far.
-/

namespace OpenPpp2.Lib.Best

open List

variable {α β : Type*} (better : α → α → Bool)

def challenge (best : Option α) (candidate : α) : Option α :=
  match best with
  | none => some candidate
  | some holder => if better candidate holder then some candidate else some holder

def pick (best : Option α) (candidates : List α) : Option α :=
  candidates.foldl (challenge better) best

variable [LinearOrder β] (score : α → β)

/-- The holder is one of those considered, and none of them has a smaller score. -/
def Holds (considered : List α) : Option α → Prop
  | none => considered = []
  | some holder => holder ∈ considered ∧ ∀ other ∈ considered, score holder ≤ score other

variable {better} {score} {proper : α → Prop}
  (agrees : ∀ first second, proper first → proper second →
    (better first second = true ↔ score first < score second))

include agrees

variable {considered : List α} {best : Option α} {candidates : List α}

end OpenPpp2.Lib.Best

import Mathlib.Data.List.AList
import Mathlib.Logic.Function.Basic

/-!
# Two finite maps that are inverse to each other

A table kept in both directions: a key is bound to a value in one map exactly when the value is
bound to the key in the other.
-/

namespace OpenPpp2.Lib.InverseMaps

open Function

variable {Left Right : Type*}

def Inverse (right : Left → Option Right) (left : Right → Option Left) : Prop :=
  ∀ key value, right key = some value ↔ left value = some key

theorem inverse_empty : Inverse (fun _ : Left => (none : Option Right)) fun _ => none := by
  intro key value
  simp

section Updates

variable [DecidableEq Left] [DecidableEq Right]
  {right : Left → Option Right} {left : Right → Option Left}

theorem Inverse.bind (inverse : Inverse right left) {key : Left} {value : Right}
    (freeKey : right key = none) (freeValue : left value = none) :
    Inverse (Function.update right key (some value)) (Function.update left value (some key)) := by
  intro other bound
  by_cases sameKey : other = key
  · subst sameKey
    by_cases sameValue : bound = value
    · simp [sameValue]
    · have unbound : left bound ≠ some other := by
        intro taken
        rw [← inverse other bound, freeKey] at taken
        cases taken
      simp [update_of_ne sameValue, unbound, Ne.symm sameValue]
  · by_cases sameValue : bound = value
    · subst sameValue
      have unbound : right other ≠ some bound := by
        intro taken
        rw [inverse other bound, freeValue] at taken
        cases taken
      simp [update_of_ne sameKey, unbound, Ne.symm sameKey]
    · rw [update_of_ne sameKey, update_of_ne sameValue]
      exact inverse other bound

theorem Inverse.drop (inverse : Inverse right left) {key : Left} {value : Right}
    (taken : right key = some value) :
    Inverse (Function.update right key none) (Function.update left value none) := by
  intro other bound
  by_cases sameKey : other = key
  · subst sameKey
    by_cases sameValue : bound = value
    · simp [sameValue]
    · have unbound : left bound ≠ some other := by
        intro also
        rw [← inverse other bound, taken] at also
        exact sameValue (Option.some.inj also).symm
      simp [update_of_ne sameValue, unbound]
  · by_cases sameValue : bound = value
    · subst sameValue
      have unbound : right other ≠ some bound := by
        intro also
        rw [inverse other bound, (inverse key bound).mp taken] at also
        exact sameKey (Option.some.inj also).symm
      simp [update_of_ne sameKey, unbound]
    · rw [update_of_ne sameKey, update_of_ne sameValue]
      exact inverse other bound

end Updates

section Tables

variable {Key Value : Type*} [DecidableEq Key]

theorem lookup_insert_eq_update (table : AList fun _ : Key => Value) (key : Key) (value : Value) :
    (fun other => (table.insert key value).lookup other) =
      Function.update (fun other => table.lookup other) key (some value) := by
  funext other
  by_cases same : other = key
  · subst same
    rw [AList.lookup_insert, update_self]
  · rw [AList.lookup_insert_ne same, update_of_ne same]

theorem lookup_erase_eq_update (table : AList fun _ : Key => Value) (key : Key) :
    (fun other => (table.erase key).lookup other) =
      Function.update (fun other => table.lookup other) key none := by
  funext other
  by_cases same : other = key
  · subst same
    rw [AList.lookup_erase, update_self]
  · rw [AList.lookup_erase_ne same, update_of_ne same]

end Tables

end OpenPpp2.Lib.InverseMaps

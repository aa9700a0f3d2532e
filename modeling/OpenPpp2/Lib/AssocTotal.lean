import Mathlib.Data.List.AList
import Mathlib.Algebra.BigOperators.Group.List.Basic
import Mathlib.Algebra.Order.Ring.Nat

/-!
# Totals over association lists

The sum of a weight over the values of a finite map, how insertion and erasure of one key change it,
and what a key found after either was before.
-/

namespace OpenPpp2.Lib.AssocTotal

open List AList

section Total

variable {Key Value : Type*}

def total (weight : Value → Nat) (table : AList fun _ : Key => Value) : Nat :=
  (table.entries.map fun entry => weight entry.2).sum

variable (weight : Value → Nat) (key : Key) {value held : Value}

@[simp] theorem total_empty : total weight (∅ : AList fun _ : Key => Value) = 0 := rfl

variable [DecidableEq Key]

def weightAt (weight : Value → Nat) (key : Key) (table : AList fun _ : Key => Value) : Nat :=
  ((table.lookup key).map weight).getD 0

theorem sum_kerase (entries : List (Sigma fun _ : Key => Value)) :
    (entries.map fun entry => weight entry.2).sum = ((entries.dlookup key).map weight).getD 0 +
      ((entries.kerase key).map fun entry => weight entry.2).sum := by
  induction entries with
  | nil => simp
  | cons head rest ih =>
    obtain ⟨other, value⟩ := head
    by_cases same : other = key
    · subst same
      simp
    · have apart : key ≠ other := fun equal => same equal.symm
      have kept : (⟨other, value⟩ :: rest : List (Sigma fun _ : Key => Value)).kerase key =
          ⟨other, value⟩ :: rest.kerase key := kerase_cons_ne apart
      rw [dlookup_cons_ne _ _ apart, kept]
      simp only [map_cons, sum_cons, ih]
      omega

theorem total_eq_weightAt_add_erase (table : AList fun _ : Key => Value) :
    total weight table = weightAt weight key table + total weight (table.erase key) :=
  sum_kerase weight key table.entries

theorem total_insert (value : Value) (table : AList fun _ : Key => Value) :
    total weight (table.insert key value) = weight value + total weight (table.erase key) := by
  have entries : (table.insert key value).entries = ⟨key, value⟩ :: (table.erase key).entries :=
    entries_insert
  rw [total, entries, map_cons, sum_cons, total]

variable {table : AList fun _ : Key => Value}

theorem total_congr {weight other : Value → Nat}
    (same : ∀ key value, table.lookup key = some value → weight value = other value) :
    total weight table = total other table := by
  unfold total
  congr 1
  apply map_congr_left
  rintro ⟨key, value⟩ member
  exact same key value (mem_lookup_iff.mpr member)

theorem weightAt_of_lookup {weight : Value → Nat} {key : Key}
    (found : table.lookup key = some value) : weightAt weight key table = weight value := by
  simp [weightAt, found]

theorem weightAt_of_absent {weight : Value → Nat} {key : Key} (missing : table.lookup key = none) :
    weightAt weight key table = 0 := by
  simp [weightAt, missing]

theorem weightAt_le_total (table : AList fun _ : Key => Value) :
    weightAt weight key table ≤ total weight table := by
  rw [total_eq_weightAt_add_erase weight key table]
  exact Nat.le_add_right _ _

theorem lookup_insert_eq_some {key other : Key}
    (found : (table.insert key value).lookup other = some held) :
    other = key ∧ held = value ∨ other ≠ key ∧ table.lookup other = some held := by
  by_cases same : other = key
  · subst same
    rw [lookup_insert] at found
    exact .inl ⟨rfl, (Option.some.inj found).symm⟩
  · rw [lookup_insert_ne same] at found
    exact .inr ⟨same, found⟩

theorem lookup_erase_eq_some {key other : Key} (found : (table.erase key).lookup other = some held)
    : other ≠ key ∧ table.lookup other = some held := by
  by_cases same : other = key
  · subst same
    exact absurd found (by simp)
  · rw [lookup_erase_ne same] at found
    exact ⟨same, found⟩

end Total

end OpenPpp2.Lib.AssocTotal

import Mathlib.Data.List.Infix

/-!
# Streams delivered in posting order

One end posts items, the other is delivered items.
-/

namespace OpenPpp2.Lib.StreamOrder

open List

variable {α : Type*}

inductive InOrder (posted : List α) : List α → Prop
  | nil : InOrder posted []
  | next {delivered : List α} (earlier : List α) (item : α) (later : List α)
      (place : posted = earlier ++ item :: later) (complete : earlier.Sublist delivered)
      (sofar : InOrder posted delivered) : InOrder posted (delivered ++ [item])

namespace InOrder

variable {posted delivered : List α}

theorem post (sofar : InOrder posted delivered) (more : List α) :
    InOrder (posted ++ more) delivered := by
  induction sofar with
  | nil => exact .nil
  | next earlier item later place complete _ ih =>
    have extended : posted ++ more = earlier ++ item :: (later ++ more) := by
      rw [place, append_assoc, cons_append]
    exact .next earlier item (later ++ more) extended complete ih

variable {item : α}

theorem next_at (sofar : InOrder posted delivered) {index : Nat}
    (place : posted[index]? = some item) (complete : (posted.take index).Sublist delivered) :
    InOrder posted (delivered ++ [item]) := by
  have split : posted = posted.take index ++ item :: posted.drop (index + 1) := by
    obtain ⟨bound, same⟩ := List.getElem?_eq_some_iff.mp place
    rw [← same, ← drop_eq_getElem_cons bound, take_append_drop]
  exact .next _ item _ split complete sofar

theorem of_initial (initial : delivered <+: posted) : InOrder posted delivered := by
  induction delivered using reverseRecOn with
  | nil => exact .nil
  | append_singleton delivered item ih =>
    have shorter : delivered <+: posted := (prefix_append delivered [item]).trans initial
    obtain ⟨later, place⟩ := initial
    rw [append_assoc, singleton_append] at place
    exact .next delivered item later place.symm (Sublist.refl _) (ih shorter)

theorem split (sofar : InOrder posted delivered) {before after : List α}
    (occurs : delivered = before ++ item :: after) :
    ∃ earlier later, posted = earlier ++ item :: later ∧ earlier.Sublist before := by
  induction sofar generalizing after with
  | nil => simp at occurs
  | next earlier last later place complete _ ih =>
    rcases eq_nil_or_concat after with rfl | ⟨rest, final, rfl⟩
    · obtain ⟨rfl, same⟩ := append_inj' occurs rfl
      obtain rfl : last = item := by simpa using same
      exact ⟨earlier, later, place, complete⟩
    · rw [concat_eq_append, ← cons_append, ← append_assoc] at occurs
      exact ih (append_inj' occurs rfl).1

end InOrder

end OpenPpp2.Lib.StreamOrder

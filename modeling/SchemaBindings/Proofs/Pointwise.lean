import Mathlib.Data.List.Forall2

namespace SchemaBindings

/-!
# Lists in step

Many lists here are made from another list item by item, and what is claimed of them is claimed
of each item and what it is made into.  `List.Forall₂` says this of two lists.  The statements
here give it for lists that are made by a function, and for what is kept of a list.
-/

variable {Item Left Right Result : Type} {related : Item -> Result -> Prop}

theorem forall₂_map_of_forall {function : Item -> Result}
    (each : ∀ item, related item (function item)) (items : List Item) :
    List.Forall₂ related items (items.map function) :=
  List.forall₂_map_right_iff.mpr (List.forall₂_same.mpr fun item _ => each item)

theorem forall₂_map_map {between : Left -> Right -> Prop} {left : Item -> Left}
    {right : Item -> Right} {items : List Item}
    (each : ∀ item ∈ items, between (left item) (right item)) :
    List.Forall₂ between (items.map left) (items.map right) :=
  List.forall₂_map_left_iff.mpr (List.forall₂_map_right_iff.mpr (List.forall₂_same.mpr each))

/-- If something is kept just of the items of a kind, then what is kept of a list is what is kept
of its items of this kind, one by one and in their order. -/
theorem forall₂_filterMap {ofKind : Item -> Bool} {kept? : Item -> Option Result}
    (keeps : ∀ item, ofKind item = true -> ∃ kept, kept? item = some kept ∧ related item kept)
    (drops : ∀ item, ofKind item = false -> kept? item = none) (items : List Item) :
    List.Forall₂ related (items.filter ofKind) (items.filterMap kept?) := by
  induction items with
  | nil => exact .nil
  | cons item items inductionHypothesis =>
      cases test : ofKind item with
      | true =>
          obtain ⟨kept, found, holds⟩ := keeps item test
          rw [List.filter_cons_of_pos test, List.filterMap_cons_some found]
          exact .cons holds inductionHypothesis
      | false =>
          rw [List.filter_cons_of_neg (Bool.eq_false_iff.mp test),
            List.filterMap_cons_none (drops item test)]
          exact inductionHypothesis

end SchemaBindings

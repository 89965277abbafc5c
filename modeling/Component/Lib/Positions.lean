import Mathlib

/-!
# Lists by position

An element that is found at a position splits its list into what is before it and what is after it
(`split_at_index`). From this follow what replacing or erasing the element does to the members of
the list, and that two lists related element by element stay so.
-/

namespace Component.Lib.Positions

section Splitting

variable {α : Type} {list before after : List α} {position : Nat} {element other : α}

/-- The list before and after the element at a position. -/
theorem split_at_index (h : list[position]? = some element) :
    ∃ before after, list = before ++ element :: after ∧ before.length = position := by
  obtain ⟨hposition, hget⟩ := List.getElem?_eq_some_iff.mp h
  refine ⟨list.take position, list.drop (position + 1), ?_, List.length_take_of_le hposition.le⟩
  rw [← hget, List.getElem_cons_drop, List.take_append_drop]

/-- A change at a position changes the element there only. -/
theorem modify_at_length {f : α → α} (h : before.length = position) :
    (before ++ element :: after).modify position f = before ++ f element :: after := by
  subst h
  rw [List.modify_eq_take_drop, List.take_left, List.drop_left]
  rfl

/-- The members of a list apart from the element at a position are those before and after it. -/
theorem mem_iff_of_get_elem (h : list[position]? = some element) :
    other ∈ list ↔
      other = element ∨ other ∈ list.take position ∨ other ∈ list.drop (position + 1) := by
  obtain ⟨hlt, rfl⟩ := List.getElem?_eq_some_iff.mp h
  conv_lhs => rw [← List.take_append_drop position list, List.drop_eq_getElem_cons hlt]
  rw [List.mem_append, List.mem_cons, or_left_comm]

/-- Replacing an element takes it away, and nothing else. -/
theorem mem_set_of_get_elem (h : list[position]? = some element) {new : α} (hother : other ≠ new) :
    other ∈ list ↔ other = element ∨ other ∈ list.set position new := by
  obtain ⟨hlt, -⟩ := List.getElem?_eq_some_iff.mp h
  rw [mem_iff_of_get_elem h, List.set_eq_take_append_cons_drop, if_pos hlt]
  simp [hother]

/-- Erasing an element takes it away, and nothing else. -/
theorem mem_erase_idx_of_get_elem (h : list[position]? = some element) :
    other ∈ list ↔ other = element ∨ other ∈ list.eraseIdx position := by
  rw [mem_iff_of_get_elem h, List.eraseIdx_eq_take_drop_succ, List.mem_append]

end Splitting

section Related

variable {α β : Type} {R : α → β → Prop} {left : List α} {right : List β}

/-- Related lists have related elements at every position. -/
theorem forall₂_get_elem (h : List.Forall₂ R left right) (position : Nat) :
    Option.Rel R left[position]? right[position]? := by
  induction h generalizing position with
  | nil => exact .none
  | cons hfirst _ ih =>
      cases position with
      | zero => exact .some hfirst
      | succ position => exact ih position

/-- Related lists stay so when two elements at the same position are replaced by related ones. -/
theorem forall₂_set (h : List.Forall₂ R left right) (position : Nat) {a : α} {b : β} (hab : R a b) :
    List.Forall₂ R (left.set position a) (right.set position b) := by
  induction h generalizing position with
  | nil => exact .nil
  | cons hfirst hrest ih =>
      cases position with
      | zero => exact .cons hab hrest
      | succ position => exact .cons hfirst (ih position)

end Related

end Component.Lib.Positions

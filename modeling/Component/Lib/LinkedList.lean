import Mathlib

/-!
# Doubly linked lists

Each node of a doubly linked list points to the nodes before and after it, and the list points to
its first and its last node. `Linked` says which nodes the pointers stand for, in their order. The
two ways to change a list are given by what the pointers of its nodes are afterwards, not by the
order in which they are written: a node is put in front (`Linked.push`), or it is taken out
(`Linked.unlink`). Pointers of nodes outside of the list do not matter.
-/

namespace Component.Lib.LinkedList

variable {α : Type} {prev next prev' next' : α → Option α} {head tail : Option α}

/-- The pointers stand for the list of nodes. -/
structure Linked (prev next : α → Option α) (head tail : Option α) (nodes : List α) : Prop where
  nodup : nodes.Nodup
  head_eq : head = nodes.head?
  tail_eq : tail = nodes.getLast?
  links : ∀ before node after, nodes = before ++ node :: after →
    prev node = before.getLast? ∧ next node = after.head?

/-- No nodes form the empty list. -/
theorem Linked.nil (prev next : α → Option α) : Linked prev next none none [] where
  nodup := List.nodup_nil
  head_eq := rfl
  tail_eq := rfl
  links := fun _ _ _ h => absurd h.symm (by simp)

/-- Only the pointers in the nodes of the list matter. -/
theorem Linked.congr {nodes : List α} (h : Linked prev next head tail nodes)
    (hprev : ∀ node ∈ nodes, prev' node = prev node)
    (hnext : ∀ node ∈ nodes, next' node = next node) : Linked prev' next' head tail nodes where
  nodup := h.nodup
  head_eq := h.head_eq
  tail_eq := h.tail_eq
  links := by
    rintro before node after rfl
    rw [hprev node (by simp), hnext node (by simp)]
    exact h.links before node after rfl

/-- The pointers after the one in a node has been written, if there is such a node. -/
def redirect [DecidableEq α] (link : α → Option α) (node target : Option α) : α → Option α :=
  fun other => if node = some other then target else link other

/-- Nothing is redirected at no node. -/
@[simp] theorem redirect_none [DecidableEq α] (link : α → Option α) (target : Option α) :
    redirect link none target = link := by
  funext other
  exact if_neg nofun

/-- Redirecting a node changes its link. -/
@[simp] theorem redirect_some [DecidableEq α] (link : α → Option α) (node : α)
    (target : Option α) : redirect link (some node) target = Function.update link node target := by
  funext other
  simp [redirect, Function.update_apply, eq_comm]

section Changes

variable {node : α} {nodes before after : List α}

/-- The head is one of the nodes. -/
theorem Linked.head_mem (h : Linked prev next head tail nodes) (hhead : head = some node) :
    node ∈ nodes :=
  List.mem_of_mem_head? (h.head_eq ▸ hhead)

/-- A list with a first node has a last one. -/
theorem Linked.tail_or (h : Linked prev next head tail nodes) (hhead : head = some node)
    (other : Option α) : tail.or other = tail := by
  rw [h.tail_eq]
  cases nodes with
  | nil => cases h.head_eq.symm.trans hhead
  | cons first nodes => simp [List.getLast?_cons]

/-- The neighbours of a node are nodes of the list. -/
theorem Linked.neighbours (h : Linked prev next head tail (before ++ node :: after)) {other : α}
    (hother : prev node = some other ∨ next node = some other) : other ∈ before ++ after := by
  obtain ⟨hprev, hnext⟩ := h.links before node after rfl
  rcases hother with hbefore | hafter
  · exact List.mem_append_left _ (List.mem_of_getLast? (hprev ▸ hbefore))
  · exact List.mem_append_right _ (List.mem_of_mem_head? (hnext ▸ hafter))

/-- The first node is the one without a node before it. -/
theorem Linked.prev_eq_none_iff (h : Linked prev next head tail (before ++ node :: after)) :
    prev node = none ↔ head = some node := by
  rw [(h.links before node after rfl).1, List.getLast?_eq_none_iff, h.head_eq]
  constructor
  · rintro rfl
    rfl
  · intro hhead
    cases before with
    | nil => rfl
    | cons first before =>
        obtain rfl : first = node := Option.some.inj hhead
        exact absurd h.nodup (by simp)

/-- The last node is the one without a node after it. -/
theorem Linked.next_eq_none_iff (h : Linked prev next head tail (before ++ node :: after)) :
    next node = none ↔ tail = some node := by
  rw [(h.links before node after rfl).2, List.head?_eq_none_iff, h.tail_eq]
  constructor
  · rintro rfl
    simp
  · intro htail
    rcases List.eq_nil_or_concat after with rfl | ⟨after, last, rfl⟩
    · rfl
    · obtain rfl : last = node := by simpa [List.getLast?_cons] using htail
      exact absurd h.nodup (by simp [List.nodup_append])

/-- An element of two lists one after the other is in one of them. -/
theorem split_of_append_eq {left right : List α}
    (h : before ++ after = left ++ node :: right) :
    (∃ middle, before = left ++ node :: middle ∧ right = middle ++ after) ∨
      ∃ middle, left = before ++ middle ∧ after = middle ++ node :: right := by
  rcases List.append_eq_append_iff.mp h with ⟨middle, hleft, hafter⟩ | ⟨middle, hbefore, hright⟩
  · exact .inr ⟨middle, hleft, hafter⟩
  · cases middle with
    | nil => exact .inr ⟨[], by simpa using hbefore.symm, hright.symm⟩
    | cons first middle =>
        obtain ⟨rfl, htail⟩ := List.cons.inj hright
        exact .inl ⟨middle, hbefore, htail⟩

variable [DecidableEq α]

/-- A new node is put in front. -/
theorem Linked.push (h : Linked prev next head tail nodes) (hnode : node ∉ nodes)
    (hprev : ∀ other ∈ nodes, prev' other = redirect prev head (some node) other)
    (hnext : ∀ other ∈ nodes, next' other = next other) (hfirst : prev' node = none)
    (hsecond : next' node = head) :
    Linked prev' next' (some node) (tail.or (some node)) (node :: nodes) where
  nodup := List.nodup_cons.mpr ⟨hnode, h.nodup⟩
  head_eq := rfl
  tail_eq := by
    rw [h.tail_eq, List.getLast?_cons]
    cases nodes.getLast? <;> rfl
  links := by
    intro before other after hsplit
    cases before with
    | nil =>
        obtain ⟨rfl, rfl⟩ := List.cons.inj hsplit
        exact ⟨hfirst, hsecond.trans h.head_eq⟩
    | cons first before =>
        obtain ⟨rfl, rfl⟩ := List.cons.inj hsplit
        have hmem : other ∈ before ++ other :: after := by simp
        obtain ⟨hbefore, hafter⟩ := h.links before other after rfl
        refine ⟨?_, (hnext other hmem).trans hafter⟩
        simp only [hprev other hmem, redirect, ← h.prev_eq_none_iff, hbefore]
        rcases List.eq_nil_or_concat before with rfl | ⟨rest, last, rfl⟩ <;>
          simp [List.getLast?_cons]

/-- After a node is unlinked, the head is the next node if it was the head. -/
theorem Linked.unlink_head (h : Linked prev next head tail (before ++ node :: after)) :
    (if head = some node then next node else head) = (before ++ after).head? := by
  obtain ⟨hprev, hnext⟩ := h.links before node after rfl
  cases before with
  | nil =>
      have hhead : head = some node := h.head_eq
      rw [if_pos hhead]
      exact hnext
  | cons first before =>
      have hhead : head ≠ some node := by
        rw [Ne, ← h.prev_eq_none_iff, hprev]
        simp
      rw [if_neg hhead]
      exact h.head_eq

/-- After a node is unlinked, the tail is the previous node if it was the tail. -/
theorem Linked.unlink_tail (h : Linked prev next head tail (before ++ node :: after)) :
    (if tail = some node then prev node else tail) = (before ++ after).getLast? := by
  obtain ⟨hprev, hnext⟩ := h.links before node after rfl
  cases after with
  | nil => rw [if_pos (h.next_eq_none_iff.mp hnext), hprev, List.append_nil]
  | cons first after =>
      have htail : tail ≠ some node := by
        rw [Ne, ← h.next_eq_none_iff, hnext]
        simp
      rw [if_neg htail, h.tail_eq]
      simp [List.getLast?_append, List.getLast?_cons]

/-- The pointers of a node before the one that is taken out. -/
theorem Linked.unlink_before {left middle : List α} {other : α}
    (h : Linked prev next head tail ((left ++ other :: middle) ++ node :: after)) :
    redirect prev (next node) (prev node) other = left.getLast? ∧
      redirect next (prev node) (next node) other = (middle ++ after).head? := by
  obtain ⟨hprev, hnext⟩ := h.links (left ++ other :: middle) node after rfl
  obtain ⟨hotherprev, hothernext⟩ := h.links left other (middle ++ node :: after) (by simp)
  obtain ⟨hnodup, -, happart⟩ := List.nodup_append.mp h.nodup
  unfold redirect
  rw [hprev, hnext]
  have hafter : after.head? ≠ some other := fun hhead =>
    happart other (by simp) other (List.mem_cons_of_mem _ (List.mem_of_mem_head? hhead)) rfl
  refine ⟨by rw [if_neg hafter, hotherprev], ?_⟩
  cases middle with
  | nil => simp
  | cons first middle =>
      have hlast : (left ++ other :: first :: middle).getLast? ≠ some other := by
        intro hlast
        rw [List.getLast?_append, List.getLast?_cons_cons] at hlast
        have hmiddle : other ∈ first :: middle :=
          List.mem_of_getLast? (by simpa [List.getLast?_cons] using hlast)
        exact (List.nodup_cons.mp (List.nodup_append.mp hnodup).2.1).1 hmiddle
      rw [if_neg hlast, hothernext]
      rfl

/-- The pointers of a node after the one that is taken out. -/
theorem Linked.unlink_after {middle right : List α} {other : α}
    (h : Linked prev next head tail (before ++ node :: (middle ++ other :: right))) :
    redirect prev (next node) (prev node) other = (before ++ middle).getLast? ∧
      redirect next (prev node) (next node) other = right.head? := by
  obtain ⟨hprev, hnext⟩ := h.links before node (middle ++ other :: right) rfl
  obtain ⟨hotherprev, hothernext⟩ := h.links (before ++ node :: middle) other right (by simp)
  obtain ⟨-, hnodup, happart⟩ := List.nodup_append.mp h.nodup
  unfold redirect
  rw [hprev, hnext]
  have hbefore : before.getLast? ≠ some other := fun hlast =>
    happart other (List.mem_of_getLast? hlast) other (by simp) rfl
  refine ⟨?_, by rw [if_neg hbefore, hothernext]⟩
  cases middle with
  | nil => simp
  | cons first middle =>
      have hfirst : first ≠ other := by
        rintro rfl
        exact (List.nodup_cons.mp (List.nodup_cons.mp hnodup).2).1 (by simp)
      rw [if_neg (by simpa using hfirst), hotherprev]
      simp [List.getLast?_append, List.getLast?_cons]

/-- A node is taken out. -/
theorem Linked.unlink (h : Linked prev next head tail (before ++ node :: after)) :
    Linked (redirect prev (next node) (prev node)) (redirect next (prev node) (next node))
      (if head = some node then next node else head)
      (if tail = some node then prev node else tail) (before ++ after) where
  nodup := h.nodup.sublist (List.sublist_append_iff.mpr
    ⟨before, after, rfl, .refl _, List.sublist_cons_self ..⟩)
  head_eq := h.unlink_head
  tail_eq := h.unlink_tail
  links := by
    intro left other right hsplit
    -- the other node is on one side of the node that is taken out
    rcases split_of_append_eq hsplit with ⟨middle, rfl, rfl⟩ | ⟨middle, rfl, rfl⟩
    · exact h.unlink_before
    · exact h.unlink_after

end Changes

end Component.Lib.LinkedList

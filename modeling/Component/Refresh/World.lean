import Component.Refresh.View

/-!
# A scroll view and all its refresh views

A scroll view has two properties for refresh views, `reset_refreshView` and `more_refreshView`,
and either may be given a view of any kind. A `World` is a scroll view with all refresh views there
are, attached or not. It is a `Sys` whose view is the one that is being talked to; the others are
in `rest`, and `switchTo` changes the view that is talked to. Every change of the content offset is
told to both attached views.
-/

namespace Component.Refresh

/-- A refresh view and what is pending for it. -/
structure Cell where
  view : RefreshView
  mainQueue : List Block
  completions : List Completion
  fired : List Callback
  transitions : List (MJRefreshState × MJRefreshState)
  deriving DecidableEq, Repr

/-- What a `Sys` has of its view. -/
def Sys.cell {ρ : Type} (s : Sys ρ) : Cell :=
  ⟨s.view, s.mainQueue, s.completions, s.fired, s.transitions⟩

/-- The views that are not talked to, and the two properties of the scroll view. The cell of the
view that is talked to is out of date. -/
structure Others (κ : Type) where
  current : κ
  cells : κ → Cell
  reset : Option κ
  more : Option κ

/-- A scroll view and its refresh views, which have identities in `κ`. -/
abbrev World (κ : Type) := Sys (Others κ)

/-- The two properties of a scroll view. -/
inductive Slot where
  | reset
  | more
  deriving DecidableEq, Repr

/-- The other property. -/
def Slot.other : Slot → Slot
  | .reset => .more
  | .more => .reset

namespace World

variable {κ : Type} [DecidableEq κ]

/-- A view and what is pending for it. -/
def cellOf (s : World κ) (id : κ) : Cell := if id = s.rest.current then s.cell else s.rest.cells id

/-- Another view is talked to. -/
def switchTo (id : κ) (s : World κ) : World κ :=
  let cell := s.cellOf id
  { view := cell.view
    scrollView := s.scrollView
    mainQueue := cell.mainQueue
    completions := cell.completions
    fired := cell.fired
    transitions := cell.transitions
    rest := { s.rest with
      current := id
      cells := Function.update s.rest.cells s.rest.current s.cell } }

/-- `reset_refreshView` or `more_refreshView`. -/
def slot (s : World κ) : Slot → Option κ
  | .reset => s.rest.reset
  | .more => s.rest.more

/-- The association of the property is changed. -/
def storeSlot (slot : Slot) (id : Option κ) (s : World κ) : World κ :=
  match slot with
  | .reset => { s with rest := { s.rest with reset := id } }
  | .more => { s with rest := { s.rest with more := id } }

/-- The views that are attached to the scroll view. -/
def attached (s : World κ) : Finset κ := s.rest.reset.toFinset ∪ s.rest.more.toFinset

/-- The attached views in the order in which they are notified. -/
def observers (moreFirst : Bool) (s : World κ) : List κ :=
  if moreFirst then s.rest.more.toList ++ s.rest.reset.toList
  else s.rest.reset.toList ++ s.rest.more.toList

/-- The attached views are told one after another that the content offset has changed, with
handlers nested at most `depth` deep. -/
def notifyWithin (moreFirst : Bool) : Nat → Notify (Others κ)
  | 0 => fun _ _ s => s
  | depth + 1 => fun old new s =>
      let notified := (observers moreFirst s).foldl (fun s id =>
        MJRefreshView.refreshClass.observeContentOffset (notifyWithin moreFirst depth) old new
          (switchTo id s)) s
      switchTo s.rest.current notified

/-- `removeFromSuperview`. -/
def removeFromSuperview (id : κ) (s : World κ) : World κ :=
  MJRefreshView.willMoveToSuperview none (s.switchTo id)

/-- `insertSubview:atIndex:`. -/
def insertSubview (id : κ) (s : World κ) : World κ :=
  MJRefreshView.willMoveToSuperview (some s.scrollView) (s.switchTo id)

/-- The view in a property is removed from the scroll view; there need not be one. -/
def removeOld (slot : Slot) (s : World κ) : World κ :=
  match s.slot slot with
  | some old => s.removeFromSuperview old
  | none => s

/-- `setReset_refreshView:` and `setMore_refreshView:`. -/
def setRefreshView (slot : Slot) (new : Option κ) (s : World κ) : World κ :=
  if new ≠ s.slot slot then
    let s := s.removeOld slot
    let s := match new with
      | some id => s.insertSubview id
      | none => s
    s.storeSlot slot new
  else s

end World

/-- What can happen to a scroll view and its refresh views. -/
inductive WorldEvent (κ : Type) where
  | setRefreshView (slot : Slot) (new : Option κ)
  | view (id : κ) (event : Event)
  deriving DecidableEq, Repr

namespace World

variable {κ : Type} [DecidableEq κ]

/-- No view is in both properties. -/
def Distinct (s : World κ) : Prop := ∀ id, ¬ (s.slot .reset = some id ∧ s.slot .more = some id)

/-- One event, after which the main queue and the completions of each view wait to be run. -/
def step (moreFirst : Bool) (depth : Nat) (s : World κ) : WorldEvent κ → World κ
  | .setRefreshView slot new => s.setRefreshView slot new
  | .view id event =>
      MJRefreshView.refreshClass.handle (notifyWithin moreFirst depth) (s.switchTo id) event

/-- A scroll view without refresh views. -/
def start (views : κ → RefreshView) (current : κ) (scrollView : UIScrollView) : World κ :=
  Sys.start (views current) scrollView
    ⟨current, fun id => ⟨views id, [], [], [], []⟩, none, none⟩

/-! ## The two properties -/

/-- The attached views are those in the two slots. -/
theorem attached_eq (slot : Slot) (s : World κ) :
    s.attached = (s.slot slot).toFinset ∪ (s.slot slot.other).toFinset := by
  cases slot with
  | reset => rfl
  | more => exact Finset.union_comm _ _

omit [DecidableEq κ] in
/-- The slots are distinct just when no view is in both. -/
theorem distinct_iff (slot : Slot) (s : World κ) :
    s.Distinct ↔ ∀ id, ¬ (s.slot slot = some id ∧ s.slot slot.other = some id) := by
  cases slot with
  | reset => exact Iff.rfl
  | more => exact forall_congr' fun id => not_congr and_comm

omit [DecidableEq κ] in
/-- A slot holds what was stored in it. -/
@[simp] theorem slot_store_slot (slot : Slot) (id : Option κ) (s : World κ) :
    (s.storeSlot slot id).slot slot = id := by
  cases slot <;> rfl

omit [DecidableEq κ] in
/-- Storing in a slot leaves the other one. -/
@[simp] theorem slot_other_store_slot (slot : Slot) (id : Option κ) (s : World κ) :
    (s.storeSlot slot id).slot slot.other = s.slot slot.other := by
  cases slot <;> rfl

/-! ## Talking to another view -/

/-- The cell of the view that is talked to is the one in front. -/
@[simp] theorem cell_of_current (s : World κ) : s.cellOf s.rest.current = s.cell := if_pos rfl

/-- Talking to another view changes no cell. -/
@[simp] theorem cell_of_switch_to (id other : κ) (s : World κ) :
    (s.switchTo id).cellOf other = s.cellOf other := by
  unfold cellOf
  show (if other = id then (s.switchTo id).cell else
    Function.update s.rest.cells s.rest.current s.cell other) = _
  by_cases hother : other = id
  · rw [if_pos hother, hother]
    rfl
  · rw [if_neg hother, Function.update_apply]

/-- What a change of the view that is talked to does to the cells. -/
theorem cell_of_congr {s t : World κ} (hrest : t.rest = s.rest) {other : κ}
    (hother : other ≠ s.rest.current) : t.cellOf other = s.cellOf other := by
  unfold cellOf
  rw [hrest, if_neg hother, if_neg hother]

end World

end Component.Refresh

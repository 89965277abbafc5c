import Component.Geometry

/-!
# The scroll view as the refresh views see it

The part of a `UIScrollView` that refresh views read and write, with the accessors of the
`MJExtension` category. On iOS 11 and later `mj_inset` is the adjusted content inset, which is the
content inset plus an adjustment that is not under the control of the refresh views; the setters
`mj_insetT`, `mj_insetL`, `mj_insetB` and `mj_insetR` take the adjustment off again.
-/

namespace Component.Refresh

/-- `UIGestureRecognizerState`. -/
inductive PanState where
  | possible
  | began
  | changed
  | ended
  | cancelled
  | failed
  deriving DecidableEq, Repr

/-- What refresh views read and write of their scroll view. `adjustment` is the difference between
the adjusted content inset and the content inset, and `numberOfRows` has one entry for each
section of a table or collection view. -/
@[ext] structure UIScrollView where
  size : CGSize
  contentInset : UIEdgeInsets
  adjustment : UIEdgeInsets
  contentOffset : CGPoint
  contentSize : CGSize
  isDragging : Bool
  panState : PanState
  pagingEnabled : Bool
  numberOfRows : List Nat
  alwaysBounceHorizontal : Bool
  alwaysBounceVertical : Bool
  userInteractionEnabled : Bool
  respondsToAdjustedContentInset : Bool
  deriving DecidableEq, Repr

namespace UIScrollView

/-- The answers to messages to a scroll view that is `nil`. Whether the system knows
`adjustedContentInset` does not depend on the scroll view. -/
def null (respondsToAdjustedContentInset : Bool) : UIScrollView where
  size := ⟨0, 0⟩
  contentInset := ⟨0, 0, 0, 0⟩
  adjustment := ⟨0, 0, 0, 0⟩
  contentOffset := ⟨0, 0⟩
  contentSize := ⟨0, 0⟩
  isDragging := false
  panState := .possible
  pagingEnabled := false
  numberOfRows := []
  alwaysBounceHorizontal := false
  alwaysBounceVertical := false
  userInteractionEnabled := false
  respondsToAdjustedContentInset := respondsToAdjustedContentInset

/-- `adjustedContentInset - contentInset` where the system has an adjusted inset. -/
def insetAdjustment (sv : UIScrollView) : UIEdgeInsets :=
  if sv.respondsToAdjustedContentInset then sv.adjustment else ⟨0, 0, 0, 0⟩

/-- `mj_inset`. -/
def mjInset (sv : UIScrollView) : UIEdgeInsets :=
  ⟨sv.contentInset.top + sv.insetAdjustment.top, sv.contentInset.left + sv.insetAdjustment.left,
    sv.contentInset.bottom + sv.insetAdjustment.bottom,
    sv.contentInset.right + sv.insetAdjustment.right⟩

/-- `setMj_insetT:`. -/
def setMjInsetT (value : CGFloat) (sv : UIScrollView) : UIScrollView :=
  { sv with contentInset.top := value - sv.insetAdjustment.top }

/-- `setMj_insetL:`. -/
def setMjInsetL (value : CGFloat) (sv : UIScrollView) : UIScrollView :=
  { sv with contentInset.left := value - sv.insetAdjustment.left }

/-- `setMj_insetB:`. -/
def setMjInsetB (value : CGFloat) (sv : UIScrollView) : UIScrollView :=
  { sv with contentInset.bottom := value - sv.insetAdjustment.bottom }

/-- `setMj_insetR:`. -/
def setMjInsetR (value : CGFloat) (sv : UIScrollView) : UIScrollView :=
  { sv with contentInset.right := value - sv.insetAdjustment.right }

/-- `setUserInteractionEnabled:`. -/
def setUserInteractionEnabled (enabled : Bool) (sv : UIScrollView) : UIScrollView :=
  { sv with userInteractionEnabled := enabled }

/-- `mj_totalDataCount`. -/
def mjTotalDataCount (sv : UIScrollView) : Int := (sv.numberOfRows.sum : Nat)

/-- Setting the top inset changes just this inset. -/
@[simp] theorem mj_inset_set_mj_inset_t (value : CGFloat) (sv : UIScrollView) :
    (sv.setMjInsetT value).mjInset = { sv.mjInset with top := value } := by
  show UIEdgeInsets.mk (value - sv.insetAdjustment.top + sv.insetAdjustment.top) _ _ _ = _
  rw [sub_add_cancel]
  rfl

/-- Setting the bottom inset changes just this inset. -/
@[simp] theorem mj_inset_set_mj_inset_b (value : CGFloat) (sv : UIScrollView) :
    (sv.setMjInsetB value).mjInset = { sv.mjInset with bottom := value } := by
  show UIEdgeInsets.mk _ _ (value - sv.insetAdjustment.bottom + sv.insetAdjustment.bottom) _ = _
  rw [sub_add_cancel]
  rfl

/-- Setting the bottom inset to its own value changes nothing. -/
theorem set_mj_inset_b_self (sv : UIScrollView) : sv.setMjInsetB sv.mjInset.bottom = sv := by
  show { sv with contentInset.bottom :=
    sv.contentInset.bottom + sv.insetAdjustment.bottom - sv.insetAdjustment.bottom } = sv
  rw [add_sub_cancel_right]

end UIScrollView

/-- A table of 20 rows that is taller than its scroll view, with bars above and below it. -/
def sampleScrollView : UIScrollView where
  size := ⟨320, 480⟩
  contentInset := ⟨0, 0, 10, 0⟩
  adjustment := ⟨64, 0, 34, 0⟩
  contentOffset := ⟨0, -64⟩
  contentSize := ⟨320, 900⟩
  isDragging := false
  panState := .possible
  pagingEnabled := false
  numberOfRows := [20]
  alwaysBounceHorizontal := false
  alwaysBounceVertical := true
  userInteractionEnabled := true
  respondsToAdjustedContentInset := true

end Component.Refresh

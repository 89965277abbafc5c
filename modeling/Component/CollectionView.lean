import Component.Geometry

/-!
# Elements of a collection view

What the layouts of collection views have in common: the index paths of elements, and the attributes
that a layout gives to them.
-/

namespace Component

/-- An `NSIndexPath` of a collection view. -/
@[ext] structure IndexPath where
  sect : Nat
  item : Nat
  deriving DecidableEq, Repr

/-- The three kinds of element that a layout places. -/
inductive ElementKind where
  | header
  | cell
  | footer
  deriving DecidableEq, Repr

/-- The identity of an element: its kind and index path. -/
@[ext] structure Element where
  kind : ElementKind
  indexPath : IndexPath
  deriving DecidableEq, Repr

/-- `UICollectionViewLayoutAttributes`: an element and its frame. -/
@[ext] structure Attributes extends Element where
  frame : CGRect
  deriving DecidableEq, Repr

end Component

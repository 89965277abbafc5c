import Mathlib

/-!
# Points, sizes, rectangles and edge insets

The Core Graphics and UIKit value types the components compute with. `CGFloat` is exact here:
every finite `CGFloat` is a rational number and the model does not round. `transpose` exchanges
the two axes, and `InteriorsDisjoint` is the statement that two frames do not overlap.
-/

namespace Component

/-- A Core Graphics length, taken as an exact number. -/
abbrev CGFloat := ℚ

/-- Truncation toward zero rounds down what is not negative. -/
theorem tdiv_num_den_of_nonneg {value : CGFloat} (h : 0 ≤ value) :
    Int.tdiv value.num value.den = ⌊value⌋ := by
  rw [Int.tdiv_eq_ediv_of_nonneg (Rat.num_nonneg.mpr h), Rat.floor_def']

/-- A point of the plane. -/
@[ext] structure CGPoint where
  x : CGFloat
  y : CGFloat
  deriving DecidableEq, Repr

/-- An extent in both directions. -/
@[ext] structure CGSize where
  width : CGFloat
  height : CGFloat
  deriving DecidableEq, Repr

/-- The point with the axes exchanged. -/
def CGPoint.transpose (point : CGPoint) : CGPoint := ⟨point.y, point.x⟩

/-- The extent with the axes exchanged. -/
def CGSize.transpose (size : CGSize) : CGSize := ⟨size.height, size.width⟩

/-- `CGSizeZero`. -/
def CGSize.zero : CGSize := ⟨0, 0⟩

/-- A rectangle given by its origin and its size. -/
@[ext] structure CGRect where
  x : CGFloat
  y : CGFloat
  width : CGFloat
  height : CGFloat
  deriving DecidableEq, Repr

/-- Insets from the four edges of a rectangle. -/
@[ext] structure UIEdgeInsets where
  top : CGFloat
  left : CGFloat
  bottom : CGFloat
  right : CGFloat
  deriving DecidableEq, Repr

/-- The insets with the axes exchanged. -/
def UIEdgeInsets.transpose (inset : UIEdgeInsets) : UIEdgeInsets :=
  ⟨inset.left, inset.top, inset.right, inset.bottom⟩

namespace CGRect

/-- The rectangle with the axes exchanged. -/
def transpose (rect : CGRect) : CGRect := ⟨rect.y, rect.x, rect.height, rect.width⟩

/-- The coordinate of the right edge. -/
def maxX (rect : CGRect) : CGFloat := rect.x + rect.width

/-- The coordinate of the bottom edge. -/
def maxY (rect : CGRect) : CGFloat := rect.y + rect.height

/-- The points strictly inside a rectangle. -/
def interior (rect : CGRect) : Set (CGFloat × CGFloat) :=
  {point | rect.x < point.1 ∧ point.1 < rect.maxX ∧ rect.y < point.2 ∧ point.2 < rect.maxY}

/-- No point lies strictly inside both rectangles. -/
def InteriorsDisjoint (first second : CGRect) : Prop :=
  Disjoint first.interior second.interior

/-- Having disjoint interiors is symmetric. -/
theorem InteriorsDisjoint.symm {first second : CGRect} (h : first.InteriorsDisjoint second) :
    second.InteriorsDisjoint first :=
  Disjoint.symm h

/-- A rectangle does not overlap one that starts at or below its bottom edge. -/
theorem InteriorsDisjoint.of_above {first second : CGRect} (h : first.maxY ≤ second.y) :
    first.InteriorsDisjoint second := by
  refine Set.disjoint_left.mpr ?_
  rintro ⟨x, y⟩ ⟨_, _, _, hfirst⟩ ⟨_, _, hsecond, _⟩
  exact absurd (hsecond.trans hfirst) (not_lt.mpr h)

/-- A rectangle does not overlap one that starts at or beyond its right edge. -/
theorem InteriorsDisjoint.of_left {first second : CGRect} (h : first.maxX ≤ second.x) :
    first.InteriorsDisjoint second := by
  refine Set.disjoint_left.mpr ?_
  rintro ⟨x, y⟩ ⟨_, hfirst, _, _⟩ ⟨hsecond, _, _, _⟩
  exact absurd (hsecond.trans hfirst) (not_lt.mpr h)

/-- Two rectangles overlap exactly if their extents overlap in both directions. -/
theorem interiors_disjoint_iff (first second : CGRect) :
    first.InteriorsDisjoint second ↔
      ¬ (max first.x second.x < min first.maxX second.maxX ∧
        max first.y second.y < min first.maxY second.maxY) := by
  rw [InteriorsDisjoint, Set.disjoint_left]
  constructor
  · rintro hdisjoint ⟨hx, hy⟩
    obtain ⟨x, hleft, hright⟩ := exists_between hx
    obtain ⟨y, htop, hbottom⟩ := exists_between hy
    rw [max_lt_iff] at hleft htop
    rw [lt_min_iff] at hright hbottom
    have hinside : (x, y) ∈ first.interior := ⟨hleft.1, hright.1, htop.1, hbottom.1⟩
    exact hdisjoint hinside ⟨hleft.2, hright.2, htop.2, hbottom.2⟩
  · rintro hoverlap ⟨x, y⟩ ⟨hx, hx', hy, hy'⟩ ⟨kx, kx', ky, ky'⟩
    exact hoverlap ⟨(max_lt hx kx).trans (lt_min hx' kx'), (max_lt hy ky).trans (lt_min hy' ky')⟩

end CGRect

end Component

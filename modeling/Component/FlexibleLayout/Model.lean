import Component.CollectionView

/-!
# `XMGHorizontalFlexbleLayout`

The layout sets the items of section zero in lines from left to right and starts a new line when
an item would cross the right edge. It keeps the place it has reached in `lastShowToX`,
`lastShowToY` and `showLineIndex`, and the bottom of what it has placed in `showToLargeY`.

`layoutAttributesForItem` places one item at that place and moves it on. `prepareLayout` resets the
place, but not `showToLargeY`, and places every item until the line limit is passed. The delegate
is read from the collection view at the start of `prepareLayout` only.

`CGFLOAT_MIN`, the left edge of item zero, is taken as zero. `addSafeObject:` is taken to skip
`nil`.
-/

namespace Component.FlexibleLayout

/-- `XMGHorizontalFlexbleLayoutDelegate`. The layout asks before every call whether the delegate
responds to it. -/
structure Delegate where
  sizeForItemAtIndexPath : Option (IndexPath → CGSize) := none
  respondsToShowHeight : Bool := false

/-- `NSIntegerMax` on the 64-bit platforms. -/
def nsIntegerMax : Nat := 2 ^ 63 - 1

/-- What the layout reads: its properties, the collection view's frame width, data source and
delegate. The item count is an `NSInteger`. -/
structure Context where
  miniItemSpace : CGFloat
  miniLineSpace : CGFloat
  storedMaxLineNum : Int
  collectionWidth : CGFloat
  numberOfItems : Nat
  delegate : Option Delegate
  items_le : numberOfItems ≤ nsIntegerMax

/-- Two items are not too many. -/
theorem two_le_ns_integer_max : 2 ≤ nsIntegerMax := by decide

/-- The getter `maxLineNum`. -/
def Context.maxLineNum (ctx : Context) : Int :=
  if 0 < ctx.storedMaxLineNum then ctx.storedMaxLineNum else nsIntegerMax

/-- The mutable state of the layout, with the heights passed to `collectionView:showHeight:` so
far. -/
structure State where
  delegate : Option Delegate
  attrsArray : List Attributes
  lastShowToY : CGFloat
  lastShowToX : CGFloat
  showLineIndex : Nat
  showToLargeY : CGFloat
  shownHeights : List CGFloat

/-- A layout object that has not been prepared yet. -/
def State.fresh : State := ⟨none, [], 0, 0, 0, 0, []⟩

/-- `layoutAttributesForItemAtIndexPath:`. -/
def layoutAttributesForItem (ctx : Context) (path : IndexPath) (state : State) :
    Option Attributes × State :=
  match state.delegate.bind Delegate.sizeForItemAtIndexPath with
  | none => (none, state)
  | some sizeForItem =>
      let size := sizeForItem path
      let tagWidth := min size.width ctx.collectionWidth
      let tagHeight := size.height
      let originX := if path.item = 0 then 0 else state.lastShowToX + ctx.miniItemSpace
      let toLargeWidth := originX + tagWidth
      -- the assignments of the branch that starts a new line
      let (originX, toLargeWidth, lastShowToY, showLineIndex) :=
        if ctx.collectionWidth < toLargeWidth then
          (0, tagWidth, state.lastShowToY + (tagHeight + ctx.miniLineSpace),
            state.showLineIndex + 1)
        else (originX, toLargeWidth, state.lastShowToY, state.showLineIndex)
      (some ⟨⟨.cell, path⟩, ⟨originX, lastShowToY, tagWidth, tagHeight⟩⟩,
       { state with
         lastShowToX := toLargeWidth
         lastShowToY := lastShowToY
         showLineIndex := showLineIndex
         showToLargeY := lastShowToY + tagHeight })

/-- The loop of `prepareLayout` over the remaining item indices. The limit is tested after the item
has been placed. -/
def placeItems (ctx : Context) : List Nat → State → State
  | [], state => state
  | index :: indices, state =>
      let (attrs, state) := layoutAttributesForItem ctx ⟨0, index⟩ state
      if ctx.maxLineNum ≤ state.showLineIndex then state
      else placeItems ctx indices { state with attrsArray := state.attrsArray ++ attrs.toList }

/-- What `prepareLayout` resets before it asks for the item count. -/
def reset (ctx : Context) (state : State) : State :=
  { state with
    delegate := ctx.delegate
    attrsArray := []
    lastShowToY := 0
    lastShowToX := 0
    showLineIndex := 0 }

/-- The call of `collectionView:showHeight:` at the end of `prepareLayout`. -/
def showHeight (state : State) : State :=
  match state.delegate with
  | some delegate =>
      if delegate.respondsToShowHeight then
        { state with shownHeights := state.shownHeights ++ [state.showToLargeY] }
      else state
  | none => state

/-- `prepareLayout`. -/
def prepareLayout (ctx : Context) (state : State) : State :=
  let state := reset ctx state
  if ctx.numberOfItems = 0 then state
  else showHeight (placeItems ctx (List.range ctx.numberOfItems) state)

/-- `collectionViewContentSize`. -/
def collectionViewContentSize (ctx : Context) (state : State) : CGSize :=
  ⟨ctx.collectionWidth, state.showToLargeY⟩

end Component.FlexibleLayout

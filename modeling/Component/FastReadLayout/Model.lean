import Component.Geometry

/-!
# The fast-read layout

A model of `XNFastReadAnimatorCollectionViewLayout`, which shows one page of the width of the screen
over the next one and turns the front page away while it is dragged. `Context` is what is fixed: the
size of the screen and the two lengths that the file writes with postfix operators of its own.
`Scene` is what a pass reads of the collection view, and `State` is what the layout keeps from one
call to the next.

Whether an item is the front or the back one of the two is not decided by its index but by the
toggle `isBackItem`, which every item flips. `Attributes.role` records which branch has laid the
item out.
-/

namespace Component.FastReadLayout

/-- What does not change: the size of the screen, which is the size of every item, and the lengths
`CGFloat(40.0)~` and `17≈`. A screen has a width. -/
structure Context where
  itemSize : CGSize
  alphaThreshold : CGFloat
  snapMargin : CGFloat
  width_pos : 0 < itemSize.width

/-- What the layout reads of the collection view. -/
structure Scene where
  numberOfItems : Nat
  contentOffset : CGPoint
  deriving DecidableEq, Repr

/-- The stored properties. -/
structure State where
  isBackItem : Bool
  lastLeftLength : CGFloat
  lastProposedContentOffsetX : CGFloat
  otherHidden : Bool
  deriving DecidableEq, Repr

/-- A new layout object. -/
def State.fresh : State := ⟨false, 0, 0, false⟩

/-- The two branches of `layoutAttributesForItem(at:)`. -/
inductive Role where
  | front
  | back
  deriving DecidableEq, Repr

/-- `UICollectionViewLayoutAttributes`, with the branch that has made them. New attributes have the
identity as their transform, so the rotation is the whole of it; it is measured in units of the
angle `totalAngle`, an eighth of a half turn. -/
structure Attributes where
  item : Int
  role : Role
  size : CGSize
  zIndex : Int
  rotation : CGFloat
  alpha : CGFloat
  center : CGPoint
  isHidden : Bool
  deriving DecidableEq, Repr

/-- The conversion `Int(_:)`, which truncates toward zero. -/
def toInt (value : CGFloat) : Int := Int.tdiv value.num value.den

/-- `layoutAttributesForItem(at:)`. -/
def layoutAttributesForItem (ctx : Context) (scene : Scene) (item : Int) (state : State) :
    Attributes × State :=
  let width := ctx.itemSize.width
  if !state.isBackItem && item ≠ scene.numberOfItems then
    let leftLength := scene.contentOffset.x - width * item
    let state := { state with isBackItem := true, lastLeftLength := leftLength }
    let angleRatio := leftLength / width
    -- `lastLeftLength` has been written above, so the front page never moves
    let actualMoveX := leftLength - state.lastLeftLength
    let alphaDetaLength := width - leftLength
    ({ item := item
       role := .front
       size := ctx.itemSize
       zIndex := -item
       rotation := -angleRatio
       alpha := if alphaDetaLength ≤ ctx.alphaThreshold then alphaDetaLength / ctx.alphaThreshold
         else 1
       center := ⟨width / 2 + actualMoveX + item * width, ctx.itemSize.height / 2⟩
       isHidden := false },
     { state with otherHidden := if 0 < leftLength then false else true })
  else
    ({ item := item
       role := .back
       size := ctx.itemSize
       zIndex := -item
       rotation := 0
       alpha := 1
       center := ⟨scene.contentOffset.x + width / 2, ctx.itemSize.height / 2⟩
       isHidden := state.otherHidden },
     { state with isBackItem := false })

/-- `showNum`. -/
def showNum : Nat := 2

/-- The loop of `layoutAttributesForElements(in:)`, with the number of turns left. -/
def layoutItems (ctx : Context) (scene : Scene) : Nat → Int → State → List Attributes × State
  | 0, _, state => ([], state)
  | turns + 1, curIndex, state =>
      if curIndex < scene.numberOfItems then
        let (attrs, state) := layoutAttributesForItem ctx scene curIndex state
        let (rest, state) := layoutItems ctx scene turns (curIndex + 1) state
        (attrs :: rest, state)
      else ([], state)

/-- The index of the page at the content offset. -/
def curIndex (ctx : Context) (scene : Scene) : Int :=
  toInt (scene.contentOffset.x / ctx.itemSize.width)

/-- `layoutAttributesForElements(in:)`. The rectangle is not read. -/
def layoutAttributesForElements (ctx : Context) (scene : Scene) (state : State) :
    List Attributes × State :=
  layoutItems ctx scene showNum (curIndex ctx scene) state

/-- `collectionViewContentSize`. -/
def collectionViewContentSize (ctx : Context) (scene : Scene) : CGSize :=
  ⟨scene.numberOfItems * ctx.itemSize.width, ctx.itemSize.height⟩

/-- The local variable `threaHold` of `targetContentOffset`. -/
def Context.snapThreshold (ctx : Context) : CGFloat := ctx.itemSize.width / 2 - ctx.snapMargin

/-- `targetContentOffset(forProposedContentOffset:withScrollingVelocity:)`. The velocity is not
read. -/
def targetContentOffset (ctx : Context) (proposedContentOffset : CGPoint) (state : State) :
    CGPoint × State :=
  let last := state.lastProposedContentOffsetX
  -- the target moves by one page at most, however far the proposal is
  let offsetX :=
    if last < proposedContentOffset.x then
      if ctx.snapThreshold < proposedContentOffset.x - last then last + ctx.itemSize.width else last
    else
      if ctx.snapThreshold < last - proposedContentOffset.x then last - ctx.itemSize.width else last
  (⟨offsetX, proposedContentOffset.y⟩, { state with lastProposedContentOffsetX := offsetX })

end Component.FastReadLayout

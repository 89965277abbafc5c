import Component.CollectionView
import Component.Lib.Selection

/-!
# The waterfall layout

A model of `KMCollectionViewWaterLayout`. `Context` is what the layout reads: its public
properties, the collection view and the delegate. `State` is what it writes: `attrsArray`, the
column dictionaries in `maxYArray` and the running `maxY`. The attribute methods are both the
placement steps of `prepareLayout` and the queries a collection view makes afterwards, so they
take and return the state.

A column dictionary maps the decimal strings `"0"`, `"1"`, … to the heights of the columns. Its
keys are always an initial segment, so it is modelled by the list of its values.
`enumerateKeysAndObjectsUsingBlock:` promises no order, so an `Enumeration` chooses one afresh at
every call; `State.tick` counts the calls.
-/

namespace Component.WaterLayout

open Component.Lib.Selection

/-- `KMUICollectionViewDelegateWaterLayout`. All its methods are optional, and one that the
delegate does not respond to is `none`. -/
structure Delegate where
  sizeForItemAtIndexPath : Option (IndexPath → CGSize) := none
  insetForSectionAtIndex : Option (Nat → UIEdgeInsets) := none
  columnsCountForSectionAtIndex : Option (Nat → Int) := none
  minimumLineSpacingForSectionAtIndex : Option (Nat → CGFloat) := none
  minimumInteritemSpacingForSectionAtIndex : Option (Nat → CGFloat) := none
  referenceSizeForHeaderInSection : Option (Nat → CGSize) := none
  referenceSizeForFooterInSection : Option (Nat → CGSize) := none

/-- What the layout reads: its public properties, the collection view's frame width and data
source, and its delegate. -/
structure Context where
  lineSpacing : CGFloat
  interitemSpacing : CGFloat
  columnsCount : Int
  itemSize : CGSize
  headerReferenceSize : CGSize
  footerReferenceSize : CGSize
  sectionInset : UIEdgeInsets
  frameWidth : CGFloat
  numberOfSections : Nat
  numberOfItemsInSection : Nat → Nat
  delegate : Option Delegate

namespace Context

/-- `if (self.delegate && [self.delegate respondsToSelector:…])`: the delegate's answer when it
implements the method, the default otherwise. -/
def ask {ι α : Type} (ctx : Context) (method : Delegate → Option (ι → α)) (index : ι)
    (default : α) : α :=
  match ctx.delegate.bind method with
  | some answer => answer index
  | none => default

/-- The inset of a section. -/
def insetAt (ctx : Context) (sect : Nat) : UIEdgeInsets :=
  ctx.ask Delegate.insetForSectionAtIndex sect ctx.sectionInset

/-- The header size of a section. -/
def headerSizeAt (ctx : Context) (sect : Nat) : CGSize :=
  ctx.ask Delegate.referenceSizeForHeaderInSection sect ctx.headerReferenceSize

/-- The footer size of a section. -/
def footerSizeAt (ctx : Context) (sect : Nat) : CGSize :=
  ctx.ask Delegate.referenceSizeForFooterInSection sect ctx.footerReferenceSize

/-- The column count of a section. -/
def columnsCountAt (ctx : Context) (sect : Nat) : Int :=
  ctx.ask Delegate.columnsCountForSectionAtIndex sect ctx.columnsCount

/-- The size of an item. -/
def cellSizeAt (ctx : Context) (path : IndexPath) : CGSize :=
  ctx.ask Delegate.sizeForItemAtIndexPath path ctx.itemSize

/-- The local variable `lineSpacing` once both spacing methods have been asked. The answer to
`minimumInteritemSpacingForSectionAtIndex:` is assigned to it as well. -/
def lineSpacingAt (ctx : Context) (sect : Nat) : CGFloat :=
  ctx.ask Delegate.minimumInteritemSpacingForSectionAtIndex sect
    (ctx.ask Delegate.minimumLineSpacingForSectionAtIndex sect ctx.lineSpacing)

/-- The conversion of a `CGFloat` to `NSInteger`, which truncates toward zero. -/
def truncate (value : CGFloat) : Int := Int.tdiv value.num value.den

/-- The local variable `interitemSpacing`: the property, raised to the truncated even gap when
there are at least two columns. -/
def interitemSpacingAt (ctx : Context) (sect : Nat) (cellWidth : CGFloat) : CGFloat :=
  let columnsCount := ctx.columnsCountAt sect
  if 1 < columnsCount then
    let inset := ctx.insetAt sect
    let gap := truncate ((ctx.frameWidth - inset.left - inset.right - columnsCount * cellWidth) /
      (columnsCount - 1))
    max (gap : CGFloat) ctx.interitemSpacing
  else ctx.interitemSpacing

end Context

/-- A column dictionary: the value under the key `"k"` is entry `k`. -/
abbrev Columns := List CGFloat

namespace Columns

/-- `[dict[column] floatValue]`, which is `0` for a missing key because messages to `nil` return
zero. The rounding of the value to the 32 bits of a `float` is left out. -/
def floatValue (columns : Columns) (column : Nat) : CGFloat := columns.getD column 0

/-- `dict[column] = @(value)`, for a key already present or the next one. -/
def setValue (columns : Columns) (column : Nat) (value : CGFloat) : Columns :=
  if column < columns.length then columns.set column value else columns ++ [value]

/-- The first search of `layoutAttributesForItemAtIndexPath:`, from the assumption that column
`"0"` is the shortest. -/
def minColumn (columns : Columns) (keys : List Nat) : Nat :=
  scan (fun column best => columns.floatValue column < columns.floatValue best) 0 keys

/-- The search at the end of a section in `prepareLayout`, from column `"0"`. -/
def maxColumn (columns : Columns) (keys : List Nat) : Nat :=
  scan (fun column best => columns.floatValue best < columns.floatValue column) 0 keys

end Columns

/-- The orders in which the runtime enumerates column dictionaries. Every call may use another
one, and each lists every key exactly once. -/
structure Enumeration where
  order : Nat → Columns → List Nat
  perm : ∀ tick columns, (order tick columns).Perm (List.range columns.length)

/-- The mutable state of the layout, with the number of dictionary enumerations so far. -/
structure State where
  maxYArray : List Columns
  attrsArray : List Attributes
  maxY : CGFloat
  tick : Nat

/-- `layoutAttributesForSupplementaryViewOfKind:atIndexPath:` for a section header or footer. The
running `maxY` advances by the height even when no attributes are returned. -/
def layoutAttributesForSupplementaryView (ctx : Context) (kind : ElementKind) (path : IndexPath)
    (state : State) : Option Attributes × State :=
  let place (size : CGSize) : Option Attributes × State :=
    (if size = CGSize.zero then none
      else some ⟨⟨kind, path⟩, ⟨0, state.maxY, size.width, size.height⟩⟩,
     { state with maxY := state.maxY + size.height })
  match kind with
  | .header => place (ctx.headerSizeAt path.sect)
  | .footer => place (ctx.footerSizeAt path.sect)
  | .cell => (none, state)

/-- `layoutAttributesForItemAtIndexPath:`. The item goes to the shortest column of its section,
whose entry is then raised to the item's bottom edge. -/
def layoutAttributesForItem (ctx : Context) (enumeration : Enumeration) (path : IndexPath)
    (state : State) : Attributes × State :=
  -- `objectAtIndex:` raises for a section that has no dictionary; no caller asks for one
  let maxYDict := state.maxYArray.getD path.sect []
  let minColumn := maxYDict.minColumn (enumeration.order state.tick maxYDict)
  let cellSize := ctx.cellSizeAt path
  let x := (ctx.insetAt path.sect).left +
    (cellSize.width + ctx.interitemSpacingAt path.sect cellSize.width) * minColumn
  let y := maxYDict.floatValue minColumn +
    if ctx.columnsCountAt path.sect ≤ path.item then ctx.lineSpacingAt path.sect else 0
  (⟨⟨.cell, path⟩, ⟨x, y, cellSize.width, cellSize.height⟩⟩,
   { state with
     maxYArray := state.maxYArray.set path.sect (maxYDict.setValue minColumn (y + cellSize.height))
     tick := state.tick + 1 })

/-- Place a header or footer and record its attributes if there are any. -/
def recordSupplementaryView (ctx : Context) (kind : ElementKind) (sect : Nat) (state : State) :
    State :=
  let (attrs, state) := layoutAttributesForSupplementaryView ctx kind ⟨sect, 0⟩ state
  { state with attrsArray := state.attrsArray ++ attrs.toList }

/-- One turn of the item loop of `prepareLayout`. -/
def recordItem (ctx : Context) (enumeration : Enumeration) (sect : Nat) (state : State)
    (item : Nat) : State :=
  let (attrs, state) := layoutAttributesForItem ctx enumeration ⟨sect, item⟩ state
  { state with attrsArray := state.attrsArray ++ [attrs] }

/-- The dictionary of a section, created with every column at the current `maxY` unless there
already is one. -/
def createColumns (ctx : Context) (sect : Nat) (state : State) : State :=
  if sect < state.maxYArray.length then state
  else { state with
    maxYArray := state.maxYArray ++
      [List.replicate (ctx.columnsCountAt sect).toNat state.maxY] }

/-- The end of a section: `maxY` becomes the greatest column height. -/
def closeColumns (enumeration : Enumeration) (sect : Nat) (state : State) : State :=
  let maxYDict := state.maxYArray.getD sect []
  { state with
    maxY := maxYDict.floatValue (maxYDict.maxColumn (enumeration.order state.tick maxYDict))
    tick := state.tick + 1 }

/-- `self.maxY += value`. -/
def addMaxY (value : CGFloat) (state : State) : State :=
  { state with maxY := state.maxY + value }

/-- The cells of a section: its dictionary, every item in turn and the section's height. -/
def layoutCells (ctx : Context) (enumeration : Enumeration) (sect : Nat) (state : State) :
    State :=
  closeColumns enumeration sect
    ((List.range (ctx.numberOfItemsInSection sect)).foldl (recordItem ctx enumeration sect)
      (createColumns ctx sect state))

/-- One turn of the section loop of `prepareLayout`. -/
def layoutSection (ctx : Context) (enumeration : Enumeration) (state : State) (sect : Nat) :
    State :=
  let state := recordSupplementaryView ctx .header sect state
  let state := addMaxY (ctx.insetAt sect).top state
  let state := layoutCells ctx enumeration sect state
  let state := addMaxY (ctx.insetAt sect).bottom state
  recordSupplementaryView ctx .footer sect state

/-- What `prepareLayout` clears before it starts. -/
def clear (state : State) : State :=
  { state with maxYArray := [], attrsArray := [], maxY := 0 }

/-- The state when `prepareLayout` has laid out the sections before `sect`. -/
def layoutSections (ctx : Context) (enumeration : Enumeration) (sect : Nat) (state : State) :
    State :=
  (List.range sect).foldl (layoutSection ctx enumeration) (clear state)

/-- `prepareLayout`. -/
def prepareLayout (ctx : Context) (enumeration : Enumeration) (state : State) : State :=
  layoutSections ctx enumeration ctx.numberOfSections state

/-- `collectionViewContentSize`. -/
def collectionViewContentSize (ctx : Context) (state : State) : CGSize :=
  ⟨ctx.frameWidth, state.maxY⟩

end Component.WaterLayout

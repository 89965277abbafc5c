import Component.FlexibleLayout.Model
import Component.Lib.LineBreaking

/-!
# Where the flexible layout puts its items

The loop of `prepareLayout` is first-fit line breaking of the items' widths, cut to the collection
view's width. This module states the place of every item in those terms: `lineOf`, `rightOf` and
`leftOf` come from `firstFit`, and `topOf` adds up, line by line, the height of the line's first
item and the line spacing. `layout_item_of_stands` is the step lemma, for a state that stands where
the loop reaches the item, and `prepare_layout_of_lt` and `prepare_layout_of_first` give the result
of `prepareLayout` within the line limit and beyond it.
-/

namespace Component.FlexibleLayout

open Component.Lib.LineBreaking

/-! ## Places -/

section Places

variable (ctx : Context) (size : IndexPath → CGSize)

/-- The width of an item, cut to the width of the collection view. -/
def tagWidth (item : Nat) : CGFloat := min (size ⟨0, item⟩).width ctx.collectionWidth

/-- The height of an item. -/
def tagHeight (item : Nat) : CGFloat := (size ⟨0, item⟩).height

/-- The line of an item. -/
def lineOf (item : Nat) : Nat :=
  firstFitLine ctx.collectionWidth ctx.miniItemSpace (tagWidth ctx size) item

/-- The right edge of an item. -/
def rightOf (item : Nat) : CGFloat :=
  firstFitEdge ctx.collectionWidth ctx.miniItemSpace (tagWidth ctx size) item

/-- The left edge of an item. -/
def leftOf (item : Nat) : CGFloat := rightOf ctx size item - tagWidth ctx size item

/-- The top of an item. A line lies below the one before it by the height of its own first item
and the line spacing. -/
def topOf : Nat → CGFloat
  | 0 => 0
  | item + 1 =>
      if lineOf ctx size (item + 1) = lineOf ctx size item then topOf item
      else topOf item + (tagHeight size (item + 1) + ctx.miniLineSpace)

/-- The bottom of an item. -/
def bottomOf (item : Nat) : CGFloat := topOf ctx size item + tagHeight size item

/-- The frame of an item. -/
def frameOf (item : Nat) : CGRect :=
  ⟨leftOf ctx size item, topOf ctx size item, tagWidth ctx size item, tagHeight size item⟩

/-- The attributes of the first items. -/
def framesOf (count : Nat) : List Attributes :=
  (List.range count).map fun item => ⟨⟨.cell, ⟨0, item⟩⟩, frameOf ctx size item⟩

/-- The state stands where the loop of `prepareLayout` reaches the item. -/
def Stands (state : State) : Nat → Prop
  | 0 => state.lastShowToY = 0
  | item + 1 => state.lastShowToX = rightOf ctx size item ∧ state.lastShowToY = topOf ctx size item

/-- The lines that are started by placing an item. -/
def newLines : Nat → Nat
  | 0 => 0
  | item + 1 => lineOf ctx size (item + 1) - lineOf ctx size item

/-- The state after an item has been placed. -/
def placed (item : Nat) (state : State) : State :=
  { state with
    lastShowToX := rightOf ctx size item
    lastShowToY := topOf ctx size item
    showLineIndex := state.showLineIndex + newLines ctx size item
    showToLargeY := bottomOf ctx size item }

end Places

variable {ctx : Context} {size : IndexPath → CGSize}

/-- The right edge of the frame is the right edge of the tag. -/
theorem frame_of_max_x (item : Nat) : (frameOf ctx size item).maxX = rightOf ctx size item :=
  sub_add_cancel _ _

/-- No tag is wider than the collection view. -/
theorem tag_width_le (ctx : Context) (size : IndexPath → CGSize) (item : Nat) :
    tagWidth ctx size item ≤ ctx.collectionWidth :=
  min_le_right _ _

/-- The first tag is on the first line. -/
theorem line_of_zero : lineOf ctx size 0 = 0 := rfl

/-- The first tag is at the left edge. -/
theorem left_of_zero : leftOf ctx size 0 = 0 := sub_self _

/-- The next tag is on the same line or on the next one. -/
theorem line_of_succ (ctx : Context) (size : IndexPath → CGSize) (item : Nat) :
    lineOf ctx size (item + 1) = lineOf ctx size item ∨
      lineOf ctx size (item + 1) = lineOf ctx size item + 1 :=
  first_fit_line_succ _ _ _ item

/-- The next item continues the line, or it starts a line that it would otherwise cross. -/
theorem place_of_succ (ctx : Context) (size : IndexPath → CGSize) (item : Nat) :
    (rightOf ctx size item + ctx.miniItemSpace + tagWidth ctx size (item + 1) ≤
        ctx.collectionWidth ∧
      lineOf ctx size (item + 1) = lineOf ctx size item ∧
      leftOf ctx size (item + 1) = rightOf ctx size item + ctx.miniItemSpace) ∨
    (ctx.collectionWidth <
        rightOf ctx size item + ctx.miniItemSpace + tagWidth ctx size (item + 1) ∧
      lineOf ctx size (item + 1) = lineOf ctx size item + 1 ∧
      leftOf ctx size (item + 1) = 0) := by
  rcases le_or_gt (rightOf ctx size item + ctx.miniItemSpace + tagWidth ctx size (item + 1))
    ctx.collectionWidth with h | h
  · obtain ⟨hline, hedge⟩ := first_fit_of_fits h
    refine .inl ⟨h, hline, ?_⟩
    rw [leftOf, rightOf, hedge]
    exact add_sub_cancel_right _ _
  · obtain ⟨hline, hedge⟩ := first_fit_of_overflow h
    refine .inr ⟨h, hline, ?_⟩
    rw [leftOf, rightOf, hedge]
    exact sub_self _

/-! ## One item -/

/-- The step lemma: in a state that stands at an item, the item gets its place. -/
theorem layout_item_of_stands {state : State} {item : Nat}
    (hsize : state.delegate.bind Delegate.sizeForItemAtIndexPath = some size)
    (h : Stands ctx size state item) :
    layoutAttributesForItem ctx ⟨0, item⟩ state =
      (some ⟨⟨.cell, ⟨0, item⟩⟩, frameOf ctx size item⟩, placed ctx size item state) := by
  rw [layoutAttributesForItem, hsize]
  cases item with
  | zero =>
      have hfits : ¬ ctx.collectionWidth < min (size ⟨0, 0⟩).width ctx.collectionWidth :=
        not_lt.mpr (min_le_right _ _)
      have hy : state.lastShowToY = 0 := h
      simp only [if_true, zero_add, if_neg hfits, frameOf, placed, left_of_zero, newLines, hy,
        bottomOf, tagWidth, tagHeight, topOf, rightOf, firstFitEdge, firstFit, add_zero]
  | succ item =>
      obtain ⟨hx, hy⟩ := h
      have hright : rightOf ctx size (item + 1) =
          leftOf ctx size (item + 1) + tagWidth ctx size (item + 1) := (sub_add_cancel _ _).symm
      rcases place_of_succ ctx size item with ⟨hfits, hline, hleft⟩ | ⟨hcross, hline, hleft⟩
      · rw [← not_lt, tagWidth] at hfits
        simp only [Nat.succ_ne_zero, if_false, hx, if_neg hfits, frameOf, placed, hleft, newLines,
          hy, bottomOf, topOf, hline, if_true, hright, tagHeight, Nat.sub_self, add_zero,
          tagWidth]
      · rw [tagWidth] at hcross
        have hnew : lineOf ctx size item + 1 ≠ lineOf ctx size item := by omega
        simp only [Nat.succ_ne_zero, if_false, hx, if_pos hcross, frameOf, placed, hleft, newLines,
          hy, bottomOf, topOf, hline, hnew, hright, tagHeight, Nat.add_sub_cancel_left, zero_add,
          tagWidth]

/-! ## The loop -/

/-- The state of the loop after the first items, all of them within the line limit. -/
def after (ctx : Context) (size : IndexPath → CGSize) (state : State) : Nat → State
  | 0 => state
  | item + 1 =>
      { state with
        attrsArray := framesOf ctx size (item + 1)
        lastShowToX := rightOf ctx size item
        lastShowToY := topOf ctx size item
        showLineIndex := lineOf ctx size item
        showToLargeY := bottomOf ctx size item }

/-- The next item adds its frame. -/
theorem frames_of_succ (count : Nat) :
    framesOf ctx size (count + 1) = framesOf ctx size count ++
      [⟨⟨.cell, ⟨0, count⟩⟩, frameOf ctx size count⟩] := by
  simp [framesOf, List.range_succ]

/-- The state in which the loop starts. -/
structure Starts (size : IndexPath → CGSize) (state : State) : Prop where
  delegate : state.delegate.bind Delegate.sizeForItemAtIndexPath = some size
  attrs : state.attrsArray = []
  y : state.lastShowToY = 0
  line : state.showLineIndex = 0

/-- A layout that has been reset starts from nothing. -/
theorem starts_reset (state : State)
    (hsize : ctx.delegate.bind Delegate.sizeForItemAtIndexPath = some size) :
    Starts size (reset ctx state) :=
  ⟨hsize, rfl, rfl, rfl⟩

/-- What the loop does with the next item. -/
theorem layout_item_after {state : State} (h : Starts size state) (item : Nat) :
    layoutAttributesForItem ctx ⟨0, item⟩ (after ctx size state item) =
      (some ⟨⟨.cell, ⟨0, item⟩⟩, frameOf ctx size item⟩,
        { after ctx size state (item + 1) with attrsArray := framesOf ctx size item }) := by
  cases item with
  | zero =>
      have hstands : Stands ctx size state 0 := h.y
      rw [after, layout_item_of_stands h.delegate hstands]
      simp only [placed, after, newLines, h.line, line_of_zero, framesOf, List.range_zero,
        List.map_nil, ← h.attrs, add_zero]
  | succ item =>
      have hdelegate : (after ctx size state (item + 1)).delegate.bind
        Delegate.sizeForItemAtIndexPath = some size := h.delegate
      have hstands : Stands ctx size (after ctx size state (item + 1)) (item + 1) := ⟨rfl, rfl⟩
      have hline := line_of_succ ctx size item
      have hnew : lineOf ctx size item + newLines ctx size (item + 1) =
          lineOf ctx size (item + 1) := by
        rw [newLines]
        omega
      rw [layout_item_of_stands hdelegate hstands]
      simp only [placed, after, hnew]

/-- Items within the line limit are kept. -/
theorem place_items_within_limit {state : State} (h : Starts size state) (rest : List Nat)
    (count : Nat) (hlimit : ∀ item < count, (lineOf ctx size item : Int) < ctx.maxLineNum) :
    placeItems ctx (List.range count ++ rest) state =
      placeItems ctx rest (after ctx size state count) := by
  induction count generalizing rest with
  | zero => rfl
  | succ count ih =>
      rw [List.range_succ, List.append_assoc, ih _ fun item hitem => hlimit item (by omega),
        List.singleton_append, placeItems, layout_item_after h]
      have hbelow : ¬ ctx.maxLineNum ≤ (lineOf ctx size count : Int) :=
        not_le.mpr (hlimit count (by omega))
      simp only [after, if_neg hbelow, Option.toList_some, ← frames_of_succ]

/-- The first item beyond the line limit is placed but not kept. -/
theorem place_items_first {state : State} (h : Starts size state) (rest : List Nat)
    {first : Nat} (hlimit : ∀ item < first, (lineOf ctx size item : Int) < ctx.maxLineNum)
    (hfirst : ctx.maxLineNum ≤ lineOf ctx size first) :
    placeItems ctx (List.range first ++ first :: rest) state =
      { after ctx size state (first + 1) with attrsArray := framesOf ctx size first } := by
  rw [place_items_within_limit h _ first hlimit, placeItems, layout_item_after h]
  exact if_pos hfirst

/-! ## `prepareLayout` -/

/-- The last call of `prepareLayout` only tells the delegate a height. -/
theorem show_height_eq (state : State) :
    ∃ shown, showHeight state = { state with shownHeights := shown } := by
  unfold showHeight
  split
  · split
    · exact ⟨_, rfl⟩
    · exact ⟨state.shownHeights, rfl⟩
  · exact ⟨state.shownHeights, rfl⟩

/-- Telling the delegate leaves the attributes. -/
@[simp] theorem show_height_attrs (state : State) :
    (showHeight state).attrsArray = state.attrsArray := by
  obtain ⟨shown, hshown⟩ := show_height_eq state
  rw [hshown]

/-- Telling the delegate leaves the height. -/
@[simp] theorem show_height_large_y (state : State) :
    (showHeight state).showToLargeY = state.showToLargeY := by
  obtain ⟨shown, hshown⟩ := show_height_eq state
  rw [hshown]

/-- Telling the delegate leaves the delegate. -/
@[simp] theorem show_height_delegate (state : State) :
    (showHeight state).delegate = state.delegate := by
  obtain ⟨shown, hshown⟩ := show_height_eq state
  rw [hshown]

/-- Telling the delegate leaves the line. -/
@[simp] theorem show_height_line (state : State) :
    (showHeight state).showLineIndex = state.showLineIndex := by
  obtain ⟨shown, hshown⟩ := show_height_eq state
  rw [hshown]

section Prepare

variable (state : State)
  (hsize : ctx.delegate.bind Delegate.sizeForItemAtIndexPath = some size)
include hsize

/-- All items are kept if the last one is within the line limit. -/
theorem prepare_layout_of_lt (hitems : 0 < ctx.numberOfItems)
    (hlimit : (lineOf ctx size (ctx.numberOfItems - 1) : Int) < ctx.maxLineNum) :
    prepareLayout ctx state =
      showHeight (after ctx size (reset ctx state) ctx.numberOfItems) := by
  have hall : ∀ item < ctx.numberOfItems, (lineOf ctx size item : Int) < ctx.maxLineNum := by
    intro item hitem
    have hmono : lineOf ctx size item ≤ lineOf ctx size (ctx.numberOfItems - 1) :=
      first_fit_line_mono _ _ _ (by omega)
    omega
  have hloop := place_items_within_limit (starts_reset state hsize) [] ctx.numberOfItems hall
  rw [List.append_nil] at hloop
  rw [prepareLayout, if_neg (by omega), hloop]
  rfl

/-- Beyond the line limit the items before the first one outside are kept, and the place is that
after the first one outside. -/
theorem prepare_layout_of_first {first : Nat} (hfirst : first < ctx.numberOfItems)
    (hinside : ∀ item < first, (lineOf ctx size item : Int) < ctx.maxLineNum)
    (houtside : ctx.maxLineNum ≤ lineOf ctx size first) :
    prepareLayout ctx state = showHeight
      { after ctx size (reset ctx state) (first + 1) with
        attrsArray := framesOf ctx size first } := by
  obtain ⟨rest, hrange⟩ : ∃ rest, List.range ctx.numberOfItems =
      List.range first ++ first :: rest := by
    obtain ⟨later, hlater⟩ := Nat.exists_eq_add_of_lt hfirst
    rw [hlater, Nat.add_assoc, List.range_add, List.range_succ_eq_map, List.map_cons]
    exact ⟨_, rfl⟩
  rw [prepareLayout, if_neg (by omega), hrange,
    place_items_first (starts_reset state hsize) _ hinside houtside]

/-- Without a line limit every item is kept. -/
theorem prepare_layout_of_no_limit (hitems : 0 < ctx.numberOfItems)
    (hlimit : ctx.storedMaxLineNum ≤ 0) :
    prepareLayout ctx state =
      showHeight (after ctx size (reset ctx state) ctx.numberOfItems) := by
  refine prepare_layout_of_lt state hsize hitems ?_
  have hline : lineOf ctx size (ctx.numberOfItems - 1) ≤ ctx.numberOfItems - 1 :=
    first_fit_line_le _ _ _ _
  have hitemsLe := ctx.items_le
  rw [Context.maxLineNum, if_neg (by omega)]
  omega

omit hsize in
/-- Without items nothing is placed. -/
theorem prepare_layout_of_no_items (hitems : ctx.numberOfItems = 0) :
    prepareLayout ctx state = reset ctx state := by
  rw [prepareLayout, if_pos hitems]

end Prepare

/-! ## What a finished layout holds -/

/-- After some turns of the loop the attributes are the frames of the items so far. -/
theorem after_attrs {state : State} (hattrs : state.attrsArray = []) (count : Nat) :
    (after ctx size state count).attrsArray = framesOf ctx size count := by
  cases count with
  | zero => exact hattrs
  | succ count => rfl

/-- After some turns of the loop the line is that of the last item. -/
theorem after_line {count : Nat} (hcount : 0 < count) (state : State) :
    (after ctx size state count).showLineIndex = lineOf ctx size (count - 1) := by
  cases count with
  | zero => omega
  | succ count => rfl

/-- After some turns of the loop the height is the bottom of the last item. -/
theorem after_large_y {count : Nat} (hcount : 0 < count) (state : State) :
    (after ctx size state count).showToLargeY = bottomOf ctx size (count - 1) := by
  cases count with
  | zero => omega
  | succ count => rfl

/-- The turns of the loop tell the delegate nothing. -/
theorem after_shown (state : State) (count : Nat) :
    (after ctx size state count).shownHeights = state.shownHeights := by
  cases count with
  | zero => rfl
  | succ count => rfl

/-- The turns of the loop leave the delegate. -/
theorem after_delegate (state : State) (count : Nat) :
    (after ctx size state count).delegate = state.delegate := by
  cases count with
  | zero => rfl
  | succ count => rfl

/-- Without a line limit the attributes are those of all items. -/
theorem prepare_layout_attrs (state : State)
    (hsize : ctx.delegate.bind Delegate.sizeForItemAtIndexPath = some size)
    (hlimit : ctx.storedMaxLineNum ≤ 0) :
    (prepareLayout ctx state).attrsArray = framesOf ctx size ctx.numberOfItems := by
  rcases Nat.eq_zero_or_pos ctx.numberOfItems with hitems | hitems
  · rw [prepare_layout_of_no_items state hitems, hitems]
    rfl
  · rw [prepare_layout_of_no_limit state hsize hitems hlimit, show_height_attrs]
    exact after_attrs rfl _

end Component.FlexibleLayout

import Component.FlexibleLayout.Placement

/-!
# Lines of items of one height

With a common height the lines of the flexible layout are evenly spaced, frames do not overlap, and
the number of lines is the least possible (`line_breaking`). With a line limit the right items are
kept, but the loop has moved on to the first item beyond the limit when it tests the limit, so the
content height includes a line that is not shown. `line_limit_kept_iff` says when that makes no
difference.
-/

namespace Component.FlexibleLayout

open Component.Lib.LineBreaking

variable {ctx : Context} {size : IndexPath → CGSize}

/-! ## Places on a line -/

/-- The width of a tag is not negative. -/
theorem tag_width_nonneg {item : Nat} (hwidth : 0 ≤ (size ⟨0, item⟩).width)
    (hcollection : 0 ≤ ctx.collectionWidth) : 0 ≤ tagWidth ctx size item :=
  le_min hwidth hcollection

/-- The left edge of a tag is not to the right of its right edge. -/
theorem left_le_right {item : Nat} (h : 0 ≤ tagWidth ctx size item) :
    leftOf ctx size item ≤ rightOf ctx size item :=
  sub_le_self _ h

/-- No item crosses the right edge of the collection view. -/
theorem right_of_le (ctx : Context) (size : IndexPath → CGSize) (item : Nat) :
    rightOf ctx size item ≤ ctx.collectionWidth := by
  have hbreaking : IsBreaking ctx.collectionWidth ctx.miniItemSpace (tagWidth ctx size) (item + 1)
      (lineOf ctx size) :=
    first_fit_is_breaking fun item _ => tag_width_le ctx size item
  have hfits := hbreaking.fits item (Nat.lt_succ_self item)
  exact (right_edge_first_fit _ _ _ item).symm.trans_le hfits

section Count

variable {count : Nat} (hspace : 0 ≤ ctx.miniItemSpace)
  (htags : ∀ item < count, 0 ≤ tagWidth ctx size item)
include hspace htags

/-- No tag begins to the left of the first one. -/
theorem left_of_nonneg {item : Nat} (hitem : item < count) : 0 ≤ leftOf ctx size item := by
  induction item with
  | zero => exact left_of_zero.ge
  | succ item ih =>
      have hright := (ih (by omega)).trans (left_le_right (htags item (by omega)))
      rcases place_of_succ ctx size item with ⟨_, _, hleft⟩ | ⟨_, _, hleft⟩
      · rw [hleft]
        exact add_nonneg hright hspace
      · exact hleft.ge

/-- Of two items on a line the later one is to the right. -/
theorem right_le_left {first second : Nat} (hlt : first < second) (hsecond : second < count)
    (hline : lineOf ctx size first = lineOf ctx size second) :
    rightOf ctx size first ≤ leftOf ctx size second := by
  induction second with
  | zero => omega
  | succ second ih =>
      have hupper : lineOf ctx size second ≤ lineOf ctx size (second + 1) :=
        first_fit_line_mono _ _ _ (by omega)
      have hlower : lineOf ctx size first ≤ lineOf ctx size second :=
        first_fit_line_mono _ _ _ (by omega)
      rcases place_of_succ ctx size second with ⟨_, hsame, hleft⟩ | ⟨_, hnext, _⟩
      · have hstep : rightOf ctx size second ≤ leftOf ctx size (second + 1) := by
          rw [hleft]
          exact le_add_of_nonneg_right hspace
        rcases Nat.lt_or_ge first second with h | h
        · exact (ih h (by omega) (by omega)).trans
            ((left_le_right (htags second (by omega))).trans hstep)
        · obtain rfl : first = second := by omega
          exact hstep
      · omega

end Count

/-- Lines of items of one height are evenly spaced. -/
theorem top_of_eq {count : Nat} {height : CGFloat}
    (hheight : ∀ item < count, tagHeight size item = height) {item : Nat} (hitem : item < count) :
    topOf ctx size item = lineOf ctx size item * (height + ctx.miniLineSpace) := by
  induction item with
  | zero => simp [topOf, line_of_zero]
  | succ item ih =>
      rw [topOf]
      rcases place_of_succ ctx size item with ⟨_, hline, _⟩ | ⟨_, hline, _⟩
      · rw [if_pos hline, hline]
        exact ih (by omega)
      · rw [if_neg (by omega), hline, ih (by omega), hheight (item + 1) hitem, Nat.cast_add_one]
        ring

/-! ## Without a line limit -/

/-- Two items of one height do not overlap: they are side by side on one line, or the later one
is on a lower line. -/
theorem frame_of_disjoint {count : Nat} {height : CGFloat} (hspace : 0 ≤ ctx.miniItemSpace)
    (htags : ∀ item < count, 0 ≤ tagWidth ctx size item)
    (hheight : ∀ item < count, tagHeight size item = height) (hnonneg : 0 ≤ height)
    (hlineSpace : 0 ≤ ctx.miniLineSpace) {first second : Nat} (hlt : first < second)
    (hsecond : second < count) :
    (frameOf ctx size first).InteriorsDisjoint (frameOf ctx size second) := by
  have hmono : lineOf ctx size first ≤ lineOf ctx size second :=
    first_fit_line_mono _ _ _ hlt.le
  rcases Nat.eq_or_lt_of_le hmono with hline | hline
  · refine CGRect.InteriorsDisjoint.of_left ?_
    rw [frame_of_max_x]
    exact right_le_left hspace htags hlt hsecond hline
  · refine CGRect.InteriorsDisjoint.of_above ?_
    show topOf ctx size first + tagHeight size first ≤ topOf ctx size second
    rw [top_of_eq hheight (by omega : first < count), top_of_eq hheight hsecond,
      hheight first (by omega)]
    have hnext : (lineOf ctx size first : CGFloat) + 1 ≤ lineOf ctx size second := by
      exact_mod_cast hline
    have hscaled := mul_le_mul_of_nonneg_right hnext (add_nonneg hnonneg hlineSpace)
    linarith

/-- Line breaking of items of one height without a line limit. The items are kept in order, each
to the right of the one before it or at the left of the next line. Their frames do not overlap, lie
within the collection view's width, and are on lines spaced by the height and the line spacing. No
way of breaking the items into consecutive lines that fit uses fewer lines. -/
theorem line_breaking (ctx : Context) (size : IndexPath → CGSize)
    (hsize : ctx.delegate.bind Delegate.sizeForItemAtIndexPath = some size)
    (hlimit : ctx.storedMaxLineNum ≤ 0) (height : CGFloat)
    (hheight : ∀ item < ctx.numberOfItems, (size ⟨0, item⟩).height = height)
    (hwidth : ∀ item < ctx.numberOfItems, 0 ≤ (size ⟨0, item⟩).width)
    (hnonneg : 0 ≤ height) (hspace : 0 ≤ ctx.miniItemSpace)
    (hlineSpace : 0 ≤ ctx.miniLineSpace) (hcollection : 0 ≤ ctx.collectionWidth)
    (state : State) :
    let result := prepareLayout ctx state
    ∃ (frame : Nat → CGRect) (line : Nat → Nat),
      result.attrsArray = (List.range ctx.numberOfItems).map
        (fun item => ⟨⟨.cell, ⟨0, item⟩⟩, frame item⟩) ∧
      (∀ first second, first < second → second < ctx.numberOfItems →
        (frame first).InteriorsDisjoint (frame second)) ∧
      (∀ item < ctx.numberOfItems, 0 ≤ (frame item).x ∧
        (frame item).maxX ≤ ctx.collectionWidth ∧
        (frame item).width = min (size ⟨0, item⟩).width ctx.collectionWidth ∧
        (frame item).height = height ∧
        (frame item).y = line item * (height + ctx.miniLineSpace)) ∧
      line 0 = 0 ∧ (frame 0).x = 0 ∧
      (∀ item, item + 1 < ctx.numberOfItems →
        (line (item + 1) = line item ∧
          (frame (item + 1)).x = (frame item).maxX + ctx.miniItemSpace) ∨
        (line (item + 1) = line item + 1 ∧ (frame (item + 1)).x = 0)) ∧
      (0 < ctx.numberOfItems → line (ctx.numberOfItems - 1) = result.showLineIndex ∧
        IsLeast {lines | ∃ other, IsBreaking ctx.collectionWidth ctx.miniItemSpace
            (fun item => min (size ⟨0, item⟩).width ctx.collectionWidth) ctx.numberOfItems other ∧
          lines = other (ctx.numberOfItems - 1) + 1} (result.showLineIndex + 1)) := by
  intro result
  have htags : ∀ item < ctx.numberOfItems, 0 ≤ tagWidth ctx size item :=
    fun item hitem => tag_width_nonneg (hwidth item hitem) hcollection
  refine ⟨frameOf ctx size, lineOf ctx size, ?_, ?_, ?_, rfl, left_of_zero, ?_, ?_⟩
  · exact prepare_layout_attrs state hsize hlimit
  · intro first second hlt hsecond
    exact frame_of_disjoint hspace htags hheight hnonneg hlineSpace hlt hsecond
  · intro item hitem
    exact ⟨left_of_nonneg hspace htags hitem,
      (frame_of_max_x item).trans_le (right_of_le ctx size item), rfl, hheight item hitem,
      top_of_eq hheight hitem⟩
  · intro item _
    rcases place_of_succ ctx size item with ⟨_, hline, hleft⟩ | ⟨_, hline, hleft⟩
    · refine .inl ⟨hline, ?_⟩
      rw [frame_of_max_x]
      exact hleft
    · exact .inr ⟨hline, hleft⟩
  · intro hitems
    have hresult : result.showLineIndex = lineOf ctx size (ctx.numberOfItems - 1) := by
      rw [show result = _ from prepare_layout_of_no_limit state hsize hitems hlimit,
        show_height_line]
      exact after_line hitems _
    rw [hresult]
    exact ⟨rfl, first_fit_is_least hspace htags (fun item _ => tag_width_le ctx size item) hitems⟩

/-- Four items of one height, the last one wider than the collection view. -/
def tagSizes (path : IndexPath) : CGSize :=
  ⟨if path.item = 3 then 120 else 40, 10⟩

/-- A collection view of width 100 without a line limit. -/
def tagContext : Context where
  miniItemSpace := 5
  miniLineSpace := 2
  storedMaxLineNum := 0
  collectionWidth := 100
  numberOfItems := 4
  delegate := some { sizeForItemAtIndexPath := some tagSizes, respondsToShowHeight := true }
  items_le := by decide

/-- The tags of the sample are broken into the least number of lines. -/
theorem line_breaking_sample :
    (∀ item < tagContext.numberOfItems, (tagSizes ⟨0, item⟩).height = 10) ∧
    (∀ item < tagContext.numberOfItems, 0 ≤ (tagSizes ⟨0, item⟩).width) ∧
    IsLeast {lines | ∃ other, IsBreaking tagContext.collectionWidth tagContext.miniItemSpace
        (fun item => min (tagSizes ⟨0, item⟩).width tagContext.collectionWidth)
        tagContext.numberOfItems other ∧
      lines = other (tagContext.numberOfItems - 1) + 1}
      ((prepareLayout tagContext State.fresh).showLineIndex + 1) := by
  have hheight : ∀ item < tagContext.numberOfItems, (tagSizes ⟨0, item⟩).height = 10 := by
    decide +kernel
  have hwidth : ∀ item < tagContext.numberOfItems, 0 ≤ (tagSizes ⟨0, item⟩).width := by
    decide +kernel
  obtain ⟨frame, line, _, _, _, _, _, _, hlines⟩ := line_breaking tagContext tagSizes rfl
    (by decide) 10 hheight hwidth (by decide +kernel) (by decide +kernel) (by decide +kernel)
    (by decide +kernel) State.fresh
  exact ⟨hheight, hwidth, (hlines (by decide)).2⟩

/-! ## With a line limit -/

/-- What the line limit promises: `prepareLayout` keeps the items that the unlimited layout puts on
the first lines, with the same frames, and the content height and the height that is shown are the
bottom of the last kept line. -/
structure LineLimitKept (ctx : Context) (size : IndexPath → CGSize) (state : State) : Prop where
  kept : (prepareLayout ctx state).attrsArray =
    (prepareLayout { ctx with storedMaxLineNum := 0 } state).attrsArray.filter fun attrs =>
      (lineOf ctx size attrs.indexPath.item : Int) < ctx.storedMaxLineNum
  height : ∀ last, (prepareLayout ctx state).attrsArray.getLast? = some last →
    (collectionViewContentSize ctx (prepareLayout ctx state)).height = last.frame.maxY ∧
    ∀ delegate, ctx.delegate = some delegate → delegate.respondsToShowHeight →
      (prepareLayout ctx state).shownHeights = state.shownHeights ++ [last.frame.maxY]

/-- The last frame is that of the last item. -/
theorem frames_of_last (ctx : Context) (size : IndexPath → CGSize) (count : Nat) :
    (framesOf ctx size (count + 1)).getLast? =
      some ⟨⟨.cell, ⟨0, count⟩⟩, frameOf ctx size count⟩ := by
  rw [frames_of_succ, List.getLast?_concat]

/-- A condition that holds up to an item and not from there on selects the items before it. -/
theorem frames_of_filter (keeps : Nat → Bool) {kept count : Nat} (hle : kept ≤ count)
    (hkeeps : ∀ item < count, keeps item = true ↔ item < kept) :
    (framesOf ctx size count).filter (fun attrs => keeps attrs.indexPath.item) =
      framesOf ctx size kept := by
  induction hle with
  | refl =>
      rw [List.filter_eq_self]
      intro attrs hattrs
      obtain ⟨item, hitem, rfl⟩ := List.mem_map.mp hattrs
      exact (hkeeps item (List.mem_range.mp hitem)).mpr (List.mem_range.mp hitem)
  | @step count hle ih =>
      have hout : ¬ keeps count = true := by
        rw [hkeeps count (Nat.lt_succ_self count)]
        exact not_lt.mpr hle
      rw [frames_of_succ, List.filter_append, ih fun item hitem => hkeeps item (by omega)]
      simp [hout]

/-- A delegate that wants to know is told the height. -/
theorem show_height_shown {state : State} {delegate : Delegate}
    (hdelegate : state.delegate = some delegate) (hresponds : delegate.respondsToShowHeight) :
    (showHeight state).shownHeights = state.shownHeights ++ [state.showToLargeY] := by
  rw [showHeight, hdelegate]
  exact congrArg State.shownHeights (if_pos hresponds)

/-- The line limit has no influence on the places. -/
theorem top_of_limit (ctx : Context) (size : IndexPath → CGSize) (limit : Int) (item : Nat) :
    topOf { ctx with storedMaxLineNum := limit } size item = topOf ctx size item := by
  induction item with
  | zero => rfl
  | succ item ih =>
      rw [topOf, topOf, ih]
      rfl

/-- The unlimited layout keeps all items. -/
theorem unlimited_attrs (state : State)
    (hsize : ctx.delegate.bind Delegate.sizeForItemAtIndexPath = some size) :
    (prepareLayout { ctx with storedMaxLineNum := 0 } state).attrsArray =
      framesOf ctx size ctx.numberOfItems := by
  have hunlimited : (prepareLayout { ctx with storedMaxLineNum := 0 } state).attrsArray =
      framesOf { ctx with storedMaxLineNum := 0 } size ctx.numberOfItems :=
    prepare_layout_attrs state hsize le_rfl
  rw [hunlimited, framesOf, framesOf]
  refine List.map_congr_left ?_
  intro item _
  rw [frameOf, top_of_limit]
  rfl

/-- The two cases of a line limit: all items are within it, or there is a first one on the line
after the last one allowed. -/
theorem line_limit_cases (ctx : Context) (size : IndexPath → CGSize)
    (hlimit : 1 ≤ ctx.storedMaxLineNum) (count : Nat) :
    (∀ item < count, (lineOf ctx size item : Int) < ctx.storedMaxLineNum) ∨
    ∃ last, last + 1 < count ∧
      (∀ item ≤ last, (lineOf ctx size item : Int) < ctx.storedMaxLineNum) ∧
      (∀ item, last < item → ctx.storedMaxLineNum ≤ lineOf ctx size item) ∧
      lineOf ctx size (last + 1) = lineOf ctx size last + 1 := by
  induction count with
  | zero => exact .inl (by omega)
  | succ count ih =>
      rcases ih with hinside | ⟨last, hlast, hrest⟩
      · rcases lt_or_ge (lineOf ctx size count : Int) ctx.storedMaxLineNum with h | h
        · refine .inl ?_
          intro item hitem
          rcases Nat.lt_succ_iff_lt_or_eq.mp hitem with hlt | rfl
          · exact hinside item hlt
          · exact h
        · cases count with
          | zero =>
              have hzero : lineOf ctx size 0 = 0 := line_of_zero
              omega
          | succ last =>
              have hlast := hinside last (by omega)
              have hline := line_of_succ ctx size last
              refine .inr ⟨last, by omega, fun item hitem => hinside item (by omega), ?_, by omega⟩
              intro item hitem
              have hmono : lineOf ctx size (last + 1) ≤ lineOf ctx size item :=
                first_fit_line_mono _ _ _ hitem
              omega
      · exact .inr ⟨last, by omega, hrest⟩

section Limit

variable (state : State)
  (hsize : ctx.delegate.bind Delegate.sizeForItemAtIndexPath = some size)
  (hlimit : 1 ≤ ctx.storedMaxLineNum)
include hsize hlimit

/-- If all items are within the limit, the layout is the unlimited one. -/
theorem line_limit_kept_of_inside
    (hinside : ∀ item < ctx.numberOfItems, (lineOf ctx size item : Int) < ctx.storedMaxLineNum) :
    LineLimitKept ctx size state := by
  have hmax : ctx.maxLineNum = ctx.storedMaxLineNum := if_pos (by omega)
  have hkept : (framesOf ctx size ctx.numberOfItems).filter (fun attrs =>
      (lineOf ctx size attrs.indexPath.item : Int) < ctx.storedMaxLineNum) =
      framesOf ctx size ctx.numberOfItems :=
    frames_of_filter (fun item => (lineOf ctx size item : Int) < ctx.storedMaxLineNum)
      le_rfl fun item hitem => by simp [hinside item hitem, hitem]
  rcases Nat.eq_zero_or_pos ctx.numberOfItems with hitems | hitems
  · have hresult := prepare_layout_of_no_items state hitems
    constructor
    · rw [unlimited_attrs state hsize, hkept, hresult, hitems]
      rfl
    · rw [hresult]
      intro last hlast
      exact absurd hlast (by simp [reset])
  · have hresult := prepare_layout_of_lt state hsize hitems
      (by rw [hmax]; exact hinside _ (by omega))
    have hattrs : (prepareLayout ctx state).attrsArray = framesOf ctx size ctx.numberOfItems := by
      rw [hresult, show_height_attrs]
      exact after_attrs rfl _
    have hbottom : (frameOf ctx size (ctx.numberOfItems - 1)).maxY =
      (after ctx size (reset ctx state) ctx.numberOfItems).showToLargeY :=
      (after_large_y hitems _).symm
    constructor
    · rw [unlimited_attrs state hsize, hkept, hattrs]
    · intro last hlast
      have hcount : ctx.numberOfItems - 1 + 1 = ctx.numberOfItems := by omega
      rw [hattrs, ← hcount, frames_of_last, Option.some.injEq] at hlast
      subst hlast
      refine ⟨?_, ?_⟩
      · rw [collectionViewContentSize, hresult, show_height_large_y, hbottom]
      · intro delegate hdelegate hresponds
        rw [hresult, show_height_shown ((after_delegate _ _).trans hdelegate) hresponds,
          after_shown, hbottom]
        rfl

/-- If an item is outside the limit, the kept items are right, and the heights are those of a line
further down. -/
theorem line_limit_kept_iff_of_outside {height : CGFloat}
    (hheight : ∀ item < ctx.numberOfItems, tagHeight size item = height) {last : Nat}
    (hlast : last + 1 < ctx.numberOfItems)
    (hinside : ∀ item ≤ last, (lineOf ctx size item : Int) < ctx.storedMaxLineNum)
    (houtside : ∀ item, last < item → ctx.storedMaxLineNum ≤ lineOf ctx size item)
    (hline : lineOf ctx size (last + 1) = lineOf ctx size last + 1) :
    LineLimitKept ctx size state ↔ height + ctx.miniLineSpace = 0 := by
  have hmax : ctx.maxLineNum = ctx.storedMaxLineNum := if_pos (by omega)
  have hresult := prepare_layout_of_first state hsize hlast
    (fun item hitem => hmax ▸ hinside item (by omega)) (hmax ▸ houtside _ (by omega))
  have hattrs : (prepareLayout ctx state).attrsArray = framesOf ctx size (last + 1) := by
    rw [hresult, show_height_attrs]
  have hkept : (framesOf ctx size ctx.numberOfItems).filter (fun attrs =>
      (lineOf ctx size attrs.indexPath.item : Int) < ctx.storedMaxLineNum) =
      framesOf ctx size (last + 1) := by
    refine frames_of_filter (fun item => (lineOf ctx size item : Int) < ctx.storedMaxLineNum)
      (by omega) ?_
    intro item _
    rw [decide_eq_true_eq]
    rcases Nat.lt_or_ge last item with h | h
    · have := houtside item h
      omega
    · have := hinside item h
      omega
  have hcontent : (collectionViewContentSize ctx (prepareLayout ctx state)).height =
      bottomOf ctx size (last + 1) := by
    rw [collectionViewContentSize, hresult, show_height_large_y]
    rfl
  -- the rejected item is one line below the last kept one
  have hbelow : bottomOf ctx size (last + 1) =
      (frameOf ctx size last).maxY + (height + ctx.miniLineSpace) := by
    show topOf ctx size (last + 1) + tagHeight size (last + 1) =
      topOf ctx size last + tagHeight size last + (height + ctx.miniLineSpace)
    rw [topOf, if_neg (by omega), hheight (last + 1) hlast, hheight last (by omega)]
    ring
  constructor
  · intro hpromise
    have hlastHeight := (hpromise.height _ (by rw [hattrs, frames_of_last])).1
    rw [hcontent, hbelow] at hlastHeight
    exact add_eq_left.mp hlastHeight
  · intro hzero
    rw [hzero, add_zero] at hbelow
    constructor
    · rw [unlimited_attrs state hsize, hkept, hattrs]
    · intro shown hshown
      rw [hattrs, frames_of_last, Option.some.injEq] at hshown
      subst hshown
      refine ⟨hcontent.trans hbelow, ?_⟩
      intro delegate hdelegate hresponds
      rw [hresult, show_height_shown hdelegate hresponds]
      exact congrArg (fun bottom => state.shownHeights ++ [bottom]) hbelow

end Limit

/-- The line limit keeps its promise exactly if the items need no more lines than allowed, each line
taking as many items as fit, or if another line adds no height. For non-negative widths the first
means that the items can be broken into that many lines at all. -/
theorem line_limit_kept_iff (ctx : Context) (size : IndexPath → CGSize)
    (hsize : ctx.delegate.bind Delegate.sizeForItemAtIndexPath = some size)
    (hlimit : 1 ≤ ctx.storedMaxLineNum) (height : CGFloat)
    (hheight : ∀ item < ctx.numberOfItems, (size ⟨0, item⟩).height = height)
    (hspace : 0 ≤ ctx.miniItemSpace) (state : State) :
    let width := fun item => min (size ⟨0, item⟩).width ctx.collectionWidth
    let needed := firstFitLine ctx.collectionWidth ctx.miniItemSpace width (ctx.numberOfItems - 1)
    (LineLimitKept ctx size state ↔
      (needed : Int) + 1 ≤ ctx.storedMaxLineNum ∨ height + ctx.miniLineSpace = 0) ∧
    (0 < ctx.numberOfItems → (∀ item < ctx.numberOfItems, 0 ≤ width item) →
      ((needed : Int) + 1 ≤ ctx.storedMaxLineNum ↔
        ∃ line, IsBreaking ctx.collectionWidth ctx.miniItemSpace width ctx.numberOfItems line ∧
          (line (ctx.numberOfItems - 1) : Int) + 1 ≤ ctx.storedMaxLineNum)) := by
  intro width needed
  have hneeded : needed = lineOf ctx size (ctx.numberOfItems - 1) := rfl
  constructor
  · rcases line_limit_cases ctx size hlimit ctx.numberOfItems with
      hinside | ⟨last, hlast, hinside, houtside, hline⟩
    · refine iff_of_true (line_limit_kept_of_inside state hsize hlimit hinside) (.inl ?_)
      rcases Nat.eq_zero_or_pos ctx.numberOfItems with hitems | hitems
      · rw [hneeded, hitems]
        exact hlimit
      · exact hinside _ (by omega)
    · have houtsideLast := houtside (ctx.numberOfItems - 1) (by omega)
      rw [line_limit_kept_iff_of_outside state hsize hlimit hheight hlast hinside houtside hline,
        or_iff_right (by omega)]
  · intro hitems hwidth
    constructor
    · intro hlines
      exact ⟨_, first_fit_is_breaking fun item _ => min_le_right _ _, hlines⟩
    · rintro ⟨line, hline, hlines⟩
      have hahead := first_fit_stays_ahead hspace hwidth hline
        (show ctx.numberOfItems - 1 < ctx.numberOfItems by omega)
      omega

/-- The tags of the sample fit into three lines. -/
theorem line_limit_kept_iff_sample :
    (∀ item < tagContext.numberOfItems, (tagSizes ⟨0, item⟩).height = 10) ∧
    LineLimitKept { tagContext with storedMaxLineNum := 3 } tagSizes State.fresh := by
  have hheight : ∀ item < tagContext.numberOfItems, (tagSizes ⟨0, item⟩).height = 10 := by
    decide +kernel
  exact ⟨hheight, (line_limit_kept_iff { tagContext with storedMaxLineNum := 3 } tagSizes rfl
    (by decide) 10 hheight (by decide +kernel) State.fresh).1.mpr (.inl (by decide +kernel))⟩

/-- With a limit of one line, two of the four items are kept, and the content height and the height
shown include the line of the third one. -/
theorem line_limit_not_kept :
    (prepareLayout { tagContext with storedMaxLineNum := 1 } State.fresh).attrsArray.map
      Attributes.frame = [⟨0, 0, 40, 10⟩, ⟨45, 0, 40, 10⟩] ∧
    collectionViewContentSize { tagContext with storedMaxLineNum := 1 }
      (prepareLayout { tagContext with storedMaxLineNum := 1 } State.fresh) = ⟨100, 22⟩ ∧
    (prepareLayout { tagContext with storedMaxLineNum := 1 } State.fresh).shownHeights = [22] ∧
    ¬ LineLimitKept { tagContext with storedMaxLineNum := 1 } tagSizes State.fresh := by
  refine ⟨by decide +kernel, by decide +kernel, by decide +kernel, ?_⟩
  intro hpromise
  have hheight := (hpromise.height ⟨⟨.cell, ⟨0, 1⟩⟩, ⟨45, 0, 40, 10⟩⟩ (by decide +kernel)).1
  revert hheight
  decide +kernel

end Component.FlexibleLayout

import Component.FlexibleLayout.Lines

/-!
# Items of different heights

A new line is placed below the top of the line before it by the height of its own first item, and
the content height is the bottom of the last item, so items that are taller than the first item of
the next line can reach into that line or below the content. `HeightsAgree` is the condition on the
sizes under which neither happens, and `frames_kept_apart_iff` proves that it is exact.
-/

namespace Component.FlexibleLayout

open Component.Lib.LineBreaking

section Condition

variable (ctx : Context) (size : IndexPath → CGSize)

/-- The item is the first one of a line after the first line. -/
def StartsLine (item : Nat) : Prop := lineOf ctx size (item - 1) < lineOf ctx size item

instance (item : Nat) : Decidable (StartsLine ctx size item) :=
  inferInstanceAs (Decidable (_ < _))

/-- The heights of the first items of the lines that start after `first` and up to `second`, with
the line spacing. -/
def stepsBetween (first second : Nat) : CGFloat :=
  ∑ item ∈ (Finset.Ioc first second).filter (StartsLine ctx size),
    (tagHeight size item + ctx.miniLineSpace)

/-- The horizontal extents of two items overlap. -/
def SpansOverlap (first second : Nat) : Prop :=
  max (leftOf ctx size first) (leftOf ctx size second) <
    min (rightOf ctx size first) (rightOf ctx size second)

/-- No item is taller than the first items of the lines between it and an item below it, or than
these and the last item of all. -/
structure HeightsAgree : Prop where
  above : ∀ first second, first < second → second < ctx.numberOfItems →
    lineOf ctx size first < lineOf ctx size second → SpansOverlap ctx size first second →
    0 < tagHeight size second → tagHeight size first ≤ stepsBetween ctx size first second
  bottom : ∀ item < ctx.numberOfItems, tagHeight size item ≤
    stepsBetween ctx size item (ctx.numberOfItems - 1) + tagHeight size (ctx.numberOfItems - 1)

end Condition

/-- The frames do not overlap, and none of them reaches below the content. -/
structure FramesKeptApart (ctx : Context) (state : State) : Prop where
  apart : (prepareLayout ctx state).attrsArray.Pairwise fun first second =>
    first.frame.InteriorsDisjoint second.frame
  inside : ∀ attrs ∈ (prepareLayout ctx state).attrsArray,
    attrs.frame.maxY ≤ (collectionViewContentSize ctx (prepareLayout ctx state)).height

variable {ctx : Context} {size : IndexPath → CGSize}

/-- There is no step from an item to itself. -/
theorem steps_between_self (item : Nat) : stepsBetween ctx size item item = 0 := by
  simp [stepsBetween]

/-- The next item adds a step just when it starts a line. -/
theorem steps_between_succ {first second : Nat} (hle : first ≤ second) :
    stepsBetween ctx size first (second + 1) = stepsBetween ctx size first second +
      if StartsLine ctx size (second + 1) then tagHeight size (second + 1) + ctx.miniLineSpace
      else 0 := by
  have hinsert : Finset.Ioc first (second + 1) = insert (second + 1) (Finset.Ioc first second) := by
    ext item
    simp only [Finset.mem_Ioc, Finset.mem_insert]
    omega
  rw [stepsBetween, hinsert, Finset.filter_insert]
  split
  · rw [Finset.sum_insert (by simp), add_comm]
    rfl
  · rw [add_zero]
    rfl

/-- An item is below an earlier one by the steps between them. -/
theorem top_of_add_steps {first second : Nat} (hle : first ≤ second) :
    topOf ctx size second = topOf ctx size first + stepsBetween ctx size first second := by
  induction hle with
  | refl => rw [steps_between_self, add_zero]
  | @step second hle ih =>
      have hline := line_of_succ ctx size second
      rw [steps_between_succ hle, topOf, ih]
      by_cases hsame : lineOf ctx size (second + 1) = lineOf ctx size second
      · have hstays : ¬ StartsLine ctx size (second + 1) := by
          unfold StartsLine
          rw [Nat.add_sub_cancel]
          omega
        rw [if_pos hsame, if_neg hstays, add_zero]
      · have hstarts : StartsLine ctx size (second + 1) := by
          unfold StartsLine
          rw [Nat.add_sub_cancel]
          omega
        rw [if_neg hsame, if_pos hstarts, add_assoc]

/-- Steps do not lead up if heights and spaces are not negative. -/
theorem steps_between_nonneg (hlineSpace : 0 ≤ ctx.miniLineSpace) {first second : Nat}
    (hheight : ∀ item ≤ second, 0 ≤ tagHeight size item) :
    0 ≤ stepsBetween ctx size first second := by
  refine Finset.sum_nonneg ?_
  intro item hitem
  have hle := (Finset.mem_Ioc.mp (Finset.mem_filter.mp hitem).1).2
  exact add_nonneg (hheight item hle) hlineSpace

/-- Two items overlap exactly if their extents do, the lower one has a height, and the upper one
reaches below the top of the lower one. -/
theorem frame_of_disjoint_iff {first second : Nat} (hle : first ≤ second)
    (hsteps : 0 ≤ stepsBetween ctx size first second) :
    (frameOf ctx size first).InteriorsDisjoint (frameOf ctx size second) ↔
      (SpansOverlap ctx size first second → 0 < tagHeight size second →
        tagHeight size first ≤ stepsBetween ctx size first second) := by
  have hx : ∀ item, (frameOf ctx size item).x = leftOf ctx size item := fun _ => rfl
  have hy : ∀ item, (frameOf ctx size item).y = topOf ctx size item := fun _ => rfl
  have hmaxY : ∀ item, (frameOf ctx size item).maxY =
    topOf ctx size item + tagHeight size item := fun _ => rfl
  rw [CGRect.interiors_disjoint_iff, hx, hx, hy, hy, hmaxY, hmaxY, frame_of_max_x, frame_of_max_x,
    top_of_add_steps hle, not_and, ← SpansOverlap]
  refine imp_congr_right fun _ => ?_
  rw [max_lt_iff, lt_min_iff, lt_min_iff]
  constructor
  · intro hdisjoint hpositive
    by_contra hreaches
    refine hdisjoint ⟨⟨?_, ?_⟩, ?_, ?_⟩ <;> linarith
  · rintro hreaches ⟨⟨_, _⟩, hbelow, hpositive⟩
    have := hreaches (by linarith)
    linarith

/-- Items on one line do not share a horizontal extent. -/
theorem line_lt_of_spans_overlap {count : Nat} (hspace : 0 ≤ ctx.miniItemSpace)
    (hwidth : ∀ item < count, 0 ≤ (size ⟨0, item⟩).width) {first second : Nat}
    (hlt : first < second) (hsecond : second < count)
    (hspans : SpansOverlap ctx size first second) :
    lineOf ctx size first < lineOf ctx size second := by
  have hmono : lineOf ctx size first ≤ lineOf ctx size second :=
    first_fit_line_mono _ _ _ hlt.le
  refine lt_of_le_of_ne hmono ?_
  intro hline
  rw [SpansOverlap, max_lt_iff, lt_min_iff, lt_min_iff] at hspans
  -- an item with an extent leaves the collection view a width
  have hcollection : 0 ≤ ctx.collectionWidth := by
    have hextent := hspans.1.1
    have htag := tag_width_le ctx size first
    rw [leftOf] at hextent
    linarith
  have hright := right_le_left hspace
    (fun item hitem => tag_width_nonneg (hwidth item hitem) hcollection) hlt hsecond hline
  exact absurd hspans.2.1 (not_lt.mpr hright)

/-- A relation holds between all kept frames in order if it holds between the frames of any two
items in order. -/
theorem frames_of_pairwise_iff {related : CGRect → CGRect → Prop} (count : Nat) :
    (framesOf ctx size count).Pairwise (fun first second => related first.frame second.frame) ↔
      ∀ first second, first < second → second < count →
        related (frameOf ctx size first) (frameOf ctx size second) := by
  rw [framesOf, List.pairwise_map, List.pairwise_iff_getElem]
  simp only [List.length_range, List.getElem_range]
  constructor
  · intro h first second hlt hsecond
    exact h first second (by omega) hsecond hlt
  · intro h first second _ hsecond hlt
    exact h first second hlt hsecond

/-- Without a line limit the content ends at the bottom of the last item. -/
theorem content_height_eq (state : State)
    (hsize : ctx.delegate.bind Delegate.sizeForItemAtIndexPath = some size)
    (hlimit : ctx.storedMaxLineNum ≤ 0) (hitems : 0 < ctx.numberOfItems) :
    (collectionViewContentSize ctx (prepareLayout ctx state)).height =
      bottomOf ctx size (ctx.numberOfItems - 1) := by
  rw [collectionViewContentSize, prepare_layout_of_no_limit state hsize hitems hlimit,
    show_height_large_y]
  exact after_large_y hitems _

/-- For non-negative sizes and spacings and without a line limit, the frames are kept apart and
within the content exactly if the heights agree. -/
theorem frames_kept_apart_iff (ctx : Context) (size : IndexPath → CGSize)
    (hsize : ctx.delegate.bind Delegate.sizeForItemAtIndexPath = some size)
    (hlimit : ctx.storedMaxLineNum ≤ 0)
    (hsizes : ∀ item < ctx.numberOfItems,
      0 ≤ (size ⟨0, item⟩).width ∧ 0 ≤ (size ⟨0, item⟩).height)
    (hspace : 0 ≤ ctx.miniItemSpace) (hlineSpace : 0 ≤ ctx.miniLineSpace) (state : State) :
    FramesKeptApart ctx state ↔ HeightsAgree ctx size := by
  have hattrs := prepare_layout_attrs state hsize hlimit
  have hheight : ∀ item < ctx.numberOfItems, 0 ≤ tagHeight size item :=
    fun item hitem => (hsizes item hitem).2
  have hdisjoint : ∀ first second, first < second → second < ctx.numberOfItems →
      ((frameOf ctx size first).InteriorsDisjoint (frameOf ctx size second) ↔
        (SpansOverlap ctx size first second → 0 < tagHeight size second →
          tagHeight size first ≤ stepsBetween ctx size first second)) := by
    intro first second hlt hsecond
    exact frame_of_disjoint_iff hlt.le (steps_between_nonneg hlineSpace
      fun item hitem => hheight item (by omega))
  have hbottom : ∀ item < ctx.numberOfItems, ((frameOf ctx size item).maxY ≤
      (collectionViewContentSize ctx (prepareLayout ctx state)).height ↔
        tagHeight size item ≤ stepsBetween ctx size item (ctx.numberOfItems - 1) +
          tagHeight size (ctx.numberOfItems - 1)) := by
    intro item hitem
    rw [content_height_eq state hsize hlimit (by omega), bottomOf,
      top_of_add_steps (show item ≤ ctx.numberOfItems - 1 by omega), add_assoc]
    exact add_le_add_iff_left _
  constructor
  · rintro ⟨hapart, hinside⟩
    rw [hattrs, frames_of_pairwise_iff] at hapart
    rw [hattrs] at hinside
    constructor
    · intro first second hlt hsecond _
      exact (hdisjoint first second hlt hsecond).mp (hapart first second hlt hsecond)
    · intro item hitem
      exact (hbottom item hitem).mp
        (hinside _ (List.mem_map.mpr ⟨item, List.mem_range.mpr hitem, rfl⟩))
  · rintro ⟨habove, hbelow⟩
    constructor
    · rw [hattrs, frames_of_pairwise_iff]
      intro first second hlt hsecond
      refine (hdisjoint first second hlt hsecond).mpr ?_
      -- items whose spans overlap are on different lines
      intro hspans
      exact habove first second hlt hsecond (line_lt_of_spans_overlap hspace
        (fun item hitem => (hsizes item hitem).1) hlt hsecond hspans) hspans
    · rw [hattrs]
      intro attrs hmem
      obtain ⟨item, hitem, rfl⟩ := List.mem_map.mp hmem
      exact (hbottom item (List.mem_range.mp hitem)).mpr (hbelow item (List.mem_range.mp hitem))

/-- Two items that fill a line each, of the given heights. -/
def stackedContext (first second : CGFloat) : Context where
  miniItemSpace := 5
  miniLineSpace := 2
  storedMaxLineNum := 0
  collectionWidth := 100
  numberOfItems := 2
  delegate := some
    { sizeForItemAtIndexPath := some fun path => ⟨100, if path.item = 0 then first else second⟩ }
  items_le := two_le_ns_integer_max

/-- A taller item below a lower one is kept apart from it. -/
theorem frames_kept_apart_iff_growing :
    (∀ item < (stackedContext 10 20).numberOfItems, (0 : CGFloat) ≤ 100 ∧
      (0 : CGFloat) ≤ if item = 0 then 10 else 20) ∧
    FramesKeptApart (stackedContext 10 20) State.fresh := by
  have hsizes : ∀ item < (stackedContext 10 20).numberOfItems, (0 : CGFloat) ≤ 100 ∧
      (0 : CGFloat) ≤ if item = 0 then 10 else 20 := by decide +kernel
  refine ⟨hsizes, (frames_kept_apart_iff (stackedContext 10 20)
    (fun path => ⟨100, if path.item = 0 then 10 else 20⟩) rfl (by decide) hsizes
    (by decide +kernel) (by decide +kernel) State.fresh).mpr ⟨?_, ?_⟩⟩
  · intro first second hlt hsecond _ _ _
    obtain rfl : second = 1 := by
      have : second < 2 := hsecond
      omega
    obtain rfl : first = 0 := by omega
    decide +kernel
  · decide +kernel

/-- An item of height 10 above one of height 1: the second item is placed inside the first one, and
the content ends above the bottom of the first one. -/
theorem frames_not_kept_apart :
    (prepareLayout (stackedContext 10 1) State.fresh).attrsArray.map Attributes.frame =
      [⟨0, 0, 100, 10⟩, ⟨0, 3, 100, 1⟩] ∧
    collectionViewContentSize (stackedContext 10 1)
      (prepareLayout (stackedContext 10 1) State.fresh) = ⟨100, 4⟩ ∧
    ¬ CGRect.InteriorsDisjoint ⟨0, 0, 100, 10⟩ ⟨0, 3, 100, 1⟩ ∧
    ¬ FramesKeptApart (stackedContext 10 1) State.fresh := by
  refine ⟨by decide +kernel, by decide +kernel, ?_, ?_⟩
  · rw [CGRect.interiors_disjoint_iff]
    decide +kernel
  · intro hkept
    have hinside := hkept.inside ⟨⟨.cell, ⟨0, 0⟩⟩, ⟨0, 0, 100, 10⟩⟩ (by decide +kernel)
    revert hinside
    decide +kernel

end Component.FlexibleLayout

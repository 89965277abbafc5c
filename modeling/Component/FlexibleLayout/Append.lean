import Component.FlexibleLayout.History
import Component.FlexibleLayout.Lines

/-!
# Appending items

When items are appended to the data and the layout is prepared again, the items that were kept
before come first and keep their frames, with any sizes and any line limit. If the limit had been
passed already, then the new items change nothing at all (`append_items`).
-/

namespace Component.FlexibleLayout

open Component.Lib.LineBreaking

/-- The same layout with another item count. -/
def Context.withItems (ctx : Context) (count : Nat) (hcount : count ≤ nsIntegerMax) : Context :=
  { ctx with numberOfItems := count, items_le := hcount }

variable {ctx : Context} {size : IndexPath → CGSize}

/-! ## The places do not depend on the item count -/

/-- Where a line begins does not depend on the number of items. -/
theorem top_of_with_items {count : Nat} (hcount : count ≤ nsIntegerMax) (item : Nat) :
    topOf (ctx.withItems count hcount) size item = topOf ctx size item := by
  induction item with
  | zero => rfl
  | succ item ih =>
      rw [topOf, topOf, ih]
      rfl

/-- The frame of an item does not depend on the number of items. -/
theorem frame_of_with_items {count : Nat} (hcount : count ≤ nsIntegerMax) (item : Nat) :
    frameOf (ctx.withItems count hcount) size item = frameOf ctx size item := by
  rw [frameOf, top_of_with_items hcount]
  rfl

/-- The frames of the first items do not depend on the number of items. -/
theorem frames_of_with_items {count : Nat} (hcount : count ≤ nsIntegerMax) (kept : Nat) :
    framesOf (ctx.withItems count hcount) size kept = framesOf ctx size kept := by
  refine List.map_congr_left fun item _ => ?_
  rw [frame_of_with_items hcount]

/-- The frames of fewer items are the first frames of more items. -/
theorem frames_of_extend {first last : Nat} (hle : first ≤ last) :
    framesOf ctx size first <+: framesOf ctx size last := by
  induction hle with
  | refl => exact List.prefix_rfl
  | step _ ih =>
      rw [frames_of_succ]
      exact ih.trans (List.prefix_append ..)

/-! ## How far the loop gets -/

/-- The items that are kept, and the one that was placed last. -/
structure Reached (ctx : Context) (size : IndexPath → CGSize) (state : State) (kept last : Nat) :
    Prop where
  attrs : state.attrsArray = framesOf ctx size kept
  line : state.showLineIndex = lineOf ctx size last
  largeY : state.showToLargeY = bottomOf ctx size last

/-- The loop stops at the first item beyond the line limit. -/
structure StopsAt (ctx : Context) (size : IndexPath → CGSize) (first : Nat) : Prop where
  inside : ∀ item < first, (lineOf ctx size item : Int) < ctx.maxLineNum
  outside : ctx.maxLineNum ≤ lineOf ctx size first

/-- There is only one item at which the layout stops. -/
theorem StopsAt.unique {first second : Nat} (h : StopsAt ctx size first)
    (h' : StopsAt ctx size second) : first = second := by
  rcases Nat.lt_trichotomy first second with hlt | heq | hlt
  · exact absurd h.outside (not_le.mpr (h'.inside first hlt))
  · exact heq
  · exact absurd h'.outside (not_le.mpr (h.inside second hlt))

/-- The layout places all items, or it stops at the first item on a line beyond the limit. -/
theorem prepare_layout_reached
    (hsize : ctx.delegate.bind Delegate.sizeForItemAtIndexPath = some size)
    (hitems : 0 < ctx.numberOfItems) (state : State) :
    ((∀ item < ctx.numberOfItems, (lineOf ctx size item : Int) < ctx.maxLineNum) ∧
      Reached ctx size (prepareLayout ctx state) ctx.numberOfItems (ctx.numberOfItems - 1)) ∨
    ∃ first < ctx.numberOfItems, StopsAt ctx size first ∧
      Reached ctx size (prepareLayout ctx state) first first := by
  rcases lt_or_ge (lineOf ctx size (ctx.numberOfItems - 1) : Int) ctx.maxLineNum with h | h
  · refine .inl ⟨fun item hitem => ?_, ?_⟩
    · have hmono : lineOf ctx size item ≤ lineOf ctx size (ctx.numberOfItems - 1) :=
        first_fit_line_mono _ _ _ (by omega)
      omega
    · rw [prepare_layout_of_lt state hsize hitems h]
      constructor
      · rw [show_height_attrs]
        exact after_attrs rfl _
      · rw [show_height_line]
        exact after_line hitems _
      · rw [show_height_large_y]
        exact after_large_y hitems _
  · -- the first item beyond the line limit
    have houtside : ∃ item, ctx.maxLineNum ≤ (lineOf ctx size item : Int) := ⟨_, h⟩
    have hstops : StopsAt ctx size (Nat.find houtside) :=
      ⟨fun item hitem => not_le.mp (Nat.find_min houtside hitem), Nat.find_spec houtside⟩
    have hfirst : Nat.find houtside < ctx.numberOfItems := by
      have := Nat.find_min' houtside h
      omega
    refine .inr ⟨_, hfirst, hstops, ?_⟩
    rw [prepare_layout_of_first state hsize hfirst hstops.inside hstops.outside]
    constructor
    · rw [show_height_attrs]
    · rw [show_height_line]
      rfl
    · rw [show_height_large_y]
      rfl

/-- Without items, or without sizes, the layout stays on the first line. -/
theorem prepare_layout_line_of_nothing (state : State)
    (h : ctx.numberOfItems = 0 ∨ ctx.delegate.bind Delegate.sizeForItemAtIndexPath = none) :
    (prepareLayout ctx state).showLineIndex = 0 := by
  rcases Nat.eq_zero_or_pos ctx.numberOfItems with hitems | hitems
  · rw [prepare_layout_of_no_items state hitems]
    rfl
  · have hsize : (reset ctx state).delegate.bind Delegate.sizeForItemAtIndexPath = none :=
      h.resolve_left (by omega)
    rw [prepareLayout, if_neg (by omega), place_items_of_no_size hsize rfl, show_height_line]
    rfl

/-! ## Two runs -/

/-- The layout is prepared again after items have been appended. The items that were kept come
first, with their frames, whatever the sizes and the line limit are. If the limit had been passed
before, then the attributes and the content size are the same as before. -/
theorem append_items (ctx : Context) {count : Nat} (hcount : count ≤ nsIntegerMax)
    (hmore : ctx.numberOfItems ≤ count) (oldState newState : State) :
    let old := prepareLayout ctx oldState
    let new := prepareLayout (ctx.withItems count hcount) newState
    old.attrsArray <+: new.attrsArray ∧
    (ctx.maxLineNum ≤ old.showLineIndex →
      new.attrsArray = old.attrsArray ∧
      collectionViewContentSize (ctx.withItems count hcount) new =
        collectionViewContentSize ctx old) := by
  intro old new
  rcases places_or_nothing ctx with ⟨hitems, size, hsize⟩ | hnothing
  · have hnewSize : (ctx.withItems count hcount).delegate.bind
      Delegate.sizeForItemAtIndexPath = some size := hsize
    have hnewItems : 0 < (ctx.withItems count hcount).numberOfItems := hitems.trans_le hmore
    -- the loop gets as far as before, and further only if it was not stopped
    rcases prepare_layout_reached hsize hitems oldState with
      ⟨hinside, hold⟩ | ⟨first, hfirst, hstops, hold⟩
    · constructor
      · rw [hold.attrs]
        rcases prepare_layout_reached hnewSize hnewItems newState with
          ⟨-, hnew⟩ | ⟨first, -, hstops, hnew⟩
        · rw [hnew.attrs, frames_of_with_items hcount]
          exact frames_of_extend hmore
        · rw [hnew.attrs, frames_of_with_items hcount]
          refine frames_of_extend (not_lt.mp fun hlt => ?_)
          exact absurd hstops.outside (not_le.mpr (hinside first hlt))
      · intro hpassed
        rw [hold.line] at hpassed
        exact absurd hpassed (not_le.mpr (hinside _ (by omega)))
    · have hnewStops : StopsAt (ctx.withItems count hcount) size first :=
        ⟨hstops.inside, hstops.outside⟩
      have hnew : Reached (ctx.withItems count hcount) size new first first := by
        rcases prepare_layout_reached hnewSize hnewItems newState with
          ⟨hall, -⟩ | ⟨other, -, hother, hnew⟩
        · exact absurd hstops.outside (not_le.mpr (hall first (hfirst.trans_le hmore)))
        · exact hother.unique hnewStops ▸ hnew
      have hattrs : new.attrsArray = old.attrsArray := by
        rw [hnew.attrs, frames_of_with_items hcount]
        exact hold.attrs.symm
      refine ⟨hattrs ▸ List.prefix_rfl, fun _ => ⟨hattrs, ?_⟩⟩
      rw [collectionViewContentSize, collectionViewContentSize, hnew.largeY, bottomOf,
        top_of_with_items hcount]
      exact congrArg (CGSize.mk _) hold.largeY.symm
  · constructor
    · rw [(prepare_layout_of_nothing oldState hnothing).1]
      exact List.nil_prefix
    · intro hpassed
      rw [prepare_layout_line_of_nothing oldState hnothing] at hpassed
      exact absurd hpassed (not_le.mpr (max_line_num_pos ctx))

/-- The sample with a limit of one line. -/
def oneLineContext : Context := { tagContext with storedMaxLineNum := 1 }

/-- Nine items are not too many. -/
theorem nine_le_ns_integer_max : 9 ≤ nsIntegerMax := by decide

/-- The line of the sample is full. Appended items are not shown, and the height stays. -/
theorem append_items_sample :
    collectionViewContentSize (oneLineContext.withItems 9 nine_le_ns_integer_max)
        (prepareLayout (oneLineContext.withItems 9 nine_le_ns_integer_max) State.fresh) =
      collectionViewContentSize oneLineContext (prepareLayout oneLineContext State.fresh) :=
  ((append_items oneLineContext nine_le_ns_integer_max (by decide) State.fresh State.fresh).2
    (by decide +kernel)).2

end Component.FlexibleLayout

import Component.WaterLayout.Turns

/-!
# Rows and balance of a section's columns

Which columns an item loop has used so far, and how far their heights lie apart. A column that no
item has been dropped into is still at the section's top, and a used one is at the bottom of its
last item (`float_value_of_untouched`, `float_value_of_last`). With positive heights this makes the
first row: as long as a column is untouched the next item goes to an untouched one, so the test
`indexPath.item >= columnsCount` asks whether the chosen column holds an item already
(`index_test_iff_holds`). With non-negative heights and spacing, the columns never lie further apart
than one item and one line spacing (`column_balance`).
-/

namespace Component.WaterLayout

/-- An item before `item` has been dropped into the column. -/
def Holds (ctx : Context) (enumeration : Enumeration) (state : State) (sect item column : Nat) :
    Prop :=
  ∃ earlier < item, chosenColumn ctx enumeration state ⟨sect, earlier⟩ = column

/-- The item `previous` is the last one before `item` that was dropped into the column. -/
def LastBefore (ctx : Context) (enumeration : Enumeration) (state : State)
    (sect item column previous : Nat) : Prop :=
  previous < item ∧ chosenColumn ctx enumeration state ⟨sect, previous⟩ = column ∧
    ∀ between, previous < between → between < item →
      chosenColumn ctx enumeration state ⟨sect, between⟩ ≠ column

section Loop

variable {ctx : Context} (enumeration : Enumeration) (state : State) {sect : Nat}

/-- A column that holds an item has a last one. -/
theorem Holds.exists_last {item column : Nat} (h : Holds ctx enumeration state sect item column) :
    ∃ previous, LastBefore ctx enumeration state sect item column previous := by
  obtain ⟨earlier, hearlier, hchosen⟩ := h
  induction item with
  | zero => omega
  | succ item ih =>
      by_cases hitem : chosenColumn ctx enumeration state ⟨sect, item⟩ = column
      · exact ⟨item, by omega, hitem, fun between hlt hlt' => by omega⟩
      · have hne : earlier ≠ item := fun heq => hitem (heq ▸ hchosen)
        obtain ⟨previous, hprevious, hcolumn, hbetween⟩ := ih (by omega)
        refine ⟨previous, by omega, hcolumn, ?_⟩
        intro between hlt hlt'
        by_cases heq : between = item
        · rwa [heq]
        · exact hbetween between hlt (by omega)

variable (hcolumns : 1 ≤ ctx.columnsCountAt sect)
include hcolumns

/-- A column keeps its height while nothing is dropped into it. -/
theorem float_value_of_untouched_since {first last column : Nat} (hle : first ≤ last)
    (h : ∀ between, first ≤ between → between < last →
      chosenColumn ctx enumeration state ⟨sect, between⟩ ≠ column) :
    (turnColumns ctx enumeration state ⟨sect, last⟩).floatValue column =
      (turnColumns ctx enumeration state ⟨sect, first⟩).floatValue column := by
  induction hle with
  | refl => rfl
  | @step last hle ih =>
      have hne := h last hle (Nat.lt_succ_self last)
      rw [float_value_turn_succ enumeration state hcolumns, if_neg (Ne.symm hne)]
      exact ih fun between hfirst hlast => h between hfirst (by omega)

/-- A column without items is at the top of the section. -/
theorem float_value_of_untouched {item column : Nat}
    (hcolumn : column < (ctx.columnsCountAt sect).toNat)
    (h : ¬ Holds ctx enumeration state sect item column) :
    (turnColumns ctx enumeration state ⟨sect, item⟩).floatValue column =
      sectionTop ctx enumeration state sect := by
  rw [float_value_of_untouched_since enumeration state hcolumns (Nat.zero_le item)]
  · exact float_value_turn_zero enumeration state hcolumn
  · intro between _ hbetween hchosen
    exact h ⟨between, hbetween, hchosen⟩

/-- A column with items is at the bottom of the last one. -/
theorem float_value_of_last {item column previous : Nat}
    (h : LastBefore ctx enumeration state sect item column previous) :
    (turnColumns ctx enumeration state ⟨sect, item⟩).floatValue column =
      (turnFrame ctx enumeration state ⟨sect, previous⟩).maxY := by
  obtain ⟨hprevious, hchosen, hbetween⟩ := h
  rw [float_value_of_untouched_since enumeration state hcolumns hprevious]
  · rw [float_value_turn_succ enumeration state hcolumns, if_pos hchosen.symm]
  · intro between hfirst hlast
    exact hbetween between hfirst hlast

/-! ## The first row -/

/-- Fewer items than columns leave a column untouched. -/
theorem exists_untouched {item : Nat} (h : (item : Int) < ctx.columnsCountAt sect) :
    ∃ column < (ctx.columnsCountAt sect).toNat,
      ¬ Holds ctx enumeration state sect item column := by
  let used := (Finset.range item).image fun earlier =>
    chosenColumn ctx enumeration state ⟨sect, earlier⟩
  have hcard : used.card < (Finset.range (ctx.columnsCountAt sect).toNat).card := by
    have himage : used.card ≤ item := Finset.card_image_le.trans (Finset.card_range item).le
    rw [Finset.card_range]
    omega
  obtain ⟨column, hcolumn, hunused⟩ := Finset.exists_mem_notMem_of_card_lt_card hcard
  refine ⟨column, Finset.mem_range.mp hcolumn, ?_⟩
  rintro ⟨earlier, hearlier, hchosen⟩
  exact hunused (Finset.mem_image.mpr ⟨earlier, Finset.mem_range.mpr hearlier, hchosen⟩)

/-- An item dropped into an untouched column of the first row is at the top of the section. -/
theorem turn_frame_y_of_untouched {item : Nat} (hitem : (item : Int) < ctx.columnsCountAt sect)
    (h : ¬ Holds ctx enumeration state sect item
      (chosenColumn ctx enumeration state ⟨sect, item⟩)) :
    (turnFrame ctx enumeration state ⟨sect, item⟩).y =
      sectionTop ctx enumeration state sect := by
  have hspacing : ctx.spacingAbove ⟨sect, item⟩ = 0 := if_neg (not_le.mpr hitem)
  rw [turn_frame_eq]
  dsimp only
  rw [hspacing, add_zero]
  exact float_value_of_untouched enumeration state hcolumns
    (chosen_column_lt enumeration state hcolumns item) h

/-- As long as there is an untouched column, positive heights keep the used ones from being
chosen: they are all below the section's top, where the untouched one still is. -/
theorem not_holds_of_first_row {count : Nat}
    (hheight : ∀ item < count, 0 < (ctx.cellSizeAt ⟨sect, item⟩).height)
    (item : Nat) (hitem : item < count) (hrow : (item : Int) < ctx.columnsCountAt sect) :
    ¬ Holds ctx enumeration state sect item
      (chosenColumn ctx enumeration state ⟨sect, item⟩) := by
  induction item using Nat.strong_induction_on with
  | _ item ih =>
      rintro ⟨earlier, hearlier, hchosen⟩
      -- by induction the items in between are in other columns
      have hlast : LastBefore ctx enumeration state sect item
          (chosenColumn ctx enumeration state ⟨sect, item⟩) earlier := by
        refine ⟨hearlier, hchosen, ?_⟩
        intro between hlt hlt' heq
        exact ih between hlt' (by omega) (by omega) ⟨earlier, hlt, hchosen.trans heq.symm⟩
      have htop := turn_frame_y_of_untouched enumeration state hcolumns (by omega)
        (ih earlier hearlier (by omega) (by omega))
      obtain ⟨column, hcolumn, huntouched⟩ := exists_untouched enumeration state hcolumns hrow
      have hmin := chosen_column_le enumeration state hcolumns item hcolumn
      rw [float_value_of_untouched enumeration state hcolumns hcolumn huntouched,
        float_value_of_last enumeration state hcolumns hlast, CGRect.maxY, htop] at hmin
      have hpositive := hheight earlier (by omega)
      have hsize : (turnFrame ctx enumeration state ⟨sect, earlier⟩).height =
        (ctx.cellSizeAt ⟨sect, earlier⟩).height := rfl
      linarith

/-- Once there are as many items as columns, every column holds one. -/
theorem holds_of_later_row {count : Nat}
    (hheight : ∀ item < count, 0 < (ctx.cellSizeAt ⟨sect, item⟩).height)
    {item : Nat} (hitem : item < count) (hrow : ctx.columnsCountAt sect ≤ item) {column : Nat}
    (hcolumn : column < (ctx.columnsCountAt sect).toNat) :
    Holds ctx enumeration state sect item column := by
  -- the items of the first row occupy as many columns as there are
  let chosen := fun earlier => chosenColumn ctx enumeration state ⟨sect, earlier⟩
  have hmaps : Set.MapsTo chosen (Finset.range (ctx.columnsCountAt sect).toNat)
      (Finset.range (ctx.columnsCountAt sect).toNat) := by
    intro earlier _
    exact Finset.mem_coe.mpr
      (Finset.mem_range.mpr (chosen_column_lt enumeration state hcolumns earlier))
  have hinjective : Set.InjOn chosen (Finset.range (ctx.columnsCountAt sect).toNat) := by
    have hlt : ∀ {i j}, i < j → j < (ctx.columnsCountAt sect).toNat → chosen i ≠ chosen j :=
      fun hij hj heq => not_holds_of_first_row enumeration state hcolumns hheight _
        (by omega) (by omega) ⟨_, hij, heq⟩
    intro i hi j hj heq
    have hi' := Finset.mem_range.mp (Finset.mem_coe.mp hi)
    have hj' := Finset.mem_range.mp (Finset.mem_coe.mp hj)
    rcases lt_trichotomy i j with h | h | h
    · exact absurd heq (hlt h hj')
    · exact h
    · exact absurd heq.symm (hlt h hi')
  obtain ⟨earlier, hearlier, heq⟩ := Finset.surjOn_of_injOn_of_card_le chosen hmaps hinjective
    le_rfl (Finset.mem_coe.mpr (Finset.mem_range.mpr hcolumn))
  have := Finset.mem_range.mp (Finset.mem_coe.mp hearlier)
  exact ⟨earlier, by omega, heq⟩

/-- The index test of `layoutAttributesForItemAtIndexPath:` asks whether the chosen column holds
an item. -/
theorem index_test_iff_holds {count : Nat}
    (hheight : ∀ item < count, 0 < (ctx.cellSizeAt ⟨sect, item⟩).height)
    {item : Nat} (hitem : item < count) :
    ctx.columnsCountAt sect ≤ item ↔ Holds ctx enumeration state sect item
      (chosenColumn ctx enumeration state ⟨sect, item⟩) := by
  constructor
  · intro hrow
    exact holds_of_later_row enumeration state hcolumns hheight hitem hrow
      (chosen_column_lt enumeration state hcolumns item)
  · intro hholds
    by_contra hrow
    exact not_holds_of_first_row enumeration state hcolumns hheight item hitem (by omega) hholds

/-- An item of a later row is the line spacing below the last item of its column. -/
theorem turn_frame_y_of_last {item previous : Nat} (hrow : ctx.columnsCountAt sect ≤ item)
    (h : LastBefore ctx enumeration state sect item
      (chosenColumn ctx enumeration state ⟨sect, item⟩) previous) :
    (turnFrame ctx enumeration state ⟨sect, item⟩).y =
      (turnFrame ctx enumeration state ⟨sect, previous⟩).maxY + ctx.lineSpacingAt sect := by
  have hspacing : ctx.spacingAbove ⟨sect, item⟩ = ctx.lineSpacingAt sect := if_pos hrow
  rw [← float_value_of_last enumeration state hcolumns h, ← hspacing]
  rfl

/-! ## Balance -/

/-- Dropping an item into a shortest column keeps all heights within `bound` and a line spacing
of each other: the raised column is that far above what was the shortest, and no column is lower
than before. -/
theorem balance_turn {bound : CGFloat} (hspacing : 0 ≤ ctx.lineSpacingAt sect)
    (hbound : 0 ≤ bound) (count : Nat)
    (hheight : ∀ item < count, 0 ≤ (ctx.cellSizeAt ⟨sect, item⟩).height ∧
      (ctx.cellSizeAt ⟨sect, item⟩).height ≤ bound)
    {tall short : Nat} (htall : tall < (ctx.columnsCountAt sect).toNat)
    (hshort : short < (ctx.columnsCountAt sect).toNat) :
    (turnColumns ctx enumeration state ⟨sect, count⟩).floatValue tall ≤
      (turnColumns ctx enumeration state ⟨sect, count⟩).floatValue short +
        (bound + ctx.lineSpacingAt sect) := by
  induction count generalizing tall short with
  | zero =>
      rw [float_value_turn_zero enumeration state htall,
        float_value_turn_zero enumeration state hshort]
      linarith
  | succ count ih =>
      have hbefore := @ih fun item hitem => hheight item (by omega)
      obtain ⟨hnonneg, hle⟩ := hheight count (by omega)
      have hmin : ∀ {column}, column < (ctx.columnsCountAt sect).toNat → _ :=
        chosen_column_le enumeration state hcolumns count
      have habove : 0 ≤ ctx.spacingAbove ⟨sect, count⟩ := Context.spacing_above_nonneg hspacing
      have hbelow : ctx.spacingAbove ⟨sect, count⟩ ≤ ctx.lineSpacingAt sect := by
        unfold Context.spacingAbove
        split
        · exact le_rfl
        · exact hspacing
      have hraised : (turnFrame ctx enumeration state ⟨sect, count⟩).maxY =
          (turnColumns ctx enumeration state ⟨sect, count⟩).floatValue
            (chosenColumn ctx enumeration state ⟨sect, count⟩) +
            ctx.spacingAbove ⟨sect, count⟩ + (ctx.cellSizeAt ⟨sect, count⟩).height := rfl
      rw [float_value_turn_succ enumeration state hcolumns,
        float_value_turn_succ enumeration state hcolumns, hraised]
      have hchosen := chosen_column_lt enumeration state hcolumns count
      split
      · -- the raised column was a shortest one
        split
        · linarith
        · linarith [hmin hshort]
      · -- the other columns have kept their heights
        split
        · linarith [hbefore htall hchosen]
        · exact hbefore htall hshort

end Loop

/-- The row structure of a section with positive item heights, for any tie-breaking. The index
test for the line spacing asks whether the chosen column already holds an item. So the items of
the first row are in distinct columns at the top of the section, and every later item is exactly
the effective line spacing below the previous one of its column. The frames are those of the
finished layout. -/
theorem row_structure (ctx : Context) (enumeration : Enumeration) (state : State) (sect : Nat)
    (hsect : sect < ctx.numberOfSections) (hcolumns : 1 ≤ ctx.columnsCountAt sect)
    (hheight : ∀ item < ctx.numberOfItemsInSection sect,
      0 < (ctx.cellSizeAt ⟨sect, item⟩).height) :
    let count := ctx.numberOfItemsInSection sect
    let chosen := fun item => chosenColumn ctx enumeration state ⟨sect, item⟩
    let frame := fun item => turnFrame ctx enumeration state ⟨sect, item⟩
    (∀ item < count, ⟨⟨.cell, ⟨sect, item⟩⟩, frame item⟩ ∈
      (prepareLayout ctx enumeration state).attrsArray) ∧
    (∀ item < count, ctx.columnsCountAt sect ≤ item ↔
      ∃ earlier < item, chosen earlier = chosen item) ∧
    (∀ first second, first < second → second < count →
      (second : Int) < ctx.columnsCountAt sect → chosen first ≠ chosen second) ∧
    (∀ item < count, (item : Int) < ctx.columnsCountAt sect →
      (frame item).y = sectionTop ctx enumeration state sect) ∧
    ∀ item < count, ctx.columnsCountAt sect ≤ item →
      ∃ previous < item, chosen previous = chosen item ∧
        (∀ between, previous < between → between < item → chosen between ≠ chosen item) ∧
        (frame item).y = (frame previous).maxY + ctx.lineSpacingAt sect := by
  intro count chosen frame
  have hfirst := not_holds_of_first_row enumeration state hcolumns hheight
  refine ⟨?_, ?_, ?_, ?_, ?_⟩
  · intro item hitem
    exact (cell_mem_prepare_layout ctx enumeration state _ rfl).mpr ⟨hsect, hitem, rfl⟩
  · intro item hitem
    exact index_test_iff_holds enumeration state hcolumns hheight hitem
  · intro first second hlt hsecond hrow heq
    exact hfirst second hsecond hrow ⟨first, hlt, heq⟩
  · intro item hitem hrow
    exact turn_frame_y_of_untouched enumeration state hcolumns hrow (hfirst item hitem hrow)
  · intro item hitem hrow
    have hholds := (index_test_iff_holds enumeration state hcolumns hheight hitem).mp hrow
    obtain ⟨previous, hlast⟩ := hholds.exists_last
    exact ⟨previous, hlast.1, hlast.2.1, hlast.2.2,
      turn_frame_y_of_last enumeration state hcolumns hrow hlast⟩

/-- The third item of the sample lies below the item before it in its column. -/
theorem row_structure_sample :
    0 < sampleContext.numberOfSections ∧ 1 ≤ sampleContext.columnsCountAt 0 ∧
    (∀ item < sampleContext.numberOfItemsInSection 0,
      0 < (sampleContext.cellSizeAt ⟨0, item⟩).height) ∧
    ∃ previous < 2, chosenColumn sampleContext ascending State.fresh ⟨0, previous⟩ =
        chosenColumn sampleContext ascending State.fresh ⟨0, 2⟩ ∧
      (∀ between, previous < between → between < 2 →
        chosenColumn sampleContext ascending State.fresh ⟨0, between⟩ ≠
          chosenColumn sampleContext ascending State.fresh ⟨0, 2⟩) ∧
      (turnFrame sampleContext ascending State.fresh ⟨0, 2⟩).y =
        (turnFrame sampleContext ascending State.fresh ⟨0, previous⟩).maxY +
          sampleContext.lineSpacingAt 0 := by
  have hsect : 0 < sampleContext.numberOfSections := by decide +kernel
  have hcolumns : 1 ≤ sampleContext.columnsCountAt 0 := by decide +kernel
  have hheight : ∀ item < sampleContext.numberOfItemsInSection 0,
      0 < (sampleContext.cellSizeAt ⟨0, item⟩).height := by decide +kernel
  exact ⟨hsect, hcolumns, hheight,
    (row_structure sampleContext ascending State.fresh 0 hsect hcolumns hheight).2.2.2.2 2
      (by decide +kernel) (by decide +kernel)⟩

/-- In a section with non-negative item heights and effective line spacing, after every item the
tallest and the shortest column are at most the largest height so far and one line spacing
apart, for any tie-breaking. -/
theorem column_balance (ctx : Context) (enumeration : Enumeration) (state : State) (sect : Nat)
    (hcolumns : 1 ≤ ctx.columnsCountAt sect)
    (hheight : ∀ item < ctx.numberOfItemsInSection sect,
      0 ≤ (ctx.cellSizeAt ⟨sect, item⟩).height)
    (hspacing : 0 ≤ ctx.lineSpacingAt sect) (count : Nat)
    (hcount : count ≤ ctx.numberOfItemsInSection sect) (largest : Nat) (hlargest : largest < count)
    (hmax : ∀ item < count,
      (ctx.cellSizeAt ⟨sect, item⟩).height ≤ (ctx.cellSizeAt ⟨sect, largest⟩).height) :
    let columns := (itemTurn ctx enumeration state ⟨sect, count⟩).columnsAt sect
    (columns.length : Int) = ctx.columnsCountAt sect ∧
    ∀ tall < columns.length, ∀ short < columns.length,
      columns.floatValue tall - columns.floatValue short ≤
        (ctx.cellSizeAt ⟨sect, largest⟩).height + ctx.lineSpacingAt sect := by
  intro columns
  have hlength : columns.length = (ctx.columnsCountAt sect).toNat :=
    length_turn_columns enumeration state hcolumns count
  refine ⟨by omega, ?_⟩
  intro tall htall short hshort
  rw [hlength] at htall hshort
  have hbalance := balance_turn enumeration state hcolumns hspacing
    (hheight largest (by omega)) count
    (fun item hitem => ⟨hheight item (by omega), hmax item hitem⟩) htall hshort
  have hvalues : ∀ column, columns.floatValue column =
    (turnColumns ctx enumeration state ⟨sect, count⟩).floatValue column := fun _ => rfl
  rw [hvalues, hvalues]
  linarith

/-- The columns of the sample differ by at most the highest item and the line spacing. -/
theorem column_balance_sample :
    1 ≤ sampleContext.columnsCountAt 0 ∧
    (∀ item < sampleContext.numberOfItemsInSection 0,
      0 ≤ (sampleContext.cellSizeAt ⟨0, item⟩).height) ∧
    0 ≤ sampleContext.lineSpacingAt 0 ∧
    (∀ item < 3, (sampleContext.cellSizeAt ⟨0, item⟩).height ≤
      (sampleContext.cellSizeAt ⟨0, 2⟩).height) ∧
    ((itemTurn sampleContext ascending State.fresh ⟨0, 3⟩).columnsAt 0).floatValue 0 -
        ((itemTurn sampleContext ascending State.fresh ⟨0, 3⟩).columnsAt 0).floatValue 1 ≤
      (sampleContext.cellSizeAt ⟨0, 2⟩).height + sampleContext.lineSpacingAt 0 := by
  have hcolumns : 1 ≤ sampleContext.columnsCountAt 0 := by decide +kernel
  have hheight : ∀ item < sampleContext.numberOfItemsInSection 0,
      0 ≤ (sampleContext.cellSizeAt ⟨0, item⟩).height := by decide +kernel
  have hspacing : 0 ≤ sampleContext.lineSpacingAt 0 := by decide +kernel
  have hmax : ∀ item < 3, (sampleContext.cellSizeAt ⟨0, item⟩).height ≤
      (sampleContext.cellSizeAt ⟨0, 2⟩).height := by decide +kernel
  exact ⟨hcolumns, hheight, hspacing, hmax,
    (column_balance sampleContext ascending State.fresh 0 hcolumns hheight hspacing 3
      (by decide +kernel) 2 (by decide) hmax).2 0 (by decide +kernel) 1 (by decide +kernel)⟩

end Component.WaterLayout

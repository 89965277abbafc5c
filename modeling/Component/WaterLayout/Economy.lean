import Component.Lib.Stacking
import Component.WaterLayout.Rows

/-!
# How high a section gets

The layout drops every item into a shortest column, in the order of the data, without looking ahead.
A section can be higher for that than it would have to be, but not by much: with `c` columns, no
item ends lower than `2 - 1 / c` times the height of any other distribution of the items over the
columns, and `1 - 1 / c` line spacings (`near_optimal_height`).

The columns of a section hold all items and a line spacing above each one after the first `c`, which
no distribution can do without (`sum_float_value`), and they lie close together (`balance_turn`).
-/

namespace Component.WaterLayout

open Component.Lib.Stacking

section Loop

variable {ctx : Context} (enumeration : Enumeration) (state : State) {sect : Nat}
  (hcolumns : 1 ≤ ctx.columnsCountAt sect)
include hcolumns

/-- An item adds its height and the spacing above it to one of the columns. -/
theorem sum_float_value_succ (item : Nat) :
    ∑ column ∈ Finset.range (ctx.columnsCountAt sect).toNat,
        (turnColumns ctx enumeration state ⟨sect, item + 1⟩).floatValue column =
      ∑ column ∈ Finset.range (ctx.columnsCountAt sect).toNat,
        (turnColumns ctx enumeration state ⟨sect, item⟩).floatValue column +
      ((ctx.cellSizeAt ⟨sect, item⟩).height + ctx.spacingAbove ⟨sect, item⟩) := by
  have hchosen := Finset.mem_range.mpr (chosen_column_lt enumeration state hcolumns item)
  rw [← Finset.add_sum_erase _ _ hchosen, ← Finset.add_sum_erase (Finset.range _)
    (turnColumns ctx enumeration state ⟨sect, item⟩).floatValue hchosen]
  have hothers : ∀ column ∈ (Finset.range (ctx.columnsCountAt sect).toNat).erase
      (chosenColumn ctx enumeration state ⟨sect, item⟩),
      (turnColumns ctx enumeration state ⟨sect, item + 1⟩).floatValue column =
        (turnColumns ctx enumeration state ⟨sect, item⟩).floatValue column := by
    intro column hcolumn
    rw [float_value_turn_succ enumeration state hcolumns, if_neg (Finset.ne_of_mem_erase hcolumn)]
  have hraised : (turnFrame ctx enumeration state ⟨sect, item⟩).maxY =
      (turnColumns ctx enumeration state ⟨sect, item⟩).floatValue
        (chosenColumn ctx enumeration state ⟨sect, item⟩) +
        ctx.spacingAbove ⟨sect, item⟩ + (ctx.cellSizeAt ⟨sect, item⟩).height := rfl
  rw [Finset.sum_congr rfl hothers, float_value_turn_succ enumeration state hcolumns, if_pos rfl,
    hraised]
  ring

/-- The columns hold all items, and line spacings above those that come after the first row. -/
theorem sum_float_value (count : Nat) :
    ∑ column ∈ Finset.range (ctx.columnsCountAt sect).toNat,
        ((turnColumns ctx enumeration state ⟨sect, count⟩).floatValue column -
          sectionTop ctx enumeration state sect) =
      ∑ item ∈ Finset.range count, (ctx.cellSizeAt ⟨sect, item⟩).height +
        ((count - (ctx.columnsCountAt sect).toNat : Nat) : CGFloat) * ctx.lineSpacingAt sect := by
  induction count with
  | zero =>
      rw [Finset.sum_eq_zero]
      · simp
      · intro column hcolumn
        rw [float_value_turn_zero enumeration state (Finset.mem_range.mp hcolumn), sub_self]
  | succ count ih =>
      rw [Finset.sum_sub_distrib] at ih ⊢
      rw [sum_float_value_succ enumeration state hcolumns, Finset.sum_range_succ]
      -- the spacing is there for the items that cannot be in the first row
      by_cases hrow : ctx.columnsCountAt sect ≤ count
      · have hspacing : ctx.spacingAbove ⟨sect, count⟩ = ctx.lineSpacingAt sect := if_pos hrow
        have hcount : count + 1 - (ctx.columnsCountAt sect).toNat =
            count - (ctx.columnsCountAt sect).toNat + 1 := by omega
        rw [hspacing, hcount, Nat.cast_succ]
        linarith
      · have hspacing : ctx.spacingAbove ⟨sect, count⟩ = 0 := if_neg hrow
        have hnone : count + 1 - (ctx.columnsCountAt sect).toNat =
            count - (ctx.columnsCountAt sect).toNat := by omega
        rw [hspacing, hnone]
        linarith

/-- An item ends above the end of its column. -/
theorem max_y_le_float_value {item count : Nat} (hlt : item < count)
    (hheight : ∀ item < count, 0 ≤ (ctx.cellSizeAt ⟨sect, item⟩).height)
    (hspacing : 0 ≤ ctx.lineSpacingAt sect) :
    (turnFrame ctx enumeration state ⟨sect, item⟩).maxY ≤
      (turnColumns ctx enumeration state ⟨sect, count⟩).floatValue
        (chosenColumn ctx enumeration state ⟨sect, item⟩) := by
  have hraised := float_value_turn_succ enumeration state hcolumns item
    (chosenColumn ctx enumeration state ⟨sect, item⟩)
  rw [if_pos rfl] at hraised
  rw [← hraised]
  exact float_value_turn_mono enumeration state hcolumns hlt hheight hspacing _

end Loop

/-- In a section with non-negative item heights and effective line spacing, whatever the
tie-breaking: if the items can be distributed over the columns, with line spacings in between, such
that no column is higher than `limit`, then in the finished layout no item ends lower below the top
of the section than `2 - 1 / c` times `limit` and `1 - 1 / c` line spacings. -/
theorem near_optimal_height (ctx : Context) (enumeration : Enumeration) (state : State) (sect : Nat)
    (hcolumns : 1 ≤ ctx.columnsCountAt sect)
    (hheight : ∀ item < ctx.numberOfItemsInSection sect,
      0 ≤ (ctx.cellSizeAt ⟨sect, item⟩).height)
    (hspacing : 0 ≤ ctx.lineSpacingAt sect) (column : Nat → Nat) (limit : CGFloat)
    (hcolumn : ∀ item < ctx.numberOfItemsInSection sect,
      (column item : Int) < ctx.columnsCountAt sect)
    (hlimit : ∀ position : Nat, (position : Int) < ctx.columnsCountAt sect →
      stackHeight (ctx.lineSpacingAt sect) (fun item => (ctx.cellSizeAt ⟨sect, item⟩).height)
        (columnItems column (ctx.numberOfItemsInSection sect) position) ≤ limit) :
    ∀ attrs ∈ (prepareLayout ctx enumeration state).attrsArray, attrs.kind = .cell →
      attrs.indexPath.sect = sect →
      attrs.frame.maxY - sectionTop ctx enumeration state sect ≤
        (2 - 1 / ctx.columnsCountAt sect) * limit +
          (1 - 1 / ctx.columnsCountAt sect) * ctx.lineSpacingAt sect := by
  intro attrs hattrs hcell hsect
  obtain ⟨-, hitem, hframe⟩ := (cell_mem_prepare_layout ctx enumeration state attrs hcell).mp hattrs
  obtain ⟨⟨kind, ⟨sect', item⟩⟩, frame⟩ := attrs
  obtain rfl : sect' = sect := hsect
  simp only at hitem hframe ⊢
  rw [hframe]
  generalize hcount : ctx.numberOfItemsInSection sect' = count at *
  -- each item fits into the other distribution
  have hbound : ∀ item < count, 0 ≤ (ctx.cellSizeAt ⟨sect', item⟩).height ∧
      (ctx.cellSizeAt ⟨sect', item⟩).height ≤ limit := by
    intro item hitem
    refine ⟨hheight item hitem, (le_stack_height hspacing ?_ ?_).trans
      (hlimit (column item) (hcolumn item hitem))⟩
    · intro other hother
      exact hheight other (Finset.mem_range.mp (Finset.mem_filter.mp hother).1)
    · exact Finset.mem_filter.mpr ⟨Finset.mem_range.mpr hitem, rfl⟩
  have hnonneg : 0 ≤ limit := (hbound item hitem).1.trans (hbound item hitem).2
  have hclose : Close (ctx.columnsCountAt sect').toNat (limit + ctx.lineSpacingAt sect')
      fun column => (turnColumns ctx enumeration state ⟨sect', count⟩).floatValue column -
        sectionTop ctx enumeration state sect' := by
    intro tall htall short hshort
    have hbalance := balance_turn enumeration state hcolumns hspacing hnonneg count hbound htall
      hshort
    dsimp only
    linarith
  have hcolumnCount : (((ctx.columnsCountAt sect').toNat : Nat) : CGFloat) =
      ((ctx.columnsCountAt sect' : Int) : CGFloat) := by
    exact_mod_cast congrArg (Int.cast (R := CGFloat))
      (Int.toNat_of_nonneg (by omega : 0 ≤ ctx.columnsCountAt sect'))
  rw [← hcolumnCount]
  have hlow := max_y_le_float_value enumeration state hcolumns hitem hheight hspacing
  refine (sub_le_sub_right hlow _).trans (level_le_of_close hspacing hclose
    (sum_float_value enumeration state hcolumns count)
    (fun item hitem => by have := hcolumn item hitem; omega)
    (fun position hposition => hlimit position (by omega))
    (chosen_column_lt enumeration state hcolumns item))

/-- The first two items of the sample fit into one column and the third one into the other, with a
height of 35. So no item ends lower than 55, and the last one ends at 45. -/
theorem near_optimal_height_sample :
    (∀ attrs ∈ (prepareLayout sampleContext ascending State.fresh).attrsArray,
      attrs.kind = .cell → attrs.indexPath.sect = 0 →
      attrs.frame.maxY - sectionTop sampleContext ascending State.fresh 0 ≤ 55) ∧
    (turnFrame sampleContext ascending State.fresh ⟨0, 2⟩).maxY -
      sectionTop sampleContext ascending State.fresh 0 = 45 := by
  have hlimit : ∀ position : Nat, (position : Int) < sampleContext.columnsCountAt 0 →
      stackHeight (sampleContext.lineSpacingAt 0)
        (fun item => (sampleContext.cellSizeAt ⟨0, item⟩).height)
        (columnItems (fun item => item / 2) (sampleContext.numberOfItemsInSection 0) position) ≤
          35 := by
    intro position hposition
    have hlt : position < 2 := Int.ofNat_lt.mp hposition
    interval_cases position <;> decide +kernel
  refine ⟨fun attrs hattrs hcell hsect => ?_, by decide +kernel⟩
  refine (near_optimal_height sampleContext ascending State.fresh 0 (by decide +kernel)
    (by decide +kernel) (by decide +kernel) (fun item => item / 2) 35 (by decide +kernel) hlimit
    attrs hattrs hcell hsect).trans ?_
  decide +kernel

end Component.WaterLayout

import Component.WaterLayout.Model

/-!
# Placing the items of one section

The item loop of `prepareLayout` drops every item into the shortest column of its section. The
invariant of that loop is `Placed`: it pairs every cell with the column that received it and
relates the cells to the column heights. `Placed.record_item` is the step lemma and
`record_items` the loop lemma. `record_items_of_no_columns` follows the same loop in a section
without columns, where the dictionary starts empty and every item is stacked from zero.
-/

namespace Component.WaterLayout

open Component.Lib.Selection

/-! ## Column dictionaries -/

namespace Columns

/-- Setting the value of a column does not add one. -/
@[simp] theorem length_set_value_of_lt {columns : Columns} {column : Nat} {value : CGFloat}
    (h : column < columns.length) : (columns.setValue column value).length = columns.length := by
  simp [setValue, h]

/-- Setting the value of a column changes just this one. -/
theorem float_value_set_value {columns : Columns} {column : Nat} {value : CGFloat}
    (h : column < columns.length) (other : Nat) :
    (columns.setValue column value).floatValue other =
      if other = column then value else columns.floatValue other := by
  simp only [setValue, h, if_true, floatValue, List.getD_eq_getElem?_getD, List.getElem?_set]
  by_cases hother : other = column
  · simp [hother]
  · simp [hother, Ne.symm hother]

/-- New columns have the same value. -/
theorem float_value_replicate {count column : Nat} (value : CGFloat) (h : column < count) :
    floatValue (List.replicate count value) column = value := by
  simp [floatValue, List.getD_eq_getElem?_getD, h]

/-- A search from column `"0"` through all columns returns an existing column when there is one. -/
theorem scan_column_lt {columns : Columns} {keys : List Nat} (better : Nat → Nat → Prop)
    [DecidableRel better] (hkeys : keys.Perm (List.range columns.length))
    (hlength : 0 < columns.length) : scan better 0 keys < columns.length := by
  rcases List.mem_cons.mp (scan_mem better 0 keys) with h | h
  · rwa [h]
  · exact List.mem_range.mp (hkeys.subset h)

/-- In a dictionary with at most one column every search stays on column `"0"`. -/
theorem scan_column_eq_zero {columns : Columns} {keys : List Nat} (better : Nat → Nat → Prop)
    [DecidableRel better] (hkeys : keys.Perm (List.range columns.length))
    (hlength : columns.length ≤ 1) : scan better 0 keys = 0 := by
  rcases List.mem_cons.mp (scan_mem better 0 keys) with h | h
  · exact h
  · have := List.mem_range.mp (hkeys.subset h)
    omega

/-- The first search returns an existing column. -/
theorem min_column_lt {columns : Columns} {keys : List Nat}
    (hkeys : keys.Perm (List.range columns.length)) (hlength : 0 < columns.length) :
    columns.minColumn keys < columns.length := scan_column_lt _ hkeys hlength

/-- The second search returns an existing column. -/
theorem max_column_lt {columns : Columns} {keys : List Nat}
    (hkeys : keys.Perm (List.range columns.length)) (hlength : 0 < columns.length) :
    columns.maxColumn keys < columns.length := scan_column_lt _ hkeys hlength

/-- Whatever the enumeration order, no column is shorter than the one the first search finds. -/
theorem min_column_le {columns : Columns} {keys : List Nat}
    (hkeys : keys.Perm (List.range columns.length)) {column : Nat}
    (h : column < columns.length) :
    columns.floatValue (columns.minColumn keys) ≤ columns.floatValue column :=
  scan_min columns.floatValue 0 keys
    (List.mem_cons_of_mem _ (hkeys.mem_iff.mpr (List.mem_range.mpr h)))

/-- Whatever the enumeration order, no column is taller than the one the second search finds. -/
theorem le_max_column {columns : Columns} {keys : List Nat}
    (hkeys : keys.Perm (List.range columns.length)) {column : Nat}
    (h : column < columns.length) :
    columns.floatValue column ≤ columns.floatValue (columns.maxColumn keys) :=
  scan_max columns.floatValue 0 keys
    (List.mem_cons_of_mem _ (hkeys.mem_iff.mpr (List.mem_range.mpr h)))

/-- Setting the value of the only column leaves only this value. -/
theorem set_value_zero {columns : Columns} (hlength : columns.length ≤ 1) (value : CGFloat) :
    columns.setValue 0 value = [value] := by
  match columns, hlength with
  | [], _ => rfl
  | [_], _ => rfl

end Columns

/-! ## The state of one section -/

/-- The column dictionary of a section. -/
def State.columnsAt (state : State) (sect : Nat) : Columns := state.maxYArray.getD sect []

/-- The column an item of the section would go to. -/
def State.minColumnAt (state : State) (enumeration : Enumeration) (sect : Nat) : Nat :=
  (state.columnsAt sect).minColumn (enumeration.order state.tick (state.columnsAt sect))

namespace Context

/-- The line spacing added above an item: none for the items of the first row. -/
def spacingAbove (ctx : Context) (path : IndexPath) : CGFloat :=
  if ctx.columnsCountAt path.sect ≤ path.item then ctx.lineSpacingAt path.sect else 0

/-- The left edge of an item of the given width in the given column. -/
def columnX (ctx : Context) (sect : Nat) (width : CGFloat) (column : Nat) : CGFloat :=
  (ctx.insetAt sect).left + (width + ctx.interitemSpacingAt sect width) * column

end Context

/-- The frame an item gets in a state. -/
def itemFrame (ctx : Context) (enumeration : Enumeration) (path : IndexPath) (state : State) :
    CGRect :=
  let column := state.minColumnAt enumeration path.sect
  let size := ctx.cellSizeAt path
  ⟨ctx.columnX path.sect size.width column,
    (state.columnsAt path.sect).floatValue column + ctx.spacingAbove path,
    size.width, size.height⟩

/-- The columns of a section are those that were set. -/
theorem columns_at_set {arrays : List Columns} {sect : Nat} {columns : Columns}
    (h : sect < arrays.length) : (arrays.set sect columns).getD sect [] = columns := by
  simp [List.getD_eq_getElem?_getD, h]

/-! ## The loop invariant -/

/-- The cells placed in a section so far, each with the column that received it, and the column
heights they have led to. Every cell lies between `start` and the height of its column, and of
two cells in one column the later one starts at or below the bottom of the earlier one. -/
structure Placed (ctx : Context) (sect : Nat) (start : CGFloat) (columns : Columns)
    (placed : List (Nat × Attributes)) : Prop where
  start_le : ∀ column < columns.length, start ≤ columns.floatValue column
  column_lt : ∀ entry ∈ placed, entry.1 < columns.length
  start_le_y : ∀ entry ∈ placed, start ≤ entry.2.frame.y
  max_y_le : ∀ entry ∈ placed, entry.2.frame.maxY ≤ columns.floatValue entry.1
  frame_x : ∀ entry ∈ placed,
    entry.2.frame.x = ctx.columnX sect (ctx.cellSizeAt entry.2.indexPath).width entry.1
  width_eq : ∀ entry ∈ placed,
    entry.2.frame.width = (ctx.cellSizeAt entry.2.indexPath).width
  stacked : placed.Pairwise fun earlier later =>
    earlier.1 = later.1 → earlier.2.frame.maxY ≤ later.2.frame.y
  items : placed.map (fun entry => entry.2.toElement) =
    (List.range placed.length).map fun item => ⟨.cell, ⟨sect, item⟩⟩

/-- A section starts with no cells and every column at `start`. -/
theorem Placed.initial (ctx : Context) (sect : Nat) (start : CGFloat) (count : Nat) :
    Placed ctx sect start (List.replicate count start) [] where
  start_le column h := by
    rw [List.length_replicate] at h
    exact (Columns.float_value_replicate start h).ge
  column_lt := by simp
  start_le_y := by simp
  max_y_le := by simp
  frame_x := by simp
  width_eq := by simp
  stacked := List.Pairwise.nil
  items := by simp

/-- The step lemma: dropping the next item into any column below which there is nothing keeps
the invariant. Only the heights matter here, not that the column is the shortest. -/
theorem Placed.record_item {ctx : Context} {sect : Nat} {start : CGFloat} {columns : Columns}
    {placed : List (Nat × Attributes)} (h : Placed ctx sect start columns placed)
    {column : Nat} (hcolumn : column < columns.length) (path : IndexPath)
    (hpath : path = ⟨sect, placed.length⟩)
    (hspacing : 0 ≤ ctx.spacingAbove path) (hheight : 0 ≤ (ctx.cellSizeAt path).height)
    (frame : CGRect)
    (hframe : frame = ⟨ctx.columnX sect (ctx.cellSizeAt path).width column,
      columns.floatValue column + ctx.spacingAbove path,
      (ctx.cellSizeAt path).width, (ctx.cellSizeAt path).height⟩) :
    Placed ctx sect start (columns.setValue column frame.maxY)
      (placed ++ [(column, ⟨⟨.cell, path⟩, frame⟩)]) := by
  have hy : columns.floatValue column ≤ frame.y := by
    rw [hframe]
    exact le_add_of_nonneg_right hspacing
  have hmax : columns.floatValue column ≤ frame.maxY := by
    refine hy.trans ?_
    rw [hframe]
    exact le_add_of_nonneg_right hheight
  -- raising one column never lowers a height
  have hraise : ∀ other, columns.floatValue other ≤
      (columns.setValue column frame.maxY).floatValue other := by
    intro other
    rw [Columns.float_value_set_value hcolumn]
    split
    next heq => rwa [heq]
    next => exact le_rfl
  have hlength : (columns.setValue column frame.maxY).length = columns.length :=
    Columns.length_set_value_of_lt hcolumn
  refine ⟨?_, ?_, ?_, ?_, ?_, ?_, ?_, ?_⟩
  · intro other hother
    exact (h.start_le other (hlength ▸ hother)).trans (hraise other)
  · simp only [List.mem_append, List.mem_singleton, hlength]
    rintro entry (hmem | rfl)
    · exact h.column_lt entry hmem
    · exact hcolumn
  · simp only [List.mem_append, List.mem_singleton]
    rintro entry (hmem | rfl)
    · exact h.start_le_y entry hmem
    · exact (h.start_le column hcolumn).trans hy
  · simp only [List.mem_append, List.mem_singleton]
    rintro entry (hmem | rfl)
    · exact (h.max_y_le entry hmem).trans (hraise entry.1)
    · simp [Columns.float_value_set_value hcolumn]
  · simp only [List.mem_append, List.mem_singleton]
    rintro entry (hmem | rfl)
    · exact h.frame_x entry hmem
    · rw [hframe]
  · simp only [List.mem_append, List.mem_singleton]
    rintro entry (hmem | rfl)
    · exact h.width_eq entry hmem
    · rw [hframe]
  · refine List.pairwise_append.mpr ⟨h.stacked, List.pairwise_singleton _ _, ?_⟩
    simp only [List.mem_singleton]
    rintro entry hmem _ rfl heq
    exact (h.max_y_le entry hmem).trans (heq ▸ hy)
  · rw [List.map_append, h.items, List.length_append, List.length_singleton, List.range_succ,
      List.map_append, hpath]
    rfl

/-- In one column cells are stacked, and columns of one width stand side by side. -/
theorem Placed.interiors_disjoint {ctx : Context} {sect : Nat} {start : CGFloat}
    {columns : Columns} {placed : List (Nat × Attributes)}
    (h : Placed ctx sect start columns placed) (width : CGFloat)
    (hwidth : ∀ entry ∈ placed, (ctx.cellSizeAt entry.2.indexPath).width = width)
    (hnonneg : 0 ≤ width) (hgap : 0 ≤ ctx.interitemSpacingAt sect width) :
    (placed.map Prod.snd).Pairwise fun first second =>
      first.frame.InteriorsDisjoint second.frame := by
  have hleft : ∀ first ∈ placed, ∀ second ∈ placed, first.1 < second.1 →
      first.2.frame.maxX ≤ second.2.frame.x := by
    intro first hfirst second hsecond hlt
    rw [CGRect.maxX, h.frame_x first hfirst, h.frame_x second hsecond, h.width_eq first hfirst,
      hwidth first hfirst, hwidth second hsecond, Context.columnX, Context.columnX]
    have hstep : (first.1 : CGFloat) + 1 ≤ second.1 := by exact_mod_cast hlt
    have hpitch : 0 ≤ width + ctx.interitemSpacingAt sect width := add_nonneg hnonneg hgap
    nlinarith [mul_le_mul_of_nonneg_left hstep hpitch]
  refine List.pairwise_map.mpr (h.stacked.imp_of_mem ?_)
  intro first second hfirst hsecond hstacked
  rcases lt_trichotomy first.1 second.1 with hlt | heq | hlt
  · exact .of_left (hleft first hfirst second hsecond hlt)
  · exact .of_above (hstacked heq)
  · exact (CGRect.InteriorsDisjoint.of_left (hleft second hsecond first hfirst hlt)).symm

/-! ## The item loop -/

/-- The space above an item is not negative if the line spacing is not. -/
theorem Context.spacing_above_nonneg {ctx : Context} {path : IndexPath}
    (h : 0 ≤ ctx.lineSpacingAt path.sect) : 0 ≤ ctx.spacingAbove path := by
  unfold Context.spacingAbove
  split
  · exact h
  · exact le_rfl

/-- Recording an item adds its frame to the attributes and to its column. -/
theorem record_item_eq (ctx : Context) (enumeration : Enumeration) (sect : Nat) (state : State)
    (item : Nat) :
    recordItem ctx enumeration sect state item =
      { maxYArray := state.maxYArray.set sect
          ((state.columnsAt sect).setValue (state.minColumnAt enumeration sect)
            (itemFrame ctx enumeration ⟨sect, item⟩ state).maxY)
        attrsArray := state.attrsArray ++
          [⟨⟨.cell, ⟨sect, item⟩⟩, itemFrame ctx enumeration ⟨sect, item⟩ state⟩]
        maxY := state.maxY
        tick := state.tick + 1 } := rfl

/-- The item loop of a section with at least one column keeps `Placed`, whatever the enumeration
orders are. Only the section's dictionary and `attrsArray` change. -/
theorem record_items {ctx : Context} (enumeration : Enumeration) {sect : Nat} (state : State)
    (start : CGFloat) (hcolumns : 1 ≤ ctx.columnsCountAt sect)
    (hsect : sect < state.maxYArray.length)
    (hstart : state.columnsAt sect = List.replicate (ctx.columnsCountAt sect).toNat start)
    (hspacing : 0 ≤ ctx.lineSpacingAt sect) (count : Nat)
    (hheight : ∀ item < count, 0 ≤ (ctx.cellSizeAt ⟨sect, item⟩).height) :
    ∃ columns placed, Placed ctx sect start columns placed ∧ placed.length = count ∧
      columns.length = (ctx.columnsCountAt sect).toNat ∧
      ∃ tick, (List.range count).foldl (recordItem ctx enumeration sect) state =
        ⟨state.maxYArray.set sect columns, state.attrsArray ++ placed.map Prod.snd,
          state.maxY, tick⟩ := by
  induction count with
  | zero =>
      refine ⟨_, [], Placed.initial ctx sect start _, rfl, List.length_replicate, state.tick, ?_⟩
      have hself : state.maxYArray.set sect (state.columnsAt sect) = state.maxYArray := by
        simp [State.columnsAt, List.getD_eq_getElem?_getD, hsect]
      rw [← hstart, hself]
      simp
  | succ count ih =>
      obtain ⟨columns, placed, hplaced, hcount, hlength, tick, hfold⟩ :=
        ih (fun item hitem => hheight item (by omega))
      rw [List.range_succ, List.foldl_append, hfold, List.foldl_cons, List.foldl_nil,
        record_item_eq]
      generalize hbefore : (⟨state.maxYArray.set sect columns,
        state.attrsArray ++ placed.map Prod.snd, state.maxY, tick⟩ : State) = before
      have hat : before.columnsAt sect = columns := by
        rw [← hbefore]
        exact columns_at_set hsect
      have hmin : before.minColumnAt enumeration sect < columns.length := by
        rw [State.minColumnAt, hat]
        exact Columns.min_column_lt (enumeration.perm _ _) (by omega)
      have hnext := hplaced.record_item hmin ⟨sect, count⟩ (by rw [hcount])
        (Context.spacing_above_nonneg hspacing) (hheight count (by omega))
        (itemFrame ctx enumeration ⟨sect, count⟩ before) (by rw [itemFrame, hat])
      refine ⟨_, _, hnext, by simp [hcount], ?_, tick + 1, ?_⟩
      · rw [Columns.length_set_value_of_lt hmin, hlength]
      · rw [hat, ← hbefore]
        simp

/-- In a section without columns the missing entry under `"0"` reads as zero, so the items are
stacked from the top of the whole layout and not from the section's own top. -/
theorem record_items_of_no_columns {ctx : Context} (enumeration : Enumeration) {sect : Nat}
    (state : State) (hcolumns : ctx.columnsCountAt sect ≤ 0)
    (hsect : sect < state.maxYArray.length) (hstart : state.columnsAt sect = []) (count : Nat) :
    ∃ columns : Columns, columns.length ≤ 1 ∧
      columns.floatValue 0 = ∑ item ∈ Finset.range count,
        (ctx.lineSpacingAt sect + (ctx.cellSizeAt ⟨sect, item⟩).height) ∧
      ∃ cells tick, (List.range count).foldl (recordItem ctx enumeration sect) state =
        ⟨state.maxYArray.set sect columns, state.attrsArray ++ cells, state.maxY, tick⟩ := by
  induction count with
  | zero =>
      refine ⟨[], by simp, by simp [Columns.floatValue], [], state.tick, ?_⟩
      have hself : state.maxYArray.set sect (state.columnsAt sect) = state.maxYArray := by
        simp [State.columnsAt, List.getD_eq_getElem?_getD, hsect]
      rw [← hstart, hself]
      simp
  | succ count ih =>
      obtain ⟨columns, hlength, hvalue, cells, tick, hfold⟩ := ih
      rw [List.range_succ, List.foldl_append, hfold, List.foldl_cons, List.foldl_nil,
        record_item_eq]
      generalize hbefore : (⟨state.maxYArray.set sect columns,
        state.attrsArray ++ cells, state.maxY, tick⟩ : State) = before
      have hat : before.columnsAt sect = columns := by
        rw [← hbefore]
        exact columns_at_set hsect
      have hmin : before.minColumnAt enumeration sect = 0 := by
        rw [State.minColumnAt, hat]
        exact Columns.scan_column_eq_zero _ (enumeration.perm _ _) hlength
      have hspacing : ctx.spacingAbove ⟨sect, count⟩ = ctx.lineSpacingAt sect :=
        if_pos (hcolumns.trans (Int.natCast_nonneg count))
      have hmax : (itemFrame ctx enumeration ⟨sect, count⟩ before).maxY =
          columns.floatValue 0 + (ctx.lineSpacingAt sect +
            (ctx.cellSizeAt ⟨sect, count⟩).height) := by
        rw [CGRect.maxY, itemFrame, hmin, hat, hspacing, add_assoc]
      rw [hat, hmin, Columns.set_value_zero hlength]
      refine ⟨[(itemFrame ctx enumeration ⟨sect, count⟩ before).maxY], by simp, ?_, cells ++
        [⟨⟨.cell, ⟨sect, count⟩⟩, itemFrame ctx enumeration ⟨sect, count⟩ before⟩], tick + 1, ?_⟩
      · rw [Finset.sum_range_succ, ← hvalue, ← hmax]
        rfl
      · simp [← hbefore]

end Component.WaterLayout

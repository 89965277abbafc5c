import Component.WaterLayout.Prepare

/-!
# The turns of the item loop

`prepareLayout` reaches item `item` of section `sect` in one definite state, `itemTurn`, which has
placed every earlier section and the first `item` items of this one. From that state come the
column the item is dropped into, `chosenColumn`, and the frame it gets, `turnFrame`. This module
says how the section's column heights evolve from one turn to the next, without any assumption
on the sizes or on the other sections, and `cell_mem_prepare_layout` says that the frames of the
turns are those the finished layout holds.
-/

namespace Component.WaterLayout

/-! ## Dictionaries of all sections -/

/-- Recording items adds no section. -/
theorem length_record_items (ctx : Context) (enumeration : Enumeration) (sect : Nat)
    (items : List Nat) (state : State) :
    (items.foldl (recordItem ctx enumeration sect) state).maxYArray.length =
      state.maxYArray.length := by
  induction items generalizing state with
  | nil => rfl
  | cons item items ih =>
      rw [List.foldl_cons, ih, record_item_eq]
      exact List.length_set

/-- A section appends one dictionary, with or without columns. -/
theorem length_layout_section (ctx : Context) (enumeration : Enumeration) {sect : Nat}
    {state : State} (h : state.maxYArray.length = sect) :
    (layoutSection ctx enumeration state sect).maxYArray.length = sect + 1 := by
  rw [layoutSection, record_supplementary_view_eq]
  simp only [addMaxY, layoutCells, closeColumns]
  rw [length_record_items, record_supplementary_view_eq]
  simp [createColumns, h]

/-- Each section that is laid out has its columns. -/
theorem length_layout_sections (ctx : Context) (enumeration : Enumeration) (sect : Nat)
    (state : State) :
    (layoutSections ctx enumeration sect state).maxYArray.length = sect := by
  induction sect with
  | zero => rfl
  | succ sect ih =>
      rw [layout_sections_succ]
      exact length_layout_section ctx enumeration ih

/-! ## Turns -/

/-- The state in which `prepareLayout` creates the dictionary of a section. -/
def sectionStart (ctx : Context) (enumeration : Enumeration) (state : State) (sect : Nat) :
    State :=
  addMaxY (ctx.insetAt sect).top
    (recordSupplementaryView ctx .header sect (layoutSections ctx enumeration sect state))

/-- The top of a section's cells. -/
def sectionTop (ctx : Context) (enumeration : Enumeration) (state : State) (sect : Nat) :
    CGFloat :=
  (sectionStart ctx enumeration state sect).maxY

/-- The state in which `prepareLayout` reaches an item: the item's section has its dictionary and
the items before it. -/
def itemTurn (ctx : Context) (enumeration : Enumeration) (state : State) (path : IndexPath) :
    State :=
  (List.range path.item).foldl (recordItem ctx enumeration path.sect)
    (createColumns ctx path.sect (sectionStart ctx enumeration state path.sect))

/-- The column heights of a section when `prepareLayout` reaches an item of it. -/
def turnColumns (ctx : Context) (enumeration : Enumeration) (state : State) (path : IndexPath) :
    Columns :=
  (itemTurn ctx enumeration state path).columnsAt path.sect

/-- The column an item is dropped into. -/
def chosenColumn (ctx : Context) (enumeration : Enumeration) (state : State) (path : IndexPath) :
    Nat :=
  (itemTurn ctx enumeration state path).minColumnAt enumeration path.sect

/-- The frame an item gets in its turn. -/
def turnFrame (ctx : Context) (enumeration : Enumeration) (state : State) (path : IndexPath) :
    CGRect :=
  itemFrame ctx enumeration path (itemTurn ctx enumeration state path)

variable (ctx : Context) (enumeration : Enumeration) (state : State)

/-- The turn of the next item comes after this one has been recorded. -/
theorem item_turn_succ (sect item : Nat) :
    itemTurn ctx enumeration state ⟨sect, item + 1⟩ =
      recordItem ctx enumeration sect (itemTurn ctx enumeration state ⟨sect, item⟩) item := by
  simp only [itemTurn, List.range_succ, List.foldl_append, List.foldl_cons, List.foldl_nil]

/-- The turn after the last item closes the section. -/
theorem layout_section_eq_turn (sect : Nat) :
    layoutSection ctx enumeration (layoutSections ctx enumeration sect state) sect =
      recordSupplementaryView ctx .footer sect (addMaxY (ctx.insetAt sect).bottom
        (closeColumns enumeration sect
          (itemTurn ctx enumeration state ⟨sect, ctx.numberOfItemsInSection sect⟩))) := rfl

/-- Before the items of a section only the earlier sections have columns. -/
theorem length_section_start (sect : Nat) :
    (sectionStart ctx enumeration state sect).maxYArray.length = sect := by
  rw [sectionStart, record_supplementary_view_eq]
  exact length_layout_sections ctx enumeration sect state

/-- At the turn of an item its section has columns. -/
theorem length_item_turn (path : IndexPath) :
    (itemTurn ctx enumeration state path).maxYArray.length = path.sect + 1 := by
  rw [itemTurn, length_record_items,
    create_columns_eq ctx (length_section_start ctx enumeration state path.sect)]
  simp [length_section_start]

/-- A section starts with every column at its top. -/
theorem turn_columns_zero (sect : Nat) :
    turnColumns ctx enumeration state ⟨sect, 0⟩ =
      List.replicate (ctx.columnsCountAt sect).toNat (sectionTop ctx enumeration state sect) := by
  have hstart := length_section_start ctx enumeration state sect
  simp only [turnColumns, itemTurn, List.range_zero, List.foldl_nil, State.columnsAt,
    create_columns_eq ctx hstart, columns_at_append hstart]
  rfl

/-- An item raises its column to its own bottom edge. -/
theorem turn_columns_succ (sect item : Nat) :
    turnColumns ctx enumeration state ⟨sect, item + 1⟩ =
      (turnColumns ctx enumeration state ⟨sect, item⟩).setValue
        (chosenColumn ctx enumeration state ⟨sect, item⟩)
        (turnFrame ctx enumeration state ⟨sect, item⟩).maxY := by
  rw [turnColumns, item_turn_succ, record_item_eq, State.columnsAt, columns_at_set]
  · rfl
  · rw [length_item_turn]
    exact Nat.lt_succ_self sect

/-- What the frame of a turn consists of. -/
theorem turn_frame_eq (path : IndexPath) :
    turnFrame ctx enumeration state path =
      ⟨ctx.columnX path.sect (ctx.cellSizeAt path).width
          (chosenColumn ctx enumeration state path),
        (turnColumns ctx enumeration state path).floatValue
          (chosenColumn ctx enumeration state path) + ctx.spacingAbove path,
        (ctx.cellSizeAt path).width, (ctx.cellSizeAt path).height⟩ := rfl

/-! ## Sections with columns -/

section Columns

variable {ctx} {sect : Nat} (hcolumns : 1 ≤ ctx.columnsCountAt sect)
include hcolumns

/-- The item loop never changes the number of columns. -/
theorem length_turn_columns (item : Nat) :
    (turnColumns ctx enumeration state ⟨sect, item⟩).length =
      (ctx.columnsCountAt sect).toNat := by
  induction item with
  | zero => rw [turn_columns_zero, List.length_replicate]
  | succ item ih =>
      rw [turn_columns_succ, Columns.length_set_value_of_lt, ih]
      refine Columns.min_column_lt (enumeration.perm _ _) ?_
      show 0 < (turnColumns ctx enumeration state ⟨sect, item⟩).length
      omega

/-- There is a column at the turn of every item. -/
theorem turn_columns_pos (item : Nat) :
    0 < (turnColumns ctx enumeration state ⟨sect, item⟩).length := by
  rw [length_turn_columns enumeration state hcolumns]
  omega

/-- The column that is chosen is one of the section's. -/
theorem chosen_column_lt (item : Nat) :
    chosenColumn ctx enumeration state ⟨sect, item⟩ < (ctx.columnsCountAt sect).toNat := by
  rw [← length_turn_columns enumeration state hcolumns item]
  exact Columns.min_column_lt (enumeration.perm _ _)
    (turn_columns_pos enumeration state hcolumns item)

/-- The chosen column is a shortest one. -/
theorem chosen_column_le (item : Nat) {column : Nat}
    (h : column < (ctx.columnsCountAt sect).toNat) :
    (turnColumns ctx enumeration state ⟨sect, item⟩).floatValue
        (chosenColumn ctx enumeration state ⟨sect, item⟩) ≤
      (turnColumns ctx enumeration state ⟨sect, item⟩).floatValue column := by
  rw [← length_turn_columns enumeration state hcolumns item] at h
  exact Columns.min_column_le (enumeration.perm _ _) h

/-- Column heights, turn by turn. -/
theorem float_value_turn_succ (item column : Nat) :
    (turnColumns ctx enumeration state ⟨sect, item + 1⟩).floatValue column =
      if column = chosenColumn ctx enumeration state ⟨sect, item⟩ then
        (turnFrame ctx enumeration state ⟨sect, item⟩).maxY
      else (turnColumns ctx enumeration state ⟨sect, item⟩).floatValue column := by
  rw [turn_columns_succ, Columns.float_value_set_value]
  rw [length_turn_columns enumeration state hcolumns]
  exact chosen_column_lt enumeration state hcolumns item

/-- With non-negative heights and spacing the columns only grow. -/
theorem float_value_turn_mono {first last : Nat} (hle : first ≤ last)
    (hheight : ∀ item < last, 0 ≤ (ctx.cellSizeAt ⟨sect, item⟩).height)
    (hspacing : 0 ≤ ctx.lineSpacingAt sect) (column : Nat) :
    (turnColumns ctx enumeration state ⟨sect, first⟩).floatValue column ≤
      (turnColumns ctx enumeration state ⟨sect, last⟩).floatValue column := by
  induction hle with
  | refl => exact le_rfl
  | @step last hle ih =>
      refine (ih fun item hitem => hheight item (by omega)).trans ?_
      rw [float_value_turn_succ enumeration state hcolumns]
      split
      · next hchosen =>
          have hraised : (turnFrame ctx enumeration state ⟨sect, last⟩).maxY =
              (turnColumns ctx enumeration state ⟨sect, last⟩).floatValue
                (chosenColumn ctx enumeration state ⟨sect, last⟩) +
                ctx.spacingAbove ⟨sect, last⟩ + (ctx.cellSizeAt ⟨sect, last⟩).height := rfl
          have habove : 0 ≤ ctx.spacingAbove ⟨sect, last⟩ := Context.spacing_above_nonneg hspacing
          have hitem := hheight last (by omega)
          rw [hraised, hchosen]
          linarith
      · exact le_rfl

omit hcolumns in
/-- Before the first item all columns begin at the top of the section. -/
theorem float_value_turn_zero {column : Nat} (h : column < (ctx.columnsCountAt sect).toNat) :
    (turnColumns ctx enumeration state ⟨sect, 0⟩).floatValue column =
      sectionTop ctx enumeration state sect := by
  rw [turn_columns_zero]
  exact Columns.float_value_replicate _ h

end Columns

/-! ## The finished layout -/

/-- The attributes recorded up to an item's turn. -/
theorem item_turn_attrs (sect count : Nat) :
    (itemTurn ctx enumeration state ⟨sect, count⟩).attrsArray =
      (sectionStart ctx enumeration state sect).attrsArray ++
        (List.range count).map fun item =>
          ⟨⟨.cell, ⟨sect, item⟩⟩, turnFrame ctx enumeration state ⟨sect, item⟩⟩ := by
  induction count with
  | zero =>
      rw [itemTurn, create_columns_eq ctx (length_section_start ctx enumeration state sect)]
      simp
  | succ count ih =>
      rw [item_turn_succ, record_item_eq, ih, List.range_succ, List.map_append,
        List.append_assoc]
      rfl

/-- A header or footer is not a cell. -/
theorem supplementary_attributes_kind {kind : ElementKind} {sect : Nat} {size : CGSize}
    {y : CGFloat} {attrs : Attributes} (h : attrs ∈ supplementaryAttributes kind sect size y) :
    attrs.kind = kind := by
  unfold supplementaryAttributes at h
  split at h
  · simp at h
  · rw [List.mem_singleton.mp h]

/-- The attributes a section leaves behind: its header, its cells as placed in their turns, and
its footer. -/
theorem layout_sections_succ_attrs (sect : Nat) :
    ∃ y, (layoutSections ctx enumeration (sect + 1) state).attrsArray =
      (layoutSections ctx enumeration sect state).attrsArray ++
        (supplementaryAttributes .header sect (ctx.headerSizeAt sect)
          (layoutSections ctx enumeration sect state).maxY ++
        ((List.range (ctx.numberOfItemsInSection sect)).map (fun item =>
          ⟨⟨.cell, ⟨sect, item⟩⟩, turnFrame ctx enumeration state ⟨sect, item⟩⟩) ++
        supplementaryAttributes .footer sect (ctx.footerSizeAt sect) y)) := by
  generalize hclosed : addMaxY (ctx.insetAt sect).bottom (closeColumns enumeration sect
    (itemTurn ctx enumeration state ⟨sect, ctx.numberOfItemsInSection sect⟩)) = closed
  have hattrs : closed.attrsArray = (itemTurn ctx enumeration state
      ⟨sect, ctx.numberOfItemsInSection sect⟩).attrsArray := by
    rw [← hclosed]
    rfl
  refine ⟨closed.maxY, ?_⟩
  rw [layout_sections_succ, layout_section_eq_turn, hclosed, record_supplementary_view_eq]
  dsimp only
  rw [hattrs, item_turn_attrs, sectionStart, record_supplementary_view_eq]
  simp only [addMaxY, List.append_assoc, Context.supplementary_size_at_header,
    Context.supplementary_size_at_footer]

/-- The cells of the finished layout are exactly those of the turns. -/
theorem cell_mem_prepare_layout (attrs : Attributes) (hcell : attrs.kind = .cell) :
    attrs ∈ (prepareLayout ctx enumeration state).attrsArray ↔
      attrs.indexPath.sect < ctx.numberOfSections ∧
      attrs.indexPath.item < ctx.numberOfItemsInSection attrs.indexPath.sect ∧
      attrs.frame = turnFrame ctx enumeration state attrs.indexPath := by
  rw [prepareLayout]
  generalize ctx.numberOfSections = count
  induction count with
  | zero => simp [layoutSections, clear]
  | succ count ih =>
      obtain ⟨y, heq⟩ := layout_sections_succ_attrs ctx enumeration state count
      -- neither the header nor the footer of the section is a cell
      have hnot : ∀ {kind size y}, kind ≠ .cell →
          attrs ∉ supplementaryAttributes kind count size y :=
        fun hkind hmem => hkind ((supplementary_attributes_kind hmem).symm.trans hcell)
      rw [heq, List.mem_append, List.mem_append, List.mem_append, ih]
      simp only [hnot (show ElementKind.header ≠ .cell by decide),
        hnot (show ElementKind.footer ≠ .cell by decide), false_or, or_false, List.mem_map,
        List.mem_range]
      constructor
      · rintro (⟨hsect, hrest⟩ | ⟨item, hitem, rfl⟩)
        · exact ⟨by omega, hrest⟩
        · exact ⟨Nat.lt_succ_self count, hitem, rfl⟩
      · rintro ⟨hsect, hitem, hframe⟩
        by_cases hlt : attrs.indexPath.sect < count
        · exact .inl ⟨hlt, hitem, hframe⟩
        · obtain ⟨⟨kind, sect, item⟩, frame⟩ := attrs
          have hcount : sect = count := by
            simp only at hsect hlt
            omega
          subst hcount
          simp only at hcell hframe hitem
          exact .inr ⟨item, hitem, by rw [hcell, hframe]⟩

end Component.WaterLayout

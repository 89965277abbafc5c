import Component.WaterLayout.Placement

/-!
# Sections stacked by `prepareLayout`

`SectionLaid` is what one turn of the section loop does when the section has a column: its
elements occupy the strip between the old and the new `maxY`. `Laid` is the loop invariant over
all sections before the current one. From it follow `prepare_layout_frames`, the shape of a
finished layout, and `sections_stacked_iff`, which says for which column counts sections are
stacked below each other.
-/

namespace Component.WaterLayout

/-! ## What the lengths and widths of a layout satisfy -/

namespace Context

/-- All lengths the layout reads are non-negative. -/
structure NonNegative (ctx : Context) : Prop where
  lineSpacing : 0 ≤ ctx.lineSpacing
  interitemSpacing : 0 ≤ ctx.interitemSpacing
  minimumLineSpacing : ∀ sect < ctx.numberOfSections,
    0 ≤ ctx.ask Delegate.minimumLineSpacingForSectionAtIndex sect 0
  minimumInteritemSpacing : ∀ sect < ctx.numberOfSections,
    0 ≤ ctx.ask Delegate.minimumInteritemSpacingForSectionAtIndex sect 0
  inset : ∀ sect < ctx.numberOfSections,
    0 ≤ (ctx.insetAt sect).top ∧ 0 ≤ (ctx.insetAt sect).left ∧
      0 ≤ (ctx.insetAt sect).bottom ∧ 0 ≤ (ctx.insetAt sect).right
  header : ∀ sect < ctx.numberOfSections,
    0 ≤ (ctx.headerSizeAt sect).width ∧ 0 ≤ (ctx.headerSizeAt sect).height
  footer : ∀ sect < ctx.numberOfSections,
    0 ≤ (ctx.footerSizeAt sect).width ∧ 0 ≤ (ctx.footerSizeAt sect).height
  cell : ∀ sect < ctx.numberOfSections, ∀ item < ctx.numberOfItemsInSection sect,
    0 ≤ (ctx.cellSizeAt ⟨sect, item⟩).width ∧ 0 ≤ (ctx.cellSizeAt ⟨sect, item⟩).height

/-- The items of a section share one width. -/
def SharedWidth (ctx : Context) (sect : Nat) : Prop :=
  ∀ first < ctx.numberOfItemsInSection sect, ∀ second < ctx.numberOfItemsInSection sect,
    (ctx.cellSizeAt ⟨sect, first⟩).width = (ctx.cellSizeAt ⟨sect, second⟩).width

/-- The elements of a section in the order in which they are laid out. -/
def sectionElements (ctx : Context) (sect : Nat) : List Element :=
  (if ctx.headerSizeAt sect = CGSize.zero then [] else [⟨.header, ⟨sect, 0⟩⟩]) ++
    (List.range (ctx.numberOfItemsInSection sect)).map (fun item => ⟨.cell, ⟨sect, item⟩⟩) ++
    (if ctx.footerSizeAt sect = CGSize.zero then [] else [⟨.footer, ⟨sect, 0⟩⟩])

/-- An element is shown if it is an item or a header or footer of non-zero size. -/
def Shows (ctx : Context) (element : Element) : Prop :=
  element.indexPath.sect < ctx.numberOfSections ∧
    match element.kind with
    | .header => element.indexPath.item = 0 ∧
        ctx.headerSizeAt element.indexPath.sect ≠ CGSize.zero
    | .cell => element.indexPath.item < ctx.numberOfItemsInSection element.indexPath.sect
    | .footer => element.indexPath.item = 0 ∧
        ctx.footerSizeAt element.indexPath.sect ≠ CGSize.zero

/-- An answer is not negative if neither the delegate's nor the default is. -/
theorem ask_nonneg {ι : Type} {ctx : Context} {method : Delegate → Option (ι → CGFloat)}
    {index : ι} {default : CGFloat} (hanswer : 0 ≤ ctx.ask method index 0)
    (hdefault : 0 ≤ default) : 0 ≤ ctx.ask method index default := by
  unfold ask at *
  split at * <;> assumption

/-- The line spacing of a section is not negative. -/
theorem NonNegative.line_spacing_at {ctx : Context} (h : ctx.NonNegative) {sect : Nat}
    (hsect : sect < ctx.numberOfSections) : 0 ≤ ctx.lineSpacingAt sect :=
  ask_nonneg (h.minimumInteritemSpacing sect hsect)
    (ask_nonneg (h.minimumLineSpacing sect hsect) h.lineSpacing)

/-- Truncation may make the even gap negative, but the property bounds it from below. -/
theorem interitem_spacing_at_nonneg {ctx : Context} (h : 0 ≤ ctx.interitemSpacing) (sect : Nat)
    (width : CGFloat) : 0 ≤ ctx.interitemSpacingAt sect width := by
  unfold interitemSpacingAt
  dsimp only
  split
  · exact h.trans (le_max_right _ _)
  · exact h

/-- The elements of a section are those of it that are shown. -/
theorem mem_section_elements {ctx : Context} {sect : Nat} {element : Element}
    (hsect : sect < ctx.numberOfSections) :
    element ∈ ctx.sectionElements sect ↔ element.indexPath.sect = sect ∧ ctx.Shows element := by
  obtain ⟨kind, ⟨index, item⟩⟩ := element
  unfold sectionElements Shows
  constructor
  · intro h
    simp only [List.mem_append, List.mem_map, List.mem_range] at h
    rcases h with (h | ⟨other, hother, h⟩) | h
    · split at h
      · simp at h
      next hsize =>
        simp only [List.mem_singleton, Element.mk.injEq, IndexPath.mk.injEq] at h
        obtain ⟨rfl, rfl, rfl⟩ := h
        exact ⟨rfl, hsect, rfl, hsize⟩
    · simp only [Element.mk.injEq, IndexPath.mk.injEq] at h
      obtain ⟨rfl, rfl, rfl⟩ := h
      exact ⟨rfl, hsect, hother⟩
    · split at h
      · simp at h
      next hsize =>
        simp only [List.mem_singleton, Element.mk.injEq, IndexPath.mk.injEq] at h
        obtain ⟨rfl, rfl, rfl⟩ := h
        exact ⟨rfl, hsect, rfl, hsize⟩
  · rintro ⟨rfl, _, h⟩
    cases kind with
    | header => simp_all
    | cell => simp_all
    | footer => simp_all

/-- The elements of a section have its index. -/
theorem sect_of_mem_section_elements {ctx : Context} {sect : Nat} {element : Element}
    (h : element ∈ ctx.sectionElements sect) : element.indexPath.sect = sect := by
  simp only [sectionElements, List.mem_append, List.mem_map] at h
  rcases h with (h | ⟨item, _, rfl⟩) | h
  · split at h
    · simp at h
    · rw [List.mem_singleton.mp h]
  · rfl
  · split at h
    · simp at h
    · rw [List.mem_singleton.mp h]

/-- No element of a section occurs twice. -/
theorem nodup_section_elements (ctx : Context) (sect : Nat) :
    (ctx.sectionElements sect).Nodup := by
  have hcells : ((List.range (ctx.numberOfItemsInSection sect)).map
      (fun item => (⟨.cell, ⟨sect, item⟩⟩ : Element))).Nodup :=
    List.nodup_range.map (fun first second h => by simpa using h)
  unfold sectionElements
  refine List.Nodup.append (List.Nodup.append ?_ hcells ?_) ?_ ?_
  · split <;> simp
  · split <;> simp [List.disjoint_left]
  · split <;> simp
  · split <;> split <;> simp [List.disjoint_left]

/-- No element of the layout occurs twice. -/
theorem nodup_elements (ctx : Context) (count : Nat) :
    ((List.range count).flatMap ctx.sectionElements).Nodup := by
  refine List.nodup_flatMap.mpr ⟨fun sect _ => ctx.nodup_section_elements sect, ?_⟩
  refine List.nodup_range.imp ?_
  intro first second hne
  rw [Function.onFun, List.disjoint_left]
  intro element hfirst hsecond
  exact hne ((sect_of_mem_section_elements hfirst).symm.trans
    (sect_of_mem_section_elements hsecond))

end Context

/-! ## Strips of the layout -/

/-- Every frame starts at or below `lo` and ends at or above `hi`. -/
def Between (lo hi : CGFloat) (laid : List Attributes) : Prop :=
  ∀ attrs ∈ laid, lo ≤ attrs.frame.y ∧ attrs.frame.maxY ≤ hi

/-- The frames of a list do not overlap. -/
def Apart (laid : List Attributes) : Prop :=
  laid.Pairwise fun first second => first.frame.InteriorsDisjoint second.frame

/-- Attributes between two heights are between heights further apart. -/
theorem Between.mono {lo lo' hi hi' : CGFloat} {laid : List Attributes}
    (h : Between lo hi laid) (hlo : lo' ≤ lo) (hhi : hi ≤ hi') : Between lo' hi' laid := by
  intro attrs hattrs
  exact ⟨hlo.trans (h attrs hattrs).1, (h attrs hattrs).2.trans hhi⟩

/-- Two strips on top of each other make one strip. -/
theorem Between.append {lo mid hi : CGFloat} {upper lower : List Attributes}
    (hupper : Between lo mid upper) (hlower : Between mid hi lower) (hlo : lo ≤ mid)
    (hhi : mid ≤ hi) : Between lo hi (upper ++ lower) := by
  intro attrs hattrs
  rcases List.mem_append.mp hattrs with h | h
  · exact hupper.mono le_rfl hhi attrs h
  · exact hlower.mono hlo le_rfl attrs h

/-- Strips on top of each other do not overlap. -/
theorem Apart.append {lo mid hi : CGFloat} {upper lower : List Attributes}
    (hupper : Apart upper) (hlower : Apart lower) (habove : Between lo mid upper)
    (hbelow : Between mid hi lower) : Apart (upper ++ lower) := by
  refine List.pairwise_append.mpr ⟨hupper, hlower, ?_⟩
  intro first hfirst second hsecond
  exact .of_above ((habove first hfirst).2.trans (hbelow second hsecond).1)

/-! ## Headers and footers -/

/-- The attributes recorded for a header or footer of the given size at height `y`. -/
def supplementaryAttributes (kind : ElementKind) (sect : Nat) (size : CGSize) (y : CGFloat) :
    List Attributes :=
  if size = CGSize.zero then [] else [⟨⟨kind, ⟨sect, 0⟩⟩, ⟨0, y, size.width, size.height⟩⟩]

/-- The size of the header or the footer of a section. -/
def Context.supplementarySizeAt (ctx : Context) : ElementKind → Nat → CGSize
  | .header, sect => ctx.headerSizeAt sect
  | .footer, sect => ctx.footerSizeAt sect
  | .cell, _ => CGSize.zero

/-- The size of a header is `headerSizeAt`. -/
@[simp] theorem Context.supplementary_size_at_header (ctx : Context) (sect : Nat) :
    ctx.supplementarySizeAt .header sect = ctx.headerSizeAt sect := rfl

/-- The size of a footer is `footerSizeAt`. -/
@[simp] theorem Context.supplementary_size_at_footer (ctx : Context) (sect : Nat) :
    ctx.supplementarySizeAt .footer sect = ctx.footerSizeAt sect := rfl

/-- A header or footer is recorded below what there is. -/
theorem record_supplementary_view_eq (ctx : Context) (kind : ElementKind) (sect : Nat)
    (state : State) :
    recordSupplementaryView ctx kind sect state =
      { state with
        attrsArray := state.attrsArray ++
          supplementaryAttributes kind sect (ctx.supplementarySizeAt kind sect) state.maxY
        maxY := state.maxY + (ctx.supplementarySizeAt kind sect).height } := by
  have hrecorded : ∀ size : CGSize, (if size = CGSize.zero then none else
      some (⟨⟨kind, ⟨sect, 0⟩⟩, ⟨0, state.maxY, size.width, size.height⟩⟩ : Attributes)).toList =
        supplementaryAttributes kind sect size state.maxY := by
    intro size
    unfold supplementaryAttributes
    split <;> rfl
  cases kind with
  | header | footer =>
      simp only [recordSupplementaryView, layoutAttributesForSupplementaryView, hrecorded,
        Context.supplementarySizeAt]
  | cell =>
      simp [recordSupplementaryView, layoutAttributesForSupplementaryView,
        supplementaryAttributes, Context.supplementarySizeAt, CGSize.zero]

/-- A header or footer is as high as its size. -/
theorem supplementary_attributes_between (kind : ElementKind) (sect : Nat) (size : CGSize)
    (y : CGFloat) : Between y (y + size.height) (supplementaryAttributes kind sect size y) := by
  unfold supplementaryAttributes
  split
  · simp [Between]
  · intro attrs hattrs
    obtain rfl := List.mem_singleton.mp hattrs
    exact ⟨le_rfl, le_rfl⟩

/-- One header or footer does not overlap anything. -/
theorem supplementary_attributes_apart (kind : ElementKind) (sect : Nat) (size : CGSize)
    (y : CGFloat) : Apart (supplementaryAttributes kind sect size y) := by
  unfold supplementaryAttributes Apart
  split <;> simp

/-- A header or footer is recorded unless its size is zero. -/
theorem supplementary_attributes_elements (kind : ElementKind) (sect : Nat) (size : CGSize)
    (y : CGFloat) :
    (supplementaryAttributes kind sect size y).map Attributes.toElement =
      if size = CGSize.zero then [] else [⟨kind, ⟨sect, 0⟩⟩] := by
  unfold supplementaryAttributes
  split <;> rfl

/-! ## The cells of a section -/

/-- The dictionary of a new section is appended with every column at the current `maxY`. -/
theorem create_columns_eq (ctx : Context) {sect : Nat} {state : State}
    (h : state.maxYArray.length = sect) :
    createColumns ctx sect state = { state with
      maxYArray := state.maxYArray ++
        [List.replicate (ctx.columnsCountAt sect).toNat state.maxY] } := by
  simp [createColumns, h]

/-- The columns of the last section are those that were added. -/
theorem columns_at_append {arrays : List Columns} {sect : Nat} {columns : Columns}
    (h : arrays.length = sect) : (arrays ++ [columns]).getD sect [] = columns := by
  simp [List.getD_eq_getElem?_getD, ← h]

/-- The cells of a section with a column: a filled dictionary is appended to `maxYArray`, and
`maxY` becomes its greatest height. -/
theorem layout_cells_eq {ctx : Context} (enumeration : Enumeration) {sect : Nat} {state : State}
    (hsect : state.maxYArray.length = sect) (hcolumns : 1 ≤ ctx.columnsCountAt sect)
    (hspacing : 0 ≤ ctx.lineSpacingAt sect)
    (hheight : ∀ item < ctx.numberOfItemsInSection sect,
      0 ≤ (ctx.cellSizeAt ⟨sect, item⟩).height) :
    ∃ columns placed, Placed ctx sect state.maxY columns placed ∧
      placed.length = ctx.numberOfItemsInSection sect ∧
      columns.length = (ctx.columnsCountAt sect).toNat ∧
      ∃ tallest < columns.length,
        (∀ column < columns.length, columns.floatValue column ≤ columns.floatValue tallest) ∧
        ∃ tick, layoutCells ctx enumeration sect state =
          ⟨state.maxYArray ++ [columns], state.attrsArray ++ placed.map Prod.snd,
            columns.floatValue tallest, tick⟩ := by
  have hcreate := create_columns_eq ctx hsect
  obtain ⟨columns, placed, hplaced, hcount, hlength, tick, hfold⟩ :=
    record_items enumeration (createColumns ctx sect state) state.maxY hcolumns
      (by simp [hcreate, hsect]) (by rw [State.columnsAt, hcreate]; exact columns_at_append hsect)
      hspacing _ hheight
  have hset : (createColumns ctx sect state).maxYArray.set sect columns =
      state.maxYArray ++ [columns] := by
    rw [hcreate, ← hsect]
    simp
  have hpositive : 0 < columns.length := by omega
  refine ⟨columns, placed, hplaced, hcount, hlength,
    columns.maxColumn (enumeration.order tick columns), ?_, ?_, tick + 1, ?_⟩
  · exact Columns.max_column_lt (enumeration.perm tick columns) hpositive
  · intro column hcolumn
    exact Columns.le_max_column (enumeration.perm tick columns) hcolumn
  · rw [layoutCells, hfold, hset, closeColumns]
    simp only [columns_at_append hsect, hcreate]

/-- The cells of a section without columns: `maxY` is set to the total height of the section's
own items, whatever it was before. -/
theorem layout_cells_of_no_columns {ctx : Context} (enumeration : Enumeration) {sect : Nat}
    {state : State} (hsect : state.maxYArray.length = sect)
    (hcolumns : ctx.columnsCountAt sect ≤ 0) :
    ∃ columns cells tick, layoutCells ctx enumeration sect state =
      ⟨state.maxYArray ++ [columns], state.attrsArray ++ cells,
        ∑ item ∈ Finset.range (ctx.numberOfItemsInSection sect),
          (ctx.lineSpacingAt sect + (ctx.cellSizeAt ⟨sect, item⟩).height), tick⟩ := by
  have hcreate := create_columns_eq ctx hsect
  have hnone : (ctx.columnsCountAt sect).toNat = 0 := by omega
  obtain ⟨columns, hlength, hvalue, cells, tick, hfold⟩ :=
    record_items_of_no_columns enumeration (createColumns ctx sect state) hcolumns
      (by simp [hcreate, hsect])
      (by rw [State.columnsAt, hcreate, columns_at_append hsect, hnone]; rfl)
      (ctx.numberOfItemsInSection sect)
  have hset : (createColumns ctx sect state).maxYArray.set sect columns =
      state.maxYArray ++ [columns] := by
    rw [hcreate, ← hsect]
    simp
  refine ⟨columns, cells, tick + 1, ?_⟩
  rw [layoutCells, hfold, hset, closeColumns]
  simp only [columns_at_append hsect, hcreate, ← hvalue,
    Columns.maxColumn, Columns.scan_column_eq_zero _ (enumeration.perm tick columns) hlength]

/-! ## One section -/

/-- One turn of the section loop places the section's elements between the old and the new
`maxY`. -/
structure SectionLaid (ctx : Context) (sect : Nat) (before after : State)
    (laid : List Attributes) : Prop where
  arrays : after.maxYArray.length = before.maxYArray.length + 1
  attrs : after.attrsArray = before.attrsArray ++ laid
  elements : laid.map Attributes.toElement = ctx.sectionElements sect
  max_y_le : before.maxY ≤ after.maxY
  bottom_le : before.maxY + ((ctx.insetAt sect).bottom + (ctx.footerSizeAt sect).height) ≤
    after.maxY
  between : Between before.maxY after.maxY laid
  apart : ctx.SharedWidth sect → Apart laid

/-- The cells of a section stay between its top and its tallest column. -/
theorem Placed.between {ctx : Context} {sect : Nat} {start hi : CGFloat} {columns : Columns}
    {placed : List (Nat × Attributes)} (h : Placed ctx sect start columns placed)
    (hhi : ∀ column < columns.length, columns.floatValue column ≤ hi) :
    Between start hi (placed.map Prod.snd) := by
  intro attrs hattrs
  obtain ⟨entry, hentry, rfl⟩ := List.mem_map.mp hattrs
  exact ⟨h.start_le_y entry hentry,
    (h.max_y_le entry hentry).trans (hhi entry.1 (h.column_lt entry hentry))⟩

/-- A cell of the placed list is an item of the section. -/
theorem Placed.item_lt {ctx : Context} {sect : Nat} {start : CGFloat} {columns : Columns}
    {placed : List (Nat × Attributes)} (h : Placed ctx sect start columns placed)
    {entry : Nat × Attributes} (hentry : entry ∈ placed) :
    ∃ item < placed.length, entry.2.indexPath = ⟨sect, item⟩ := by
  have hmem : entry.2.toElement ∈ placed.map (fun entry => entry.2.toElement) :=
    List.mem_map.mpr ⟨entry, hentry, rfl⟩
  rw [h.items] at hmem
  obtain ⟨item, hitem, heq⟩ := List.mem_map.mp hmem
  exact ⟨item, List.mem_range.mp hitem, congrArg Element.indexPath heq.symm⟩

/-- Items of one width in columns do not overlap. -/
theorem Placed.apart {ctx : Context} {sect : Nat} {start : CGFloat} {columns : Columns}
    {placed : List (Nat × Attributes)} (h : Placed ctx sect start columns placed)
    (hcount : placed.length = ctx.numberOfItemsInSection sect)
    (hnonneg : ctx.NonNegative) (hsect : sect < ctx.numberOfSections)
    (hshared : ctx.SharedWidth sect) : Apart (placed.map Prod.snd) := by
  by_cases hempty : 0 < ctx.numberOfItemsInSection sect
  · refine h.interiors_disjoint (ctx.cellSizeAt ⟨sect, 0⟩).width ?_
      (hnonneg.cell sect hsect 0 hempty).1
      (Context.interitem_spacing_at_nonneg hnonneg.interitemSpacing sect _)
    intro entry hentry
    obtain ⟨item, hitem, hpath⟩ := h.item_lt hentry
    rw [hpath]
    exact hshared item (hcount ▸ hitem) 0 hempty
  · have hnil : placed = [] := List.length_eq_zero_iff.mp (by omega)
    rw [hnil]
    exact List.Pairwise.nil

/-- A section with a column is laid out below everything before it. -/
theorem layout_section_laid {ctx : Context} (enumeration : Enumeration) {sect : Nat}
    {state : State} (hnonneg : ctx.NonNegative) (hsect : sect < ctx.numberOfSections)
    (harrays : state.maxYArray.length = sect) (hcolumns : 1 ≤ ctx.columnsCountAt sect) :
    ∃ laid, SectionLaid ctx sect state (layoutSection ctx enumeration state sect) laid := by
  obtain ⟨htop, _, hbottom, _⟩ := hnonneg.inset sect hsect
  have hheader := (hnonneg.header sect hsect).2
  have hfooter := (hnonneg.footer sect hsect).2
  -- the state in which the cells are laid out, after the header and the top inset
  generalize hcells : addMaxY (ctx.insetAt sect).top
    (recordSupplementaryView ctx .header sect state) = cells
  have hattrs : cells.attrsArray = state.attrsArray ++
      supplementaryAttributes .header sect (ctx.headerSizeAt sect) state.maxY := by
    rw [← hcells, record_supplementary_view_eq]
    rfl
  have hlo : state.maxY + (ctx.headerSizeAt sect).height ≤ cells.maxY := by
    rw [← hcells, record_supplementary_view_eq]
    exact le_add_of_nonneg_right htop
  have hcellsArrays : cells.maxYArray = state.maxYArray := by
    rw [← hcells, record_supplementary_view_eq]
    rfl
  obtain ⟨columns, placed, hplaced, hcount, hlength, tallest, htallest, hmax, tick, heq⟩ :=
    layout_cells_eq enumeration (hcellsArrays ▸ harrays) hcolumns
      (hnonneg.line_spacing_at hsect)
      (fun item hitem => (hnonneg.cell sect hsect item hitem).2)
  have hsection : layoutSection ctx enumeration state sect =
      recordSupplementaryView ctx .footer sect
        (addMaxY (ctx.insetAt sect).bottom (layoutCells ctx enumeration sect cells)) := by
    rw [← hcells]
    rfl
  -- three strips: header, cells and footer
  have hupper : Between state.maxY cells.maxY
      (supplementaryAttributes .header sect (ctx.headerSizeAt sect) state.maxY) :=
    (supplementary_attributes_between _ _ _ _).mono le_rfl hlo
  have hmiddle : Between cells.maxY (columns.floatValue tallest + (ctx.insetAt sect).bottom)
      (placed.map Prod.snd) :=
    (hplaced.between hmax).mono le_rfl (le_add_of_nonneg_right hbottom)
  have hlower := supplementary_attributes_between .footer sect (ctx.footerSizeAt sect)
    (columns.floatValue tallest + (ctx.insetAt sect).bottom)
  have hfirst : state.maxY ≤ cells.maxY := (le_add_of_nonneg_right hheader).trans hlo
  have hsecond : cells.maxY ≤ columns.floatValue tallest + (ctx.insetAt sect).bottom :=
    (hplaced.start_le tallest htallest).trans (le_add_of_nonneg_right hbottom)
  have hthird := le_add_of_nonneg_right
    (a := columns.floatValue tallest + (ctx.insetAt sect).bottom) hfooter
  have htail := hmiddle.append hlower hsecond hthird
  rw [hsection, heq, record_supplementary_view_eq]
  refine ⟨supplementaryAttributes .header sect (ctx.headerSizeAt sect) state.maxY ++
    (placed.map Prod.snd ++ supplementaryAttributes .footer sect (ctx.footerSizeAt sect)
      (columns.floatValue tallest + (ctx.insetAt sect).bottom)), ?_, ?_, ?_, ?_, ?_, ?_, ?_⟩
  · simp [addMaxY, hcellsArrays]
  · simp [addMaxY, hattrs]
  · simp only [List.map_append, supplementary_attributes_elements, List.map_map,
      Function.comp_def, hplaced.items, hcount, Context.sectionElements, List.append_assoc]
  · exact hfirst.trans (hsecond.trans hthird)
  · rw [← add_assoc]
    exact add_le_add_left (add_le_add_left
      (hfirst.trans (hplaced.start_le tallest htallest)) _) _
  · exact hupper.append htail hfirst (hsecond.trans hthird)
  · intro hshared
    exact Apart.append (supplementary_attributes_apart _ _ _ _)
      (Apart.append (hplaced.apart hcount hnonneg hsect hshared)
        (supplementary_attributes_apart _ _ _ _) hmiddle hlower)
      hupper htail

/-! ## All sections -/

/-- The next section is laid out after the others. -/
theorem layout_sections_succ (ctx : Context) (enumeration : Enumeration) (sect : Nat)
    (state : State) :
    layoutSections ctx enumeration (sect + 1) state =
      layoutSection ctx enumeration (layoutSections ctx enumeration sect state) sect := by
  rw [layoutSections, List.range_succ, List.foldl_append]
  rfl

/-- The invariant of the section loop: the elements of the first `count` sections are laid out,
inside the height reached so far and section below section. -/
structure Laid (ctx : Context) (count : Nat) (state : State) : Prop where
  arrays : state.maxYArray.length = count
  nonneg : 0 ≤ state.maxY
  elements : state.attrsArray.map Attributes.toElement =
    (List.range count).flatMap ctx.sectionElements
  between : Between 0 state.maxY state.attrsArray
  stacked : ∀ earlier ∈ state.attrsArray, ∀ later ∈ state.attrsArray,
    earlier.indexPath.sect < later.indexPath.sect → earlier.frame.maxY ≤ later.frame.y
  apart : (∀ sect < count, ctx.SharedWidth sect) → Apart state.attrsArray

/-- At the start no section is laid out. -/
theorem Laid.initial (ctx : Context) (state : State) : Laid ctx 0 (clear state) where
  arrays := rfl
  nonneg := le_rfl
  elements := rfl
  between := by simp [Between, clear]
  stacked := by simp [clear]
  apart _ := List.Pairwise.nil

/-- The sections of recorded attributes are sections already laid out. -/
theorem Laid.sect_lt {ctx : Context} {count : Nat} {state : State} (h : Laid ctx count state)
    {attrs : Attributes} (hattrs : attrs ∈ state.attrsArray) : attrs.indexPath.sect < count := by
  have hmem : attrs.toElement ∈ state.attrsArray.map Attributes.toElement :=
    List.mem_map.mpr ⟨attrs, hattrs, rfl⟩
  rw [h.elements] at hmem
  obtain ⟨sect, hsect, helement⟩ := List.mem_flatMap.mp hmem
  rw [Context.sect_of_mem_section_elements helement]
  exact List.mem_range.mp hsect

/-- What is laid out for a section has its index. -/
theorem SectionLaid.sect_eq {ctx : Context} {sect : Nat} {before after : State}
    {laid : List Attributes} (h : SectionLaid ctx sect before after laid) {attrs : Attributes}
    (hattrs : attrs ∈ laid) : attrs.indexPath.sect = sect := by
  have hmem : attrs.toElement ∈ laid.map Attributes.toElement :=
    List.mem_map.mpr ⟨attrs, hattrs, rfl⟩
  rw [h.elements] at hmem
  exact Context.sect_of_mem_section_elements hmem

/-- The step lemma of the section loop. -/
theorem Laid.layout_section {ctx : Context} {count : Nat} {before after : State}
    (h : Laid ctx count before) {laid : List Attributes}
    (hstep : SectionLaid ctx count before after laid) : Laid ctx (count + 1) after where
  arrays := by rw [hstep.arrays, h.arrays]
  nonneg := h.nonneg.trans hstep.max_y_le
  elements := by
    rw [hstep.attrs, List.map_append, h.elements, hstep.elements, List.range_succ,
      List.flatMap_append]
    simp
  between := by
    rw [hstep.attrs]
    exact h.between.append hstep.between h.nonneg hstep.max_y_le
  stacked := by
    rw [hstep.attrs]
    intro earlier hearlier later hlater hlt
    rcases List.mem_append.mp hearlier with hold | hnew
    · rcases List.mem_append.mp hlater with hold' | hnew'
      · exact h.stacked earlier hold later hold' hlt
      · exact (h.between earlier hold).2.trans (hstep.between later hnew').1
    · -- nothing recorded so far belongs to a section after this one
      rw [hstep.sect_eq hnew] at hlt
      rcases List.mem_append.mp hlater with hold' | hnew'
      · exact absurd (h.sect_lt hold') (by omega)
      · exact absurd (hstep.sect_eq hnew') (by omega)
  apart hshared := by
    rw [hstep.attrs]
    exact Apart.append (h.apart (fun sect hsect => hshared sect (by omega)))
      (hstep.apart (hshared count (by omega))) h.between hstep.between

/-- The section loop keeps its invariant as long as every section has a column. -/
theorem layout_sections_laid {ctx : Context} (enumeration : Enumeration) (state : State)
    (hnonneg : ctx.NonNegative)
    (hcolumns : ∀ sect < ctx.numberOfSections, 1 ≤ ctx.columnsCountAt sect) (count : Nat)
    (hcount : count ≤ ctx.numberOfSections) :
    Laid ctx count (layoutSections ctx enumeration count state) := by
  induction count with
  | zero => exact Laid.initial ctx state
  | succ count ih =>
      have hbefore := ih (by omega)
      obtain ⟨laid, hstep⟩ := layout_section_laid enumeration hnonneg (by omega)
        hbefore.arrays (hcolumns count (by omega))
      rw [layout_sections_succ]
      exact hbefore.layout_section hstep

/-- The shape of a finished layout in which every section has a column and its items share a
width: one attributes object for each shown element, frames that do not overlap, all of them
within the content height. The enumeration orders are arbitrary. -/
theorem prepare_layout_frames (ctx : Context) (enumeration : Enumeration) (state : State)
    (hnonneg : ctx.NonNegative)
    (hcolumns : ∀ sect < ctx.numberOfSections, 1 ≤ ctx.columnsCountAt sect)
    (hshared : ∀ sect < ctx.numberOfSections, ctx.SharedWidth sect) :
    let result := prepareLayout ctx enumeration state
    (result.attrsArray.map Attributes.toElement).Nodup ∧
    (∀ element, element ∈ result.attrsArray.map Attributes.toElement ↔ ctx.Shows element) ∧
    result.attrsArray.Pairwise (fun first second =>
      first.frame.InteriorsDisjoint second.frame) ∧
    ∀ attrs ∈ result.attrsArray, 0 ≤ attrs.frame.y ∧
      attrs.frame.maxY ≤ (collectionViewContentSize ctx result).height := by
  intro result
  have hlaid : Laid ctx ctx.numberOfSections result :=
    layout_sections_laid enumeration state hnonneg hcolumns _ le_rfl
  refine ⟨?_, ?_, hlaid.apart hshared, hlaid.between⟩
  · rw [hlaid.elements]
    exact Context.nodup_elements ctx _
  · intro element
    rw [hlaid.elements, List.mem_flatMap]
    constructor
    · intro hmem
      obtain ⟨sect, hsect, helement⟩ := hmem
      exact ((Context.mem_section_elements (List.mem_range.mp hsect)).mp helement).2
    · intro hshows
      exact ⟨element.indexPath.sect, List.mem_range.mpr hshows.1,
        (Context.mem_section_elements hshows.1).mpr ⟨rfl, hshows⟩⟩

/-- Two sections of two columns, the first with a header and three items of different heights. -/
def sampleContext : Context where
  lineSpacing := 5
  interitemSpacing := 4
  columnsCount := 2
  itemSize := ⟨40, 30⟩
  headerReferenceSize := CGSize.zero
  footerReferenceSize := ⟨100, 10⟩
  sectionInset := ⟨1, 2, 3, 2⟩
  frameWidth := 100
  numberOfSections := 2
  numberOfItemsInSection sect := 3 - sect
  delegate := some
    { sizeForItemAtIndexPath := some fun path => ⟨40, 10 * (path.item + 1)⟩
      referenceSizeForHeaderInSection := some fun sect => if sect = 0 then ⟨100, 20⟩ else ⟨0, 0⟩ }

/-- The enumeration that lists the columns in ascending order every time. -/
def ascending : Enumeration where
  order _ columns := List.range columns.length
  perm _ _ := List.Perm.refl _

/-- A layout object that has not been prepared yet. -/
def State.fresh : State := ⟨[], [], 0, 0⟩

/-- The frames of the sample do not overlap. -/
theorem prepare_layout_frames_sample :
    sampleContext.NonNegative ∧
    (∀ sect < sampleContext.numberOfSections, 1 ≤ sampleContext.columnsCountAt sect) ∧
    (∀ sect < sampleContext.numberOfSections, sampleContext.SharedWidth sect) ∧
    (prepareLayout sampleContext ascending State.fresh).attrsArray.Pairwise
      (fun first second => first.frame.InteriorsDisjoint second.frame) := by
  have hnonneg : sampleContext.NonNegative := by
    constructor <;> decide +kernel
  have hcolumns : ∀ sect < sampleContext.numberOfSections,
      1 ≤ sampleContext.columnsCountAt sect := by decide +kernel
  have hshared : ∀ sect < sampleContext.numberOfSections, sampleContext.SharedWidth sect := by
    unfold Context.SharedWidth
    decide +kernel
  exact ⟨hnonneg, hcolumns, hshared,
    (prepare_layout_frames sampleContext ascending State.fresh hnonneg hcolumns hshared).2.2.1⟩

/-! ## Sections without columns -/

/-- During `prepareLayout`, `maxY` never decreases from one section to the next, and every element
of a later section starts at or below the bottom of every element of an earlier one. -/
def SectionsStacked (ctx : Context) (enumeration : Enumeration) (state : State) : Prop :=
  (∀ sect < ctx.numberOfSections, (layoutSections ctx enumeration sect state).maxY ≤
    (layoutSections ctx enumeration (sect + 1) state).maxY) ∧
  ∀ earlier ∈ (prepareLayout ctx enumeration state).attrsArray,
    ∀ later ∈ (prepareLayout ctx enumeration state).attrsArray,
      earlier.indexPath.sect < later.indexPath.sect → earlier.frame.maxY ≤ later.frame.y

/-- The layout has these section, item and column counts. -/
def Context.HasCounts (ctx : Context) (sections : Nat) (items : Nat → Nat)
    (columns : Nat → Int) : Prop :=
  ctx.numberOfSections = sections ∧ ∀ sect < sections,
    ctx.numberOfItemsInSection sect = items sect ∧ ctx.columnsCountAt sect = columns sect

/-- A section without columns forgets the height reached before it. -/
theorem layout_section_of_no_columns {ctx : Context} (enumeration : Enumeration) {sect : Nat}
    {state : State} (harrays : state.maxYArray.length = sect)
    (hcolumns : ctx.columnsCountAt sect ≤ 0) :
    (layoutSection ctx enumeration state sect).maxYArray.length = sect + 1 ∧
    (layoutSection ctx enumeration state sect).maxY =
      (∑ item ∈ Finset.range (ctx.numberOfItemsInSection sect),
        (ctx.lineSpacingAt sect + (ctx.cellSizeAt ⟨sect, item⟩).height)) +
      (ctx.insetAt sect).bottom + (ctx.footerSizeAt sect).height := by
  generalize hcells : addMaxY (ctx.insetAt sect).top
    (recordSupplementaryView ctx .header sect state) = cells
  have hcellsArrays : cells.maxYArray.length = sect := by
    rw [← hcells, record_supplementary_view_eq]
    exact harrays
  obtain ⟨columns, laid, tick, heq⟩ := layout_cells_of_no_columns enumeration hcellsArrays hcolumns
  have hsection : layoutSection ctx enumeration state sect =
      recordSupplementaryView ctx .footer sect
        (addMaxY (ctx.insetAt sect).bottom (layoutCells ctx enumeration sect cells)) := by
    rw [← hcells]
    rfl
  rw [hsection, heq, record_supplementary_view_eq]
  exact ⟨by simp [addMaxY, hcellsArrays], rfl⟩

/-- With or without columns, a section ends at least its bottom inset and footer below the top
of the layout. -/
theorem layout_section_bottom_le {ctx : Context} (enumeration : Enumeration) {sect : Nat}
    {state : State} (hnonneg : ctx.NonNegative) (hsect : sect < ctx.numberOfSections)
    (harrays : state.maxYArray.length = sect) (hmaxY : 0 ≤ state.maxY) :
    (layoutSection ctx enumeration state sect).maxYArray.length = sect + 1 ∧
      (ctx.insetAt sect).bottom + (ctx.footerSizeAt sect).height ≤
        (layoutSection ctx enumeration state sect).maxY := by
  by_cases hcolumns : 1 ≤ ctx.columnsCountAt sect
  · obtain ⟨laid, hstep⟩ := layout_section_laid enumeration hnonneg hsect harrays hcolumns
    exact ⟨by rw [hstep.arrays, harrays], (le_add_of_nonneg_left hmaxY).trans hstep.bottom_le⟩
  · obtain ⟨hlength, heq⟩ := layout_section_of_no_columns enumeration harrays
      (show ctx.columnsCountAt sect ≤ 0 by omega)
    refine ⟨hlength, ?_⟩
    rw [heq, add_assoc]
    refine le_add_of_nonneg_left (Finset.sum_nonneg ?_)
    intro item hitem
    exact add_nonneg (hnonneg.line_spacing_at hsect)
      (hnonneg.cell sect hsect item (Finset.mem_range.mp hitem)).2

/-- The layout does not end above its start. -/
theorem layout_sections_nonneg {ctx : Context} (enumeration : Enumeration) (state : State)
    (hnonneg : ctx.NonNegative) (count : Nat) (hcount : count ≤ ctx.numberOfSections) :
    (layoutSections ctx enumeration count state).maxYArray.length = count ∧
      0 ≤ (layoutSections ctx enumeration count state).maxY := by
  induction count with
  | zero => exact ⟨rfl, le_rfl⟩
  | succ count ih =>
      obtain ⟨harrays, hmaxY⟩ := ih (by omega)
      obtain ⟨hlength, hbottom⟩ := layout_section_bottom_le enumeration hnonneg
        (show count < ctx.numberOfSections by omega) harrays hmaxY
      rw [layout_sections_succ]
      exact ⟨hlength, (add_nonneg (hnonneg.inset count (by omega)).2.2.1
        (hnonneg.footer count (by omega)).2).trans hbottom⟩

/-- Recording the items of a section adds attributes of this section only. -/
theorem record_items_attrs (ctx : Context) (enumeration : Enumeration) (sect : Nat)
    (items : List Nat) (state : State) :
    ∃ cells, (items.foldl (recordItem ctx enumeration sect) state).attrsArray =
        state.attrsArray ++ cells ∧
      ∀ attrs ∈ cells, attrs.indexPath.sect = sect := by
  induction items generalizing state with
  | nil => exact ⟨[], by simp, by simp⟩
  | cons item items ih =>
      obtain ⟨cells, heq, hsect⟩ := ih (recordItem ctx enumeration sect state item)
      refine ⟨⟨⟨.cell, ⟨sect, item⟩⟩, itemFrame ctx enumeration ⟨sect, item⟩ state⟩ :: cells,
        ?_, ?_⟩
      · rw [List.foldl_cons, heq, record_item_eq]
        simp
      · intro attrs hattrs
        rcases List.mem_cons.mp hattrs with rfl | hattrs
        · rfl
        · exact hsect attrs hattrs

/-- The header and footer of a section have its index. -/
theorem supplementary_attributes_sect {kind : ElementKind} {sect : Nat} {size : CGSize}
    {y : CGFloat} {attrs : Attributes} (h : attrs ∈ supplementaryAttributes kind sect size y) :
    attrs.indexPath.sect = sect := by
  unfold supplementaryAttributes at h
  split at h
  · simp at h
  · rw [List.mem_singleton.mp h]

/-- Every section appends its header and then other elements of its own, with or without
columns. -/
theorem layout_section_attrs (ctx : Context) (enumeration : Enumeration) (sect : Nat)
    (state : State) :
    ∃ rest, (layoutSection ctx enumeration state sect).attrsArray =
        state.attrsArray ++ (supplementaryAttributes .header sect (ctx.headerSizeAt sect)
          state.maxY ++ rest) ∧
      ∀ attrs ∈ rest, attrs.indexPath.sect = sect := by
  generalize hcells : createColumns ctx sect (addMaxY (ctx.insetAt sect).top
    (recordSupplementaryView ctx .header sect state)) = cells
  have hattrs : cells.attrsArray = state.attrsArray ++
      supplementaryAttributes .header sect (ctx.headerSizeAt sect) state.maxY := by
    rw [← hcells, createColumns, record_supplementary_view_eq]
    split <;> rfl
  obtain ⟨laid, heq, hsect⟩ := record_items_attrs ctx enumeration sect
    (List.range (ctx.numberOfItemsInSection sect)) cells
  generalize hclosed : addMaxY (ctx.insetAt sect).bottom (closeColumns enumeration sect
    ((List.range (ctx.numberOfItemsInSection sect)).foldl
      (recordItem ctx enumeration sect) cells)) = closed
  have hclosedAttrs : closed.attrsArray = cells.attrsArray ++ laid := by
    rw [← heq, ← hclosed]
    rfl
  have hsection : layoutSection ctx enumeration state sect =
      recordSupplementaryView ctx .footer sect closed := by
    rw [← hclosed, ← hcells]
    rfl
  rw [hsection, record_supplementary_view_eq]
  refine ⟨laid ++ supplementaryAttributes .footer sect (ctx.footerSizeAt sect) closed.maxY, ?_, ?_⟩
  · simp [hclosedAttrs, hattrs]
  · intro attrs hmem
    rcases List.mem_append.mp hmem with h | h
    · exact hsect attrs h
    · exact supplementary_attributes_sect h

/-- The attributes after some sections are those of these sections. -/
theorem layout_sections_sect_lt (ctx : Context) (enumeration : Enumeration) (state : State)
    (count : Nat) {attrs : Attributes}
    (hattrs : attrs ∈ (layoutSections ctx enumeration count state).attrsArray) :
    attrs.indexPath.sect < count := by
  induction count with
  | zero => simp [layoutSections, clear] at hattrs
  | succ count ih =>
      rw [layout_sections_succ] at hattrs
      obtain ⟨rest, heq, hsect⟩ := layout_section_attrs ctx enumeration count
        (layoutSections ctx enumeration count state)
      rw [heq] at hattrs
      rcases List.mem_append.mp hattrs with h | h
      · exact (ih h).trans (by omega)
      · rcases List.mem_append.mp h with h | h
        · rw [supplementary_attributes_sect h]
          omega
        · rw [hsect attrs h]
          omega

/-- Recorded attributes stay recorded while later sections are laid out. -/
theorem layout_sections_subset (ctx : Context) (enumeration : Enumeration) (state : State)
    {first last : Nat} (h : first ≤ last) :
    (layoutSections ctx enumeration first state).attrsArray ⊆
      (layoutSections ctx enumeration last state).attrsArray := by
  induction h with
  | refl => exact List.Subset.refl _
  | step _ ih =>
      rw [layout_sections_succ]
      obtain ⟨rest, heq, _⟩ := layout_section_attrs ctx enumeration _ _
      rw [heq]
      exact List.Subset.trans ih (List.subset_append_left _ _)

/-- Sections that all have a column are stacked. -/
theorem sections_stacked_of_columns {ctx : Context} (enumeration : Enumeration) (state : State)
    (hnonneg : ctx.NonNegative)
    (hcolumns : ∀ sect < ctx.numberOfSections, 1 ≤ ctx.columnsCountAt sect) :
    SectionsStacked ctx enumeration state := by
  have hlaid := layout_sections_laid enumeration state hnonneg hcolumns
  refine ⟨?_, (hlaid ctx.numberOfSections le_rfl).stacked⟩
  intro sect hsect
  obtain ⟨laid, hstep⟩ := layout_section_laid enumeration hnonneg hsect
    (hlaid sect (by omega)).arrays (hcolumns sect hsect)
  rw [layout_sections_succ]
  exact hstep.max_y_le

/-- A single section is trivially stacked. -/
theorem sections_stacked_of_single {ctx : Context} (enumeration : Enumeration) (state : State)
    (hnonneg : ctx.NonNegative) (hsections : ctx.numberOfSections ≤ 1) :
    SectionsStacked ctx enumeration state := by
  constructor
  · intro sect hsect
    have hzero : sect = 0 := by omega
    subst hzero
    exact (layout_sections_nonneg enumeration state hnonneg 1 (by omega)).2
  · intro earlier hearlier later hlater hlt
    have hbound := layout_sections_sect_lt ctx enumeration state _ hlater
    omega

/-- A layout in which only the given headers and bottom insets have an extent. -/
def probe (sections : Nat) (items : Nat → Nat) (columns : Nat → Int) (header : Nat → CGSize)
    (bottom : Nat → CGFloat) : Context where
  lineSpacing := 0
  interitemSpacing := 0
  columnsCount := 0
  itemSize := CGSize.zero
  headerReferenceSize := CGSize.zero
  footerReferenceSize := CGSize.zero
  sectionInset := ⟨0, 0, 0, 0⟩
  frameWidth := 0
  numberOfSections := sections
  numberOfItemsInSection := items
  delegate := some
    { insetForSectionAtIndex := some fun sect => ⟨0, 0, bottom sect, 0⟩
      columnsCountForSectionAtIndex := some columns
      referenceSizeForHeaderInSection := some header }

/-- The probe has no negative distances. -/
theorem probe_non_negative {sections : Nat} {items : Nat → Nat} {columns : Nat → Int}
    {header : Nat → CGSize} {bottom : Nat → CGFloat}
    (hheader : ∀ sect, 0 ≤ (header sect).width ∧ 0 ≤ (header sect).height)
    (hbottom : ∀ sect, 0 ≤ bottom sect) :
    (probe sections items columns header bottom).NonNegative where
  lineSpacing := le_rfl
  interitemSpacing := le_rfl
  minimumLineSpacing _ _ := le_rfl
  minimumInteritemSpacing _ _ := le_rfl
  inset sect _ := ⟨le_rfl, le_rfl, hbottom sect, le_rfl⟩
  header sect _ := hheader sect
  footer _ _ := ⟨le_rfl, le_rfl⟩
  cell _ _ _ _ := ⟨le_rfl, le_rfl⟩

/-- The probe has the numbers that it was made for. -/
theorem probe_has_counts (sections : Nat) (items : Nat → Nat) (columns : Nat → Int)
    (header : Nat → CGSize) (bottom : Nat → CGFloat) :
    (probe sections items columns header bottom).HasCounts sections items columns :=
  ⟨rfl, fun _ _ => ⟨rfl, rfl⟩⟩

/-- After a section without columns, a probe is as high as that section's bottom inset. -/
theorem probe_max_y {sections : Nat} {items : Nat → Nat} {columns : Nat → Int}
    {header : Nat → CGSize} {bottom : Nat → CGFloat} {sect : Nat} {state : State}
    (harrays : state.maxYArray.length = sect) (hcolumns : columns sect ≤ 0) :
    (layoutSection (probe sections items columns header bottom) ascending state sect).maxY =
      bottom sect := by
  have hnone : (probe sections items columns header bottom).columnsCountAt sect ≤ 0 := hcolumns
  rw [(layout_section_of_no_columns ascending harrays hnone).2]
  show (∑ _ ∈ Finset.range (items sect), ((0 : CGFloat) + 0)) + bottom sect + 0 = bottom sect
  simp

/-- If the first of several sections has no columns, its header can stick out below the place
where the next section starts. -/
theorem not_stacked_of_first {sections : Nat} {items : Nat → Nat} {columns : Nat → Int}
    (hsections : 1 < sections) (hcolumns : columns 0 ≤ 0) :
    ∃ ctx enumeration state, ctx.HasCounts sections items columns ∧ ctx.NonNegative ∧
      ¬ SectionsStacked ctx enumeration state := by
  generalize hctx : probe sections items columns
    (fun sect => if sect = 0 then ⟨1, 1⟩ else ⟨1, 0⟩) (fun _ => 0) = ctx
  have hnonneg : ctx.NonNegative := by
    rw [← hctx]
    exact probe_non_negative (by intro sect; split <;> decide) (fun _ => le_rfl)
  refine ⟨ctx, ascending, State.fresh, hctx ▸ probe_has_counts _ _ _ _ _, hnonneg, ?_⟩
  intro hstacked
  have hcount : ctx.numberOfSections = sections := by rw [← hctx]; rfl
  have hheader0 : ctx.headerSizeAt 0 = ⟨1, 1⟩ := by rw [← hctx]; rfl
  have hheader1 : ctx.headerSizeAt 1 = ⟨1, 0⟩ := by rw [← hctx]; rfl
  have harrays := (layout_sections_nonneg ascending State.fresh hnonneg 0 (by omega)).1
  have hmaxY : (layoutSections ctx ascending 1 State.fresh).maxY = 0 := by
    rw [layout_sections_succ, ← hctx]
    exact probe_max_y (hctx ▸ harrays) hcolumns
  obtain ⟨rest0, heq0, _⟩ := layout_section_attrs ctx ascending 0
    (layoutSections ctx ascending 0 State.fresh)
  obtain ⟨rest1, heq1, _⟩ := layout_section_attrs ctx ascending 1
    (layoutSections ctx ascending 1 State.fresh)
  have hfirst : (⟨⟨.header, ⟨0, 0⟩⟩, ⟨0, 0, 1, 1⟩⟩ : Attributes) ∈
      (prepareLayout ctx ascending State.fresh).attrsArray := by
    refine layout_sections_subset ctx ascending State.fresh (show 1 ≤ _ by omega) ?_
    rw [layout_sections_succ, heq0, hheader0]
    simp [supplementaryAttributes, CGSize.zero, layoutSections, clear]
  have hsecond : (⟨⟨.header, ⟨1, 0⟩⟩, ⟨0, 0, 1, 0⟩⟩ : Attributes) ∈
      (prepareLayout ctx ascending State.fresh).attrsArray := by
    refine layout_sections_subset ctx ascending State.fresh (show 2 ≤ _ by omega) ?_
    rw [layout_sections_succ, heq1, hheader1, hmaxY]
    simp [supplementaryAttributes, CGSize.zero]
  have hbad := hstacked.2 _ hfirst _ hsecond (by decide)
  exact absurd hbad (by decide +kernel)

/-- A later section without columns can forget the height of the section before it. -/
theorem not_stacked_of_later {sections : Nat} {items : Nat → Nat} {columns : Nat → Int}
    {before : Nat} (hsect : before + 1 < sections) (hcolumns : columns (before + 1) ≤ 0) :
    ∃ ctx enumeration state, ctx.HasCounts sections items columns ∧ ctx.NonNegative ∧
      ¬ SectionsStacked ctx enumeration state := by
  generalize hctx : probe sections items columns (fun _ => ⟨0, 0⟩)
    (fun sect => if sect = before then 1 else 0) = ctx
  have hnonneg : ctx.NonNegative := by
    rw [← hctx]
    exact probe_non_negative (fun _ => ⟨le_rfl, le_rfl⟩)
      (by intro sect; split <;> decide)
  refine ⟨ctx, ascending, State.fresh, hctx ▸ probe_has_counts _ _ _ _ _, hnonneg, ?_⟩
  intro hstacked
  have hcount : ctx.numberOfSections = sections := by rw [← hctx]; rfl
  have hafter : (layoutSections ctx ascending (before + 1 + 1) State.fresh).maxY = 0 := by
    have harrays := (layout_sections_nonneg ascending State.fresh hnonneg (before + 1)
      (by omega)).1
    rw [layout_sections_succ, ← hctx, probe_max_y (hctx ▸ harrays) hcolumns]
    simp
  have hbefore : 1 ≤ (layoutSections ctx ascending (before + 1) State.fresh).maxY := by
    obtain ⟨harrays, hmaxY⟩ := layout_sections_nonneg ascending State.fresh hnonneg before
      (by omega)
    have hbottom := (layout_section_bottom_le ascending hnonneg
      (show before < ctx.numberOfSections by omega) harrays hmaxY).2
    rw [layout_sections_succ]
    refine le_trans ?_ hbottom
    rw [← hctx]
    show (1 : CGFloat) ≤ (if before = before then 1 else 0) + 0
    simp
  have hbad := hstacked.1 (before + 1) (by omega)
  rw [hafter] at hbad
  exact absurd (hbefore.trans hbad) (by decide)

/-- For given section, item and column counts, the sections are stacked whatever the sizes,
insets, spacings and enumeration orders are, exactly when every section has a column or there
are not two sections. -/
theorem sections_stacked_iff (sections : Nat) (items : Nat → Nat) (columns : Nat → Int) :
    (∀ ctx enumeration state, ctx.HasCounts sections items columns → ctx.NonNegative →
      SectionsStacked ctx enumeration state) ↔
    sections ≤ 1 ∨ ∀ sect < sections, 1 ≤ columns sect := by
  constructor
  · intro hstacked
    by_contra hnot
    obtain ⟨hsections, hnot⟩ := not_or.mp hnot
    have hbad : ∃ ctx enumeration state, ctx.HasCounts sections items columns ∧
        ctx.NonNegative ∧ ¬ SectionsStacked ctx enumeration state := by
      simp only [not_forall] at hnot
      obtain ⟨sect, hsect, hcolumns⟩ := hnot
      cases sect with
      | zero => exact not_stacked_of_first (by omega) (by omega)
      | succ before => exact not_stacked_of_later hsect (by omega)
    obtain ⟨ctx, enumeration, state, hhas, hnonneg, hbad⟩ := hbad
    exact hbad (hstacked ctx enumeration state hhas hnonneg)
  · intro hcounts ctx enumeration state hhas hnonneg
    rcases hcounts with hsingle | hcolumns
    · exact sections_stacked_of_single enumeration state hnonneg (hhas.1 ▸ hsingle)
    · refine sections_stacked_of_columns enumeration state hnonneg ?_
      intro sect hsect
      rw [hhas.1] at hsect
      rw [(hhas.2 sect hsect).2]
      exact hcolumns sect hsect

/-- A section with one column and one item, and below it a section without columns or items. -/
def noColumnsContext : Context where
  lineSpacing := 0
  interitemSpacing := 0
  columnsCount := 1
  itemSize := ⟨50, 10⟩
  headerReferenceSize := CGSize.zero
  footerReferenceSize := CGSize.zero
  sectionInset := ⟨0, 0, 0, 0⟩
  frameWidth := 100
  numberOfSections := 2
  numberOfItemsInSection sect := 1 - sect
  delegate := some { columnsCountForSectionAtIndex := some fun sect => 1 - sect }

/-- The second section of `noColumnsContext` takes `maxY` from 10 back to 0. -/
theorem no_columns_context_not_stacked :
    noColumnsContext.NonNegative ∧
    (∀ sect < noColumnsContext.numberOfSections, 0 ≤ noColumnsContext.columnsCountAt sect) ∧
    ¬ SectionsStacked noColumnsContext ascending State.fresh := by
  refine ⟨by constructor <;> decide +kernel, by decide +kernel, ?_⟩
  intro hstacked
  have hdecreases := hstacked.1 1 (by decide)
  exact absurd hdecreases (by decide +kernel)

end Component.WaterLayout

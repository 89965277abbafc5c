import Component.WaterLayout.Turns

/-!
# Independence of the enumeration order

Ties between columns are broken by the order in which the runtime enumerates a dictionary, so two
runs of `prepareLayout` over the same data may put an item into different columns. They still
agree in everything but the columns: `Agree` relates two states whose column heights are
permutations of each other and whose recorded attributes differ at most in the `x` of cells.
Each piece of the section loop keeps the relation, and `prepare_layout_order_independent` collects
what follows for whole runs.
-/

namespace Component.WaterLayout

/-! ## Permuted dictionaries -/

namespace Columns

/-- The value of a column is its entry. -/
theorem float_value_eq_get {columns : Columns} {column : Nat} (h : column < columns.length) :
    columns.floatValue column = columns[column] := by
  simp [floatValue, List.getD_eq_getElem?_getD, h]

/-- The value of a column is one of the entries. -/
theorem float_value_mem {columns : Columns} {column : Nat} (h : column < columns.length) :
    columns.floatValue column ∈ columns := by
  rw [float_value_eq_get h]
  exact List.getElem_mem h

/-- Every entry is the value of a column. -/
theorem exists_float_value_eq {columns : Columns} {value : CGFloat} (h : value ∈ columns) :
    ∃ column < columns.length, columns.floatValue column = value := by
  obtain ⟨column, hcolumn, heq⟩ := List.getElem_of_mem h
  exact ⟨column, hcolumn, (float_value_eq_get hcolumn).trans heq⟩

/-- A search that finds an extreme column, whatever the order in which a dictionary is searched. -/
structure Selects (precedes : CGFloat → CGFloat → Prop) (select : Columns → List Nat → Nat) :
    Prop where
  lt : ∀ {columns : Columns} {keys : List Nat}, keys.Perm (List.range columns.length) →
    0 < columns.length → select columns keys < columns.length
  extreme : ∀ {columns : Columns} {keys : List Nat}, keys.Perm (List.range columns.length) →
    ∀ {column : Nat}, column < columns.length →
      precedes (columns.floatValue (select columns keys)) (columns.floatValue column)

/-- The first search finds a least height. -/
theorem selects_min_column : Selects (fun a b => a ≤ b) minColumn := ⟨min_column_lt, min_column_le⟩

/-- The second search finds a greatest height. -/
theorem selects_max_column : Selects (fun a b => b ≤ a) maxColumn := ⟨max_column_lt, le_max_column⟩

/-- An extreme height of a dictionary precedes that of a permuted one. -/
theorem Selects.value_precedes_of_perm {precedes : CGFloat → CGFloat → Prop}
    {select : Columns → List Nat → Nat} (h : Selects precedes select) {first second : Columns}
    (hperm : first.Perm second) {firstKeys secondKeys : List Nat}
    (hfirst : firstKeys.Perm (List.range first.length))
    (hsecond : secondKeys.Perm (List.range second.length)) (hlength : 0 < second.length) :
    precedes (first.floatValue (select first firstKeys))
      (second.floatValue (select second secondKeys)) := by
  have hmem : second.floatValue (select second secondKeys) ∈ first :=
    hperm.mem_iff.mpr (float_value_mem (h.lt hsecond hlength))
  obtain ⟨column, hcolumn, heq⟩ := exists_float_value_eq hmem
  rw [← heq]
  exact h.extreme hfirst hcolumn

/-- The extreme height is the same in two permuted dictionaries, whatever the orders in which they
are searched. -/
theorem Selects.value_eq_of_perm {precedes : CGFloat → CGFloat → Prop}
    [Std.Antisymm precedes] {select : Columns → List Nat → Nat} (h : Selects precedes select)
    {first second : Columns} (hperm : first.Perm second) {firstKeys secondKeys : List Nat}
    (hfirst : firstKeys.Perm (List.range first.length))
    (hsecond : secondKeys.Perm (List.range second.length)) (hlength : 0 < first.length) :
    first.floatValue (select first firstKeys) = second.floatValue (select second secondKeys) :=
  antisymm_of precedes
    (h.value_precedes_of_perm hperm hfirst hsecond (hperm.length_eq ▸ hlength))
    (h.value_precedes_of_perm hperm.symm hsecond hfirst hlength)

/-- Replacing equal entries of permuted dictionaries by equal values keeps them permuted. -/
theorem set_value_perm {first second : Columns} (hperm : first.Perm second) {i j : Nat}
    (hi : i < first.length) (hj : j < second.length)
    (heq : first.floatValue i = second.floatValue j) (value : CGFloat) :
    (first.setValue i value).Perm (second.setValue j value) := by
  -- without the replaced entries the dictionaries are permuted as well
  have hrest : (first.eraseIdx i).Perm (second.eraseIdx j) := by
    have hfirst := List.getElem_cons_eraseIdx_perm hi
    have hsecond := List.getElem_cons_eraseIdx_perm hj
    rw [← float_value_eq_get hi, heq] at hfirst
    rw [← float_value_eq_get hj] at hsecond
    exact (List.perm_cons _).mp (hfirst.trans (hperm.trans hsecond.symm))
  rw [setValue, setValue, if_pos hi, if_pos hj]
  exact (List.set_perm_cons_eraseIdx hi value).trans
    ((hrest.cons value).trans (List.set_perm_cons_eraseIdx hj value).symm)

end Columns

/-! ## Agreeing states -/

/-- Two recorded attributes are of the same element and differ at most in the column of a cell. -/
structure SameRow (first second : Attributes) : Prop where
  element : first.toElement = second.toElement
  y : first.frame.y = second.frame.y
  height : first.frame.height = second.frame.height
  frame : first.kind ≠ .cell → first.frame = second.frame

/-- Attributes are in their own row. -/
theorem SameRow.refl (attrs : Attributes) : SameRow attrs attrs :=
  ⟨rfl, rfl, rfl, fun _ => rfl⟩

/-- Two states of `prepareLayout` agree up to the order of the columns in each dictionary. -/
structure Agree (first second : State) : Prop where
  arrays : first.maxYArray.length = second.maxYArray.length
  columns : ∀ sect, (first.columnsAt sect).Perm (second.columnsAt sect)
  attrs : List.Forall₂ SameRow first.attrsArray second.attrsArray
  maxY : first.maxY = second.maxY

/-- Lists of the same rows stay so when the same attributes are added. -/
theorem forall₂_same_row_append {first second : List Attributes} (laid : List Attributes)
    (h : List.Forall₂ SameRow first second) :
    List.Forall₂ SameRow (first ++ laid) (second ++ laid) :=
  List.rel_append h (List.forall₂_same.mpr fun attrs _ => .refl attrs)

/-- Cleared states agree. -/
theorem Agree.clear (first second : State) : Agree (clear first) (clear second) :=
  ⟨rfl, fun _ => .refl _, .nil, rfl⟩

/-- States agree after the same distance has been added. -/
theorem Agree.add_max_y {first second : State} (h : Agree first second) (value : CGFloat) :
    Agree (addMaxY value first) (addMaxY value second) :=
  ⟨h.arrays, h.columns, h.attrs, congrArg (· + value) h.maxY⟩

/-- States agree after the same header or footer has been recorded. -/
theorem Agree.record_supplementary_view {first second : State} (h : Agree first second)
    (ctx : Context) (kind : ElementKind) (sect : Nat) :
    Agree (recordSupplementaryView ctx kind sect first)
      (recordSupplementaryView ctx kind sect second) := by
  rw [record_supplementary_view_eq, record_supplementary_view_eq, h.maxY]
  exact ⟨h.arrays, h.columns, forall₂_same_row_append _ h.attrs, rfl⟩

/-- States agree after the columns of a section have been created. -/
theorem Agree.create_columns {first second : State} (h : Agree first second) (ctx : Context)
    {sect : Nat} (hsect : first.maxYArray.length = sect) :
    Agree (createColumns ctx sect first) (createColumns ctx sect second) := by
  rw [create_columns_eq ctx hsect, create_columns_eq ctx (h.arrays ▸ hsect), h.maxY]
  refine ⟨by simp [h.arrays], ?_, h.attrs, rfl⟩
  intro other
  simp only [State.columnsAt, List.getD_eq_getElem?_getD, List.getElem?_append, h.arrays]
  split
  · have := h.columns other
    simpa only [State.columnsAt, List.getD_eq_getElem?_getD] using this
  · exact .refl _

/-- The step lemma: the chosen columns have the same height in both runs, so the item gets the
same `y` and height, and equal heights are replaced by equal heights. -/
theorem Agree.record_item {first second : State} (h : Agree first second) (ctx : Context)
    (firstOrder secondOrder : Enumeration) {sect : Nat} (hsect : sect < first.maxYArray.length)
    (hlength : 0 < (first.columnsAt sect).length) (item : Nat) :
    Agree (recordItem ctx firstOrder sect first item)
      (recordItem ctx secondOrder sect second item) := by
  have hperm := h.columns sect
  have hfirst := firstOrder.perm first.tick (first.columnsAt sect)
  have hsecond := secondOrder.perm second.tick (second.columnsAt sect)
  have hvalue : (first.columnsAt sect).floatValue (first.minColumnAt firstOrder sect) =
      (second.columnsAt sect).floatValue (second.minColumnAt secondOrder sect) :=
    Columns.selects_min_column.value_eq_of_perm hperm hfirst hsecond hlength
  have hy : (itemFrame ctx firstOrder ⟨sect, item⟩ first).y =
      (itemFrame ctx secondOrder ⟨sect, item⟩ second).y :=
    congrArg (· + ctx.spacingAbove ⟨sect, item⟩) hvalue
  have hmaxY : (itemFrame ctx firstOrder ⟨sect, item⟩ first).maxY =
      (itemFrame ctx secondOrder ⟨sect, item⟩ second).maxY :=
    congrArg (· + (ctx.cellSizeAt ⟨sect, item⟩).height) hy
  have hset := Columns.set_value_perm hperm (Columns.min_column_lt hfirst hlength)
    (Columns.min_column_lt hsecond (hperm.length_eq ▸ hlength)) hvalue
    (itemFrame ctx firstOrder ⟨sect, item⟩ first).maxY
  rw [record_item_eq, record_item_eq]
  refine ⟨by simp [h.arrays], ?_, ?_, h.maxY⟩
  · intro other
    by_cases hother : other = sect
    · subst hother
      simp only [State.columnsAt]
      rw [columns_at_set hsect, columns_at_set (h.arrays ▸ hsect), ← hmaxY]
      exact hset
    · have := h.columns other
      simpa only [State.columnsAt, List.getD_eq_getElem?_getD,
        List.getElem?_set_ne (Ne.symm hother)] using this
  · exact List.rel_append h.attrs (.cons ⟨rfl, hy, rfl, fun hcell => absurd rfl hcell⟩ .nil)

/-- States agree after the columns of a section have been closed, whatever the order of the
search. -/
theorem Agree.close_columns {first second : State} (h : Agree first second)
    (firstOrder secondOrder : Enumeration) {sect : Nat}
    (hlength : 0 < (first.columnsAt sect).length) :
    Agree (closeColumns firstOrder sect first) (closeColumns secondOrder sect second) :=
  ⟨h.arrays, h.columns, h.attrs, Columns.selects_max_column.value_eq_of_perm (h.columns sect)
    (firstOrder.perm _ _) (secondOrder.perm _ _) hlength⟩

/-! ## Agreeing runs -/

section Runs

variable {ctx : Context} (firstOrder secondOrder : Enumeration) (firstState secondState : State)

/-- States that agree after some sections agree before the items of the next one. -/
theorem Agree.section_start {sect : Nat}
    (h : Agree (layoutSections ctx firstOrder sect firstState)
      (layoutSections ctx secondOrder sect secondState)) :
    Agree (sectionStart ctx firstOrder firstState sect)
      (sectionStart ctx secondOrder secondState sect) :=
  (h.record_supplementary_view ctx .header sect).add_max_y _

/-- The item loop keeps the agreement of the states in which it reaches each item. -/
theorem Agree.item_turn {sect : Nat} (hcolumns : 1 ≤ ctx.columnsCountAt sect)
    (h : Agree (layoutSections ctx firstOrder sect firstState)
      (layoutSections ctx secondOrder sect secondState)) (item : Nat) :
    Agree (itemTurn ctx firstOrder firstState ⟨sect, item⟩)
      (itemTurn ctx secondOrder secondState ⟨sect, item⟩) := by
  induction item with
  | zero =>
      exact (h.section_start firstOrder secondOrder firstState secondState).create_columns ctx
        (length_section_start ctx firstOrder firstState sect)
  | succ item ih =>
      rw [item_turn_succ, item_turn_succ]
      refine ih.record_item ctx firstOrder secondOrder ?_
        (turn_columns_pos firstOrder firstState hcolumns item) item
      rw [length_item_turn]
      exact Nat.lt_succ_self sect

/-- The section loop keeps the agreement as long as every section has a column. -/
theorem Agree.layout_sections (count : Nat)
    (hcolumns : ∀ sect < count, 1 ≤ ctx.columnsCountAt sect) :
    Agree (layoutSections ctx firstOrder count firstState)
      (layoutSections ctx secondOrder count secondState) := by
  induction count with
  | zero => exact Agree.clear firstState secondState
  | succ count ih =>
      have hbefore := ih fun sect hsect => hcolumns sect (by omega)
      have hcount := hcolumns count (by omega)
      rw [layout_sections_succ, layout_sections_succ, layout_section_eq_turn,
        layout_section_eq_turn]
      have hlast := hbefore.item_turn firstOrder secondOrder firstState secondState hcount
        (ctx.numberOfItemsInSection count)
      have hclosed := hlast.close_columns firstOrder secondOrder
        (turn_columns_pos firstOrder firstState hcount _)
      exact (hclosed.add_max_y _).record_supplementary_view ctx .footer count

end Runs

/-- Two runs of `prepareLayout` over the same data, with any enumeration orders and from any two
states, record the same elements in the same order with the same `y` and height, and the same
frames for headers and footers. After every item the heights of the section's columns are the
same up to order, and in the end the content sizes are equal. -/
theorem prepare_layout_order_independent (ctx : Context)
    (hcolumns : ∀ sect < ctx.numberOfSections, 1 ≤ ctx.columnsCountAt sect)
    (firstOrder secondOrder : Enumeration) (firstState secondState : State) :
    let first := prepareLayout ctx firstOrder firstState
    let second := prepareLayout ctx secondOrder secondState
    List.Forall₂ (fun one other : Attributes =>
        one.toElement = other.toElement ∧ one.frame.y = other.frame.y ∧
        one.frame.height = other.frame.height ∧
        (one.kind ≠ .cell → one.frame = other.frame)) first.attrsArray second.attrsArray ∧
    (∀ sect < ctx.numberOfSections, ∀ count ≤ ctx.numberOfItemsInSection sect,
      ((itemTurn ctx firstOrder firstState ⟨sect, count⟩).columnsAt sect : Multiset CGFloat) =
        (itemTurn ctx secondOrder secondState ⟨sect, count⟩).columnsAt sect) ∧
    collectionViewContentSize ctx first = collectionViewContentSize ctx second := by
  intro first second
  have hagree : Agree first second :=
    Agree.layout_sections firstOrder secondOrder firstState secondState _ hcolumns
  refine ⟨?_, ?_, ?_⟩
  · refine hagree.attrs.imp ?_
    intro one other hsame
    exact ⟨hsame.element, hsame.y, hsame.height, hsame.frame⟩
  · intro sect hsect count _
    have hbefore := Agree.layout_sections firstOrder secondOrder firstState secondState sect
      fun earlier hearlier => hcolumns earlier (by omega)
    exact Multiset.coe_eq_coe.mpr ((hbefore.item_turn firstOrder secondOrder firstState
      secondState (hcolumns sect hsect) count).columns sect)
  · rw [collectionViewContentSize, collectionViewContentSize, hagree.maxY]

/-- The enumeration that lists the columns in descending order every time. -/
def descending : Enumeration where
  order _ columns := (List.range columns.length).reverse
  perm _ _ := List.reverse_perm _

/-- Three columns, so that the two untouched ones tie for the second item. -/
def tiedContext : Context := { sampleContext with columnsCount := 3 }

/-- The two enumerations put the second item into different columns, and the heights agree. -/
theorem prepare_layout_order_independent_tied :
    (∀ sect < tiedContext.numberOfSections, 1 ≤ tiedContext.columnsCountAt sect) ∧
    chosenColumn tiedContext ascending State.fresh ⟨0, 1⟩ ≠
      chosenColumn tiedContext descending State.fresh ⟨0, 1⟩ ∧
    collectionViewContentSize tiedContext (prepareLayout tiedContext ascending State.fresh) =
      collectionViewContentSize tiedContext
        (prepareLayout tiedContext descending State.fresh) := by
  have hcolumns : ∀ sect < tiedContext.numberOfSections,
      1 ≤ tiedContext.columnsCountAt sect := by decide +kernel
  refine ⟨hcolumns, by decide +kernel, ?_⟩
  exact (prepare_layout_order_independent tiedContext hcolumns ascending descending
    State.fresh State.fresh).2.2

end Component.WaterLayout

import Component.WaterLayout.Prepare

/-!
# Attribute queries after `prepareLayout`

A collection view asks a prepared layout for the attributes of single elements through the same
methods that `prepareLayout` used to place them. They place the element again: an item query
raises a column and a header or footer query raises `maxY`. `queries_pure_iff` says for which
data the answers are nevertheless the recorded frames and the content size stays: exactly for
those whose items, headers and footers add no height at all (`Context.Flat`).
-/

namespace Component.WaterLayout

open Component.Lib.Selection

/-- The index path denotes an item, or the header or footer of a section. -/
def Context.Valid (ctx : Context) (element : Element) : Prop :=
  element.indexPath.sect < ctx.numberOfSections ∧
    match element.kind with
    | .cell => element.indexPath.item < ctx.numberOfItemsInSection element.indexPath.sect
    | _ => element.indexPath.item = 0

/-- One query of a collection view: the frame in the answer and the state it leaves behind. -/
def query (ctx : Context) (enumeration : Enumeration) (state : State) (element : Element) :
    Option CGRect × State :=
  match element.kind with
  | .cell =>
      let (attrs, state) := layoutAttributesForItem ctx enumeration element.indexPath state
      (some attrs.frame, state)
  | kind =>
      let (attrs, state) := layoutAttributesForSupplementaryView ctx kind element.indexPath state
      (attrs.map Attributes.frame, state)

/-- The state after a sequence of queries. -/
def queries (ctx : Context) (enumeration : Enumeration) (state : State)
    (asked : List Element) : State :=
  asked.foldl (fun state element => (query ctx enumeration state element).2) state

/-- The frame recorded in `attrsArray` for an element. -/
def recordedFrame (state : State) (element : Element) : Option CGRect :=
  (state.attrsArray.find? fun attrs => attrs.toElement = element).map Attributes.frame

/-- After `prepareLayout` and any queries, every query answers with the recorded frame and the
content size is the one it was right after `prepareLayout`. -/
def QueriesPure (ctx : Context) (enumeration : Enumeration) (state : State) : Prop :=
  let prepared := prepareLayout ctx enumeration state
  ∀ asked : List Element, (∀ element ∈ asked, ctx.Valid element) →
    collectionViewContentSize ctx (queries ctx enumeration prepared asked) =
      collectionViewContentSize ctx prepared ∧
    ∀ element, ctx.Valid element →
      (query ctx enumeration (queries ctx enumeration prepared asked) element).1 =
        recordedFrame prepared element

/-- The vertical insets of the sections from `first` up to `last`. -/
def Context.insetsBetween (ctx : Context) (first last : Nat) : CGFloat :=
  ∑ sect ∈ Finset.Ico first last, ((ctx.insetAt sect).top + (ctx.insetAt sect).bottom)

/-- No element adds height: headers and footers are zero high, and the height of every item
cancels the line spacing above it. -/
structure Context.Level (ctx : Context) : Prop where
  header_height : ∀ sect < ctx.numberOfSections, (ctx.headerSizeAt sect).height = 0
  footer_height : ∀ sect < ctx.numberOfSections, (ctx.footerSizeAt sect).height = 0
  item_height : ∀ sect < ctx.numberOfSections, ∀ item < ctx.numberOfItemsInSection sect,
    ctx.spacingAbove ⟨sect, item⟩ + (ctx.cellSizeAt ⟨sect, item⟩).height = 0

/-- No element adds height, and the vertical insets that follow a header or footer that is shown
add up to nothing. -/
structure Context.Flat (ctx : Context) : Prop extends ctx.Level where
  after_header : ∀ sect < ctx.numberOfSections, ctx.headerSizeAt sect ≠ CGSize.zero →
    ctx.insetsBetween sect ctx.numberOfSections = 0
  after_footer : ∀ sect < ctx.numberOfSections, ctx.footerSizeAt sect ≠ CGSize.zero →
    ctx.insetsBetween (sect + 1) ctx.numberOfSections = 0

/-! ## What a query does to the state -/

/-- Asking for a cell computes its frame again and moves its column down. -/
theorem query_cell (ctx : Context) (enumeration : Enumeration) (state : State)
    (path : IndexPath) :
    query ctx enumeration state ⟨.cell, path⟩ =
      (some (itemFrame ctx enumeration path state),
       { state with
         maxYArray := state.maxYArray.set path.sect
           ((state.columnsAt path.sect).setValue (state.minColumnAt enumeration path.sect)
             (itemFrame ctx enumeration path state).maxY)
         tick := state.tick + 1 }) := rfl

/-- Asking for a header or footer moves `maxY` by its height. -/
theorem query_supplementary (ctx : Context) (enumeration : Enumeration) (state : State)
    (path : IndexPath) {kind : ElementKind} (hkind : kind ≠ .cell) :
    query ctx enumeration state ⟨kind, path⟩ =
      (if ctx.supplementarySizeAt kind path.sect = CGSize.zero then none else
        some ⟨0, state.maxY, (ctx.supplementarySizeAt kind path.sect).width,
          (ctx.supplementarySizeAt kind path.sect).height⟩,
       { state with maxY := state.maxY + (ctx.supplementarySizeAt kind path.sect).height }) := by
  cases kind with
  | cell => exact absurd rfl hkind
  | header | footer =>
      simp only [query, layoutAttributesForSupplementaryView,
        apply_ite (Option.map Attributes.frame)]
      rfl

/-! ## The dictionaries of a prepared layout -/

/-- Every section laid out so far has a dictionary with one entry for each of its columns. -/
def HasDictionaries (ctx : Context) (count : Nat) (state : State) : Prop :=
  state.maxYArray.length = count ∧
    ∀ sect < count, (state.columnsAt sect).length = (ctx.columnsCountAt sect).toNat

/-- Placing an item again keeps the number of entries. -/
theorem HasDictionaries.place {ctx : Context} {count : Nat} {state : State}
    (h : HasDictionaries ctx count state)
    (hcolumns : ∀ sect < count, 1 ≤ ctx.columnsCountAt sect) (enumeration : Enumeration)
    {sect : Nat} (hsect : sect < count) (value : CGFloat) (attrs : List Attributes)
    (maxY : CGFloat) (tick : Nat) :
    HasDictionaries ctx count
      ⟨state.maxYArray.set sect
        ((state.columnsAt sect).setValue (state.minColumnAt enumeration sect) value),
        attrs, maxY, tick⟩ := by
  have hpositive : 0 < (state.columnsAt sect).length := by
    have := hcolumns sect hsect
    rw [h.2 sect hsect]
    omega
  have hmin : state.minColumnAt enumeration sect < (state.columnsAt sect).length :=
    Columns.min_column_lt (enumeration.perm _ _) hpositive
  refine ⟨by simp [h.1], ?_⟩
  intro other hother
  by_cases heq : other = sect
  · subst heq
    rw [State.columnsAt, columns_at_set (h.1.symm ▸ hother),
      Columns.length_set_value_of_lt hmin, h.2 other hother]
  · rw [← h.2 other hother]
    simp [State.columnsAt, List.getD_eq_getElem?_getD, Ne.symm heq]

/-- Recording items keeps the dictionaries of the columns. -/
theorem HasDictionaries.record_items {ctx : Context} {count : Nat}
    (hcolumns : ∀ sect < count, 1 ≤ ctx.columnsCountAt sect) (enumeration : Enumeration)
    {sect : Nat} (hsect : sect < count) (items : List Nat) {state : State}
    (h : HasDictionaries ctx count state) :
    HasDictionaries ctx count (items.foldl (recordItem ctx enumeration sect) state) := by
  induction items generalizing state with
  | nil => exact h
  | cons item items ih => exact ih (h.place hcolumns enumeration hsect _ _ _ _)

/-- The section loop gives every section its dictionary. -/
theorem layout_sections_dictionaries {ctx : Context} (enumeration : Enumeration) (state : State)
    (count : Nat) (hcolumns : ∀ sect < count, 1 ≤ ctx.columnsCountAt sect) :
    HasDictionaries ctx count (layoutSections ctx enumeration count state) := by
  induction count with
  | zero => exact ⟨rfl, by intro sect hsect; omega⟩
  | succ count ih =>
      obtain ⟨hlength, hentries⟩ := ih (fun sect hsect => hcolumns sect (by omega))
      rw [layout_sections_succ]
      generalize layoutSections ctx enumeration count state = before at hlength hentries
      generalize hheader : addMaxY (ctx.insetAt count).top
        (recordSupplementaryView ctx .header count before) = header
      have harrays : header.maxYArray = before.maxYArray := by
        rw [← hheader, record_supplementary_view_eq]
        rfl
      have hcreated : HasDictionaries ctx (count + 1) (createColumns ctx count header) := by
        rw [create_columns_eq ctx (harrays ▸ hlength), harrays]
        refine ⟨by simp [hlength], ?_⟩
        intro sect hsect
        by_cases heq : sect = count
        · subst heq
          rw [State.columnsAt, columns_at_append hlength, List.length_replicate]
        · rw [← hentries sect (by omega)]
          have hlt : sect < before.maxYArray.length := by omega
          simp [State.columnsAt, List.getD_eq_getElem?_getD, List.getElem?_append_left hlt]
      have hitems := HasDictionaries.record_items hcolumns enumeration
        (show count < count + 1 by omega) (List.range (ctx.numberOfItemsInSection count)) hcreated
      have hsection : (layoutSection ctx enumeration before count).maxYArray =
          ((List.range (ctx.numberOfItemsInSection count)).foldl
            (recordItem ctx enumeration count) (createColumns ctx count header)).maxYArray := by
        rw [← hheader, layoutSection]
        simp only [record_supplementary_view_eq]
        rfl
      unfold HasDictionaries State.columnsAt at *
      rw [hsection]
      exact hitems

/-- Queries keep the number of entries of every dictionary. -/
theorem HasDictionaries.queries {ctx : Context} {state : State}
    (h : HasDictionaries ctx ctx.numberOfSections state)
    (hcolumns : ∀ sect < ctx.numberOfSections, 1 ≤ ctx.columnsCountAt sect)
    (enumeration : Enumeration) {asked : List Element}
    (hvalid : ∀ element ∈ asked, ctx.Valid element) :
    HasDictionaries ctx ctx.numberOfSections (queries ctx enumeration state asked) := by
  induction asked generalizing state with
  | nil => exact h
  | cons element asked ih =>
      refine ih ?_ (fun other hother => hvalid other (List.mem_cons_of_mem _ hother))
      have hsect := (hvalid element List.mem_cons_self).1
      obtain ⟨kind, path⟩ := element
      by_cases hkind : kind = .cell
      · subst hkind
        exact h.place hcolumns enumeration hsect _ _ _ _
      · show HasDictionaries ctx _ (query ctx enumeration state ⟨kind, path⟩).2
        rw [query_supplementary ctx enumeration state path hkind]
        exact h

/-! ## Answers that never change force a level layout -/

/-- The last query starts from where the others have led. -/
theorem queries_snoc (ctx : Context) (enumeration : Enumeration) (state : State)
    (asked : List Element) (element : Element) :
    queries ctx enumeration state (asked ++ [element]) =
      (query ctx enumeration (queries ctx enumeration state asked) element).2 := by
  simp [queries]

/-- Asking for a header or footer moves `maxY` by its height, so the content size can only stay
if that height is zero. -/
theorem QueriesPure.supplementary_height {ctx : Context} {enumeration : Enumeration}
    {state : State} (h : QueriesPure ctx enumeration state) {sect : Nat}
    (hsect : sect < ctx.numberOfSections) {kind : ElementKind} (hkind : kind ≠ .cell) :
    (ctx.supplementarySizeAt kind sect).height = 0 := by
  have hsize := (h [⟨kind, ⟨sect, 0⟩⟩] (by simp [Context.Valid, hsect])).1
  simpa [queries, query_supplementary ctx enumeration _ ⟨sect, 0⟩ hkind,
    collectionViewContentSize] using hsize

/-- Raising a column away from a value leaves one entry less with that value. -/
theorem Columns.count_set_value {columns : Columns} {column : Nat} {old new : CGFloat}
    (hcolumn : column < columns.length) (hold : columns.floatValue column = old)
    (hnew : new ≠ old) :
    List.count old (columns.setValue column new) + 1 = List.count old columns := by
  have hget : columns[column] = old := by
    rw [← hold, floatValue, List.getD_eq_getElem _ _ hcolumn]
  have hpositive : 0 < List.count old columns :=
    List.count_pos_iff.mpr (hget ▸ List.getElem_mem hcolumn)
  rw [setValue, if_pos hcolumn, List.count_set hcolumn]
  simp only [hget, beq_self_eq_true, if_true, beq_iff_eq, hnew, if_false]
  omega

/-- Columns of one height that are found and raised again and again are used up, unless they are
raised to the same height. -/
theorem Columns.eq_of_always_found {columns : Nat → Columns} {column : Nat → Nat}
    {low high : CGFloat} (hlt : ∀ n, column n < (columns n).length)
    (hlow : ∀ n, (columns n).floatValue (column n) = low)
    (hstep : ∀ n, columns (n + 1) = (columns n).setValue (column n) high) : high = low := by
  by_contra hne
  have hcount : ∀ n, List.count low (columns n) + n = List.count low (columns 0) := by
    intro n
    induction n with
    | zero => rfl
    | succ n ih =>
        have hless := Columns.count_set_value (hlt n) (hlow n) hne
        rw [← hstep] at hless
        omega
  have hend := hcount (List.count low (columns 0) + 1)
  omega

/-- Asking for one item again and again raises one of the shortest columns by the height the item
adds, and its answer says that the shortest columns stay as they are. -/
theorem QueriesPure.item_height {ctx : Context} {enumeration : Enumeration} {state : State}
    (h : QueriesPure ctx enumeration state)
    (hcolumns : ∀ sect < ctx.numberOfSections, 1 ≤ ctx.columnsCountAt sect) {sect item : Nat}
    (hsect : sect < ctx.numberOfSections) (hitem : item < ctx.numberOfItemsInSection sect) :
    ctx.spacingAbove ⟨sect, item⟩ + (ctx.cellSizeAt ⟨sect, item⟩).height = 0 := by
  generalize hpath : (⟨sect, item⟩ : IndexPath) = path
  have hpathSect : path.sect = sect := by rw [← hpath]
  have hvalid : ctx.Valid ⟨.cell, path⟩ := by
    rw [← hpath]
    exact ⟨hsect, hitem⟩
  have hasked : ∀ n, ∀ element ∈ List.replicate n (⟨.cell, path⟩ : Element),
      ctx.Valid element := by
    intro n element helement
    rw [List.eq_of_mem_replicate helement]
    exact hvalid
  -- the state after `n` queries for the item, and its dictionary
  obtain ⟨after, hafter⟩ : ∃ after : Nat → State, ∀ n, after n = queries ctx enumeration
      (prepareLayout ctx enumeration state) (List.replicate n ⟨.cell, path⟩) := ⟨_, fun _ => rfl⟩
  have hdictionaries : ∀ n, HasDictionaries ctx ctx.numberOfSections (after n) := by
    intro n
    rw [hafter]
    exact (layout_sections_dictionaries enumeration state _ hcolumns).queries hcolumns
      enumeration (hasked n)
  have hmin : ∀ n, (after n).minColumnAt enumeration sect < ((after n).columnsAt sect).length := by
    intro n
    have := hcolumns sect hsect
    refine Columns.min_column_lt (enumeration.perm _ _) ?_
    rw [(hdictionaries n).2 sect hsect]
    omega
  have hframe : ∀ n, itemFrame ctx enumeration path (after n) =
      itemFrame ctx enumeration path (after 0) := by
    intro n
    have hn := (h _ (hasked n)).2 ⟨.cell, path⟩ hvalid
    have h0 := (h _ (hasked 0)).2 ⟨.cell, path⟩ hvalid
    rw [← hafter, query_cell] at hn h0
    exact Option.some.inj (hn.trans h0.symm)
  have hlow : ∀ n, ((after n).columnsAt sect).floatValue ((after n).minColumnAt enumeration sect) =
      ((after 0).columnsAt sect).floatValue ((after 0).minColumnAt enumeration sect) := by
    intro n
    have hy := congrArg CGRect.y (hframe n)
    rw [itemFrame, itemFrame, hpathSect] at hy
    exact add_right_cancel hy
  generalize ((after 0).columnsAt sect).floatValue ((after 0).minColumnAt enumeration sect) =
    low at hlow
  have hstep : ∀ n, ((after (n + 1)).columnsAt sect) = ((after n).columnsAt sect).setValue
      ((after n).minColumnAt enumeration sect)
      (low + (ctx.spacingAbove path + (ctx.cellSizeAt path).height)) := by
    intro n
    have hsucc : after (n + 1) = (query ctx enumeration (after n) ⟨.cell, path⟩).2 := by
      rw [hafter, List.replicate_succ', queries_snoc, ← hafter]
    have hmax : (itemFrame ctx enumeration path (after n)).maxY =
        low + (ctx.spacingAbove path + (ctx.cellSizeAt path).height) := by
      rw [CGRect.maxY, itemFrame, hpathSect, hlow, add_assoc]
    rw [hsucc, query_cell, hmax, hpathSect, State.columnsAt]
    exact columns_at_set ((hdictionaries n).1.symm ▸ hsect)
  exact add_eq_left.mp (Columns.eq_of_always_found hmin hlow hstep)

/-! ## The layout of level data -/

/-- In a dictionary whose columns are all equal both searches stay on column `"0"`. -/
theorem Columns.min_column_replicate {count : Nat} {value : CGFloat} {keys : List Nat}
    (hcount : 0 < count) (hkeys : keys.Perm (List.range count)) :
    Columns.minColumn (List.replicate count value) keys = 0 := by
  refine scan_stable ?_
  intro column hcolumn
  rw [float_value_replicate value (List.mem_range.mp (hkeys.subset hcolumn)),
    float_value_replicate value hcount]
  exact lt_irrefl value

/-- The frame of an item of a level section whose columns are all at `start`. -/
def Context.levelFrame (ctx : Context) (path : IndexPath) (start : CGFloat) : CGRect :=
  ⟨ctx.columnX path.sect (ctx.cellSizeAt path).width 0, start + ctx.spacingAbove path,
    (ctx.cellSizeAt path).width, (ctx.cellSizeAt path).height⟩

/-- An item that adds no height is placed in column `"0"` and leaves the dictionary as it is. -/
theorem level_item {ctx : Context} (enumeration : Enumeration) (path : IndexPath) (state : State)
    {start : CGFloat} (hcolumns : 1 ≤ ctx.columnsCountAt path.sect)
    (hsect : path.sect < state.maxYArray.length)
    (hstart : state.columnsAt path.sect =
      List.replicate (ctx.columnsCountAt path.sect).toNat start)
    (hheight : ctx.spacingAbove path + (ctx.cellSizeAt path).height = 0) :
    itemFrame ctx enumeration path state = ctx.levelFrame path start ∧
      state.maxYArray.set path.sect
        ((state.columnsAt path.sect).setValue (state.minColumnAt enumeration path.sect)
          (itemFrame ctx enumeration path state).maxY) = state.maxYArray := by
  have hpositive : 0 < (ctx.columnsCountAt path.sect).toNat := by omega
  have hmin : state.minColumnAt enumeration path.sect = 0 := by
    rw [State.minColumnAt, hstart]
    have hkeys := enumeration.perm state.tick
      (List.replicate (ctx.columnsCountAt path.sect).toNat start)
    rw [List.length_replicate] at hkeys
    exact Columns.min_column_replicate hpositive hkeys
  have hframe : itemFrame ctx enumeration path state = ctx.levelFrame path start := by
    rw [itemFrame, hmin, hstart, Context.levelFrame, Columns.float_value_replicate start hpositive]
  refine ⟨hframe, ?_⟩
  have hmax : (ctx.levelFrame path start).maxY = start := by
    rw [CGRect.maxY, Context.levelFrame, add_assoc, hheight, add_zero]
  have hself : state.maxYArray.set path.sect (state.columnsAt path.sect) = state.maxYArray := by
    simp [State.columnsAt, List.getD_eq_getElem?_getD, hsect]
  rw [hframe, hmax, hmin]
  nth_rewrite 2 [← hself]
  rw [hstart, Columns.setValue, if_pos (by simpa using hpositive), List.set_replicate_self]

/-- The items of a level section. -/
theorem record_items_level {ctx : Context} (enumeration : Enumeration) {sect : Nat}
    (state : State) (start : CGFloat) (hcolumns : 1 ≤ ctx.columnsCountAt sect)
    (hsect : sect < state.maxYArray.length)
    (hstart : state.columnsAt sect = List.replicate (ctx.columnsCountAt sect).toNat start)
    (count : Nat)
    (hheight : ∀ item < count,
      ctx.spacingAbove ⟨sect, item⟩ + (ctx.cellSizeAt ⟨sect, item⟩).height = 0) :
    ∃ tick, (List.range count).foldl (recordItem ctx enumeration sect) state =
      ⟨state.maxYArray, state.attrsArray ++ (List.range count).map (fun item =>
        ⟨⟨.cell, ⟨sect, item⟩⟩, ctx.levelFrame ⟨sect, item⟩ start⟩), state.maxY, tick⟩ := by
  induction count with
  | zero => exact ⟨state.tick, by simp⟩
  | succ count ih =>
      obtain ⟨tick, hfold⟩ := ih (fun item hitem => hheight item (by omega))
      generalize hbefore : (⟨state.maxYArray, state.attrsArray ++ (List.range count).map
        (fun item => ⟨⟨.cell, ⟨sect, item⟩⟩, ctx.levelFrame ⟨sect, item⟩ start⟩),
        state.maxY, tick⟩ : State) = before at hfold
      have harrays : before.maxYArray = state.maxYArray := by rw [← hbefore]
      obtain ⟨hframe, hset⟩ := level_item enumeration ⟨sect, count⟩ before hcolumns
        (harrays ▸ hsect) (by rw [State.columnsAt, harrays]; exact hstart)
        (hheight count (by omega))
      refine ⟨tick + 1, ?_⟩
      rw [List.range_succ, List.foldl_append, hfold, List.foldl_cons, List.foldl_nil,
        record_item_eq, hset, hframe, ← hbefore]
      simp

/-- The cells of a level section: every column and `maxY` stay at the section's top. -/
theorem layout_cells_level {ctx : Context} (hlevel : ctx.Level) (enumeration : Enumeration)
    {sect : Nat} (hsect : sect < ctx.numberOfSections) (state : State)
    (hcolumns : 1 ≤ ctx.columnsCountAt sect) (harrays : state.maxYArray.length = sect) :
    ∃ tick, layoutCells ctx enumeration sect state =
      ⟨state.maxYArray ++ [List.replicate (ctx.columnsCountAt sect).toNat state.maxY],
        state.attrsArray ++ (List.range (ctx.numberOfItemsInSection sect)).map (fun item =>
          ⟨⟨.cell, ⟨sect, item⟩⟩, ctx.levelFrame ⟨sect, item⟩ state.maxY⟩), state.maxY, tick⟩ := by
  have hpositive : 0 < (ctx.columnsCountAt sect).toNat := by omega
  have hcreate := create_columns_eq ctx harrays
  obtain ⟨tick, hfold⟩ := record_items_level enumeration (createColumns ctx sect state) state.maxY
    hcolumns (by simp [hcreate, harrays])
    (by rw [State.columnsAt, hcreate]; exact columns_at_append harrays) _
    (hlevel.item_height sect hsect)
  have hmax : Columns.maxColumn (List.replicate (ctx.columnsCountAt sect).toNat state.maxY)
      (enumeration.order tick (List.replicate (ctx.columnsCountAt sect).toNat state.maxY)) <
        (ctx.columnsCountAt sect).toNat := by
    have hlt := Columns.max_column_lt (enumeration.perm tick
      (List.replicate (ctx.columnsCountAt sect).toNat state.maxY)) (by simpa using hpositive)
    rwa [List.length_replicate] at hlt
  refine ⟨tick + 1, ?_⟩
  rw [layoutCells, hfold, closeColumns]
  simp only [hcreate, columns_at_append harrays, Columns.float_value_replicate state.maxY hmax]

/-- The attributes of a level section. -/
def Context.levelAttributes (ctx : Context) (sect : Nat) : List Attributes :=
  supplementaryAttributes .header sect (ctx.headerSizeAt sect) (ctx.insetsBetween 0 sect) ++
    (List.range (ctx.numberOfItemsInSection sect)).map (fun item =>
      ⟨⟨.cell, ⟨sect, item⟩⟩, ctx.levelFrame ⟨sect, item⟩
        (ctx.insetsBetween 0 sect + (ctx.insetAt sect).top)⟩) ++
    supplementaryAttributes .footer sect (ctx.footerSizeAt sect)
      (ctx.insetsBetween 0 (sect + 1))

/-- The dictionary of a level section. -/
def Context.levelColumns (ctx : Context) (sect : Nat) : Columns :=
  List.replicate (ctx.columnsCountAt sect).toNat
    (ctx.insetsBetween 0 sect + (ctx.insetAt sect).top)

/-- The next section adds its insets. -/
theorem Context.insets_between_succ (ctx : Context) (sect : Nat) :
    ctx.insetsBetween 0 (sect + 1) =
      ctx.insetsBetween 0 sect + (ctx.insetAt sect).top + (ctx.insetAt sect).bottom := by
  rw [insetsBetween, Finset.sum_Ico_succ_top (Nat.zero_le sect), insetsBetween, add_assoc]

/-- Level data have a layout that does not depend on the enumeration orders. -/
theorem layout_sections_level {ctx : Context} (hlevel : ctx.Level)
    (hcolumns : ∀ sect < ctx.numberOfSections, 1 ≤ ctx.columnsCountAt sect)
    (enumeration : Enumeration) (state : State) (count : Nat)
    (hcount : count ≤ ctx.numberOfSections) :
    ∃ tick, layoutSections ctx enumeration count state =
      ⟨(List.range count).map ctx.levelColumns, (List.range count).flatMap ctx.levelAttributes,
        ctx.insetsBetween 0 count, tick⟩ := by
  induction count with
  | zero => exact ⟨state.tick, by simp [layoutSections, clear, Context.insetsBetween]⟩
  | succ count ih =>
      obtain ⟨tick, hbefore⟩ := ih (by omega)
      have hsect : count < ctx.numberOfSections := by omega
      rw [layout_sections_succ, hbefore, layoutSection, record_supplementary_view_eq ctx .header,
        ctx.supplementary_size_at_header, hlevel.header_height count hsect]
      generalize htop : addMaxY (ctx.insetAt count).top _ = top
      obtain ⟨tick, hcells⟩ := layout_cells_level hlevel enumeration hsect top
        (hcolumns count hsect) (by rw [← htop]; simp [addMaxY])
      refine ⟨tick, ?_⟩
      simp only [hcells]
      rw [record_supplementary_view_eq, ctx.supplementary_size_at_footer,
        hlevel.footer_height count hsect, ← htop]
      simp [addMaxY, List.range_succ, Context.levelColumns, Context.levelAttributes,
        ctx.insets_between_succ]

/-! ## The recorded frames of level data -/

/-- The attributes of a level section are those of its elements. -/
theorem level_attributes_elements (ctx : Context) (sect : Nat) :
    (ctx.levelAttributes sect).map Attributes.toElement = ctx.sectionElements sect := by
  simp [Context.levelAttributes, Context.sectionElements, supplementary_attributes_elements,
    Function.comp_def]

/-- Elements are recorded once, so a search by element finds the recorded attributes. -/
theorem find_element {laid : List Attributes} (hnodup : (laid.map Attributes.toElement).Nodup)
    {attrs : Attributes} (hattrs : attrs ∈ laid) :
    laid.find? (fun other => other.toElement = attrs.toElement) = some attrs := by
  induction laid with
  | nil => simp at hattrs
  | cons first rest ih =>
      rw [List.map_cons, List.nodup_cons] at hnodup
      rcases List.mem_cons.mp hattrs with rfl | hrest
      · simp
      · have hne : first.toElement ≠ attrs.toElement := by
          intro heq
          exact hnodup.1 (heq ▸ List.mem_map_of_mem hrest)
        rw [List.find?_cons_of_neg (by simpa using hne)]
        exact ih hnodup.2 hrest

/-- The frame that a query about level data answers when `maxY` is `bottom` for a header or
footer of section `sect`. -/
def Context.levelAnswer (ctx : Context) (element : Element) (bottom : CGFloat) : Option CGRect :=
  let sect := element.indexPath.sect
  match element.kind with
  | .cell => some (ctx.levelFrame element.indexPath
      (ctx.insetsBetween 0 sect + (ctx.insetAt sect).top))
  | .header => if ctx.headerSizeAt sect = CGSize.zero then none else
      some ⟨0, bottom, (ctx.headerSizeAt sect).width, (ctx.headerSizeAt sect).height⟩
  | .footer => if ctx.footerSizeAt sect = CGSize.zero then none else
      some ⟨0, bottom, (ctx.footerSizeAt sect).width, (ctx.footerSizeAt sect).height⟩

/-- The height at which `prepareLayout` places the header or footer of a level section. -/
def Context.levelBottom (ctx : Context) (element : Element) : CGFloat :=
  match element.kind with
  | .footer => ctx.insetsBetween 0 (element.indexPath.sect + 1)
  | _ => ctx.insetsBetween 0 element.indexPath.sect

section LevelAttributes

variable {ctx : Context} {state : State} {element : Element}
  (hattrs : state.attrsArray = (List.range ctx.numberOfSections).flatMap ctx.levelAttributes)
include hattrs

/-- The attributes of a level layout are those of all its elements. -/
theorem level_elements : state.attrsArray.map Attributes.toElement =
    (List.range ctx.numberOfSections).flatMap ctx.sectionElements := by
  rw [hattrs, List.map_flatMap]
  simp only [level_attributes_elements]

/-- Elements are recorded once, so that a search finds the recorded frame. -/
theorem recorded_frame_of_mem (hsect : element.indexPath.sect < ctx.numberOfSections)
    {frame : CGRect}
    (hframe : (⟨element, frame⟩ : Attributes) ∈ ctx.levelAttributes element.indexPath.sect) :
    recordedFrame state element = some frame := by
  have hmem : (⟨element, frame⟩ : Attributes) ∈ state.attrsArray := by
    rw [hattrs]
    exact List.mem_flatMap.mpr ⟨_, List.mem_range.mpr hsect, hframe⟩
  have hnodup : (state.attrsArray.map Attributes.toElement).Nodup :=
    level_elements hattrs ▸ ctx.nodup_elements ctx.numberOfSections
  rw [recordedFrame, find_element hnodup hmem]
  rfl

/-- An element that is not shown is not found. -/
theorem recorded_frame_of_not_shows (hshows : ¬ ctx.Shows element) :
    recordedFrame state element = none := by
  rw [recordedFrame, Option.map_eq_none_iff, List.find?_eq_none]
  intro attrs hmem heq
  have hrecorded : element ∈ state.attrsArray.map Attributes.toElement :=
    List.mem_map.mpr ⟨attrs, hmem, by simpa using heq⟩
  rw [level_elements hattrs] at hrecorded
  obtain ⟨sect, hsect, hin⟩ := List.mem_flatMap.mp hrecorded
  exact hshows ((Context.mem_section_elements (List.mem_range.mp hsect)).mp hin).2

/-- What a search of the attributes of level data finds. -/
theorem recorded_frame_level (hvalid : ctx.Valid element) :
    recordedFrame state element = ctx.levelAnswer element (ctx.levelBottom element) := by
  obtain ⟨kind, ⟨sect, item⟩⟩ := element
  cases kind with
  | cell =>
      refine recorded_frame_of_mem hattrs hvalid.1 ?_
      simp only [Context.levelAttributes, List.mem_append, List.mem_map, List.mem_range]
      exact .inl (.inr ⟨item, hvalid.2, rfl⟩)
  | header =>
      have hitem : item = 0 := hvalid.2
      subst hitem
      simp only [Context.levelAnswer, Context.levelBottom]
      -- a header without a size is not recorded
      split
      next hsize =>
        exact recorded_frame_of_not_shows hattrs fun hshows => hshows.2.2 hsize
      next hsize =>
        refine recorded_frame_of_mem hattrs hvalid.1 ?_
        simp [Context.levelAttributes, supplementaryAttributes, hsize]
  | footer =>
      have hitem : item = 0 := hvalid.2
      subst hitem
      simp only [Context.levelAnswer, Context.levelBottom]
      split
      next hsize =>
        exact recorded_frame_of_not_shows hattrs fun hshows => hshows.2.2 hsize
      next hsize =>
        refine recorded_frame_of_mem hattrs hvalid.1 ?_
        simp [Context.levelAttributes, supplementaryAttributes, hsize]

end LevelAttributes

/-! ## Queries about level data -/

/-- The dictionaries and the `maxY` of a prepared layout of level data. -/
def IsLevel (ctx : Context) (state : State) : Prop :=
  state.maxYArray = (List.range ctx.numberOfSections).map ctx.levelColumns ∧
    state.maxY = ctx.insetsBetween 0 ctx.numberOfSections

/-- A query about level data answers from the final `maxY` and keeps the state level. -/
theorem IsLevel.query {ctx : Context} (hlevel : ctx.Level)
    (hcolumns : ∀ sect < ctx.numberOfSections, 1 ≤ ctx.columnsCountAt sect)
    (enumeration : Enumeration) {state : State} (h : IsLevel ctx state) {element : Element}
    (hvalid : ctx.Valid element) :
    (query ctx enumeration state element).1 =
        ctx.levelAnswer element (ctx.insetsBetween 0 ctx.numberOfSections) ∧
      IsLevel ctx (query ctx enumeration state element).2 := by
  obtain ⟨kind, path⟩ := element
  have hsect : path.sect < ctx.numberOfSections := hvalid.1
  cases kind with
  | cell =>
      have hat : state.columnsAt path.sect = ctx.levelColumns path.sect := by
        simp [State.columnsAt, h.1, List.getD_eq_getElem?_getD, hsect]
      obtain ⟨hframe, hset⟩ := level_item enumeration path state (hcolumns path.sect hsect)
        (by simp [h.1, hsect]) hat (hlevel.item_height path.sect hsect path.item hvalid.2)
      rw [query_cell, hset, hframe]
      exact ⟨rfl, h⟩
  | header =>
      rw [query_supplementary ctx enumeration state path (by decide)]
      rw [ctx.supplementary_size_at_header, hlevel.header_height path.sect hsect, add_zero, h.2]
      refine ⟨?_, h.1, rfl⟩
      simp only [Context.levelAnswer, hlevel.header_height path.sect hsect]
  | footer =>
      rw [query_supplementary ctx enumeration state path (by decide)]
      rw [ctx.supplementary_size_at_footer, hlevel.footer_height path.sect hsect, add_zero, h.2]
      refine ⟨?_, h.1, rfl⟩
      simp only [Context.levelAnswer, hlevel.footer_height path.sect hsect]

/-- Queries keep a level layout as it is. -/
theorem IsLevel.queries {ctx : Context} (hlevel : ctx.Level)
    (hcolumns : ∀ sect < ctx.numberOfSections, 1 ≤ ctx.columnsCountAt sect)
    (enumeration : Enumeration) {state : State} (h : IsLevel ctx state) {asked : List Element}
    (hvalid : ∀ element ∈ asked, ctx.Valid element) :
    IsLevel ctx (queries ctx enumeration state asked) := by
  induction asked generalizing state with
  | nil => exact h
  | cons element asked ih =>
      exact ih (h.query hlevel hcolumns enumeration (hvalid element List.mem_cons_self)).2
        (fun other hother => hvalid other (List.mem_cons_of_mem element hother))

/-- Two heights of a level layout are equal if the insets between them vanish. -/
theorem Context.insets_between_eq_iff (ctx : Context) {first last : Nat} (h : first ≤ last) :
    ctx.insetsBetween 0 last = ctx.insetsBetween 0 first ↔ ctx.insetsBetween first last = 0 := by
  have hsum : ctx.insetsBetween 0 first + ctx.insetsBetween first last =
      ctx.insetsBetween 0 last := Finset.sum_Ico_consecutive _ (Nat.zero_le first) h
  rw [← hsum, add_eq_left]

/-- Flat data: the final `maxY` answers every query like the one at placement did. -/
theorem Context.Flat.level_answer {ctx : Context} (h : ctx.Flat) {element : Element}
    (hvalid : ctx.Valid element) :
    ctx.levelAnswer element (ctx.insetsBetween 0 ctx.numberOfSections) =
      ctx.levelAnswer element (ctx.levelBottom element) := by
  obtain ⟨kind, path⟩ := element
  have hsect : path.sect < ctx.numberOfSections := hvalid.1
  cases kind with
  | cell => rfl
  | header =>
      by_cases hsize : ctx.headerSizeAt path.sect = CGSize.zero
      · simp only [levelAnswer, hsize, if_true]
      · rw [(ctx.insets_between_eq_iff hsect.le).mpr (h.after_header path.sect hsect hsize)]
        rfl
  | footer =>
      by_cases hsize : ctx.footerSizeAt path.sect = CGSize.zero
      · simp only [levelAnswer, hsize, if_true]
      · rw [(ctx.insets_between_eq_iff hsect).mpr (h.after_footer path.sect hsect hsize)]
        rfl

/-- `prepareLayout` of level data leaves a level state and records the attributes of every
section. -/
theorem prepare_layout_level {ctx : Context} (hlevel : ctx.Level)
    (hcolumns : ∀ sect < ctx.numberOfSections, 1 ≤ ctx.columnsCountAt sect)
    (enumeration : Enumeration) (state : State) :
    IsLevel ctx (prepareLayout ctx enumeration state) ∧
      (prepareLayout ctx enumeration state).attrsArray =
        (List.range ctx.numberOfSections).flatMap ctx.levelAttributes := by
  obtain ⟨tick, heq⟩ := layout_sections_level hlevel hcolumns enumeration state _ le_rfl
  rw [prepareLayout, heq]
  exact ⟨⟨rfl, rfl⟩, rfl⟩

/-- Pure queries of level data force the insets after a header or footer to vanish: the query
answers from the final `maxY`. -/
theorem QueriesPure.flat {ctx : Context} {enumeration : Enumeration} {state : State}
    (h : QueriesPure ctx enumeration state)
    (hcolumns : ∀ sect < ctx.numberOfSections, 1 ≤ ctx.columnsCountAt sect) : ctx.Flat := by
  have hlevel : ctx.Level :=
    ⟨fun sect hsect => h.supplementary_height hsect (show ElementKind.header ≠ .cell by decide),
      fun sect hsect => h.supplementary_height hsect (show ElementKind.footer ≠ .cell by decide),
      fun sect hsect item hitem => h.item_height hcolumns hsect hitem⟩
  obtain ⟨hprepared, hattrs⟩ := prepare_layout_level hlevel hcolumns enumeration state
  have hanswer : ∀ element, ctx.Valid element →
      ctx.levelAnswer element (ctx.insetsBetween 0 ctx.numberOfSections) =
        ctx.levelAnswer element (ctx.levelBottom element) := by
    intro element hvalid
    rw [← recorded_frame_level hattrs hvalid,
      ← (hprepared.query hlevel hcolumns enumeration hvalid).1]
    exact (h [] (by simp)).2 element hvalid
  refine ⟨hlevel, ?_, ?_⟩
  · intro sect hsect hsize
    refine (ctx.insets_between_eq_iff hsect.le).mp ?_
    have hheader := hanswer ⟨.header, ⟨sect, 0⟩⟩ ⟨hsect, rfl⟩
    simpa [Context.levelAnswer, Context.levelBottom, hsize] using hheader
  · intro sect hsect hsize
    refine (ctx.insets_between_eq_iff hsect).mp ?_
    have hfooter := hanswer ⟨.footer, ⟨sect, 0⟩⟩ ⟨hsect, rfl⟩
    simpa [Context.levelAnswer, Context.levelBottom, hsize] using hfooter

/-- Queries of a layout whose sections have columns are pure exactly for flat data. -/
theorem queries_pure_iff (ctx : Context) (enumeration : Enumeration) (state : State)
    (hcolumns : ∀ sect < ctx.numberOfSections, 1 ≤ ctx.columnsCountAt sect) :
    QueriesPure ctx enumeration state ↔ ctx.Flat := by
  constructor
  · intro h
    exact h.flat hcolumns
  · intro h asked hasked
    obtain ⟨hprepared, hattrs⟩ := prepare_layout_level h.toLevel hcolumns enumeration state
    have hafter := hprepared.queries h.toLevel hcolumns enumeration hasked
    refine ⟨?_, ?_⟩
    · rw [collectionViewContentSize, collectionViewContentSize, hafter.2, hprepared.2]
    · intro element hvalid
      rw [(hafter.query h.toLevel hcolumns enumeration hvalid).1,
        recorded_frame_level hattrs hvalid]
      exact h.level_answer hvalid

/-- Two sections of items that are zero high, without headers and footers. -/
def flatContext : Context where
  lineSpacing := 0
  interitemSpacing := 4
  columnsCount := 2
  itemSize := ⟨40, 0⟩
  headerReferenceSize := CGSize.zero
  footerReferenceSize := CGSize.zero
  sectionInset := ⟨1, 2, 3, 2⟩
  frameWidth := 100
  numberOfSections := 2
  numberOfItemsInSection sect := 3 - sect
  delegate := none

/-- Queries change nothing in the flat layout. -/
theorem queries_pure_flat_context :
    (∀ sect < flatContext.numberOfSections, 1 ≤ flatContext.columnsCountAt sect) ∧
      QueriesPure flatContext ascending State.fresh := by
  have hcolumns : ∀ sect < flatContext.numberOfSections,
      1 ≤ flatContext.columnsCountAt sect := by decide +kernel
  refine ⟨hcolumns, (queries_pure_iff flatContext ascending State.fresh hcolumns).mpr ?_⟩
  exact ⟨⟨by decide +kernel, by decide +kernel, by decide +kernel⟩, by decide +kernel,
    by decide +kernel⟩

/-- Asking for the footer of the first section makes the content of `sampleContext` ten points
higher. -/
theorem queries_not_pure_sample_context :
    (∀ sect < sampleContext.numberOfSections, 1 ≤ sampleContext.columnsCountAt sect) ∧
      ¬ QueriesPure sampleContext ascending State.fresh := by
  refine ⟨by decide +kernel, ?_⟩
  intro h
  have hsize := (h [⟨.footer, ⟨0, 0⟩⟩] (by simp [Context.Valid, sampleContext])).1
  exact absurd hsize (by decide +kernel)

end Component.WaterLayout

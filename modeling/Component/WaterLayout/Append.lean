import Component.WaterLayout.OrderIndependence

/-!
# Loading more data

A list that loads more as it is scrolled prepares its layout again, with more items in its last
section and perhaps further sections after it. What is on the screen does not move when this
happens: all elements but the footer of what was the last section keep their rows, in whatever order
the dictionaries are enumerated this time, and the content does not get shorter (`load_more`).

The layout reads the item counts only to know how far its loops go. So the two runs agree until the
last of the old items has been placed, and from there on attributes are only added.
-/

namespace Component.WaterLayout

/-- The same layout with other counts of sections and items. -/
def Context.withData (ctx : Context) (sections : Nat) (items : Nat → Nat) : Context :=
  { ctx with numberOfSections := sections, numberOfItemsInSection := items }

variable (ctx : Context) (enumeration : Enumeration) (state : State)

/-! ## Attributes are only added -/

/-- The attributes before an item are the first ones before a later item. -/
theorem item_turn_attrs_extend (sect : Nat) {first last : Nat} (hle : first ≤ last) :
    (itemTurn ctx enumeration state ⟨sect, first⟩).attrsArray <+:
      (itemTurn ctx enumeration state ⟨sect, last⟩).attrsArray := by
  induction hle with
  | refl => exact List.prefix_rfl
  | step _ ih =>
      rw [item_turn_succ, record_item_eq]
      exact ih.trans (List.prefix_append ..)

/-- The attributes of fewer sections are the first ones of more sections. -/
theorem layout_sections_attrs_extend {first last : Nat} (hle : first ≤ last) :
    (layoutSections ctx enumeration first state).attrsArray <+:
      (layoutSections ctx enumeration last state).attrsArray := by
  induction hle with
  | refl => exact List.prefix_rfl
  | @step last _ ih =>
      obtain ⟨rest, heq, _⟩ := layout_section_attrs ctx enumeration last
        (layoutSections ctx enumeration last state)
      rw [layout_sections_succ, heq]
      exact ih.trans (List.prefix_append ..)

/-- A section ends with the attributes of its last item and its footer. -/
theorem layout_sections_succ_eq_turn (sect : Nat) :
    ∃ y, (layoutSections ctx enumeration (sect + 1) state).attrsArray =
      (itemTurn ctx enumeration state
        ⟨sect, ctx.numberOfItemsInSection sect⟩).attrsArray ++
        supplementaryAttributes .footer sect (ctx.footerSizeAt sect) y := by
  rw [layout_sections_succ, layout_section_eq_turn, record_supplementary_view_eq]
  exact ⟨_, rfl⟩

/-! ## The loops over the old items -/

section WithData

variable {ctx} {sections : Nat} {items : Nat → Nat} {last : Nat}

/-- Sections with the same numbers of items are laid out alike. -/
theorem layout_sections_with_data {count : Nat}
    (hitems : ∀ sect < count, items sect = ctx.numberOfItemsInSection sect) :
    layoutSections (ctx.withData sections items) enumeration count state =
      layoutSections ctx enumeration count state := by
  induction count with
  | zero => rfl
  | succ count ih =>
      have hcount : (ctx.withData sections items).numberOfItemsInSection count =
        ctx.numberOfItemsInSection count := hitems count (by omega)
      rw [layout_sections_succ, layout_sections_succ, ih fun sect hsect => hitems sect (by omega),
        layoutSection, layoutCells, hcount]
      rfl

/-- An item after sections with the same numbers of items comes to the same turn. -/
theorem item_turn_with_data (hitems : ∀ sect < last, items sect = ctx.numberOfItemsInSection sect)
    (item : Nat) :
    itemTurn (ctx.withData sections items) enumeration state ⟨last, item⟩ =
      itemTurn ctx enumeration state ⟨last, item⟩ := by
  rw [itemTurn, sectionStart, layout_sections_with_data enumeration state hitems]
  rfl

/-- When the last old item has been placed, no footer of its section is there yet. -/
theorem not_footer_of_mem_item_turn {sect item : Nat} {attrs : Attributes}
    (h : attrs ∈ (itemTurn ctx enumeration state ⟨sect, item⟩).attrsArray) :
    attrs.toElement ≠ ⟨.footer, ⟨sect, 0⟩⟩ := by
  intro helement
  have hkind : attrs.kind = .footer := congrArg Element.kind helement
  have hsect : attrs.indexPath.sect = sect := congrArg (fun e => e.indexPath.sect) helement
  rw [item_turn_attrs, sectionStart, record_supplementary_view_eq] at h
  simp only [addMaxY, List.append_assoc, List.mem_append, List.mem_map] at h
  rcases h with hbefore | hheader | ⟨_, _, rfl⟩
  · have := layout_sections_sect_lt ctx enumeration state sect hbefore
    omega
  · exact absurd ((supplementary_attributes_kind hheader).symm.trans hkind) (by decide)
  · exact absurd hkind (show ElementKind.cell ≠ .footer by decide)

/-- What is left of the attributes without the last footer. -/
theorem filter_layout_sections_succ (sect : Nat) :
    (layoutSections ctx enumeration (sect + 1) state).attrsArray.filter
        (fun attrs => decide (attrs.toElement ≠ ⟨.footer, ⟨sect, 0⟩⟩)) =
      (itemTurn ctx enumeration state
        ⟨sect, ctx.numberOfItemsInSection sect⟩).attrsArray := by
  obtain ⟨y, hattrs⟩ := layout_sections_succ_eq_turn ctx enumeration state sect
  rw [hattrs, List.filter_append, List.filter_eq_self.mpr, List.filter_eq_nil_iff.mpr,
    List.append_nil]
  · intro attrs hmem
    have hfooter : attrs.toElement = ⟨.footer, ⟨sect, 0⟩⟩ := by
      have := List.mem_map_of_mem (f := Attributes.toElement) hmem
      rw [supplementary_attributes_elements] at this
      split at this
      · cases this
      · exact List.mem_singleton.mp this
    simp [hfooter]
  · intro attrs hmem
    exact decide_eq_true (not_footer_of_mem_item_turn enumeration state hmem)

/-! ## The height of the content -/

/-- The cells of a section end no higher with more items. -/
theorem close_columns_max_y_mono {sect first last : Nat} (hle : first ≤ last)
    (hcolumns : 1 ≤ ctx.columnsCountAt sect)
    (hheight : ∀ item < last, 0 ≤ (ctx.cellSizeAt ⟨sect, item⟩).height)
    (hspacing : 0 ≤ ctx.lineSpacingAt sect) :
    (closeColumns enumeration sect (itemTurn ctx enumeration state ⟨sect, first⟩)).maxY ≤
      (closeColumns enumeration sect (itemTurn ctx enumeration state ⟨sect, last⟩)).maxY := by
  have hfirst := turn_columns_pos enumeration state hcolumns first
  have hlength : (turnColumns ctx enumeration state ⟨sect, first⟩).length =
      (turnColumns ctx enumeration state ⟨sect, last⟩).length := by
    rw [length_turn_columns enumeration state hcolumns,
      length_turn_columns enumeration state hcolumns]
  have hlt := Columns.max_column_lt
    (enumeration.perm (itemTurn ctx enumeration state ⟨sect, first⟩).tick _) hfirst
  refine (float_value_turn_mono enumeration state hcolumns hle hheight hspacing _).trans ?_
  exact Columns.le_max_column (enumeration.perm _ _) (hlength ▸ hlt)

/-- Further sections do not make the content shorter. -/
theorem layout_sections_max_y_mono (hnonneg : ctx.NonNegative)
    (hcolumns : ∀ sect < ctx.numberOfSections, 1 ≤ ctx.columnsCountAt sect) {first last : Nat}
    (hle : first ≤ last) (hlast : last ≤ ctx.numberOfSections) :
    (layoutSections ctx enumeration first state).maxY ≤
      (layoutSections ctx enumeration last state).maxY := by
  have hstacked := (sections_stacked_of_columns enumeration state hnonneg hcolumns).1
  induction hle with
  | refl => exact le_rfl
  | @step last _ ih => exact (ih (by omega)).trans (hstacked last (by omega))

/-- A section ends below its columns, its bottom inset and its footer. -/
theorem layout_sections_succ_max_y (sect : Nat) :
    (layoutSections ctx enumeration (sect + 1) state).maxY =
      (closeColumns enumeration sect
        (itemTurn ctx enumeration state ⟨sect, ctx.numberOfItemsInSection sect⟩)).maxY +
        (ctx.insetAt sect).bottom + (ctx.footerSizeAt sect).height := by
  rw [layout_sections_succ, layout_section_eq_turn, record_supplementary_view_eq]
  rfl

end WithData

/-- The layout is prepared again after items have been added to its last section, and perhaps
sections after it. Then all elements but the footer of what was the last section come first, in
their order and with the rows they had, and the content is at least as high as before. -/
theorem load_more (ctx : Context) {sections last : Nat} {items : Nat → Nat}
    (hlast : ctx.numberOfSections = last + 1) (hsections : last < sections)
    (hbefore : ∀ sect < last, items sect = ctx.numberOfItemsInSection sect)
    (hmore : ctx.numberOfItemsInSection last ≤ items last)
    (hnonneg : (ctx.withData sections items).NonNegative)
    (hcolumns : ∀ sect < sections, 1 ≤ ctx.columnsCountAt sect)
    (oldOrder newOrder : Enumeration) (oldState newState : State) :
    let old := prepareLayout ctx oldOrder oldState
    let new := prepareLayout (ctx.withData sections items) newOrder newState
    (∃ kept, kept <+: new.attrsArray ∧
      List.Forall₂ SameRow
        (old.attrsArray.filter fun attrs => decide (attrs.toElement ≠ ⟨.footer, ⟨last, 0⟩⟩))
        kept) ∧
    (collectionViewContentSize ctx old).height ≤
      (collectionViewContentSize (ctx.withData sections items) new).height := by
  intro old new
  have hold : old = layoutSections ctx oldOrder (last + 1) oldState := by
    rw [← hlast]
    rfl
  constructor
  · refine ⟨(itemTurn ctx newOrder newState
      ⟨last, ctx.numberOfItemsInSection last⟩).attrsArray, ?_, ?_⟩
    · -- the new items, the footer and the new sections come after the old items
      have hsame : itemTurn (ctx.withData sections items) newOrder newState
          ⟨last, ctx.numberOfItemsInSection last⟩ = itemTurn ctx newOrder newState
            ⟨last, ctx.numberOfItemsInSection last⟩ :=
        item_turn_with_data newOrder newState hbefore _
      rw [← hsame]
      refine (item_turn_attrs_extend _ newOrder newState last hmore).trans ?_
      obtain ⟨y, hattrs⟩ :=
        layout_sections_succ_eq_turn (ctx.withData sections items) newOrder newState last
      refine List.IsPrefix.trans ⟨_, hattrs.symm⟩ ?_
      exact layout_sections_attrs_extend _ newOrder newState hsections
    · rw [hold, filter_layout_sections_succ]
      have hagree : Agree (layoutSections ctx oldOrder last oldState)
          (layoutSections ctx newOrder last newState) :=
        Agree.layout_sections oldOrder newOrder oldState newState last
          fun sect hsect => hcolumns sect (by omega)
      exact (hagree.item_turn oldOrder newOrder oldState newState (hcolumns last hsections) _).attrs
  · -- the order in which the new run enumerates the dictionaries does not matter for the height
    have hagree : Agree (layoutSections (ctx.withData sections items) oldOrder sections oldState)
        new := Agree.layout_sections oldOrder newOrder oldState newState sections hcolumns
    change old.maxY ≤ new.maxY
    rw [← hagree.maxY, hold, layout_sections_succ_max_y]
    refine le_trans ?_ (layout_sections_max_y_mono oldOrder oldState hnonneg hcolumns hsections
      le_rfl)
    rw [layout_sections_succ_max_y]
    have hsame : itemTurn (ctx.withData sections items) oldOrder oldState
        ⟨last, ctx.numberOfItemsInSection last⟩ = itemTurn ctx oldOrder oldState
          ⟨last, ctx.numberOfItemsInSection last⟩ :=
      item_turn_with_data oldOrder oldState hbefore _
    rw [← hsame]
    refine add_le_add_left (add_le_add_left ?_ _) _
    exact close_columns_max_y_mono oldOrder oldState hmore (hcolumns last hsections)
      (fun item hitem => (hnonneg.cell last hsections item hitem).2)
      (hnonneg.line_spacing_at hsections)

/-- The sample has two items in its second section. Two more are added to it, and a third section.
The columns are enumerated in the opposite order the second time. -/
theorem load_more_sample :
    (collectionViewContentSize sampleContext
        (prepareLayout sampleContext ascending State.fresh)).height ≤
      (collectionViewContentSize (sampleContext.withData 3 (fun sect => 3 + sect))
        (prepareLayout (sampleContext.withData 3 (fun sect => 3 + sect)) descending
          State.fresh)).height := by
  have hnonneg : (sampleContext.withData 3 (fun sect => 3 + sect)).NonNegative := by
    constructor <;> decide +kernel
  have hbefore : ∀ sect < 1, 3 + sect = sampleContext.numberOfItemsInSection sect := by decide
  exact (load_more sampleContext rfl (by decide) hbefore (by decide) hnonneg (by decide +kernel)
    ascending descending State.fresh State.fresh).2

end Component.WaterLayout

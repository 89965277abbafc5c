import Component.WaterLayout.Rows

/-!
# Line and interitem spacing

The delegate protocol offers one method for the line spacing and one for the interitem spacing of
a section, but `layoutAttributesForItemAtIndexPath:` assigns both answers to `lineSpacing` and takes
the interitem spacing from the property and the truncated even gap. `SpacingKept` states what the
two methods promise, `SpacingInputs` is the condition on the section's inputs under which the
promise is kept for every enumeration order, and `spacing_kept_iff` proves that it is exactly that.
-/

namespace Component.WaterLayout

open Component.Lib.Selection

namespace Context

/-- The line spacing a section asks for. -/
def askedLineSpacing (ctx : Context) (sect : Nat) : CGFloat :=
  ctx.ask Delegate.minimumLineSpacingForSectionAtIndex sect ctx.lineSpacing

/-- The interitem spacing a section asks for. -/
def askedInteritemSpacing (ctx : Context) (sect : Nat) : CGFloat :=
  ctx.ask Delegate.minimumInteritemSpacingForSectionAtIndex sect ctx.interitemSpacing

/-- The width between a section's left and right insets. -/
def availableWidth (ctx : Context) (sect : Nat) : CGFloat :=
  ctx.frameWidth - (ctx.insetAt sect).left - (ctx.insetAt sect).right

/-- Columns of the given width fit between the insets with the given gap between them. -/
def Fits (ctx : Context) (sect : Nat) (width gap : CGFloat) : Prop :=
  ctx.columnsCountAt sect * width + (ctx.columnsCountAt sect - 1) * gap ≤ ctx.availableWidth sect

/-- The gap with which columns of the given width fill the space between the insets. -/
def evenGap (ctx : Context) (sect : Nat) (width : CGFloat) : CGFloat :=
  (ctx.availableWidth sect - ctx.columnsCountAt sect * width) / (ctx.columnsCountAt sect - 1)

/-- A section has items in at least two columns. -/
def SpansColumns (ctx : Context) (sect : Nat) : Prop :=
  2 ≤ ctx.numberOfItemsInSection sect ∧ 2 ≤ ctx.columnsCountAt sect

end Context

/-- What the spacings of a section promise for a run of `prepareLayout`: consecutive items of a
column are the asked line spacing apart, adjacent columns are at least the asked interitem spacing
apart, and if the columns fit with that spacing then no item crosses the right inset. -/
structure SpacingKept (ctx : Context) (enumeration : Enumeration) (state : State) (sect : Nat)
    (width : CGFloat) : Prop where
  line : ∀ item < ctx.numberOfItemsInSection sect, ∀ previous,
    LastBefore ctx enumeration state sect item
      (chosenColumn ctx enumeration state ⟨sect, item⟩) previous →
    (turnFrame ctx enumeration state ⟨sect, item⟩).y =
      (turnFrame ctx enumeration state ⟨sect, previous⟩).maxY + ctx.askedLineSpacing sect
  interitem : ∀ left < ctx.numberOfItemsInSection sect,
    ∀ right < ctx.numberOfItemsInSection sect,
    chosenColumn ctx enumeration state ⟨sect, right⟩ =
      chosenColumn ctx enumeration state ⟨sect, left⟩ + 1 →
    (turnFrame ctx enumeration state ⟨sect, left⟩).maxX + ctx.askedInteritemSpacing sect ≤
      (turnFrame ctx enumeration state ⟨sect, right⟩).x
  right : ctx.Fits sect width (ctx.askedInteritemSpacing sect) →
    ∀ item < ctx.numberOfItemsInSection sect,
      (turnFrame ctx enumeration state ⟨sect, item⟩).maxX ≤
        ctx.frameWidth - (ctx.insetAt sect).right

/-- The inputs for which the spacings are kept. The delegate may answer the interitem method only
with the line spacing, unless there is a single row. The asked interitem spacing has to be met by
the property or the truncated even gap. And when the columns fit with the asked spacing, an item
and the columns at the property's spacing have to fit as well, and the even gap must not be a
negative fraction, which truncation would round up. -/
structure SpacingInputs (ctx : Context) (sect : Nat) (width : CGFloat) : Prop where
  line : ctx.columnsCountAt sect < ctx.numberOfItemsInSection sect →
    ∀ answer, ctx.delegate.bind Delegate.minimumInteritemSpacingForSectionAtIndex = some answer →
      answer sect = ctx.askedLineSpacing sect
  interitem : ctx.SpansColumns sect →
    ctx.askedInteritemSpacing sect ≤ ctx.interitemSpacing ∨
    ctx.askedInteritemSpacing sect ≤ Context.truncate (ctx.evenGap sect width)
  item : ctx.Fits sect width (ctx.askedInteritemSpacing sect) →
    0 < ctx.numberOfItemsInSection sect → width ≤ ctx.availableWidth sect
  property : ctx.Fits sect width (ctx.askedInteritemSpacing sect) → ctx.SpansColumns sect →
    ctx.Fits sect width ctx.interitemSpacing
  whole : ctx.Fits sect width (ctx.askedInteritemSpacing sect) → ctx.SpansColumns sect →
    0 ≤ ctx.evenGap sect width ∨ ∃ whole : Int, ctx.evenGap sect width = whole

/-! ## Truncation -/

namespace Context

/-- Truncating a number that is not negative rounds it down. -/
theorem truncate_of_nonneg {value : CGFloat} (h : 0 ≤ value) : truncate value = ⌊value⌋ :=
  tdiv_num_den_of_nonneg h

/-- Truncating a number that is not positive rounds it up. -/
theorem truncate_of_nonpos {value : CGFloat} (h : value ≤ 0) : truncate value = ⌈value⌉ := by
  have hneg := truncate_of_nonneg (neg_nonneg.mpr h)
  rw [truncate, Rat.num_neg_eq_neg_num, Rat.den_neg_eq_den, Int.neg_tdiv, Int.floor_neg] at hneg
  exact neg_injective hneg

/-- Truncation exceeds its argument exactly for negative fractions. -/
theorem truncate_le_iff (value : CGFloat) :
    (truncate value : CGFloat) ≤ value ↔ 0 ≤ value ∨ ∃ whole : Int, value = whole := by
  rcases le_total 0 value with h | h
  · rw [truncate_of_nonneg h]
    exact ⟨fun _ => .inl h, fun _ => Int.floor_le value⟩
  · rw [truncate_of_nonpos h]
    constructor
    · intro hle
      exact .inr ⟨⌈value⌉, le_antisymm (Int.le_ceil value) hle⟩
    · rintro (hzero | ⟨whole, rfl⟩)
      · rw [le_antisymm h hzero]
        simp
      · rw [Int.ceil_intCast]

/-- What the code takes as the line spacing, in terms of what was asked for. -/
theorem line_spacing_at_eq_iff (ctx : Context) (sect : Nat) :
    ctx.lineSpacingAt sect = ctx.askedLineSpacing sect ↔
      ∀ answer, ctx.delegate.bind Delegate.minimumInteritemSpacingForSectionAtIndex =
        some answer → answer sect = ctx.askedLineSpacing sect := by
  rw [lineSpacingAt]
  conv_lhs => rw [ask]
  cases hmethod : ctx.delegate.bind Delegate.minimumInteritemSpacingForSectionAtIndex with
  | none => simp [askedLineSpacing]
  | some answer => simp

/-- With several columns the code takes the larger of the truncated even gap and the property. -/
theorem interitem_spacing_at_eq {ctx : Context} {sect : Nat} (h : 2 ≤ ctx.columnsCountAt sect)
    (width : CGFloat) :
    ctx.interitemSpacingAt sect width =
      max (truncate (ctx.evenGap sect width) : CGFloat) ctx.interitemSpacing := by
  rw [interitemSpacingAt]
  exact if_pos (by omega)

/-- Several columns fit with a gap exactly when it is at most the even one. -/
theorem fits_iff {ctx : Context} {sect : Nat} (h : 2 ≤ ctx.columnsCountAt sect)
    (width gap : CGFloat) : ctx.Fits sect width gap ↔ gap ≤ ctx.evenGap sect width := by
  have hpositive : (0 : CGFloat) < ctx.columnsCountAt sect - 1 := by
    have : (2 : CGFloat) ≤ ctx.columnsCountAt sect := by exact_mod_cast h
    linarith
  rw [Fits, evenGap, le_div_iff₀ hpositive]
  constructor
  · intro hfits
    linarith
  · intro hgap
    linarith

/-- If a single item and all columns fit, then so does every column in between. -/
theorem column_x_le {ctx : Context} {sect : Nat} {width : CGFloat}
    (hitem : width ≤ ctx.availableWidth sect)
    (hfits : ctx.Fits sect width (ctx.interitemSpacingAt sect width)) {column : Nat}
    (hcolumn : column < (ctx.columnsCountAt sect).toNat) :
    ctx.columnX sect width column + width ≤ ctx.frameWidth - (ctx.insetAt sect).right := by
  have hlast : (column : CGFloat) ≤ ctx.columnsCountAt sect - 1 := by
    have : (column : Int) + 1 ≤ ctx.columnsCountAt sect := by omega
    have : (column : CGFloat) + 1 ≤ ctx.columnsCountAt sect := by exact_mod_cast this
    linarith
  have hfirst : (0 : CGFloat) ≤ column := Nat.cast_nonneg column
  simp only [Fits, availableWidth, columnX] at *
  generalize ctx.interitemSpacingAt sect width = gap at *
  rcases le_total 0 (width + gap) with h | h
  · have := mul_le_mul_of_nonneg_left hlast h
    linarith
  · have := mul_nonpos_of_nonpos_of_nonneg h hfirst
    linarith

end Context

/-! ## The first two items -/

/-- The enumeration that lists the given column first, if there is one of that number. -/
def preferring (column : Nat) : Enumeration where
  order _ columns :=
    if column < columns.length then column :: (List.range columns.length).erase column
    else List.range columns.length
  perm _ columns := by
    split
    next h => exact (List.perm_cons_erase (List.mem_range.mpr h)).symm
    next => exact List.Perm.refl _

/-- The preferred column is found if it is a shortest one and shorter than column zero. -/
theorem min_column_preferring {columns : Columns} {column : Nat} (hlt : column < columns.length)
    (hzero : columns.floatValue column < columns.floatValue 0)
    (hleast : ∀ other < columns.length, columns.floatValue column ≤ columns.floatValue other)
    (tick : Nat) : columns.minColumn ((preferring column).order tick columns) = column := by
  simp only [preferring, Columns.minColumn, if_pos hlt, scan_cons, if_pos hzero]
  refine scan_stable ?_
  intro other hother
  exact not_lt.mpr (hleast other (List.mem_range.mp (List.mem_of_mem_erase hother)))

section FirstItems

variable {ctx : Context} {sect : Nat} (hcolumns : 1 ≤ ctx.columnsCountAt sect)
include hcolumns

/-- The first item of a section is always dropped into column zero. -/
theorem chosen_column_first (enumeration : Enumeration) (state : State) :
    chosenColumn ctx enumeration state ⟨sect, 0⟩ = 0 := by
  have htop : ∀ column < (turnColumns ctx enumeration state ⟨sect, 0⟩).length,
      (turnColumns ctx enumeration state ⟨sect, 0⟩).floatValue column =
        sectionTop ctx enumeration state sect := by
    intro column hcolumn
    rw [length_turn_columns enumeration state hcolumns] at hcolumn
    exact float_value_turn_zero enumeration state hcolumn
  refine scan_stable ?_
  intro column hcolumn
  have hlt := List.mem_range.mp ((enumeration.perm _ _).subset hcolumn)
  show ¬ (turnColumns ctx enumeration state ⟨sect, 0⟩).floatValue column <
    (turnColumns ctx enumeration state ⟨sect, 0⟩).floatValue 0
  rw [htop column hlt, htop 0 (turn_columns_pos enumeration state hcolumns 0)]
  exact lt_irrefl _

/-- The second item of a section can be dropped into any other column. -/
theorem chosen_column_second (state : State) (column : Nat) (hpositive : 0 < column)
    (hcolumn : column < (ctx.columnsCountAt sect).toNat)
    (hheight : 0 < (ctx.cellSizeAt ⟨sect, 0⟩).height) :
    chosenColumn ctx (preferring column) state ⟨sect, 1⟩ = column := by
  have hzero := chosen_column_first hcolumns (preferring column) state
  -- column zero holds the first item, all others are untouched
  have hvalue : ∀ {other}, other < (ctx.columnsCountAt sect).toNat → 0 < other →
      (turnColumns ctx (preferring column) state ⟨sect, 1⟩).floatValue other =
        sectionTop ctx (preferring column) state sect := by
    intro other hother hne
    refine float_value_of_untouched _ _ hcolumns hother ?_
    rintro ⟨earlier, hearlier, hchosen⟩
    obtain rfl : earlier = 0 := by omega
    omega
  have hfirst : sectionTop ctx (preferring column) state sect <
      (turnColumns ctx (preferring column) state ⟨sect, 1⟩).floatValue 0 := by
    have hlast : LastBefore ctx (preferring column) state sect 1 0 0 :=
      ⟨by omega, hzero, fun between _ _ => by omega⟩
    have huntouched : ¬ Holds ctx (preferring column) state sect 0
        (chosenColumn ctx (preferring column) state ⟨sect, 0⟩) := by
      rintro ⟨earlier, hearlier, -⟩
      omega
    rw [float_value_of_last _ _ hcolumns hlast, CGRect.maxY,
      turn_frame_y_of_untouched _ _ hcolumns (by omega) huntouched]
    exact lt_add_of_pos_right _ hheight
  have hlength := length_turn_columns (preferring column) state hcolumns 1
  refine min_column_preferring ?_ ?_ ?_ _
  · exact hlength.symm ▸ hcolumn
  · exact (hvalue hcolumn hpositive).trans_lt hfirst
  · intro other hother
    refine (hvalue hcolumn hpositive).trans_le ?_
    rcases Nat.eq_zero_or_pos other with rfl | hne
    · exact hfirst.le
    · exact (hvalue (hlength ▸ hother) hne).ge

end FirstItems

/-! ## The exact condition -/

section Condition

variable {ctx : Context} {sect : Nat} {width : CGFloat}
  (hcolumns : 1 ≤ ctx.columnsCountAt sect)
  (hheight : ∀ item < ctx.numberOfItemsInSection sect,
    0 < (ctx.cellSizeAt ⟨sect, item⟩).height)
  (hwidth : ∀ item < ctx.numberOfItemsInSection sect,
    (ctx.cellSizeAt ⟨sect, item⟩).width = width)

include hwidth in
/-- An item of the common width spans its column. -/
theorem turn_frame_x (enumeration : Enumeration) (state : State) {item : Nat}
    (hitem : item < ctx.numberOfItemsInSection sect) :
    (turnFrame ctx enumeration state ⟨sect, item⟩).x =
        ctx.columnX sect width (chosenColumn ctx enumeration state ⟨sect, item⟩) ∧
      (turnFrame ctx enumeration state ⟨sect, item⟩).maxX =
        ctx.columnX sect width (chosenColumn ctx enumeration state ⟨sect, item⟩) + width := by
  rw [turn_frame_eq, CGRect.maxX]
  dsimp only
  rw [hwidth item hitem]
  exact ⟨rfl, rfl⟩

include hcolumns hheight hwidth

/-- Suitable inputs keep the spacing. -/
theorem SpacingInputs.kept (h : SpacingInputs ctx sect width) (enumeration : Enumeration)
    (state : State) : SpacingKept ctx enumeration state sect width where
  line item hitem previous hlast := by
    have hrow := (index_test_iff_holds enumeration state hcolumns hheight hitem).mpr
      ⟨previous, hlast.1, hlast.2.1⟩
    have hspacing := (Context.line_spacing_at_eq_iff ctx sect).mpr (h.line (by omega))
    rw [← hspacing]
    exact turn_frame_y_of_last enumeration state hcolumns hrow hlast
  interitem left hleft right hright hadjacent := by
    have hlt := chosen_column_lt enumeration state hcolumns right
    have hspans : ctx.SpansColumns sect := by
      refine ⟨?_, by omega⟩
      by_contra hsingle
      obtain rfl : left = right := by omega
      omega
    have hgap : ctx.askedInteritemSpacing sect ≤ ctx.interitemSpacingAt sect width := by
      rw [Context.interitem_spacing_at_eq hspans.2, le_max_iff]
      exact (h.interitem hspans).symm
    rw [(turn_frame_x hwidth enumeration state hleft).2,
      (turn_frame_x hwidth enumeration state hright).1, hadjacent, Context.columnX,
      Context.columnX, Nat.cast_add_one]
    linarith
  right hfits item hitem := by
    rw [(turn_frame_x hwidth enumeration state hitem).2]
    have hlt := chosen_column_lt enumeration state hcolumns item
    have hone := h.item hfits (by omega)
    -- a section with a single item uses column zero only, and one column has no gaps
    by_cases hspans : ctx.SpansColumns sect
    · refine Context.column_x_le hone ?_ hlt
      rw [Context.fits_iff hspans.2, Context.interitem_spacing_at_eq hspans.2, max_le_iff,
        Context.truncate_le_iff]
      exact ⟨h.whole hfits hspans, (Context.fits_iff hspans.2 _ _).mp (h.property hfits hspans)⟩
    · have hzero : chosenColumn ctx enumeration state ⟨sect, item⟩ = 0 := by
        by_cases hsingle : ctx.columnsCountAt sect = 1
        · omega
        · have hfirst : item = 0 := by
            unfold Context.SpansColumns at hspans
            omega
          rw [hfirst]
          exact chosen_column_first hcolumns enumeration state
      rw [hzero, Context.columnX, Nat.cast_zero, mul_zero, add_zero]
      unfold Context.availableWidth at hone
      linarith

/-- Only suitable inputs keep the spacing for every order and every state. -/
theorem SpacingInputs.of_kept
    (h : ∀ enumeration state, SpacingKept ctx enumeration state sect width) :
    SpacingInputs ctx sect width := by
  have hgap : ctx.Fits sect width (ctx.askedInteritemSpacing sect) → ctx.SpansColumns sect →
      (Context.truncate (ctx.evenGap sect width) : CGFloat) ≤ ctx.evenGap sect width ∧
        ctx.interitemSpacing ≤ ctx.evenGap sect width := by
    intro hfits hspans
    -- the second item can reach the last column
    obtain ⟨hitems, hcount⟩ := hspans
    have hsecond := chosen_column_second hcolumns State.fresh
      ((ctx.columnsCountAt sect).toNat - 1) (by omega) (by omega) (hheight 0 (by omega))
    have hright := (h (preferring ((ctx.columnsCountAt sect).toNat - 1)) State.fresh).right hfits 1
      hitems
    rw [(turn_frame_x hwidth _ _ hitems).2, hsecond] at hright
    have hcast : (((ctx.columnsCountAt sect).toNat - 1 : Nat) : CGFloat) =
        ctx.columnsCountAt sect - 1 := by
      have : (((ctx.columnsCountAt sect).toNat - 1 : Nat) : Int) = ctx.columnsCountAt sect - 1 := by
        omega
      exact_mod_cast congrArg (Int.cast : Int → CGFloat) this
    rw [← max_le_iff, ← Context.interitem_spacing_at_eq hcount, ← Context.fits_iff hcount,
      Context.Fits, Context.availableWidth]
    rw [Context.columnX, hcast] at hright
    linarith
  refine ⟨?_, ?_, ?_, ?_, ?_⟩
  · intro hrows
    rw [← Context.line_spacing_at_eq_iff]
    -- the first item of the second row has a predecessor in its column
    have hitem : (ctx.columnsCountAt sect).toNat < ctx.numberOfItemsInSection sect := by omega
    have hrow : ctx.columnsCountAt sect ≤ ((ctx.columnsCountAt sect).toNat : Nat) := by omega
    obtain ⟨previous, hlast⟩ :=
      ((index_test_iff_holds ascending State.fresh hcolumns hheight hitem).mp hrow).exists_last
    have hcode := turn_frame_y_of_last ascending State.fresh hcolumns hrow hlast
    have hasked := (h ascending State.fresh).line _ hitem previous hlast
    linarith
  · rintro ⟨hitems, hcount⟩
    -- the first two items can be dropped into the first two columns
    have hfirst := chosen_column_first hcolumns (preferring 1) State.fresh
    have hsecond := chosen_column_second hcolumns State.fresh 1 (by omega) (by omega)
      (hheight 0 (by omega))
    have hapart := (h (preferring 1) State.fresh).interitem 0 (by omega) 1 hitems
      (by rw [hfirst, hsecond])
    rw [(turn_frame_x hwidth _ _ hitems).1, (turn_frame_x hwidth _ _ (by omega)).2, hfirst,
      hsecond, Context.columnX, Context.columnX, Nat.cast_one, Nat.cast_zero] at hapart
    have hle : ctx.askedInteritemSpacing sect ≤ ctx.interitemSpacingAt sect width := by linarith
    rw [Context.interitem_spacing_at_eq hcount, le_max_iff] at hle
    exact hle.symm
  · intro hfits hitems
    have hright := (h ascending State.fresh).right hfits 0 hitems
    rw [(turn_frame_x hwidth _ _ hitems).2, chosen_column_first hcolumns, Context.columnX,
      Nat.cast_zero] at hright
    unfold Context.availableWidth
    linarith
  · intro hfits hspans
    exact (Context.fits_iff hspans.2 _ _).mpr (hgap hfits hspans).2
  · intro hfits hspans
    exact (Context.truncate_le_iff _).mp (hgap hfits hspans).1

end Condition

/-- For items of one width and positive heights, the asked spacings are kept in every run of
`prepareLayout` exactly for the inputs of `SpacingInputs`. -/
theorem spacing_kept_iff (ctx : Context) (sect : Nat) (width : CGFloat)
    (hcolumns : 1 ≤ ctx.columnsCountAt sect)
    (hheight : ∀ item < ctx.numberOfItemsInSection sect,
      0 < (ctx.cellSizeAt ⟨sect, item⟩).height)
    (hwidth : ∀ item < ctx.numberOfItemsInSection sect,
      (ctx.cellSizeAt ⟨sect, item⟩).width = width) :
    (∀ enumeration state, SpacingKept ctx enumeration state sect width) ↔
      SpacingInputs ctx sect width :=
  ⟨SpacingInputs.of_kept hcolumns hheight hwidth,
    fun h => SpacingInputs.kept hcolumns hheight hwidth h⟩

/-- Without the interitem method, and with room for two columns, the spacings are kept. -/
theorem spacing_kept_iff_sample :
    1 ≤ sampleContext.columnsCountAt 0 ∧
    (∀ item < sampleContext.numberOfItemsInSection 0,
      0 < (sampleContext.cellSizeAt ⟨0, item⟩).height) ∧
    (∀ item < sampleContext.numberOfItemsInSection 0,
      (sampleContext.cellSizeAt ⟨0, item⟩).width = 40) ∧
    ∀ enumeration state, SpacingKept sampleContext enumeration state 0 40 := by
  have hcolumns : 1 ≤ sampleContext.columnsCountAt 0 := by decide +kernel
  have hheight : ∀ item < sampleContext.numberOfItemsInSection 0,
      0 < (sampleContext.cellSizeAt ⟨0, item⟩).height := by decide +kernel
  have hwidth : ∀ item < sampleContext.numberOfItemsInSection 0,
      (sampleContext.cellSizeAt ⟨0, item⟩).width = 40 := by decide +kernel
  refine ⟨hcolumns, hheight, hwidth, (spacing_kept_iff sampleContext 0 40 hcolumns hheight
    hwidth).mpr ⟨?_, ?_, ?_, ?_, ?_⟩⟩
  · intro _ answer hanswer
    exact absurd hanswer (by simp [sampleContext])
  · exact fun _ => .inl le_rfl
  · exact fun _ _ => by decide +kernel
  · exact fun hfits _ => hfits
  · exact fun _ _ => .inl (by decide +kernel)

/-- Two columns that fill the width exactly, three items, and a delegate that answers only the
interitem method. -/
def misroutedContext : Context where
  lineSpacing := 5
  interitemSpacing := 0
  columnsCount := 2
  itemSize := ⟨10, 10⟩
  headerReferenceSize := CGSize.zero
  footerReferenceSize := CGSize.zero
  sectionInset := ⟨0, 0, 0, 0⟩
  frameWidth := 20
  numberOfSections := 1
  numberOfItemsInSection _ := 3
  delegate := some { minimumInteritemSpacingForSectionAtIndex := some fun _ => 7 }

/-- The third item of `misroutedContext` is 7 below the first although the line spacing is 5, and
the second column touches the first although the delegate asks for a gap of 7. -/
theorem misrouted_context_spacing :
    LastBefore misroutedContext ascending State.fresh 0 2
      (chosenColumn misroutedContext ascending State.fresh ⟨0, 2⟩) 0 ∧
    misroutedContext.askedLineSpacing 0 = 5 ∧
    (turnFrame misroutedContext ascending State.fresh ⟨0, 2⟩).y =
      (turnFrame misroutedContext ascending State.fresh ⟨0, 0⟩).maxY + 7 ∧
    chosenColumn misroutedContext ascending State.fresh ⟨0, 1⟩ =
      chosenColumn misroutedContext ascending State.fresh ⟨0, 0⟩ + 1 ∧
    misroutedContext.askedInteritemSpacing 0 = 7 ∧
    (turnFrame misroutedContext ascending State.fresh ⟨0, 0⟩).maxX =
      (turnFrame misroutedContext ascending State.fresh ⟨0, 1⟩).x ∧
    ¬ SpacingKept misroutedContext ascending State.fresh 0 10 := by
  have hlast : LastBefore misroutedContext ascending State.fresh 0 2
      (chosenColumn misroutedContext ascending State.fresh ⟨0, 2⟩) 0 := by
    refine ⟨by decide, by decide +kernel, ?_⟩
    intro between hlt hlt'
    obtain rfl : between = 1 := by omega
    decide +kernel
  refine ⟨hlast, by decide +kernel, by decide +kernel, by decide +kernel, by decide +kernel,
    by decide +kernel, ?_⟩
  intro hkept
  have hline := hkept.line 2 (by decide) 0 hlast
  revert hline
  decide +kernel

end Component.WaterLayout

import Component.FlexibleLayout.Placement
import Component.Lib.Run

/-!
# Dependence on earlier layouts and queries

A collection view prepares a layout again and again, for changing data, and asks it for single items
in between. `prepareLayout` forgets everything but `showToLargeY`, which it leaves as it was when
there is nothing to place, and `layoutAttributesForItemAtIndexPath:` places the item it is asked for
anew, wherever the layout stands. `depends_on_current_data` says what of a fresh layout survives any
history: the recorded attributes always, the content size exactly when `ReadyFor` holds, and both
of them and the answers as long as every query finds the layout where it placed the item
(`Resumes`).
-/

namespace Component.FlexibleLayout

open Component.Lib.LineBreaking
open Component.Lib.Run

/-- What a collection view does with its layout. The data may be different every time. -/
inductive Event where
  | prepare (ctx : Context)
  | query (ctx : Context) (path : IndexPath)

/-- The state after an item query. -/
def ask (ctx : Context) (state : State) (path : IndexPath) : State :=
  (layoutAttributesForItem ctx path state).2

/-- The state after an event. -/
def step (state : State) : Event → State
  | .prepare ctx => prepareLayout ctx state
  | .query ctx path => ask ctx state path

/-- There is an item to place, with a delegate that knows its size, or no height is left over. -/
def ReadyFor (ctx : Context) (state : State) : Prop :=
  (0 < ctx.numberOfItems ∧ (ctx.delegate.bind Delegate.sizeForItemAtIndexPath).isSome) ∨
    state.showToLargeY = 0

instance (ctx : Context) (state : State) : Decidable (ReadyFor ctx state) :=
  inferInstanceAs (Decidable (_ ∨ _))

/-- The layout stands where it placed the item, and the content ends at the bottom of that item. -/
def Resumes (ctx : Context) (state : State) (path : IndexPath) : Prop :=
  ∀ size, ctx.delegate.bind Delegate.sizeForItemAtIndexPath = some size →
    path.sect = 0 ∧ Stands ctx size state path.item ∧
      state.showToLargeY = bottomOf ctx size path.item

variable {ctx : Context}

/-! ## What `prepareLayout` leaves -/

/-- At least one line is allowed. -/
theorem max_line_num_pos (ctx : Context) : 0 < ctx.maxLineNum := by
  unfold Context.maxLineNum
  split
  · assumption
  · decide

/-- Without a size method the loop places nothing. -/
theorem place_items_of_no_size {state : State}
    (hsize : state.delegate.bind Delegate.sizeForItemAtIndexPath = none)
    (hline : state.showLineIndex = 0) (indices : List Nat) :
    placeItems ctx indices state = state := by
  induction indices with
  | nil => rfl
  | cons index indices ih =>
      -- nothing is placed, so the line stays the first one and is below the limit
      have hbelow : ¬ ctx.maxLineNum ≤ (state.showLineIndex : Int) := by
        have := max_line_num_pos ctx
        omega
      rw [placeItems, layoutAttributesForItem, hsize]
      simp only [if_neg hbelow, Option.toList_none, List.append_nil]
      exact ih

/-- With nothing to place, the height is left over and no attributes are recorded. -/
theorem prepare_layout_of_nothing (state : State)
    (h : ctx.numberOfItems = 0 ∨ ctx.delegate.bind Delegate.sizeForItemAtIndexPath = none) :
    (prepareLayout ctx state).attrsArray = [] ∧
      (prepareLayout ctx state).showToLargeY = state.showToLargeY ∧
      (prepareLayout ctx state).delegate = ctx.delegate := by
  rcases Nat.eq_zero_or_pos ctx.numberOfItems with hitems | hitems
  · rw [prepare_layout_of_no_items state hitems]
    exact ⟨rfl, rfl, rfl⟩
  · have hsize := h.resolve_left (by omega)
    have hplaced : placeItems ctx (List.range ctx.numberOfItems) (reset ctx state) =
        reset ctx state :=
      place_items_of_no_size hsize rfl _
    rw [prepareLayout, if_neg (by omega), hplaced, show_height_attrs, show_height_large_y,
      show_height_delegate]
    exact ⟨rfl, rfl, rfl⟩

/-- With something to place, the attributes and the height come from the data alone. -/
theorem prepare_layout_of_items {size : IndexPath → CGSize}
    (hsize : ctx.delegate.bind Delegate.sizeForItemAtIndexPath = some size)
    (hitems : 0 < ctx.numberOfItems) :
    ∃ kept last, ∀ state, (prepareLayout ctx state).attrsArray = framesOf ctx size kept ∧
      (prepareLayout ctx state).showToLargeY = bottomOf ctx size last ∧
      (prepareLayout ctx state).delegate = ctx.delegate := by
  rcases lt_or_ge (lineOf ctx size (ctx.numberOfItems - 1) : Int) ctx.maxLineNum with h | h
  · refine ⟨ctx.numberOfItems, ctx.numberOfItems - 1, ?_⟩
    intro state
    rw [prepare_layout_of_lt state hsize hitems h, show_height_attrs, show_height_large_y,
      show_height_delegate, after_delegate]
    exact ⟨after_attrs rfl _, after_large_y hitems _, rfl⟩
  · -- the first item beyond the line limit
    have houtside : ∃ item, ctx.maxLineNum ≤ (lineOf ctx size item : Int) := ⟨_, h⟩
    refine ⟨Nat.find houtside, Nat.find houtside, ?_⟩
    intro state
    have hfirst : Nat.find houtside < ctx.numberOfItems := by
      have := Nat.find_min' houtside h
      omega
    rw [prepare_layout_of_first state hsize hfirst
      (fun item hitem => not_le.mp (Nat.find_min houtside hitem)) (Nat.find_spec houtside),
      show_height_attrs, show_height_large_y, show_height_delegate]
    exact ⟨rfl, rfl, rfl⟩

/-- There is something to place, or there is not. -/
theorem places_or_nothing (ctx : Context) :
    (0 < ctx.numberOfItems ∧
      ∃ size, ctx.delegate.bind Delegate.sizeForItemAtIndexPath = some size) ∨
    (ctx.numberOfItems = 0 ∨ ctx.delegate.bind Delegate.sizeForItemAtIndexPath = none) := by
  rcases Nat.eq_zero_or_pos ctx.numberOfItems with hitems | hitems
  · exact .inr (.inl hitems)
  · cases hsize : ctx.delegate.bind Delegate.sizeForItemAtIndexPath with
    | none => exact .inr (.inr rfl)
    | some size => exact .inl ⟨hitems, size, rfl⟩

/-- The attributes of a prepared layout come from its data, and so does its content size if there is
something to place or no height left over. -/
theorem prepare_layout_forgets (ctx : Context) (state : State) :
    (prepareLayout ctx state).attrsArray = (prepareLayout ctx State.fresh).attrsArray ∧
      (prepareLayout ctx state).delegate = ctx.delegate ∧
      ((prepareLayout ctx state).showToLargeY = (prepareLayout ctx State.fresh).showToLargeY ↔
        ReadyFor ctx state) := by
  rcases places_or_nothing ctx with ⟨hitems, size, hsize⟩ | hnothing
  · obtain ⟨kept, last, hshape⟩ := prepare_layout_of_items hsize hitems
    obtain ⟨hattrs, hheight, hdelegate⟩ := hshape state
    obtain ⟨hattrs', hheight', _⟩ := hshape State.fresh
    exact ⟨hattrs.trans hattrs'.symm, hdelegate,
      iff_of_true (hheight.trans hheight'.symm) (.inl ⟨hitems, by rw [hsize]; rfl⟩)⟩
  · -- `showToLargeY` is only written when an item is placed
    obtain ⟨hattrs, hheight, hdelegate⟩ := prepare_layout_of_nothing state hnothing
    obtain ⟨hattrs', hheight', _⟩ := prepare_layout_of_nothing State.fresh hnothing
    refine ⟨hattrs.trans hattrs'.symm, hdelegate, ?_⟩
    rw [hheight, hheight', ReadyFor, or_iff_right]
    · rfl
    · rintro ⟨hitems, hsome⟩
      rcases hnothing with hzero | hnone
      · omega
      · rw [hnone] at hsome
        exact absurd hsome (by decide)

/-! ## What a query leaves -/

/-- A query that resumes the layout answers with the item's frame and changes neither the
attributes nor the content height. -/
theorem ask_of_resumes {state : State} (hdelegate : state.delegate = ctx.delegate)
    {path : IndexPath} (h : Resumes ctx state path) :
    (ask ctx state path).attrsArray = state.attrsArray ∧
      (ask ctx state path).showToLargeY = state.showToLargeY ∧
      (ask ctx state path).delegate = state.delegate ∧
      ∀ size, ctx.delegate.bind Delegate.sizeForItemAtIndexPath = some size →
        (layoutAttributesForItem ctx path state).1 =
          some ⟨⟨.cell, path⟩, frameOf ctx size path.item⟩ := by
  cases hsize : ctx.delegate.bind Delegate.sizeForItemAtIndexPath with
  | none =>
      have hquery : layoutAttributesForItem ctx path state = (none, state) := by
        rw [layoutAttributesForItem, hdelegate, hsize]
      rw [ask, hquery]
      exact ⟨rfl, rfl, rfl, fun _ hsome => absurd hsome (by simp)⟩
  | some size =>
      obtain ⟨sect, item⟩ := path
      obtain ⟨hsect, hstands, hbottom⟩ := h size hsize
      obtain rfl : sect = 0 := hsect
      have hquery := layout_item_of_stands (hdelegate ▸ hsize) hstands
      rw [ask, hquery]
      refine ⟨rfl, hbottom.symm, rfl, ?_⟩
      intro other hother
      cases hother
      rfl

/-- The state shows what a fresh layout prepared for the data shows. -/
structure ShowsFresh (ctx : Context) (state : State) : Prop where
  attrs : state.attrsArray = (prepareLayout ctx State.fresh).attrsArray
  height : state.showToLargeY = (prepareLayout ctx State.fresh).showToLargeY
  delegate : state.delegate = ctx.delegate

/-- Asking for the item at which the layout has stopped keeps what a new layout shows. -/
theorem ShowsFresh.ask {state : State} (h : ShowsFresh ctx state) {path : IndexPath}
    (hresumes : Resumes ctx state path) : ShowsFresh ctx (ask ctx state path) := by
  obtain ⟨hattrs, hheight, hdelegate, _⟩ := ask_of_resumes h.delegate hresumes
  exact ⟨hattrs.trans h.attrs, hheight.trans h.height, hdelegate.trans h.delegate⟩

/-- A query for a recorded item that resumes the layout answers with what was recorded. -/
theorem ShowsFresh.answer {state : State} (h : ShowsFresh ctx state) {attrs : Attributes}
    (hmem : attrs ∈ (prepareLayout ctx State.fresh).attrsArray)
    (hresumes : Resumes ctx state attrs.indexPath) :
    (layoutAttributesForItem ctx attrs.indexPath state).1 = some attrs := by
  rcases places_or_nothing ctx with ⟨hitems, size, hsize⟩ | hnothing
  · obtain ⟨kept, last, hshape⟩ := prepare_layout_of_items hsize hitems
    rw [(hshape State.fresh).1] at hmem
    obtain ⟨item, _, rfl⟩ := List.mem_map.mp hmem
    exact (ask_of_resumes h.delegate hresumes).2.2.2 size hsize
  · rw [(prepare_layout_of_nothing State.fresh hnothing).1] at hmem
    exact absurd hmem List.not_mem_nil

/-- After any history, a layout prepared for some data has the attributes of a fresh layout, and it
has its content size exactly if there was something to place or no height left over. Then further
queries answer with the recorded frames and change neither, as long as each of them finds the layout
where it placed the item, with the content ending there. -/
theorem depends_on_current_data (history : List Event) (ctx : Context) :
    let before := run step State.fresh history
    let prepared := prepareLayout ctx before
    let fresh := prepareLayout ctx State.fresh
    prepared.attrsArray = fresh.attrsArray ∧
    (collectionViewContentSize ctx prepared = collectionViewContentSize ctx fresh ↔
      ReadyFor ctx before) ∧
    (ReadyFor ctx before → ∀ queries, Admissible (ask ctx) (Resumes ctx) prepared queries →
      let reached := run (ask ctx) prepared queries
      reached.attrsArray = fresh.attrsArray ∧
      collectionViewContentSize ctx reached = collectionViewContentSize ctx fresh ∧
      ∀ attrs ∈ fresh.attrsArray, Resumes ctx reached attrs.indexPath →
        (layoutAttributesForItem ctx attrs.indexPath reached).1 = some attrs) := by
  intro before prepared fresh
  obtain ⟨hattrs, hdelegate, hheight⟩ := prepare_layout_forgets ctx before
  have hcontent : ∀ state, collectionViewContentSize ctx state =
      collectionViewContentSize ctx fresh ↔ state.showToLargeY = fresh.showToLargeY := by
    intro state
    simp [collectionViewContentSize]
  refine ⟨hattrs, (hcontent prepared).trans hheight, ?_⟩
  intro hready queries hqueries reached
  have hprepared : ShowsFresh ctx prepared := ⟨hattrs, hheight.mpr hready, hdelegate⟩
  have hreached : ShowsFresh ctx reached :=
    run_invariant (fun _ _ hshows hresumes => hshows.ask hresumes) hprepared hqueries
  exact ⟨hreached.attrs, (hcontent reached).mpr hreached.height,
    fun attrs hmem hresumes => hreached.answer hmem hresumes⟩

/-- Two items of one size on one line. -/
def rowContext : Context where
  miniItemSpace := 5
  miniLineSpace := 2
  storedMaxLineNum := 0
  collectionWidth := 100
  numberOfItems := 2
  delegate := some { sizeForItemAtIndexPath := some fun _ => ⟨40, 10⟩ }
  items_le := two_le_ns_integer_max

/-- The same collection view without items. -/
def emptyContext : Context := { rowContext with numberOfItems := 0, items_le := by decide }

/-- A layout of one line can be asked for its items in order. -/
theorem depends_on_current_data_row :
    collectionViewContentSize rowContext (run (ask rowContext)
        (prepareLayout rowContext (run step State.fresh [.prepare emptyContext]))
        [⟨0, 0⟩, ⟨0, 1⟩]) =
      collectionViewContentSize rowContext (prepareLayout rowContext State.fresh) := by
  have hready : ReadyFor rowContext (run step State.fresh [.prepare emptyContext]) := by
    decide +kernel
  refine ((depends_on_current_data [.prepare emptyContext] rowContext).2.2 hready
    [⟨0, 0⟩, ⟨0, 1⟩] ⟨?_, ?_, trivial⟩).2.1
  · intro size hsize
    cases hsize
    have hstands : (prepareLayout rowContext
      (run step State.fresh [.prepare emptyContext])).lastShowToY = 0 := by decide +kernel
    exact ⟨rfl, hstands, by decide +kernel⟩
  · intro size hsize
    cases hsize
    exact ⟨rfl, ⟨by decide +kernel, by decide +kernel⟩, by decide +kernel⟩

/-- A layout prepared without items keeps the content height of the layout before it, and a query
for the second item moves that item to a new line and the content height with it. -/
theorem depends_on_history :
    collectionViewContentSize emptyContext
      (prepareLayout emptyContext (run step State.fresh [.prepare rowContext])) = ⟨100, 10⟩ ∧
    collectionViewContentSize emptyContext (prepareLayout emptyContext State.fresh) = ⟨100, 0⟩ ∧
    (prepareLayout rowContext State.fresh).attrsArray.map Attributes.frame =
      [⟨0, 0, 40, 10⟩, ⟨45, 0, 40, 10⟩] ∧
    (layoutAttributesForItem rowContext ⟨0, 1⟩ (prepareLayout rowContext State.fresh)).1 =
      some ⟨⟨.cell, ⟨0, 1⟩⟩, ⟨0, 12, 40, 10⟩⟩ ∧
    collectionViewContentSize rowContext (prepareLayout rowContext State.fresh) = ⟨100, 10⟩ ∧
    collectionViewContentSize rowContext (ask rowContext (prepareLayout rowContext State.fresh)
      ⟨0, 1⟩) = ⟨100, 22⟩ := by
  decide +kernel

end Component.FlexibleLayout

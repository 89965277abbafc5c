import Component.FastReadLayout.Model
import Component.Lib.Run

/-!
# Pages of the fast-read layout

Two properties of whole sequences of calls. Every pass should lay out the page at the content offset
as the front item and the next page as the back item. The toggle that decides about it comes back to
where it was after two items, but on the last page a pass has one item only, so `roles_kept_iff`
holds as long as no pass but the last one rests there.

The offset at which a scroll ends should be a page. It is computed from the remembered target and
not from the proposed offset, so it stays on pages, but it follows a falling number of items by one
page at each call only (`snapped_iff`).
-/

namespace Component.FastReadLayout

open Component.Lib.Run

/-- The largest content offset, at which the last page is shown. -/
def lastOffset (ctx : Context) (scene : Scene) : CGFloat :=
  (collectionViewContentSize ctx scene).width - ctx.itemSize.width

/-- The last page lies one item's width for each item before it to the right. -/
theorem last_offset_eq (ctx : Context) (scene : Scene) :
    lastOffset ctx scene = (scene.numberOfItems - 1) * ctx.itemSize.width := by
  rw [lastOffset, collectionViewContentSize]
  ring

/-- The content offset is in the scrollable range. -/
def InRange (ctx : Context) (scene : Scene) : Prop :=
  0 ≤ scene.contentOffset.x ∧ scene.contentOffset.x ≤ lastOffset ctx scene

instance (ctx : Context) (scene : Scene) : Decidable (InRange ctx scene) :=
  inferInstanceAs (Decidable (_ ∧ _))

/-! ## Front and back -/

/-- The page at the content offset. -/
def page (ctx : Context) (scene : Scene) : Int := ⌊scene.contentOffset.x / ctx.itemSize.width⌋

/-- Which items a pass should lay out, and by which branch. -/
def expectedRoles (ctx : Context) (scene : Scene) : List (Int × Role) :=
  (page ctx scene, .front) ::
    if page ctx scene + 1 < scene.numberOfItems then [(page ctx scene + 1, .back)] else []

/-- The pass lays out the page at the content offset as the front item and the next page, if there
is one, as the back item. -/
def RolesKept (ctx : Context) (scene : Scene) (state : State) : Prop :=
  (layoutAttributesForElements ctx scene state).1.map (fun attrs => (attrs.item, attrs.role)) =
    expectedRoles ctx scene

instance (ctx : Context) (scene : Scene) (state : State) : Decidable (RolesKept ctx scene state) :=
  inferInstanceAs (Decidable (_ = _))

/-- One pass. -/
def pass (ctx : Context) (count : Nat) (state : State) (contentOffset : CGPoint) : State :=
  (layoutAttributesForElements ctx ⟨count, contentOffset⟩ state).2

/-- The branch that the toggle stands for, taken for an item of the collection view. -/
theorem layout_item_role (ctx : Context) (scene : Scene) {item : Int}
    (hitem : item < scene.numberOfItems) (state : State) :
    let laid := layoutAttributesForItem ctx scene item state
    (laid.1.item, laid.1.role) = (item, if state.isBackItem then .back else .front) ∧
      laid.2.isBackItem = !state.isBackItem := by
  intro laid
  cases hback : state.isBackItem with
  | false =>
      have hbranch : (!state.isBackItem && decide (item ≠ scene.numberOfItems)) = true := by
        simp [hback, hitem.ne]
      simp only [laid, layoutAttributesForItem, if_pos hbranch]
      exact ⟨rfl, rfl⟩
  | true =>
      have hbranch : ¬ (!state.isBackItem && decide (item ≠ scene.numberOfItems)) = true := by
        simp [hback]
      simp only [laid, layoutAttributesForItem, if_neg hbranch]
      exact ⟨rfl, rfl⟩

/-- There is a next page unless the last one is at rest. -/
theorem next_page_iff (ctx : Context) (scene : Scene) :
    page ctx scene + 1 < scene.numberOfItems ↔ scene.contentOffset.x < lastOffset ctx scene := by
  have hcast : page ctx scene < scene.numberOfItems - 1 ↔
      scene.contentOffset.x / ctx.itemSize.width < ((scene.numberOfItems - 1 : Int) : CGFloat) :=
    Int.floor_lt
  rw [← lt_sub_iff_add_lt, hcast, div_lt_iff₀ ctx.width_pos, last_offset_eq]
  push_cast
  rfl

section Page

variable {ctx : Context} {scene : Scene} (hrange : InRange ctx scene)
include hrange

/-- The index that the source computes is the page. -/
theorem cur_index_eq : curIndex ctx scene = page ctx scene :=
  tdiv_num_den_of_nonneg (div_nonneg hrange.1 ctx.width_pos.le)

/-- The page is that of an item. -/
theorem page_lt : page ctx scene < scene.numberOfItems := by
  have hle : scene.contentOffset.x / ctx.itemSize.width ≤ scene.numberOfItems - 1 := by
    rw [div_le_iff₀ ctx.width_pos, ← last_offset_eq]
    exact hrange.2
  have hfloor : (page ctx scene : CGFloat) ≤ scene.numberOfItems - 1 := (Int.floor_le _).trans hle
  have : ((page ctx scene + 1 : Int) : CGFloat) ≤ (scene.numberOfItems : Int) := by
    push_cast
    linarith
  exact Int.add_one_le_iff.mp (Int.cast_le.mp this)

/-- A pass with the toggle where it should be lays the items out as expected, and turns the toggle
if it rests on the last page. -/
theorem roles_kept_of_front {state : State} (hfront : state.isBackItem = false) :
    RolesKept ctx scene state ∧
      ((layoutAttributesForElements ctx scene state).2.isBackItem = false ↔
        scene.contentOffset.x < lastOffset ctx scene) := by
  obtain ⟨hrole, htoggle⟩ := layout_item_role ctx scene (page_lt hrange) state
  generalize hfirst : layoutAttributesForItem ctx scene (page ctx scene) state = first
    at hrole htoggle
  rw [← next_page_iff]
  simp only [RolesKept, expectedRoles, layoutAttributesForElements, showNum, layoutItems,
    cur_index_eq hrange, if_pos (page_lt hrange), hfirst]
  -- two items turn the toggle there and back, a single one leaves it turned
  by_cases hnext : page ctx scene + 1 < scene.numberOfItems
  · obtain ⟨hrole', htoggle'⟩ := layout_item_role ctx scene hnext first.2
    simp only [if_pos hnext, List.map_cons, List.map_nil, hrole, hrole', htoggle, htoggle', hfront]
    simp [hnext]
  · simp only [if_neg hnext, List.map_cons, List.map_nil, hrole, htoggle, hfront]
    simp [hnext]

/-- With the toggle turned, the page at the content offset is laid out as the back item. -/
theorem not_roles_kept_of_back {state : State} (hback : state.isBackItem = true) :
    ¬ RolesKept ctx scene state := by
  obtain ⟨hrole, _⟩ := layout_item_role ctx scene (page_lt hrange) state
  intro hkept
  simp only [RolesKept, expectedRoles, layoutAttributesForElements, showNum, layoutItems,
    cur_index_eq hrange, if_pos (page_lt hrange), List.map_cons] at hkept
  have hhead := (List.cons.inj hkept).1
  rw [hrole, hback] at hhead
  exact absurd hhead (by simp)

end Page

/-- Passes of a layout whose toggle is where it should be find it there again until one of them
rests on the last page. -/
theorem admissible_front_iff (ctx : Context) (count : Nat) {offsets : List CGPoint}
    (hoffsets : ∀ offset ∈ offsets, InRange ctx ⟨count, offset⟩) {state : State}
    (hfront : state.isBackItem = false) :
    Admissible (pass ctx count) (fun state _ => state.isBackItem = false) state offsets ↔
      ∀ offset ∈ offsets.dropLast, offset.x < lastOffset ctx ⟨count, offset⟩ := by
  induction offsets generalizing state with
  | nil => simp [Admissible]
  | cons offset offsets ih =>
      have hafter := (roles_kept_of_front (hoffsets offset List.mem_cons_self) hfront).2
      cases offsets with
      -- no pass follows the last one, so it may turn the toggle
      | nil => simp [Admissible, hfront]
      | cons next rest =>
          rw [List.dropLast_cons_of_ne_nil (List.cons_ne_nil _ _), List.forall_mem_cons]
          have hrest := fun other hother => hoffsets other (List.mem_cons_of_mem offset hother)
          constructor
          · rintro ⟨_, hadmissible⟩
            exact ⟨hafter.mp hadmissible.1, (ih hrest hadmissible.1).mp hadmissible⟩
          · rintro ⟨hbefore, hothers⟩
            exact ⟨hfront, (ih hrest (hafter.mpr hbefore)).mpr hothers⟩

/-- In passes over a fixed number of items, one for each content offset of the scrollable range,
the page at the offset is always the front item and the next page the back item exactly if none of
the passes but the last one rests on the last page. -/
theorem roles_kept_iff (ctx : Context) (count : Nat) (offsets : List CGPoint)
    (hoffsets : ∀ offset ∈ offsets, InRange ctx ⟨count, offset⟩) :
    (∀ done offset rest, offsets = done ++ offset :: rest →
      RolesKept ctx ⟨count, offset⟩ (run (pass ctx count) State.fresh done)) ↔
    ∀ offset ∈ offsets.dropLast, offset.x < lastOffset ctx ⟨count, offset⟩ := by
  have hfresh : State.fresh.isBackItem = false := rfl
  rw [← admissible_front_iff ctx count hoffsets hfresh]
  have hgood : ∀ (state : State) (offset : CGPoint), True → InRange ctx ⟨count, offset⟩ →
      (RolesKept ctx ⟨count, offset⟩ state ↔ state.isBackItem = false) := by
    intro state offset _ hrange
    constructor
    · intro hkept
      by_contra hback
      exact not_roles_kept_of_back hrange (Bool.not_eq_false _ ▸ hback) hkept
    · intro hfront
      exact (roles_kept_of_front hrange hfront).1
  exact steps_iff_admissible hgood (fun _ _ _ _ _ => trivial) trivial hoffsets

/-- A screen of 320 times 480 points. -/
def smallScreen : Context := ⟨⟨320, 480⟩, 40, 17, by norm_num⟩

/-- Three passes that reach the last of two pages with the last of them. -/
theorem roles_kept_of_reaching_last_page :
    (∀ offset ∈ [(⟨0, 0⟩ : CGPoint), ⟨100, 0⟩, ⟨320, 0⟩], InRange smallScreen ⟨2, offset⟩) ∧
      ∀ done offset rest, [(⟨0, 0⟩ : CGPoint), ⟨100, 0⟩, ⟨320, 0⟩] = done ++ offset :: rest →
        RolesKept smallScreen ⟨2, offset⟩ (run (pass smallScreen 2) State.fresh done) :=
  ⟨by decide +kernel,
    (roles_kept_iff smallScreen 2 _ (by decide +kernel)).mpr (by decide +kernel)⟩

/-- A pass that rests on the last of two pages exchanges front and back in the next pass. -/
theorem roles_exchanged_after_last_page :
    InRange smallScreen ⟨2, ⟨320, 0⟩⟩ ∧ InRange smallScreen ⟨2, ⟨0, 0⟩⟩ ∧
      ((layoutAttributesForElements smallScreen ⟨2, ⟨0, 0⟩⟩
        (run (pass smallScreen 2) State.fresh [⟨320, 0⟩])).1.map
          fun attrs => (attrs.item, attrs.role)) = [(0, .back), (1, .front)] ∧
      ¬ RolesKept smallScreen ⟨2, ⟨0, 0⟩⟩ (run (pass smallScreen 2) State.fresh [⟨320, 0⟩]) := by
  decide +kernel

/-! ## Snapping to pages -/

/-- One call of `targetContentOffset`: the number of items at that moment and the proposed
offset. -/
structure Proposal where
  numberOfItems : Nat
  proposedContentOffset : CGPoint
  deriving DecidableEq, Repr

/-- The collection view as the call finds it, at the proposed offset. -/
def Proposal.scene (proposal : Proposal) : Scene :=
  ⟨proposal.numberOfItems, proposal.proposedContentOffset⟩

/-- The returned offset. -/
def snapped (ctx : Context) (state : State) (proposal : Proposal) : CGFloat :=
  (targetContentOffset ctx proposal.proposedContentOffset state).1.x

/-- One call. -/
def snap (ctx : Context) (state : State) (proposal : Proposal) : State :=
  (targetContentOffset ctx proposal.proposedContentOffset state).2

/-- The offset is the one of a page of the collection view. -/
def IsPage (ctx : Context) (proposal : Proposal) (x : CGFloat) : Prop :=
  (∃ page : Int, x = page * ctx.itemSize.width) ∧ 0 ≤ x ∧ x ≤ lastOffset ctx proposal.scene

/-- The remembered target is at most one page after the last one. -/
def Follows (ctx : Context) (state : State) (proposal : Proposal) : Prop :=
  state.lastProposedContentOffsetX ≤ proposal.numberOfItems * ctx.itemSize.width

instance (ctx : Context) (state : State) (proposal : Proposal) :
    Decidable (Follows ctx state proposal) := inferInstanceAs (Decidable (_ ≤ _))

/-- The remembered target is a page, be it of the collection view or not. -/
def State.OnPage (ctx : Context) (state : State) : Prop :=
  ∃ page : Nat, state.lastProposedContentOffsetX = page * ctx.itemSize.width

/-- A proposal is answered with the offset that is remembered for the next one. -/
theorem last_proposed_snap (ctx : Context) (state : State) (proposal : Proposal) :
    (snap ctx state proposal).lastProposedContentOffsetX = snapped ctx state proposal := rfl

/-- The offset of a page is allowed just when the page has an item. -/
theorem is_page_mul_iff {ctx : Context} {proposal : Proposal} (page : Nat) :
    IsPage ctx proposal (page * ctx.itemSize.width) ↔ page < proposal.numberOfItems := by
  have hwidth := ctx.width_pos
  have hlast : (page : CGFloat) * ctx.itemSize.width ≤ lastOffset ctx proposal.scene ↔
      page < proposal.numberOfItems := by
    rw [last_offset_eq, mul_le_mul_iff_of_pos_right hwidth, le_sub_iff_add_le, ← Nat.cast_succ]
    exact Nat.cast_le
  constructor
  · intro h
    exact hlast.mp h.2.2
  · intro h
    exact ⟨⟨page, by push_cast; rfl⟩, by positivity, hlast.mpr h⟩

section Snap

variable {ctx : Context} {state : State} {proposal : Proposal}
  (hthreshold : 0 ≤ ctx.snapThreshold) (hrange : InRange ctx proposal.scene)
include hthreshold hrange

/-- A target on a page of the collection view moves to a page of it. -/
theorem snapped_of_page_lt {page : Nat}
    (hpage : state.lastProposedContentOffsetX = page * ctx.itemSize.width)
    (hlt : page < proposal.numberOfItems) :
    ∃ next : Nat, snapped ctx state proposal = next * ctx.itemSize.width ∧
      next < proposal.numberOfItems := by
  have hwidth := ctx.width_pos
  obtain ⟨hfirst, hlast⟩ := hrange
  rw [last_offset_eq] at hlast
  simp only [Proposal.scene] at hfirst hlast
  simp only [snapped, targetContentOffset, hpage]
  split_ifs with hforward hfar hfar
  · -- the proposal lies after the target, so there is a page between the two and the end
    refine ⟨page + 1, by push_cast; ring, ?_⟩
    have : (page : CGFloat) < proposal.numberOfItems - 1 :=
      lt_of_mul_lt_mul_right (hforward.trans_le hlast) hwidth.le
    have : ((page + 1 : Nat) : CGFloat) < (proposal.numberOfItems : Nat) := by
      push_cast
      linarith
    exact Nat.cast_lt.mp this
  · exact ⟨page, rfl, hlt⟩
  · -- the proposal lies before the target, so the target is not on the first page
    cases page with
    | zero =>
        rw [Nat.cast_zero, zero_mul] at hfar
        linarith
    | succ page => exact ⟨page, by push_cast; ring, by omega⟩
  · exact ⟨page, rfl, hlt⟩

/-- A target after the last page moves one page back. -/
theorem snapped_of_le_page (hmargin : ctx.snapThreshold < ctx.itemSize.width) {page : Nat}
    (hpage : state.lastProposedContentOffsetX = page * ctx.itemSize.width)
    (hle : proposal.numberOfItems ≤ page) :
    snapped ctx state proposal = ((page : CGFloat) - 1) * ctx.itemSize.width := by
  have hwidth := ctx.width_pos
  have hlast := hrange.2
  rw [last_offset_eq] at hlast
  simp only [Proposal.scene] at hlast
  have hbehind : (proposal.numberOfItems : CGFloat) * ctx.itemSize.width ≤
      page * ctx.itemSize.width :=
    mul_le_mul_of_nonneg_right (Nat.cast_le.mpr hle) hwidth.le
  have hbefore : ¬ (page : CGFloat) * ctx.itemSize.width < proposal.proposedContentOffset.x := by
    intro h
    linarith
  have hfar : ctx.snapThreshold <
      page * ctx.itemSize.width - proposal.proposedContentOffset.x := by linarith
  simp only [snapped, targetContentOffset, hpage]
  rw [if_neg hbefore, if_pos hfar]
  ring

/-- From a target on a page, a call returns a page of the collection view exactly if the target was
at most one page after the last one. -/
theorem is_page_snapped_iff (hmargin : ctx.snapThreshold < ctx.itemSize.width)
    (hpage : state.OnPage ctx) :
    IsPage ctx proposal (snapped ctx state proposal) ↔ Follows ctx state proposal := by
  obtain ⟨page, hpage⟩ := hpage
  have hfollows : Follows ctx state proposal ↔ page ≤ proposal.numberOfItems := by
    rw [Follows, hpage, mul_le_mul_iff_of_pos_right ctx.width_pos]
    exact Nat.cast_le
  rw [hfollows]
  rcases Nat.lt_or_ge page proposal.numberOfItems with hlt | hle
  · obtain ⟨next, hnext, hnextlt⟩ := snapped_of_page_lt hthreshold hrange hpage hlt
    rw [hnext, is_page_mul_iff]
    exact iff_of_true hnextlt hlt.le
  · have hsnapped := snapped_of_le_page hthreshold hrange hmargin hpage hle
    cases page with
    | zero =>
        -- a collection view with a scrollable range has an item
        have hitems := page_lt hrange
        have hpos : 0 ≤ FastReadLayout.page ctx proposal.scene :=
          Int.floor_nonneg.mpr (div_nonneg hrange.1 ctx.width_pos.le)
        have hcount : proposal.scene.numberOfItems = proposal.numberOfItems := rfl
        omega
    | succ page =>
        have hback : snapped ctx state proposal = page * ctx.itemSize.width := by
          rw [hsnapped]
          push_cast
          ring
        rw [hback, is_page_mul_iff]
        exact Nat.lt_iff_add_one_le

end Snap

/-- A page of the collection view is a page. -/
theorem on_page_of_is_page {ctx : Context} {state : State} {proposal : Proposal}
    (h : IsPage ctx proposal (snapped ctx state proposal)) :
    (snap ctx state proposal).OnPage ctx := by
  obtain ⟨⟨page, hpage⟩, hnonneg, _⟩ := h
  rw [hpage] at hnonneg
  have hpos : (0 : CGFloat) ≤ (page : Int) := nonneg_of_mul_nonneg_left hnonneg ctx.width_pos
  obtain ⟨natural, rfl⟩ := Int.eq_ofNat_of_zero_le (Int.cast_nonneg_iff.mp hpos)
  exact ⟨natural, by rw [last_proposed_snap, hpage, Int.cast_natCast]⟩

/-- A new layout is on its first page. -/
theorem on_page_fresh (ctx : Context) : State.fresh.OnPage ctx :=
  ⟨0, by simp [State.fresh]⟩

/-- The remembered target follows as long as no more than one item is removed between one call and
the next. -/
theorem admissible_follows_of_chain {ctx : Context} (hthreshold : 0 ≤ ctx.snapThreshold)
    (hmargin : ctx.snapThreshold < ctx.itemSize.width) {proposals : List Proposal}
    (hrange : ∀ proposal ∈ proposals, InRange ctx proposal.scene)
    (hchain : proposals.IsChain fun a b => a.numberOfItems ≤ b.numberOfItems + 1)
    {state : State} (hpage : state.OnPage ctx)
    (hfirst : ∀ proposal ∈ proposals.head?, Follows ctx state proposal) :
    Admissible (snap ctx) (Follows ctx) state proposals := by
  induction proposals generalizing state with
  | nil => trivial
  | cons proposal proposals ih =>
      have hfollows := hfirst proposal rfl
      have hsnapped := (is_page_snapped_iff hthreshold (hrange proposal List.mem_cons_self) hmargin
        hpage).mpr hfollows
      refine ⟨hfollows, ih (fun other hother => hrange other (List.mem_cons_of_mem _ hother))
        hchain.tail (on_page_of_is_page hsnapped) ?_⟩
      intro next hnext
      have hcount : (proposal.numberOfItems : CGFloat) ≤ next.numberOfItems + 1 := by
        exact_mod_cast (List.isChain_cons.mp hchain).1 next hnext
      calc (snap ctx state proposal).lastProposedContentOffsetX
          ≤ (proposal.numberOfItems - 1) * ctx.itemSize.width := by
            rw [last_proposed_snap]
            exact hsnapped.2.2.trans_eq (last_offset_eq ctx proposal.scene)
        _ ≤ next.numberOfItems * ctx.itemSize.width :=
            mul_le_mul_of_nonneg_right (by linarith) ctx.width_pos.le

/-- With a threshold of at most half a page, all calls of a sequence return a page of the
collection view exactly if each of them finds the remembered target at most one page after the last
one. -/
theorem snapped_iff (ctx : Context) (hthreshold : 0 ≤ ctx.snapThreshold)
    (hmargin : ctx.snapThreshold ≤ ctx.itemSize.width / 2) (proposals : List Proposal)
    (hrange : ∀ proposal ∈ proposals, InRange ctx proposal.scene) :
    (∀ done proposal rest, proposals = done ++ proposal :: rest →
      IsPage ctx proposal (snapped ctx (run (snap ctx) State.fresh done) proposal)) ↔
    Admissible (snap ctx) (Follows ctx) State.fresh proposals := by
  have hwidth := ctx.width_pos
  have hgood : ∀ (state : State) (proposal : Proposal), state.OnPage ctx →
      InRange ctx proposal.scene →
      (IsPage ctx proposal (snapped ctx state proposal) ↔ Follows ctx state proposal) :=
    fun state proposal hpage hrange =>
      is_page_snapped_iff hthreshold hrange (by linarith) hpage
  have hstep : ∀ (state : State) (proposal : Proposal), state.OnPage ctx →
      InRange ctx proposal.scene → Follows ctx state proposal →
      (snap ctx state proposal).OnPage ctx :=
    fun state proposal hpage hrange hfollows =>
      on_page_of_is_page ((hgood state proposal hpage hrange).mpr hfollows)
  exact steps_iff_admissible hgood hstep (on_page_fresh ctx) hrange

/-- Leafing through three pages, with the last one removed afterwards. -/
theorem snapped_of_one_page_removed :
    let proposals : List Proposal := [⟨3, ⟨320, 0⟩⟩, ⟨3, ⟨640, 0⟩⟩, ⟨2, ⟨0, 0⟩⟩]
    (∀ proposal ∈ proposals, InRange smallScreen proposal.scene) ∧
      ∀ done proposal rest, proposals = done ++ proposal :: rest →
        IsPage smallScreen proposal
          (snapped smallScreen (run (snap smallScreen) State.fresh done) proposal) :=
  ⟨by decide +kernel,
    (snapped_iff smallScreen (by decide +kernel) (by decide +kernel) _ (by decide +kernel)).mpr
      (by decide +kernel)⟩

/-- On the last of three pages, two of which are removed, the next call returns the offset of the
second page, which is beyond the end. -/
theorem snapped_beyond_end_of_two_pages_removed :
    let before := run (snap smallScreen) State.fresh [⟨3, ⟨320, 0⟩⟩, ⟨3, ⟨640, 0⟩⟩]
    InRange smallScreen (Proposal.scene ⟨3, ⟨320, 0⟩⟩) ∧
      InRange smallScreen (Proposal.scene ⟨3, ⟨640, 0⟩⟩) ∧
      InRange smallScreen (Proposal.scene ⟨1, ⟨0, 0⟩⟩) ∧
      snapped smallScreen before ⟨1, ⟨0, 0⟩⟩ = 320 ∧
      lastOffset smallScreen (Proposal.scene ⟨1, ⟨0, 0⟩⟩) = 0 ∧
      ¬ IsPage smallScreen ⟨1, ⟨0, 0⟩⟩ (snapped smallScreen before ⟨1, ⟨0, 0⟩⟩) := by
  refine ⟨by decide +kernel, by decide +kernel, by decide +kernel, by decide +kernel,
    by decide +kernel, ?_⟩
  intro h
  exact absurd h.2.2 (by decide +kernel)

end Component.FastReadLayout

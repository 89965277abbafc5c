import Component.Lib.Ledger
import Component.Refresh.TopInset
import Component.Refresh.World

/-!
# The shares that refresh views have of the insets

Refresh views enlarge the insets of their scroll view and take the enlargement back later. An
attached view has a share of the bottom inset (`bottomShare`), and while a header refreshes it has
the top inset for itself. `Conserved` says that apart from the shares of the attached views the
insets are those from before. A method keeps it if it changes the inset and the share of its view
by the same amount (`Conserved.update`).
-/

namespace Component.Refresh

open Component.Lib.Ledger

/-! ## What a view has of the insets -/

/-- The properties of a view that its handlers only read. -/
structure Shape where
  refreshMore : Bool
  refreshBack : Bool
  horizontalDirection : Bool
  hidden : Bool
  linked : Bool
  observing : Bool
  height : CGFloat

namespace RefreshView

/-- The properties of a view that its handlers only read. -/
def shape (view : RefreshView) : Shape :=
  ⟨view.refreshMore, view.refreshBack, view.horizontalDirection, view.hidden, view.linked,
    view.observing, view.frame.height⟩

/-- The share that an attached view has of the bottom inset. A footer that refreshes by itself
makes room for itself while it is shown. Any other view takes its height away when it is hidden,
and a footer that is pulled enlarges the inset while it refreshes. -/
def bottomShare (view : RefreshView) : CGFloat :=
  if view.observing = false then 0
  else if view.refreshMore = true ∧ view.refreshBack = false then
    if view.hidden then 0 else view.frame.height
  else
    (if view.hidden then -view.frame.height else 0) +
      if view.refreshMore = true ∧ view.state = .refreshing then view.lastBottomDelta else 0

/-- An attached header has the top inset for itself while it refreshes. -/
def RaisesTop (view : RefreshView) : Prop :=
  view.observing = true ∧ view.refreshMore = false ∧ view.state = .refreshing

/-- A view that has been removed has nothing to give back. -/
def AtRest (view : RefreshView) : Prop :=
  view.linked = true → view.observing = false → view.state = .refreshing →
    view.refreshMore = true ∧ (view.refreshBack = true → view.lastBottomDelta = 0)

/-- The share depends on the shape, on whether the view refreshes, and on `lastBottomDelta`. -/
theorem bottom_share_congr {view view' : RefreshView} (hshape : view'.shape = view.shape)
    (hstate : view'.state = .refreshing ↔ view.state = .refreshing)
    (hdelta : view'.lastBottomDelta = view.lastBottomDelta) :
    view'.bottomShare = view.bottomShare := by
  simp only [shape, Shape.mk.injEq] at hshape
  obtain ⟨hmore, hback, _, hhidden, _, hobserving, hheight⟩ := hshape
  simp only [bottomShare, hmore, hback, hhidden, hobserving, hheight, hstate, hdelta]

/-- A view that is not attached has no share. -/
theorem bottom_share_detached {view : RefreshView} (h : view.observing = false) :
    view.bottomShare = 0 := if_pos h

/-- Hiding an attached view of any kind takes its height from its share. -/
theorem bottom_share_hide {view : RefreshView} (hobserving : view.observing = true) :
    ({ view with hidden := true } : RefreshView).bottomShare + view.frame.height =
      ({ view with hidden := false } : RefreshView).bottomShare := by
  unfold bottomShare
  simp only [hobserving, Bool.true_eq_false, if_false, if_true, Bool.false_eq_true]
  split_ifs <;> ring

end RefreshView

/-- Something is pending that enlarges the top inset. -/
def Cell.Enlarges (cell : Cell) : Prop :=
  .headerRefreshing ∈ cell.mainQueue ∨ .animationDidStop .refreshingBounds ∈ cell.completions

/-- Only headers enlarge the top inset, they remember the top inset `top`, and a view that has been
removed is at rest. -/
structure Cell.Kept (top : CGFloat) (cell : Cell) : Prop where
  pending : cell.view.refreshMore = true → ¬ cell.Enlarges
  original : cell.view.refreshMore = false → cell.view.linked = true →
    cell.view.scrollViewOriginalInset.top = top
  atRest : cell.view.AtRest

/-! ## The invariant -/

section

variable {κ : Type} [DecidableEq κ]

/-- Which views are attached, and what their handlers do not change. All views are vertical, the
attached ones are just those that observe the scroll view, and at most one of them is a header. -/
structure Layout (κ : Type) where
  current : κ
  slot : Slot → Option κ
  attached : Finset κ
  shape : κ → Shape
  vertical : ∀ id, (shape id).horizontalDirection = false
  observing : ∀ id, (shape id).observing = true ↔ id ∈ attached
  linked : ∀ id ∈ attached, (shape id).linked = true
  oneHeader : ∀ a ∈ attached, ∀ b ∈ attached, (shape a).refreshMore = false →
    (shape b).refreshMore = false → a = b

/-- Apart from the shares of the attached views the insets are `inset`. -/
structure Conserved (inset : UIEdgeInsets) (layout : Layout κ) (s : World κ) : Prop where
  current : s.rest.current = layout.current
  slot : ∀ slot, s.slot slot = layout.slot slot
  shape : ∀ id, (s.cellOf id).view.shape = layout.shape id
  cells : ∀ id, (s.cellOf id).Kept inset.top
  left : s.scrollView.mjInset.left = inset.left
  right : s.scrollView.mjInset.right = inset.right
  top : (∀ id ∈ layout.attached, ¬ (s.cellOf id).view.RaisesTop) →
    s.scrollView.mjInset.top = inset.top
  bottom : Balanced inset.bottom s.scrollView.mjInset.bottom layout.attached
    fun id => (s.cellOf id).view.bottomShare

namespace Conserved

variable {inset : UIEdgeInsets} {layout : Layout κ} {s t : World κ}

/-- The cell of the view that is talked to is kept. -/
theorem cell (h : Conserved inset layout s) : s.cell.Kept inset.top := by
  have hcell := h.cells s.rest.current
  rw [World.cell_of_current] at hcell
  exact hcell

/-- The view that is talked to has the shape of the layout. -/
theorem shape_current (h : Conserved inset layout s) :
    s.view.shape = layout.shape layout.current := by
  have hshape := h.shape s.rest.current
  rw [World.cell_of_current, h.current] at hshape
  exact hshape

/-- The view that is talked to is vertical. -/
theorem vertical (h : Conserved inset layout s) : s.view.horizontalDirection = false := by
  have hvertical := layout.vertical layout.current
  rw [← h.shape_current] at hvertical
  exact hvertical

/-- The view that is talked to observes the scroll view just when it is attached. -/
theorem observing_iff (h : Conserved inset layout s) :
    s.view.observing = true ↔ layout.current ∈ layout.attached := by
  have hobserving := layout.observing layout.current
  rw [← h.shape_current] at hobserving
  exact hobserving

/-- An attached view is linked to its scroll view. -/
theorem linked (h : Conserved inset layout s) (hobserving : s.view.observing = true) :
    s.view.linked = true := by
  have hlinked := layout.linked _ (h.observing_iff.mp hobserving)
  rw [← h.shape_current] at hlinked
  exact hlinked

/-- An attached view reads its scroll view. -/
theorem sv_eq (h : Conserved inset layout s) (hobserving : s.view.observing = true) :
    s.sv = s.scrollView := Sys.sv_of_linked (h.linked hobserving)

/-- A step that leaves the other views leaves the view that is talked to in front. -/
theorem cell_of_self (hrest : t.rest = s.rest) : t.cellOf s.rest.current = t.cell := by
  rw [← World.cell_of_current, hrest]

/-- Only the view that is talked to and the scroll view have changed, so that the views apart from
this one are as they were. -/
theorem replace (h : Conserved inset layout s) {layout' : Layout κ} {bottom : CGFloat}
    (hrest : t.rest = s.rest) (hcurrent : layout'.current = layout.current)
    (hslot : layout'.slot = layout.slot)
    (hshape : layout'.shape = Function.update layout.shape layout.current t.view.shape)
    (hcell : t.cell.Kept inset.top)
    (hleft : t.scrollView.mjInset.left = s.scrollView.mjInset.left)
    (hright : t.scrollView.mjInset.right = s.scrollView.mjInset.right)
    (htop : (∀ id ∈ layout'.attached, ¬ (t.cellOf id).view.RaisesTop) →
      t.scrollView.mjInset.top = inset.top)
    (hbottom : Balanced bottom t.scrollView.mjInset.bottom layout'.attached
      fun id => (t.cellOf id).view.bottomShare) :
    Conserved { inset with bottom := bottom } layout' t := by
  have hfocus : t.rest.current = layout'.current := by rw [hrest, h.current, hcurrent]
  refine ⟨hfocus, fun slot => ?_, fun id => ?_, fun id => ?_, hleft.trans h.left,
    hright.trans h.right, htop, hbottom⟩
  · rw [hslot, ← h.slot slot]
    unfold World.slot
    rw [hrest]
  · by_cases hid : id = s.rest.current
    · rw [hid, cell_of_self hrest, hshape, h.current, Function.update_self]
      rfl
    · rw [World.cell_of_congr hrest hid, hshape, Function.update_of_ne (h.current ▸ hid)]
      exact h.shape id
  · by_cases hid : id = s.rest.current
    · rw [hid, cell_of_self hrest]
      exact hcell
    · rw [World.cell_of_congr hrest hid]
      exact h.cells id

/-- The top inset after a change of one view, while no attached view raises it. -/
theorem top_change (h : Conserved inset layout s) (hrest : t.rest = s.rest)
    (hobserving : t.view.observing = true → s.rest.current ∈ layout.attached)
    (htop : t.scrollView.mjInset.top = s.scrollView.mjInset.top ∧
        (s.view.RaisesTop → t.view.RaisesTop) ∨
      t.view.RaisesTop ∨ t.scrollView.mjInset.top = inset.top)
    (hnone : ∀ id ∈ layout.attached, ¬ (t.cellOf id).view.RaisesTop) :
    t.scrollView.mjInset.top = inset.top := by
  have hraises : ¬ t.view.RaisesTop := by
    intro hraises
    refine hnone _ (hobserving hraises.1) ?_
    rw [cell_of_self hrest]
    exact hraises
  rcases htop with ⟨htop, hstay⟩ | htop | htop
  · -- the inset has not changed, and no view raised it before
    rw [htop]
    refine h.top fun id hid hbefore => ?_
    by_cases heq : id = s.rest.current
    · rw [heq, s.cell_of_current] at hbefore
      exact hraises (hstay hbefore)
    · refine hnone id hid ?_
      rw [World.cell_of_congr hrest heq]
      exact hbefore
  · exact absurd htop hraises
  · exact htop

/-- A change of the view that is talked to and of the scroll view. What the inset is apart from
the shares may change as well. -/
theorem change (h : Conserved inset layout s) {layout' : Layout κ} {bottom : CGFloat}
    (hrest : t.rest = s.rest) (hcurrent : layout'.current = layout.current)
    (hslot : layout'.slot = layout.slot) (hattached : layout'.attached = layout.attached)
    (hshape : layout'.shape = Function.update layout.shape layout.current t.view.shape)
    (hcell : t.cell.Kept inset.top)
    (hleft : t.scrollView.mjInset.left = s.scrollView.mjInset.left)
    (hright : t.scrollView.mjInset.right = s.scrollView.mjInset.right)
    (htop : t.scrollView.mjInset.top = s.scrollView.mjInset.top ∧
        (s.view.RaisesTop → t.view.RaisesTop) ∨
      t.view.RaisesTop ∨ t.scrollView.mjInset.top = inset.top)
    (hbottom : t.scrollView.mjInset.bottom - bottom - t.view.bottomShare =
      s.scrollView.mjInset.bottom - inset.bottom - s.view.bottomShare) :
    Conserved { inset with bottom := bottom } layout' t := by
  have hself : t.cellOf s.rest.current = t.cell := cell_of_self hrest
  have hself' : s.cellOf s.rest.current = s.cell := s.cell_of_current
  have hothers : ∀ id, id ≠ s.rest.current → t.cellOf id = s.cellOf id :=
    fun id hid => World.cell_of_congr hrest hid
  have hobserving : t.view.observing = true ↔ s.rest.current ∈ layout.attached := by
    rw [← hattached, ← layout'.observing, hshape, h.current, Function.update_self]
    rfl
  refine h.replace hrest hcurrent hslot hshape hcell hleft hright (fun hnone => ?_) ?_
  · rw [hattached] at hnone
    exact h.top_change hrest hobserving.mp htop hnone
  · rw [hattached]
    have hshares : ∀ id, id ≠ s.rest.current →
        (t.cellOf id).view.bottomShare = (s.cellOf id).view.bottomShare :=
      fun id hid => by rw [hothers id hid]
    by_cases hmem : s.rest.current ∈ layout.attached
    · refine h.bottom.change hmem hshares ?_
      show _ - _ - (t.cellOf s.rest.current).view.bottomShare =
        _ - _ - (s.cellOf s.rest.current).view.bottomShare
      rw [hself, hself']
      exact hbottom
    · -- a view that is not attached has no share before or after the change
      have hdetached : s.view.observing = false := by
        rw [← Bool.not_eq_true, h.observing_iff, ← h.current]
        exact hmem
      have hdetached' : t.view.observing = false := by
        rw [← Bool.not_eq_true, hobserving]
        exact hmem
      rw [RefreshView.bottom_share_detached hdetached,
        RefreshView.bottom_share_detached hdetached', sub_zero, sub_zero] at hbottom
      exact h.bottom.outside hmem hshares hbottom

/-- A change where the bottom inset and the share of the view change by the same amount. -/
theorem update (h : Conserved inset layout s) (hrest : t.rest = s.rest)
    (hshape : t.view.shape = s.view.shape) (hcell : t.cell.Kept inset.top)
    (hleft : t.scrollView.mjInset.left = s.scrollView.mjInset.left)
    (hright : t.scrollView.mjInset.right = s.scrollView.mjInset.right)
    (htop : t.scrollView.mjInset.top = s.scrollView.mjInset.top ∧
        (s.view.RaisesTop → t.view.RaisesTop) ∨
      t.view.RaisesTop ∨ t.scrollView.mjInset.top = inset.top)
    (hbottom : t.scrollView.mjInset.bottom - t.view.bottomShare =
      s.scrollView.mjInset.bottom - s.view.bottomShare) : Conserved inset layout t := by
  refine h.change hrest rfl rfl rfl ?_ hcell hleft hright htop ?_
  · rw [hshape, h.shape_current, Function.update_eq_self]
  · rw [sub_right_comm, sub_right_comm (s.scrollView.mjInset.bottom), hbottom]

/-- A change of what the insets do not depend on. -/
theorem neutral (h : Conserved inset layout s) (hrest : t.rest = s.rest)
    (hshape : t.view.shape = s.view.shape) (hstate : t.view.state = s.view.state)
    (hdelta : t.view.lastBottomDelta = s.view.lastBottomDelta)
    (horiginal : t.view.scrollViewOriginalInset.top = s.view.scrollViewOriginalInset.top)
    (hinset : t.scrollView.mjInset = s.scrollView.mjInset)
    (hpending : s.view.refreshMore = true → ¬ t.cell.Enlarges) : Conserved inset layout t := by
  have hfields := hshape
  simp only [RefreshView.shape, Shape.mk.injEq] at hfields
  obtain ⟨hmore, hback, _, _, hlinked, hobserving, _⟩ := hfields
  refine h.update hrest hshape ⟨fun hm => ?_, fun hm hl => ?_, fun hl hd hs => ?_⟩
    (by rw [hinset]) (by rw [hinset]) (.inl ⟨by rw [hinset], fun hraises => ?_⟩) ?_
  · exact hpending (hmore ▸ hm)
  · exact horiginal.trans (h.cell.original (hmore ▸ hm) (hlinked ▸ hl))
  · have hrest := h.cell.atRest (hlinked ▸ hl) (hobserving ▸ hd) (hstate ▸ hs)
    exact ⟨hmore.trans hrest.1, fun hb => hdelta.trans (hrest.2 (hback ▸ hb))⟩
  · exact ⟨hobserving.trans hraises.1, hmore.trans hraises.2.1, hstate.trans hraises.2.2⟩
  · rw [hinset, RefreshView.bottom_share_congr hshape (by rw [hstate]) hdelta]

/-- A change of what the insets do not depend on, with nothing new pending. -/
theorem congr (h : Conserved inset layout s) (hrest : t.rest = s.rest)
    (hshape : t.view.shape = s.view.shape) (hstate : t.view.state = s.view.state)
    (hdelta : t.view.lastBottomDelta = s.view.lastBottomDelta)
    (horiginal : t.view.scrollViewOriginalInset.top = s.view.scrollViewOriginalInset.top)
    (hinset : t.scrollView.mjInset = s.scrollView.mjInset)
    (hqueue : t.mainQueue = s.mainQueue) (hcompletions : t.completions = s.completions) :
    Conserved inset layout t := by
  refine h.neutral hrest hshape hstate hdelta horiginal hinset fun hmore hpending => ?_
  refine h.cell.pending hmore ?_
  show .headerRefreshing ∈ s.mainQueue ∨ .animationDidStop .refreshingBounds ∈ s.completions
  rw [← hqueue, ← hcompletions]
  exact hpending

/-- A block that does not enlarge the top inset is put on the main queue. -/
theorem dispatch_async (h : Conserved inset layout s) {block : Block}
    (hblock : s.view.refreshMore = true → block ≠ .headerRefreshing) :
    Conserved inset layout (s.dispatchAsync block) := by
  refine h.neutral rfl rfl rfl rfl rfl rfl fun hmore hpending => ?_
  refine h.cell.pending hmore (hpending.imp_left fun hmem => ?_)
  rcases List.mem_append.mp hmem with hmem | hmem
  · exact hmem
  · exact absurd (List.mem_singleton.mp hmem).symm (hblock hmore)

/-- An animation whose end does not enlarge the top inset is started. -/
theorem animate (h : Conserved inset layout s) {completion : Completion}
    (hcompletion : s.view.refreshMore = true → completion ≠ .animationDidStop .refreshingBounds) :
    Conserved inset layout (s.animate completion) := by
  refine h.neutral rfl rfl rfl rfl rfl rfl fun hmore hpending => ?_
  refine h.cell.pending hmore (hpending.imp_right fun hmem => ?_)
  rcases List.mem_append.mp hmem with hmem | hmem
  · exact hmem
  · exact absurd (List.mem_singleton.mp hmem).symm (hcompletion hmore)

/-- Firing a callback keeps the insets. -/
theorem fire (h : Conserved inset layout s) (callback : Callback) :
    Conserved inset layout (s.fire callback) := h.congr rfl rfl rfl rfl rfl rfl rfl rfl

/-- Setting the pulling percent keeps the insets. -/
theorem set_pulling_percent (h : Conserved inset layout s) (percent : CGFloat) :
    Conserved inset layout (MJRefreshComponent.setPullingPercent percent s) :=
  h.congr rfl rfl rfl rfl rfl rfl rfl rfl

/-- Fading out keeps the insets. -/
theorem fade_out (h : Conserved inset layout s) :
    Conserved inset layout (MJRefreshComponent.fadeOut s) :=
  h.congr rfl rfl rfl rfl rfl rfl rfl rfl

/-- A write to the scroll view that leaves the insets alone. -/
theorem update_scroll (h : Conserved inset layout s) {f : UIScrollView → UIScrollView}
    (hf : ∀ sv : UIScrollView, (f sv).mjInset = sv.mjInset) :
    Conserved inset layout (s.updateScroll f) := by
  unfold Sys.updateScroll
  split
  · exact h.congr rfl rfl rfl rfl rfl (hf _) rfl rfl
  · exact h

/-- The end of a trigger keeps the insets. -/
theorem end_trigger (h : Conserved inset layout s) :
    Conserved inset layout (MJRefreshView.endTrigger s) := by
  unfold MJRefreshView.endTrigger
  split
  · exact h.congr rfl rfl rfl rfl rfl rfl rfl rfl
  · exact h

end Conserved

/-- A notification keeps the insets, whatever they are. -/
def Conserves (notify : Notify (Others κ)) : Prop :=
  ∀ inset layout old new s, Conserved inset layout s → Conserved inset layout (notify old new s)

namespace Conserved

variable {inset : UIEdgeInsets} {layout : Layout κ} {s t : World κ}

/-- Setting the content offset keeps the insets if notifications do. -/
theorem set_content_offset (h : Conserved inset layout s) {notify : Notify (Others κ)}
    (hnotify : Conserves notify) (offset : CGPoint) :
    Conserved inset layout (s.setContentOffset notify offset) := by
  unfold Sys.setContentOffset
  split
  · refine hnotify _ _ _ _ _ ?_
    exact h.congr rfl rfl rfl rfl rfl rfl rfl rfl
  · exact h

/-- The state changes between states other than the refreshing one. -/
theorem store_state (h : Conserved inset layout s) {state : MJRefreshState}
    (hold : s.view.state ≠ .refreshing) (hnew : state ≠ .refreshing) :
    Conserved inset layout (MJRefreshComponent.setState state s) := by
  have hshare : (MJRefreshComponent.setState state s).view.bottomShare = s.view.bottomShare :=
    RefreshView.bottom_share_congr rfl (iff_of_false hnew hold) rfl
  refine h.update rfl rfl ⟨h.cell.pending, h.cell.original, fun _ _ hs => absurd hs hnew⟩ rfl rfl
    (.inl ⟨rfl, fun hraises => absurd hraises.2.2 hold⟩) ?_
  rw [hshare]
  rfl

end Conserved

end

end Component.Refresh

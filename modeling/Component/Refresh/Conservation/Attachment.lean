import Component.Refresh.Conservation.Handlers

/-!
# Attaching and removing refresh views

A view that is attached or removed takes part of the bottom inset with it. The insets are kept if
what the scroll view gains or loses is the share of the view, which `MayEnter` and `MayLeave` ask
for.
-/

namespace Component.Refresh

open Component.Lib.Ledger

variable {κ : Type} [DecidableEq κ]

/-- The room that a view makes for itself when it is attached. -/
def RefreshView.roomOnAttach (view : RefreshView) : CGFloat :=
  if view.refreshMore = true ∧ view.refreshBack = false ∧ view.hidden = false then view.frame.height
  else 0

/-- What moving a view to a superview, or away from one, does to the view and its insets. -/
structure Moved (observing : Bool) (bottom : CGFloat) (s t : World κ) : Prop where
  rest : t.rest = s.rest
  shape : t.view.shape =
    { s.view.shape with linked := observing || s.view.linked, observing := observing }
  state : t.view.state = s.view.state
  lastBottomDelta : t.view.lastBottomDelta = s.view.lastBottomDelta
  mainQueue : t.mainQueue = s.mainQueue
  completions : t.completions = s.completions
  inset : t.scrollView.mjInset = { s.scrollView.mjInset with bottom := bottom }
  original : t.view.scrollViewOriginalInset =
    if observing then s.scrollView.mjInset else s.view.scrollViewOriginalInset

omit [DecidableEq κ] in
/-- Moving a view leaves its blocks and completions pending. -/
theorem Moved.enlarges {observing : Bool} {bottom : CGFloat} {s t : World κ}
    (h : Moved observing bottom s t) : t.cell.Enlarges ↔ s.cell.Enlarges := by
  show (_ ∈ t.mainQueue ∨ _ ∈ t.completions) ↔ _
  rw [h.mainQueue, h.completions]
  rfl

omit [DecidableEq κ] in
/-- Placing a vertical view along its direction adds nothing to what a move does. -/
theorem Moved.config_view_y {observing : Bool} {bottom : CGFloat} {s t : World κ}
    (h : Moved observing bottom s t) (hvertical : t.view.horizontalDirection = false) :
    Moved observing bottom s (MJRefreshView.configViewY t) := by
  unfold MJRefreshView.configViewY
  split
  · dsimp only
    rw [Sys.mapView, RefreshView.set_asxi_y_of_vertical hvertical]
    exact ⟨h.rest, h.shape, h.state, h.lastBottomDelta, h.mainQueue, h.completions, h.inset,
      h.original⟩
  · exact h

omit [DecidableEq κ] in
/-- The bottom inset of the scroll view is set relative to the remembered one. -/
theorem Moved.set_inset_bottom {observing : Bool} {bottom : CGFloat} {s t : World κ}
    (h : Moved observing bottom s t) (hvertical : t.view.horizontalDirection = false)
    (hlinked : t.view.linked = true) (value : CGFloat) :
    Moved observing value s (t.setScrollAsixOriginInsetBottom value) := by
  rw [Sys.setScrollAsixOriginInsetBottom, if_neg (by simp [hvertical]),
    Sys.update_scroll_of_linked hlinked]
  refine ⟨h.rest, h.shape, h.state, h.lastBottomDelta, h.mainQueue, h.completions, ?_, h.original⟩
  rw [Sys.mapScroll_scrollView, UIScrollView.mj_inset_set_mj_inset_b, h.inset]

omit [DecidableEq κ] in
/-- A view that is attached makes room for itself and remembers the insets that it finds. -/
theorem moved_attach {s : World κ} (hvertical : s.view.horizontalDirection = false) :
    Moved true (s.scrollView.mjInset.bottom + s.view.roomOnAttach) s
      (MJRefreshView.willMoveToSuperview (some s.scrollView) s) := by
  have hattach := MJRefreshView.component_attach hvertical s.scrollView
  have hmoved : Moved true s.scrollView.mjInset.bottom s
      (MJRefreshView.componentWillMoveToSuperview (some s.scrollView) s) := by
    rw [hattach]
    exact ⟨rfl, rfl, rfl, rfl, rfl, rfl, rfl, rfl⟩
  unfold MJRefreshView.willMoveToSuperview
  generalize MJRefreshView.componentWillMoveToSuperview (some s.scrollView) s = t at hattach hmoved
  have hvertical' : t.view.horizontalDirection = false := by rw [hattach]; exact hvertical
  have hlinked : t.view.linked = true := by rw [hattach]
  have hmore : t.view.refreshMore = s.view.refreshMore := by rw [hattach]
  have hback : t.view.refreshBack = s.view.refreshBack := by rw [hattach]
  have hhidden : t.view.hidden = s.view.hidden := by rw [hattach]
  have hbottom : t.view.scrollAsixOriginInsetBottom + t.view.asxiHeight =
      s.scrollView.mjInset.bottom + s.view.frame.height := by
    rw [RefreshView.scrollAsixOriginInsetBottom, RefreshView.asxiHeight,
      if_neg (by simp [hvertical']), if_neg (by simp [hvertical']), hattach]
  dsimp only
  rw [hmore, hback, hhidden, hbottom]
  unfold RefreshView.roomOnAttach
  cases hm : s.view.refreshMore with
  | false => simpa using hmoved
  | true =>
      cases hb : s.view.refreshBack with
      | true => simpa using hmoved.config_view_y hvertical'
      | false =>
          cases hh : s.view.hidden with
          | true => simpa using hmoved.config_view_y hvertical'
          | false =>
              have hroom := hmoved.set_inset_bottom hvertical' hlinked
                (s.scrollView.mjInset.bottom + s.view.frame.height)
              have hstill : (t.setScrollAsixOriginInsetBottom
                  (s.scrollView.mjInset.bottom + s.view.frame.height)).view.horizontalDirection =
                  false := (congrArg Shape.horizontalDirection hroom.shape).trans hvertical
              simpa using hroom.config_view_y hstill

omit [DecidableEq κ] in
/-- A footer that refreshes by itself and is shown takes its height from the remembered inset. -/
theorem moved_detach {s : World κ} (hvertical : s.view.horizontalDirection = false)
    (hlinked : s.view.linked = true) :
    Moved false
      (if s.view.refreshMore = true ∧ s.view.refreshBack = false ∧ s.view.hidden = false then
        s.view.scrollViewOriginalInset.bottom - s.view.frame.height
      else s.scrollView.mjInset.bottom) s (MJRefreshView.willMoveToSuperview none s) := by
  have hmoved : Moved false s.scrollView.mjInset.bottom s
      (MJRefreshView.componentWillMoveToSuperview none s) := by
    refine ⟨rfl, ?_, rfl, rfl, rfl, rfl, rfl, rfl⟩
    rw [Bool.false_or]
    rfl
  have hremoved : MJRefreshView.componentWillMoveToSuperview none s =
      s.mapView fun view => { view with observing := false } := rfl
  unfold MJRefreshView.willMoveToSuperview
  generalize MJRefreshView.componentWillMoveToSuperview none s = t at hremoved hmoved
  have hvertical' : t.view.horizontalDirection = false := by rw [hremoved]; exact hvertical
  have hlinked' : t.view.linked = true := by rw [hremoved]; exact hlinked
  have hmore : t.view.refreshMore = s.view.refreshMore := by rw [hremoved]; rfl
  have hback : t.view.refreshBack = s.view.refreshBack := by rw [hremoved]; rfl
  have hhidden : t.view.hidden = s.view.hidden := by rw [hremoved]; rfl
  have hbottom : t.view.scrollAsixOriginInsetBottom - t.view.asxiHeight =
      s.view.scrollViewOriginalInset.bottom - s.view.frame.height := by
    rw [RefreshView.scrollAsixOriginInsetBottom, RefreshView.asxiHeight,
      if_neg (by simp [hvertical']), if_neg (by simp [hvertical']), hremoved]
    rfl
  dsimp only
  rw [hmore, hback, hhidden, hbottom]
  cases hm : s.view.refreshMore with
  | false => simpa using hmoved
  | true =>
      cases hb : s.view.refreshBack with
      | true => simpa using hmoved.config_view_y hvertical'
      | false =>
          cases hh : s.view.hidden with
          | true => simpa using hmoved
          | false =>
              simpa using hmoved.set_inset_bottom hvertical' hlinked'
                (s.view.scrollViewOriginalInset.bottom - s.view.frame.height)

/-- A view that is attached or removed without a share of the insets: it is shown or has no height,
and it is not refreshing or its refresh has not enlarged the bottom inset. -/
def RefreshView.Neutral (view : RefreshView) : Prop :=
  (view.hidden = true → view.frame.height = 0) ∧
    (view.state = .refreshing → view.refreshMore = true ∧ view.lastBottomDelta = 0)

/-- A footer that refreshes by itself, or a view without a share of the insets. -/
def RefreshView.MayEnter (view : RefreshView) : Prop :=
  view.refreshMore = true ∧ view.refreshBack = false ∨ view.Neutral

/-- A footer that refreshes by itself and is hidden or finds the remembered bottom inset again, or
another view without a share of the insets. -/
def RefreshView.MayLeave (view : RefreshView) (scrollView : UIScrollView) : Prop :=
  if view.refreshMore = true ∧ view.refreshBack = false then
    view.hidden = true ∨ view.scrollViewOriginalInset.bottom = scrollView.mjInset.bottom
  else view.Neutral

namespace Layout

/-- The layout after the view that is talked to has been attached. -/
def join (layout : Layout κ)
    (hheader : (layout.shape layout.current).refreshMore = false →
      ∀ id ∈ layout.attached, (layout.shape id).refreshMore = true) : Layout κ where
  current := layout.current
  slot := layout.slot
  attached := insert layout.current layout.attached
  shape := Function.update layout.shape layout.current
    { layout.shape layout.current with linked := true, observing := true }
  vertical := fun id => by
    rw [Function.update_apply]
    split <;> exact layout.vertical _
  observing := fun id => by
    rw [Function.update_apply, Finset.mem_insert]
    split
    next heq => simp [heq]
    next hne => simp [hne, layout.observing]
  linked := fun id hid => by
    rw [Function.update_apply]
    split
    · rfl
    next hne => exact layout.linked id ((Finset.mem_insert.mp hid).resolve_left hne)
  oneHeader := fun a ha b hb hmore hmore' => by
    have hkind : ∀ id, (Function.update layout.shape layout.current
        { layout.shape layout.current with linked := true, observing := true } id).refreshMore =
          (layout.shape id).refreshMore := by
      intro id
      rw [Function.update_apply]
      split
      next heq => rw [heq]
      · rfl
    rw [hkind] at hmore hmore'
    rcases Finset.mem_insert.mp ha with ha | ha <;> rcases Finset.mem_insert.mp hb with hb | hb
    · rw [ha, hb]
    · rw [ha] at hmore
      exact absurd (hmore'.symm.trans (hheader hmore b hb)) (by simp)
    · rw [hb] at hmore'
      exact absurd (hmore.symm.trans (hheader hmore' a ha)) (by simp)
    · exact layout.oneHeader a ha b hb hmore hmore'

/-- The layout after the view that is talked to has been removed. -/
def leave (layout : Layout κ) : Layout κ where
  current := layout.current
  slot := layout.slot
  attached := layout.attached.erase layout.current
  shape := Function.update layout.shape layout.current
    { layout.shape layout.current with observing := false }
  vertical := fun id => by
    rw [Function.update_apply]
    split <;> exact layout.vertical _
  observing := fun id => by
    rw [Function.update_apply, Finset.mem_erase]
    split
    next heq => simp [heq]
    next hne => simp [hne, layout.observing]
  linked := fun id hid => by
    rw [Finset.mem_erase] at hid
    rw [Function.update_of_ne hid.1]
    exact layout.linked id hid.2
  oneHeader := fun a ha b hb hmore hmore' => by
    rw [Finset.mem_erase] at ha hb
    rw [Function.update_of_ne ha.1] at hmore
    rw [Function.update_of_ne hb.1] at hmore'
    exact layout.oneHeader a ha.2 b hb.2 hmore hmore'

end Layout

namespace RefreshView

variable {view : RefreshView}

/-- A neutral view that is not a footer that refreshes by itself has no share of the bottom
inset. -/
theorem bottom_share_neutral (hother : ¬ (view.refreshMore = true ∧ view.refreshBack = false))
    (hneutral : view.Neutral) : view.bottomShare = 0 := by
  have hheight : (if view.hidden then -view.frame.height else 0) = 0 := by
    split
    next hhidden => rw [hneutral.1 hhidden, neg_zero]
    · rfl
  have hdelta : (if view.refreshMore = true ∧ view.state = .refreshing then
      view.lastBottomDelta else 0) = 0 := by
    split
    next hstate => exact (hneutral.2 hstate.2).2
    · rfl
  rw [bottomShare, if_neg hother, hheight, hdelta, add_zero, ite_self]

/-- An attached footer that refreshes by itself has its height as its share while it is shown. -/
theorem bottom_share_auto (hauto : view.refreshMore = true ∧ view.refreshBack = false)
    (hobserving : view.observing = true) :
    view.bottomShare = if view.hidden then 0 else view.frame.height := by
  rw [bottomShare, if_neg (by simp [hobserving]), if_pos hauto]

end RefreshView

namespace Conserved

variable {inset : UIEdgeInsets} {layout : Layout κ} {s t : World κ}

omit [DecidableEq κ] in
/-- The share of a view that has just been attached is the room it has made. -/
theorem bottom_share_attach {bottom : CGFloat} (hmoved : Moved true bottom s t)
    (henter : s.view.MayEnter) : t.view.bottomShare = s.view.roomOnAttach := by
  have hshape := hmoved.shape
  simp only [RefreshView.shape, Shape.mk.injEq] at hshape
  obtain ⟨hmore, hback, _, hhidden, _, hobserving, hheight⟩ := hshape
  unfold RefreshView.roomOnAttach
  by_cases hauto : s.view.refreshMore = true ∧ s.view.refreshBack = false
  · rw [RefreshView.bottom_share_auto (hmore ▸ hback ▸ hauto) hobserving, hhidden, hheight]
    cases s.view.hidden <;> simp [hauto]
  · have hneutral : t.view.Neutral := by
      unfold RefreshView.Neutral
      rw [hhidden, hheight, hmore, hmoved.state, hmoved.lastBottomDelta]
      exact henter.resolve_left hauto
    rw [RefreshView.bottom_share_neutral (by rw [hmore, hback]; exact hauto) hneutral,
      if_neg fun h => hauto ⟨h.1, h.2.1⟩]

omit [DecidableEq κ] in
/-- The share of an attached view that is removed is what its removal takes from the inset. -/
theorem bottom_share_detach (hobserving : s.view.observing = true)
    (hleave : s.view.MayLeave s.scrollView) :
    (if s.view.refreshMore = true ∧ s.view.refreshBack = false ∧ s.view.hidden = false then
        s.view.scrollViewOriginalInset.bottom - s.view.frame.height
      else s.scrollView.mjInset.bottom) = s.scrollView.mjInset.bottom - s.view.bottomShare := by
  unfold RefreshView.MayLeave at hleave
  by_cases hauto : s.view.refreshMore = true ∧ s.view.refreshBack = false
  · rw [if_pos hauto] at hleave
    rw [RefreshView.bottom_share_auto hauto hobserving]
    cases hhidden : s.view.hidden with
    | true => simp
    | false =>
        have hfound := hleave.resolve_left (by simp [hhidden])
        simp [hauto, hfound]
  · rw [if_neg hauto] at hleave
    rw [RefreshView.bottom_share_neutral hauto hleave, if_neg fun h => hauto ⟨h.1, h.2.1⟩, sub_zero]

/-- A view without a share of the insets, or a footer that makes room for itself, is attached. -/
theorem attach (h : Conserved inset layout s) (hdetached : s.view.observing = false)
    (henter : s.view.MayEnter)
    (hheader : (layout.shape layout.current).refreshMore = false →
      ∀ id ∈ layout.attached, (layout.shape id).refreshMore = true)
    (hmoved : Moved true (s.scrollView.mjInset.bottom + s.view.roomOnAttach) s t) :
    Conserved inset (layout.join hheader) t := by
  have hself : t.cellOf s.rest.current = t.cell := cell_of_self hmoved.rest
  have hothers : ∀ id, id ≠ s.rest.current → t.cellOf id = s.cellOf id :=
    fun id hid => World.cell_of_congr hmoved.rest hid
  have houtside : s.rest.current ∉ layout.attached := by
    rw [h.current, ← h.observing_iff, hdetached]
    simp
  have hshape := hmoved.shape
  simp only [RefreshView.shape, Shape.mk.injEq] at hshape
  obtain ⟨hmore, _, _, _, _, hobserving, _⟩ := hshape
  refine h.replace hmoved.rest rfl rfl ?_ ⟨fun hm => ?_, fun hm _ => ?_, fun _ hobs => ?_⟩
    (by rw [hmoved.inset]) (by rw [hmoved.inset]) (fun hnone => ?_) ?_
  · show Function.update layout.shape layout.current
      { layout.shape layout.current with linked := true, observing := true } = _
    rw [hmoved.shape, h.shape_current]
    rfl
  · exact hmoved.enlarges.not.mpr (h.cell.pending (hmore ▸ hm))
  · -- no other header is attached, so the top inset is not enlarged
    show t.view.scrollViewOriginalInset.top = inset.top
    rw [hmoved.original, if_pos rfl]
    refine h.top fun other hother hraises => ?_
    have hfooter := hheader (by rw [← h.shape_current]; exact hmore.symm.trans hm) other hother
    rw [← h.shape] at hfooter
    exact absurd (hfooter.symm.trans hraises.2.1) (by simp)
  · exact absurd (hobserving.symm.trans hobs) (by simp)
  · rw [hmoved.inset]
    refine h.top fun id hid hraises => hnone id (Finset.mem_insert_of_mem hid) ?_
    rw [hothers id fun heq => houtside (heq ▸ hid)]
    exact hraises
  · have htotal : t.scrollView.mjInset.bottom =
        s.scrollView.mjInset.bottom + (t.cellOf s.rest.current).view.bottomShare := by
      rw [hself, hmoved.inset]
      exact congrArg _ (bottom_share_attach hmoved henter).symm
    have hjoin : Balanced inset.bottom t.scrollView.mjInset.bottom
        (insert s.rest.current layout.attached) fun id => (t.cellOf id).view.bottomShare :=
      h.bottom.join houtside (fun id hid => by rw [hothers id hid]) htotal
    rw [h.current] at hjoin
    exact hjoin

/-- A view without a share of the insets, or a footer that finds the inset as it remembers it, is
removed. -/
theorem detach (h : Conserved inset layout s) (hobserving : s.view.observing = true)
    (hleave : s.view.MayLeave s.scrollView) (hmoved : Moved false
      (if s.view.refreshMore = true ∧ s.view.refreshBack = false ∧ s.view.hidden = false then
        s.view.scrollViewOriginalInset.bottom - s.view.frame.height
      else s.scrollView.mjInset.bottom) s t) :
    Conserved inset layout.leave t := by
  have hothers : ∀ id, id ≠ s.rest.current → t.cellOf id = s.cellOf id :=
    fun id hid => World.cell_of_congr hmoved.rest hid
  have hinside : s.rest.current ∈ layout.attached := by
    rw [h.current, ← h.observing_iff, hobserving]
  have hshape := hmoved.shape
  simp only [RefreshView.shape, Shape.mk.injEq, Bool.false_or] at hshape
  obtain ⟨hmore, hback, _, _, hlinked, _, _⟩ := hshape
  -- a header is not refreshing when it is removed
  have hresting : s.view.state = .refreshing → s.view.refreshMore = true ∧
      (s.view.refreshBack = true → s.view.lastBottomDelta = 0) := by
    intro hstate
    unfold RefreshView.MayLeave at hleave
    split at hleave
    next hauto => exact ⟨hauto.1, fun hb => absurd (hauto.2.symm.trans hb) (by simp)⟩
    · exact ⟨(hleave.2 hstate).1, fun _ => (hleave.2 hstate).2⟩
  refine h.replace hmoved.rest rfl rfl ?_ ⟨fun hm => ?_, fun hm hl => ?_, fun _ _ hs => ?_⟩
    (by rw [hmoved.inset]) (by rw [hmoved.inset]) (fun hnone => ?_) ?_
  · show Function.update layout.shape layout.current
      { layout.shape layout.current with observing := false } = _
    rw [hmoved.shape, ← h.shape_current]
    rfl
  · exact hmoved.enlarges.not.mpr (h.cell.pending (hmore ▸ hm))
  · show t.view.scrollViewOriginalInset.top = inset.top
    rw [hmoved.original, if_neg (by simp)]
    exact h.cell.original (hmore ▸ hm) (hlinked ▸ hl)
  · have hrest := hresting (hmoved.state ▸ hs)
    exact ⟨hmore.trans hrest.1, fun hb => hmoved.lastBottomDelta.trans (hrest.2 (hback ▸ hb))⟩
  · rw [hmoved.inset]
    refine h.top fun id hid hraises => ?_
    by_cases heq : id = s.rest.current
    · rw [heq, World.cell_of_current] at hraises
      exact absurd ((hresting hraises.2.2).1.symm.trans hraises.2.1) (by simp)
    · refine hnone id (Finset.mem_erase.mpr ⟨h.current ▸ heq, hid⟩) ?_
      rw [hothers id heq]
      exact hraises
  · have htotal : t.scrollView.mjInset.bottom =
        s.scrollView.mjInset.bottom - (s.cellOf s.rest.current).view.bottomShare := by
      rw [World.cell_of_current, hmoved.inset]
      exact bottom_share_detach hobserving hleave
    have hleft : Balanced inset.bottom t.scrollView.mjInset.bottom
        (layout.attached.erase s.rest.current) fun id => (t.cellOf id).view.bottomShare :=
      h.bottom.leave hinside (fun id hid => by rw [hothers id hid]) htotal
    rw [h.current] at hleft
    exact hleft

end Conserved

end Component.Refresh

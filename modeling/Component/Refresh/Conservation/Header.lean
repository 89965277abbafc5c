import Component.Refresh.Conservation.Shares

/-!
# The insets and a header

A header has the top inset for itself while it refreshes. It starts to refresh before it enlarges
the inset, and it brings the inset back to the one it remembers when the refresh ends
(`Conserved.restore_top`). Its blocks and completions may enlarge the inset only during a refresh
(`Conserved.enlarge_top`).
-/

namespace Component.Refresh

variable {κ : Type} [DecidableEq κ]

namespace Conserved

variable {inset : UIEdgeInsets} {layout : Layout κ} {s t : World κ}

/-! ## The state -/

/-- An attached header starts to refresh, and the inset is not enlarged yet. -/
theorem header_refreshing_action (h : Conserved inset layout s)
    (hheader : s.view.refreshMore = false) :
    Conserved inset layout (MJRefreshView.headerRefreshingAction s) := by
  have hfooter : ∀ {P : Prop}, s.view.refreshMore = true → P := by
    intro P hmore
    exact absurd (hheader.symm.trans hmore) (by simp)
  unfold MJRefreshView.headerRefreshingAction
  split
  · split
    · have henabled := h.update_scroll (f := UIScrollView.setUserInteractionEnabled false)
        fun _ => rfl
      refine henabled.animate ?_
      rw [Sys.update_scroll_view]
      exact hfooter
    · exact h.dispatch_async (by simp)
  · exact h.dispatch_async hfooter

/-- An attached header that starts to refresh has the top inset for itself. -/
theorem store_state_header (h : Conserved inset layout s) (hheader : s.view.refreshMore = false)
    (hobserving : s.view.observing = true) :
    Conserved inset layout (MJRefreshComponent.setState .refreshing s) := by
  refine h.update rfl rfl ⟨h.cell.pending, h.cell.original, fun _ hdetached _ => ?_⟩ rfl rfl
    (.inr (.inl ⟨hobserving, hheader, rfl⟩)) ?_
  · exact absurd (hobserving.symm.trans hdetached) (by simp)
  · have hshare : (MJRefreshComponent.setState .refreshing s).view.bottomShare =
        s.view.bottomShare := by
      simp [RefreshView.bottomShare, hheader]
    rw [hshare]
    rfl

/-- A header that is not attached does not refresh. -/
theorem observing_of_refreshing (h : Conserved inset layout s)
    (hheader : s.view.refreshMore = false) (hstate : s.view.state = .refreshing)
    (hlinked : s.view.linked = true) : s.view.observing = true := by
  by_contra hobserving
  have hmore := (h.cell.atRest hlinked (Bool.not_eq_true _ ▸ hobserving) hstate).1
  exact absurd (hheader.symm.trans hmore) (by simp)

/-- The top inset is brought back at the end of a refresh. -/
theorem restore_top (h : Conserved inset layout s) (hheader : s.view.refreshMore = false)
    (hcurrent : DeltaCurrent s) :
    Conserved inset layout ((MJRefreshComponent.setState .idle s).setScrollAsixInsetTop
      ((MJRefreshComponent.setState .idle s).scrollAsixInsetTop + s.view.insetTDelta)) := by
  have hshare : (MJRefreshComponent.setState .idle s).view.bottomShare = s.view.bottomShare := by
    simp [RefreshView.bottomShare, hheader]
  have hcell : (MJRefreshComponent.setState .idle s).cell.Kept inset.top :=
    ⟨h.cell.pending, h.cell.original, fun _ _ hs => by cases hs⟩
  rw [Sys.setScrollAsixInsetTop, if_neg (by simp [h.vertical]), Sys.scrollAsixInsetTop,
    if_neg (by simp [h.vertical])]
  cases hlinked : s.view.linked with
  | true =>
      have hback : s.scrollView.mjInset.top + s.view.insetTDelta = inset.top := by
        rw [hcurrent, ← h.cell.original hheader hlinked]
        show _ + (s.view.scrollViewOriginalInset.top - _) = s.view.scrollViewOriginalInset.top
        ring
      rw [Sys.sv_of_linked (s := MJRefreshComponent.setState .idle s) hlinked,
        Sys.update_scroll_of_linked (s := MJRefreshComponent.setState .idle s) hlinked]
      refine h.update rfl rfl ⟨hcell.pending, hcell.original, hcell.atRest⟩ ?_ ?_
        (.inr (.inr ?_)) ?_
      · simp
      · simp
      · simpa using hback
      · simp [hshare]
  | false =>
      -- a view that is not linked writes to no scroll view, and has no share of the insets
      have hobserving : s.view.observing = true → False := by
        intro hobserving
        exact absurd (hlinked.symm.trans (h.linked hobserving)) (by simp)
      rw [Sys.updateScroll, if_neg (by simp [hlinked])]
      refine h.update rfl rfl hcell rfl rfl
        (.inl ⟨rfl, fun hraises => (hobserving hraises.1).elim⟩) ?_
      rw [hshare]
      rfl

/-- The end of a refresh of a header keeps the insets if `insetTDelta` is current. -/
theorem header_ending_action (h : Conserved inset layout s) (hheader : s.view.refreshMore = false)
    (hcurrent : DeltaCurrent s) :
    Conserved inset layout
      (MJRefreshView.headerEndingAction (MJRefreshComponent.setState .idle s)) := by
  have hrestored := h.restore_top hheader hcurrent
  unfold MJRefreshView.headerEndingAction
  dsimp only
  split
  · have henabled := hrestored.update_scroll
      (f := UIScrollView.setUserInteractionEnabled false) fun _ => rfl
    exact ((henabled.animate (by simp)).fire _).fade_out
  · exact (hrestored.fire _).fade_out.animate (by simp)

/-! ## The inset that is found and the one that is set -/

/-- While a header refreshes it has the top inset for itself. -/
theorem set_inset_top (h : Conserved inset layout s) {value : CGFloat}
    (hvalue : s.view.RaisesTop ∨ value = inset.top) :
    Conserved inset layout (s.mapScroll (UIScrollView.setMjInsetT value)) := by
  refine h.update rfl rfl h.cell (by simp) (by simp) ?_ (by simp)
  rcases hvalue with hraises | hvalue
  · exact .inr (.inl hraises)
  · exact .inr (.inr (by simp [hvalue]))

/-- A refreshing header may adjust the top inset. -/
theorem reset_inset (h : Conserved inset layout s) (hraises : s.view.RaisesTop) :
    Conserved inset layout (MJRefreshView.resetInset s) := by
  unfold MJRefreshView.resetInset
  split
  · exact h
  · have hdelta : ∀ delta, Conserved inset layout
        (s.mapView fun view => { view with insetTDelta := delta }) :=
      fun _ => h.congr rfl rfl rfl rfl rfl rfl rfl rfl
    dsimp only
    split
    · rw [Sys.setScrollAsixInsetTop, if_neg (by simp [h.vertical]),
        Sys.update_scroll_of_linked (by exact h.linked hraises.1)]
      exact (hdelta _).set_inset_top (.inl hraises)
    · exact hdelta _

/-- An attached header that does not refresh finds the top inset as it was. -/
theorem top_at_rest (h : Conserved inset layout s) (hheader : s.view.refreshMore = false)
    (hobserving : s.view.observing = true) (hstate : s.view.state ≠ .refreshing) :
    s.scrollView.mjInset.top = inset.top := by
  -- an attached header that raises the inset is the only header, so it is this one
  refine h.top fun id hid hraises => ?_
  have hother : (layout.shape id).refreshMore = false := by
    rw [← h.shape]
    exact hraises.2.1
  have hself : (layout.shape layout.current).refreshMore = false := by
    rw [← h.shape_current]
    exact hheader
  have heq := layout.oneHeader id hid _ (h.observing_iff.mp hobserving) hother hself
  rw [heq, ← h.current, World.cell_of_current] at hraises
  exact hstate hraises.2.2

/-- A view that may remember the inset it finds. -/
theorem remember_inset (h : Conserved inset layout s) (hobserving : s.view.observing = true)
    (hstate : s.view.refreshMore = false → s.view.state ≠ .refreshing) :
    Conserved inset layout (MJRefreshComponent.rememberInset s) := by
  refine h.update rfl rfl ⟨h.cell.pending, fun hheader _ => ?_, h.cell.atRest⟩ rfl rfl
    (.inl ⟨rfl, id⟩) rfl
  show s.sv.mjInset.top = inset.top
  rw [h.sv_eq hobserving]
  exact h.top_at_rest hheader hobserving (hstate hheader)

/-! ## Blocks and completions -/

/-- A header enlarges the top inset while it refreshes. -/
theorem enlarge_top (h : Conserved inset layout s) {notify : Notify (Others κ)}
    (hnotify : Conserves notify) (hheader : s.view.refreshMore = false)
    (haligned : s.view.linked = true → s.view.state = .refreshing ∨ s.view.frame.height = 0)
    (offset : CGPoint) :
    Conserved inset layout ((s.updateScroll (UIScrollView.setMjInsetT
      (s.view.scrollViewOriginalInset.top + s.view.frame.height))).setContentOffset notify
        offset) := by
  refine set_content_offset ?_ hnotify offset
  unfold Sys.updateScroll
  split
  next hlinked =>
    refine h.set_inset_top ?_
    rcases haligned hlinked with hstate | hheight
    · exact .inl ⟨h.observing_of_refreshing hheader hstate hlinked, hheader, hstate⟩
    · right
      rw [hheight, add_zero]
      exact h.cell.original hheader hlinked
  · exact h

/-- The block of a header keeps the insets while the header refreshes, or if it adds nothing. -/
theorem header_refreshing_block (h : Conserved inset layout s) {notify : Notify (Others κ)}
    (hnotify : Conserves notify) (hheader : s.view.refreshMore = false)
    (haligned : s.view.state = .refreshing ∨ s.scrollView.panState = .cancelled ∨
      s.view.frame.height = 0) :
    Conserved inset layout (MJRefreshView.headerRefreshingBlock notify s) := by
  unfold MJRefreshView.headerRefreshingBlock
  simp only [RefreshView.scrollAsixOriginInsetTop, RefreshView.asxiHeight,
    Sys.setScrollAsixOriginInsetTop, Sys.setScrollAsixOffsetY, Sys.update_scroll_view, h.vertical,
    Bool.false_eq_true, if_false]
  refine animate ?_ (by simp)
  split
  next hpan =>
    refine h.enlarge_top hnotify hheader (fun hlinked => ?_) _
    rw [Sys.sv_of_linked hlinked] at hpan
    rcases haligned with haligned | haligned | haligned
    · exact .inl haligned
    · exact absurd haligned hpan
    · exact .inr haligned
  · exact h

/-- The end of an animation of the bounds keeps the insets if the refresh is not over by then. -/
theorem animation_did_stop (h : Conserved inset layout s) {notify : Notify (Others κ)}
    (hnotify : Conserves notify) {key : AnimationKey}
    (haligned : key = .refreshingBounds → s.view.refreshMore = false ∧
      (s.view.state = .refreshing ∨ s.view.state = .idle ∨ s.view.frame.height = 0)) :
    Conserved inset layout (MJRefreshView.animationDidStop notify key s) := by
  unfold MJRefreshView.animationDidStop
  dsimp only
  cases key with
  | refreshing2IdleBounds =>
      exact ((h.set_pulling_percent 0).update_scroll
        (f := UIScrollView.setUserInteractionEnabled true) fun _ => rfl).fire _
  | refreshingBounds =>
      obtain ⟨hheader, hstate⟩ := haligned rfl
      dsimp only
      refine (update_scroll (f := UIScrollView.setUserInteractionEnabled true) ?_
        fun _ => rfl).dispatch_async (by simp)
      split
      next hidle =>
        refine h.enlarge_top hnotify hheader (fun _ => ?_) _
        rcases hstate with hstate | hstate | hstate
        · exact .inl hstate
        · exact absurd hstate hidle
        · exact .inr hstate
      · exact h

end Conserved

end Component.Refresh

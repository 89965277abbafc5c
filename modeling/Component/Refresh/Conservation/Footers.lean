import Component.Refresh.Conservation.Shares

/-!
# The insets and the state of a footer

A footer that refreshes by itself has the same share of the bottom inset in every state. A footer
that is pulled enlarges the bottom inset when it starts to refresh and takes back what it added
when the refresh ends.
-/

namespace Component.Refresh

variable {κ : Type} [DecidableEq κ]

namespace Conserved

variable {inset : UIEdgeInsets} {layout : Layout κ} {s t : World κ}

/-! ## Footers that refresh by themselves -/

/-- The state of a footer that refreshes by itself has nothing to do with the insets. -/
theorem store_state_auto (h : Conserved inset layout s) (hmore : s.view.refreshMore = true)
    (hauto : s.view.refreshBack = false) (state : MJRefreshState) :
    Conserved inset layout (MJRefreshComponent.setState state s) := by
  refine h.update rfl rfl ⟨h.cell.pending, h.cell.original, fun _ _ _ => ⟨hmore, fun hback => ?_⟩⟩
    rfl rfl (.inl ⟨rfl, fun hraises => ?_⟩) ?_
  · exact absurd (hauto.symm.trans hback) (by simp)
  · exact absurd (hmore.symm.trans hraises.2.1) (by simp)
  · have hshare : (MJRefreshComponent.setState state s).view.bottomShare = s.view.bottomShare := by
      simp [RefreshView.bottomShare, hmore, hauto]
    rw [hshare]
    rfl

/-- The state handler of footers that refresh by themselves keeps the insets. -/
theorem auto_footer_state_did_change (h : Conserved inset layout s) {notify : Notify (Others κ)}
    (hnotify : Conserves notify) (oldState state : MJRefreshState) :
    Conserved inset layout (MJRefreshView.autoFooterStateDidChange notify oldState state s) := by
  unfold MJRefreshView.autoFooterStateDidChange
  dsimp only
  have hended := h.end_trigger
  split
  · exact h.dispatch_async (by simp)
  · split
    · split
      · split
        · exact ((hended.set_content_offset hnotify _).fire _).animate (by simp)
        · exact hended.fire _
      · exact hended
    · exact h

/-! ## Footers that are pulled -/

/-- The state of a footer that is pulled when it does not refresh. -/
theorem bottom_share_back {view : RefreshView} (hmore : view.refreshMore = true)
    (hback : view.refreshBack = true) (hobserving : view.observing = true) :
    view.bottomShare = (if view.hidden then -view.frame.height else 0) +
      if view.state = .refreshing then view.lastBottomDelta else 0 := by
  simp [RefreshView.bottomShare, hmore, hback, hobserving]

omit [DecidableEq κ] in
/-- What the start of a refresh writes. -/
theorem back_footer_enlarge_eq (hlinked : s.view.linked = true) : ∃ bottom count,
    MJRefreshView.backFooterEnlarge s =
      (s.mapView fun view => { view with
        lastRefreshCount := count
        lastBottomDelta := bottom - s.scrollView.mjInset.bottom }).mapScroll
          (UIScrollView.setMjInsetB bottom) := by
  unfold MJRefreshView.backFooterEnlarge
  dsimp only
  generalize MJRefreshView.backFooterInsetBottom _ = bottom
  rw [Sys.update_scroll_of_linked (by exact hlinked), Sys.sv_of_linked (by exact hlinked)]
  exact ⟨bottom, _, rfl⟩

/-- An attached footer that is pulled starts to refresh: the inset is enlarged by the difference
that is remembered. -/
theorem back_footer_enlarge (h : Conserved inset layout s) (hmore : s.view.refreshMore = true)
    (hback : s.view.refreshBack = true) (hobserving : s.view.observing = true)
    (hstate : s.view.state ≠ .refreshing) :
    Conserved inset layout
      (MJRefreshView.backFooterEnlarge (MJRefreshComponent.setState .refreshing s)) := by
  obtain ⟨bottom, count, henlarged⟩ :=
    back_footer_enlarge_eq (s := MJRefreshComponent.setState .refreshing s) (h.linked hobserving)
  rw [henlarged]
  refine h.update rfl rfl ⟨h.cell.pending, h.cell.original, fun _ hdetached _ => ?_⟩ ?_ ?_
    (.inl ⟨?_, fun hraises => ?_⟩) ?_
  · exact absurd (hobserving.symm.trans hdetached) (by simp)
  · simp
  · simp
  · simp
  · exact absurd (hmore.symm.trans hraises.2.1) (by simp)
  · rw [bottom_share_back hmore hback hobserving, bottom_share_back (by exact hmore)
      (by exact hback) (by exact hobserving)]
    simp [hstate]
    ring

/-- A view that is not linked is not attached. -/
theorem observing_of_linked_false (h : Conserved inset layout s) (hlinked : s.view.linked = false) :
    s.view.observing = false := by
  rw [← Bool.not_eq_true]
  intro hobserving
  exact absurd (hlinked.symm.trans (h.linked hobserving)) (by simp)

/-- A footer that is pulled ends a refresh: the difference is taken back. -/
theorem back_footer_shrink (h : Conserved inset layout s) (hmore : s.view.refreshMore = true)
    (hback : s.view.refreshBack = true) (hstate : s.view.state = .refreshing) :
    Conserved inset layout ((MJRefreshComponent.setState .idle s).updateScroll fun sv =>
      sv.setMjInsetB (sv.mjInset.bottom - s.view.lastBottomDelta)) := by
  have hraises : ¬ s.view.RaisesTop := fun hraises =>
    absurd (hmore.symm.trans hraises.2.1) (by simp)
  have hcell : (MJRefreshComponent.setState .idle s).cell.Kept inset.top :=
    ⟨h.cell.pending, h.cell.original, fun _ _ hs => by cases hs⟩
  have hdetached : s.view.observing = false →
      (MJRefreshComponent.setState .idle s).view.bottomShare = 0 :=
    fun hobserving => RefreshView.bottom_share_detached hobserving
  cases hlinked : s.view.linked with
  | true =>
      rw [Sys.update_scroll_of_linked (s := MJRefreshComponent.setState .idle s) hlinked]
      refine h.update rfl rfl ⟨hcell.pending, hcell.original, hcell.atRest⟩ (by simp) (by simp)
        (.inl ⟨by simp, fun h => absurd h hraises⟩) ?_
      cases hobserving : s.view.observing with
      | true =>
          rw [bottom_share_back hmore hback hobserving, bottom_share_back (by exact hmore)
            (by exact hback) (by exact hobserving)]
          simp [hstate]
          ring
      | false =>
          have hdelta := (h.cell.atRest hlinked hobserving hstate).2 hback
          have hdelta' : s.view.lastBottomDelta = 0 := hdelta
          rw [RefreshView.bottom_share_detached hobserving, Sys.mapScroll_view,
            hdetached hobserving, hdelta']
          simp
  | false =>
      have hobserving := h.observing_of_linked_false hlinked
      rw [Sys.updateScroll, if_neg (by simp [hlinked])]
      refine h.update rfl rfl hcell rfl rfl (.inl ⟨rfl, fun h => absurd h hraises⟩) ?_
      rw [RefreshView.bottom_share_detached hobserving, hdetached hobserving]
      rfl

/-- The end of a refresh of a footer that is pulled keeps the insets. -/
theorem back_footer_ending_action (h : Conserved inset layout s)
    (hmore : s.view.refreshMore = true) (hback : s.view.refreshBack = true)
    (hstate : s.view.state = .refreshing) :
    Conserved inset layout
      (MJRefreshView.backFooterEndingAction (MJRefreshComponent.setState .idle s)) := by
  have hshrunk := (h.fire .endRefreshingAnimationBegin).back_footer_shrink hmore hback hstate
  exact hshrunk.fade_out.animate (by simp)

end Conserved

end Component.Refresh

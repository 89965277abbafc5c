import Component.Refresh.Conservation.Footers
import Component.Refresh.Conservation.Header

/-!
# The handlers of a refresh view keep the insets

What headers and footers do comes together here: setting the state, the handlers of the content
offset for one view and for all attached views (`conserves_notify_within`), the blocks on the main
queue, the completions of animations, and hiding and showing a view.
-/

namespace Component.Refresh

variable {κ : Type} [DecidableEq κ]

namespace Conserved

variable {inset : UIEdgeInsets} {layout : Layout κ} {s t : World κ}

/-! ## Setting the state -/

/-- The start of a refresh of an attached view. -/
theorem set_state_refreshing (h : Conserved inset layout s) {notify : Notify (Others κ)}
    (hnotify : Conserves notify) (hobserving : s.view.observing = true)
    (hnew : MJRefreshState.refreshing ≠ s.view.state) :
    Conserved inset layout (MJRefreshView.setState notify .refreshing s) := by
  cases hmore : s.view.refreshMore with
  | false =>
      rw [MJRefreshView.set_state_header _ hmore hnew]
      exact (h.store_state_header hmore hobserving).header_refreshing_action hmore
  | true =>
      cases hback : s.view.refreshBack with
      | false =>
          rw [MJRefreshView.set_state_auto _ hmore hback hnew]
          exact (h.store_state_auto hmore hback _).auto_footer_state_did_change hnotify _ _
      | true =>
          rw [MJRefreshView.set_state_back _ hmore hback hnew]
          have henlarged := h.back_footer_enlarge hmore hback hobserving hnew.symm
          exact (henlarged.set_content_offset hnotify _).animate (by simp)

/-- The end of a refresh. -/
theorem set_state_ending (h : Conserved inset layout s) {notify : Notify (Others κ)}
    (hnotify : Conserves notify) (hold : s.view.state = .refreshing)
    (hcurrent : s.view.refreshMore = false → DeltaCurrent s) :
    Conserved inset layout (MJRefreshView.setState notify .idle s) := by
  have hnew : MJRefreshState.idle ≠ s.view.state := by simp [hold]
  cases hmore : s.view.refreshMore with
  | false =>
      rw [MJRefreshView.set_state_header _ hmore hnew, MJRefreshView.headerStateDidChange,
        if_pos rfl, if_neg (not_not.mpr hold)]
      exact h.header_ending_action hmore (hcurrent hmore)
  | true =>
      cases hback : s.view.refreshBack with
      | false =>
          rw [MJRefreshView.set_state_auto _ hmore hback hnew]
          exact (h.store_state_auto hmore hback _).auto_footer_state_did_change hnotify _ _
      | true =>
          rw [MJRefreshView.set_state_back _ hmore hback hnew,
            MJRefreshView.backFooterStateDidChange, if_pos (.inr rfl), if_pos hold]
          have hended := h.back_footer_ending_action hmore hback hold
          dsimp only
          split
          · exact hended.set_content_offset hnotify _
          · exact hended

/-- A state that is set outside a refresh. -/
theorem set_state_outside (h : Conserved inset layout s) {notify : Notify (Others κ)}
    (hnotify : Conserves notify) {state : MJRefreshState} (hnew : state ≠ s.view.state)
    (hold : s.view.state ≠ .refreshing) (hstate : state ≠ .refreshing) :
    Conserved inset layout (MJRefreshView.setState notify state s) := by
  have hstored := h.store_state hold hstate
  cases hmore : s.view.refreshMore with
  | false =>
      rw [MJRefreshView.set_state_header _ hmore hnew, MJRefreshView.headerStateDidChange,
        if_pos hold, if_neg hstate, ite_self]
      exact hstored
  | true =>
      cases hback : s.view.refreshBack with
      | false =>
          rw [MJRefreshView.set_state_auto _ hmore hback hnew]
          exact hstored.auto_footer_state_did_change hnotify _ _
      | true =>
          rw [MJRefreshView.set_state_back _ hmore hback hnew]
          simp only [MJRefreshView.backFooterStateDidChange, hold, hstate, if_false, false_and,
            ite_self]
          exact hstored

/-- Setting the state of a view keeps the insets if only attached views start to refresh, and a
refresh ends with the idle state and a current `insetTDelta`. -/
theorem set_state (h : Conserved inset layout s) {notify : Notify (Others κ)}
    (hnotify : Conserves notify) {state : MJRefreshState}
    (hbegin : state = .refreshing → s.view.observing = true)
    (hend : s.view.state = .refreshing → state ≠ .refreshing →
      state = .idle ∧ (s.view.refreshMore = false → DeltaCurrent s)) :
    Conserved inset layout (MJRefreshView.setState notify state s) := by
  by_cases hsame : state = s.view.state
  · rw [MJRefreshView.set_state_self _ hsame]
    exact h
  by_cases hnew : state = .refreshing
  · subst hnew
    exact h.set_state_refreshing hnotify (hbegin rfl) hsame
  by_cases hold : s.view.state = .refreshing
  · obtain ⟨rfl, hcurrent⟩ := hend hold hnew
    exact h.set_state_ending hnotify hold hcurrent
  · exact h.set_state_outside hnotify hsame hold hnew

/-- Beginning a refresh of an attached view keeps the insets. -/
theorem begin_refreshing (h : Conserved inset layout s) {notify : Notify (Others κ)}
    (hnotify : Conserves notify) (hobserving : s.view.observing = true) :
    Conserved inset layout (MJRefreshView.beginRefreshing notify s) := by
  have hstart : Conserved inset layout (MJRefreshComponent.setPullingPercent 1
      (s.mapView fun view => { view with alpha := 1 })) :=
    h.congr rfl rfl rfl rfl rfl rfl rfl rfl
  unfold MJRefreshView.beginRefreshing MJRefreshComponent.beginRefreshing
  dsimp only
  split
  · exact h
  · split
    · exact hstart.set_state hnotify (fun _ => hobserving) (fun _ hne => absurd rfl hne)
    · split
      next hstate => exact hstart.set_state hnotify (by simp) (fun hs => absurd hs hstate)
      · exact hstart

/-! ## Notifications -/

/-- The end of the content offset handlers of headers and of footers that are pulled. -/
theorem pulling_did_change (h : Conserved inset layout s) {notify : Notify (Others κ)}
    (hnotify : Conserves notify) (hobserving : s.view.observing = true) (pulled : Bool)
    (percent : CGFloat) :
    Conserved inset layout (MJRefreshView.pullingDidChange notify pulled percent s) := by
  have hpercent := h.set_pulling_percent percent
  unfold MJRefreshView.pullingDidChange MJRefreshComponent.pullingDidChange
  dsimp only
  split
  · split
    next hidle =>
      refine hpercent.set_state hnotify (by simp) (fun hs => ?_)
      exact absurd (hidle.1.symm.trans hs) (by simp)
    · split
      next hpulling =>
        refine hpercent.set_state hnotify (by simp) (fun hs => ?_)
        exact absurd (hpulling.1.symm.trans hs) (by simp)
      · exact hpercent
  · split
    · exact h.begin_refreshing hnotify hobserving
    · split
      · exact hpercent
      · exact h

/-- The content offset handlers of attached views keep the insets. -/
theorem content_offset_did_change (h : Conserved inset layout s) {notify : Notify (Others κ)}
    (hnotify : Conserves notify) (hobserving : s.view.observing = true) (old new : CGPoint) :
    Conserved inset layout
      (MJRefreshView.scrollViewContentOffsetDidChange notify old new s) := by
  unfold MJRefreshView.scrollViewContentOffsetDidChange
  split
  next hmore =>
    have hremember := h.remember_inset hobserving
      (fun hheader => absurd (hmore.symm.trans hheader) (by simp))
    split
    · unfold MJRefreshView.backFooterContentOffsetDidChange
      dsimp only
      split
      · exact h
      · split
        · exact hremember
        · split
          · exact hremember.set_pulling_percent _
          · exact hremember.pulling_did_change hnotify hobserving _ _
    · unfold MJRefreshView.autoFooterContentOffsetDidChange
      dsimp only
      split
      · exact h
      · split
        · split
          · split
            · exact h
            · refine begin_refreshing ?_ hnotify hobserving
              exact h.congr rfl rfl rfl rfl rfl rfl rfl rfl
          · exact h
        · exact h
  next hmore =>
    have hheader : s.view.refreshMore = false := Bool.not_eq_true _ ▸ hmore
    unfold MJRefreshView.headerContentOffsetDidChange
    dsimp only
    split
    next hstate => exact h.reset_inset ⟨hobserving, hheader, hstate⟩
    next hstate =>
      have hremember := h.remember_inset hobserving (fun _ => hstate)
      split
      · exact hremember
      · exact hremember.pulling_did_change hnotify hobserving _ _

/-- A notification about the content offset keeps the insets, since it reaches attached views
only. -/
theorem observe_content_offset (h : Conserved inset layout s) {notify : Notify (Others κ)}
    (hnotify : Conserves notify) (old new : CGPoint) :
    Conserved inset layout
      (MJRefreshView.refreshClass.observeContentOffset notify old new s) := by
  unfold RefreshClass.observeContentOffset
  split
  next hdelivers =>
    simp only [Bool.and_eq_true] at hdelivers
    exact h.content_offset_did_change hnotify hdelivers.1.1 old new
  · exact h

end Conserved

/-- The same layout while another view is talked to. -/
def Layout.focus (layout : Layout κ) (id : κ) : Layout κ := { layout with current := id }

/-- Talking to another view keeps the insets. -/
theorem Conserved.switch_to {inset : UIEdgeInsets} {layout : Layout κ} {s : World κ}
    (h : Conserved inset layout s) (id : κ) :
    Conserved inset (layout.focus id) (s.switchTo id) := by
  refine ⟨rfl, h.slot, fun other => ?_, fun other => ?_, h.left, h.right, ?_, ?_⟩
  · rw [World.cell_of_switch_to]
    exact h.shape other
  · rw [World.cell_of_switch_to]
    exact h.cells other
  · simp only [World.cell_of_switch_to]
    exact h.top
  · simp only [World.cell_of_switch_to]
    exact h.bottom

/-- Telling the attached views about the offset keeps the insets. The induction is on the depth to
which handlers are nested, and for each depth on the views that are still to be told. -/
theorem conserves_notify_within (moreFirst : Bool) (depth : Nat) :
    Conserves (World.notifyWithin moreFirst depth : Notify (Others κ)) := by
  induction depth with
  | zero => exact fun _ _ _ _ _ h => h
  | succ depth ih =>
      intro inset layout old new s h
      have hfold : ∀ (ids : List κ) (t : World κ), (∃ id, Conserved inset (layout.focus id) t) →
          ∃ id, Conserved inset (layout.focus id) (ids.foldl (fun t id =>
            MJRefreshView.refreshClass.observeContentOffset
              (World.notifyWithin moreFirst depth) old new (t.switchTo id)) t) := by
        intro ids
        induction ids with
        | nil => exact fun _ ht => ht
        | cons id ids ihids =>
            rintro t ⟨_, ht⟩
            exact ihids _ ⟨id, (ht.switch_to id).observe_content_offset ih old new⟩
      obtain ⟨_, hnotified⟩ := hfold (s.observers moreFirst) s ⟨layout.current, h⟩
      have hback := hnotified.switch_to s.rest.current
      rw [h.current] at hback
      show Conserved inset layout (World.switchTo s.rest.current _)
      rw [h.current]
      exact hback

namespace Conserved

variable {inset : UIEdgeInsets} {layout : Layout κ} {s t : World κ}

/-! ## What is pending -/

/-- The block at the head of the main queue runs. -/
theorem main_queue (h : Conserved inset layout s) {notify : Notify (Others κ)}
    (hnotify : Conserves notify)
    (haligned : s.view.refreshMore = false → InsetAligned s .mainQueue) :
    Conserved inset layout (MJRefreshView.refreshClass.handle notify s .mainQueue) := by
  cases hqueue : s.mainQueue with
  | nil =>
      rw [RefreshClass.handle_main_queue_nil _ _ hqueue]
      exact h
  | cons block blocks =>
      rw [RefreshClass.handle_main_queue_cons _ _ hqueue]
      have hrest : Conserved inset layout ({ s with mainQueue := blocks } : World κ) := by
        refine h.neutral rfl rfl rfl rfl rfl rfl fun hmore hpending => ?_
        refine h.cell.pending hmore (hpending.imp_left fun hmem => ?_)
        show _ ∈ s.mainQueue
        rw [hqueue]
        exact List.mem_cons_of_mem _ hmem
      cases block with
      | endRefreshing =>
          refine hrest.set_state hnotify (by simp) (fun hs _ => ⟨rfl, fun hheader => ?_⟩)
          exact (haligned hheader).2 (by rw [hqueue]; rfl) hs
      | refreshingCallback => exact hrest.fire _
      | headerRefreshing =>
          cases hmore : s.view.refreshMore with
          | true =>
              refine absurd (.inl ?_) (h.cell.pending hmore)
              show _ ∈ s.mainQueue
              rw [hqueue]
              exact List.mem_cons_self
          | false =>
              exact hrest.header_refreshing_block hnotify hmore
                ((haligned hmore).1 (by rw [hqueue]; rfl))

/-- One of the completions runs. -/
theorem completion (h : Conserved inset layout s) {notify : Notify (Others κ)}
    (hnotify : Conserves notify) (index : Nat)
    (haligned : s.view.refreshMore = false → InsetAligned s (.completion index)) :
    Conserved inset layout
      (MJRefreshView.refreshClass.handle notify s (.completion index)) := by
  cases hindex : s.completions[index]? with
  | none =>
      rw [RefreshClass.handle_completion_none _ _ hindex]
      exact h
  | some completion =>
      rw [RefreshClass.handle_completion_some _ _ hindex]
      have hrest : Conserved inset layout
          ({ s with completions := s.completions.eraseIdx index } : World κ) := by
        refine h.neutral rfl rfl rfl rfl rfl rfl fun hmore hpending => ?_
        exact h.cell.pending hmore (hpending.imp_right fun hmem => List.mem_of_mem_eraseIdx hmem)
      cases completion with
      | executeRefreshingCallback => exact hrest.dispatch_async (by simp)
      | endRefreshing => exact (hrest.set_pulling_percent 0).fire _
      | endRefreshingPaging => exact hrest.fire _
      | animationDidStop key =>
          refine hrest.animation_did_stop hnotify fun hkey => ?_
          subst hkey
          cases hmore : s.view.refreshMore with
          | true => exact absurd (.inr (List.mem_of_getElem? hindex)) (h.cell.pending hmore)
          | false => exact ⟨rfl, haligned hmore hindex⟩

end Conserved

/-! ## Hiding and showing -/

/-- The layout after the view that is talked to has been hidden or shown. -/
def Layout.setHidden (layout : Layout κ) (hidden : Bool) : Layout κ where
  current := layout.current
  slot := layout.slot
  attached := layout.attached
  shape := Function.update layout.shape layout.current
    { layout.shape layout.current with hidden := hidden }
  vertical := fun id => by
    rw [Function.update_apply]
    split
    · exact layout.vertical _
    · exact layout.vertical _
  observing := fun id => by
    rw [Function.update_apply]
    split
    next heq => exact heq ▸ layout.observing _
    · exact layout.observing _
  linked := fun id hid => by
    rw [Function.update_apply]
    split
    next heq => exact layout.linked _ (heq ▸ hid)
    · exact layout.linked _ hid
  oneHeader := fun a ha b hb hmore hmore' => by
    have hkind : ∀ id, (Function.update layout.shape layout.current
        { layout.shape layout.current with hidden := hidden } id).refreshMore =
          (layout.shape id).refreshMore := by
      intro id
      rw [Function.update_apply]
      split
      next heq => rw [heq]
      · rfl
    exact layout.oneHeader a ha b hb ((hkind a).symm.trans hmore) ((hkind b).symm.trans hmore')

/-- Hiding or showing changes only `hidden` of the view that is talked to. -/
theorem Layout.set_hidden_current (layout : Layout κ) (hidden : Bool) :
    (layout.setHidden hidden).shape (layout.setHidden hidden).current =
      { layout.shape layout.current with hidden := hidden } :=
  Function.update_self _ _ _

namespace Conserved

variable {inset : UIEdgeInsets} {layout : Layout κ} {s t : World κ}

/-- Hiding an attached view takes its height from its share before it is taken from the inset. -/
theorem store_hidden (h : Conserved inset layout s) {hidden : Bool} {height : CGFloat}
    (hshare : (s.mapView fun view => { view with hidden := hidden }).view.bottomShare + height =
      s.view.bottomShare) :
    Conserved { inset with bottom := inset.bottom + height } (layout.setHidden hidden)
      (s.mapView fun view => { view with hidden := hidden }) := by
  refine h.change rfl rfl rfl rfl ?_ ⟨h.cell.pending, h.cell.original, h.cell.atRest⟩ rfl rfl
    (.inl ⟨rfl, id⟩) ?_
  · show Function.update layout.shape layout.current
      { layout.shape layout.current with hidden := hidden } = _
    rw [← h.shape_current]
    rfl
  · rw [← hshare]
    show s.scrollView.mjInset.bottom - _ - _ = _
    ring

/-- The bottom inset is changed by what it lacks. -/
theorem shift_bottom {difference : CGFloat}
    (h : Conserved { inset with bottom := inset.bottom + difference } layout s)
    (hobserving : s.view.observing = true) (value : UIScrollView → CGFloat)
    (hvalue : ∀ sv, value sv = sv.mjInset.bottom - difference) :
    Conserved inset layout (s.updateScroll fun sv => sv.setMjInsetB (value sv)) := by
  rw [Sys.update_scroll_of_linked (h.linked hobserving)]
  refine h.change rfl rfl rfl rfl ?_ h.cell (by simp) (by simp) (.inl ⟨by simp, id⟩) ?_
  · rw [Sys.mapScroll_view, h.shape_current, Function.update_eq_self]
  · simp only [Sys.mapScroll_scrollView, UIScrollView.mj_inset_set_mj_inset_b, hvalue,
      Sys.mapScroll_view]
    ring

/-- Hiding and showing an attached view keep the insets. Its share changes by its height. -/
theorem set_hidden (h : Conserved inset layout s) {notify : Notify (Others κ)}
    (hnotify : Conserves notify) (hobserving : s.view.observing = true) {hidden : Bool}
    (hcurrent : s.view.refreshMore = false → s.view.hidden = false → hidden = true →
      s.view.state = .refreshing → DeltaCurrent s) :
    ∃ layout' : Layout κ, layout'.attached = layout.attached ∧ layout'.slot = layout.slot ∧
      Conserved inset layout' (MJRefreshView.setHidden notify hidden s) := by
  unfold MJRefreshView.setHidden
  dsimp only
  split
  next hhide =>
    simp only [Bool.and_eq_true, Bool.not_eq_true'] at hhide
    have hshare : (s.mapView fun view => { view with hidden := hidden }).view.bottomShare +
        s.view.frame.height = s.view.bottomShare := by
      rw [hhide.2, Sys.mapView_view, RefreshView.bottom_share_hide hobserving, ← hhide.1]
    have hidle : Conserved { inset with bottom := inset.bottom + s.view.frame.height }
        (layout.setHidden hidden) (MJRefreshView.setState notify .idle
          (s.mapView fun view => { view with hidden := hidden })) :=
      (h.store_hidden hshare).set_state hnotify (by simp)
        (fun hstate _ => ⟨rfl, fun hheader => hcurrent hheader hhide.1 hhide.2 hstate⟩)
    have hshape := hidle.shape_current
    rw [Layout.set_hidden_current, ← h.shape_current] at hshape
    have hheight : (MJRefreshView.setState notify .idle
        (s.mapView fun view => { view with hidden := hidden })).view.frame.height =
        s.view.frame.height := congrArg Shape.height hshape
    have hobserving' : (MJRefreshView.setState notify .idle
        (s.mapView fun view => { view with hidden := hidden })).view.observing = true :=
      (congrArg Shape.observing hshape).trans hobserving
    refine ⟨layout.setHidden hidden, rfl, rfl, ?_⟩
    rw [hheight]
    exact hidle.shift_bottom hobserving' _ fun _ => rfl
  · split
    next hshow =>
      simp only [Bool.and_eq_true, Bool.not_eq_true'] at hshow
      have hshare : (s.mapView fun view => { view with hidden := hidden }).view.bottomShare +
          -s.view.frame.height = s.view.bottomShare := by
        rw [hshow.2, Sys.mapView_view, ← RefreshView.bottom_share_hide hobserving,
          add_neg_cancel_right, ← hshow.1]
      have hshown := (h.store_hidden hshare).shift_bottom hobserving
        (fun sv => sv.mjInset.bottom + s.view.frame.height) fun _ => (sub_neg_eq_add _ _).symm
      exact ⟨layout.setHidden hidden, rfl, rfl, hshown.congr rfl rfl rfl rfl rfl rfl rfl rfl⟩
    next hhide hshow =>
      -- the view stays as it is
      have hsame : s.view.hidden = hidden := by
        cases hlast : s.view.hidden <;> cases hidden <;> simp_all
      refine ⟨layout, rfl, rfl, ?_⟩
      rw [← hsame]
      exact h

end Conserved

end Component.Refresh

import Component.Refresh.Agreement

/-!
# `MJRefreshView` as a footer that is pulled and `MJRefreshBackFooter`

The two classes have the same methods but one: `MJRefreshBackFooter` stands below the visible area
when the content is shorter, and `MJRefreshView` computes the length of the visible area from the
content. `FillsScrollView` is the condition on the geometry under which both come to the same
position.
-/

namespace Component.Refresh

open Component.Lib.Run

/-- A vertical footer that is pulled. Only footers that refresh by themselves set
`triggerByDrag`. -/
@[mk_iff] structure PlainBackFooter (s : Sys Unit) : Prop where
  more : s.view.refreshMore = true
  back : s.view.refreshBack = true
  vertical : s.view.horizontalDirection = false
  undragged : s.view.triggerByDrag = false

/-! ## The position -/

/-- The content is as high as the scroll view, or the insets are not negative together and the
content fills the area between them. -/
def FillsScrollView (contentHeight height : CGFloat) (inset : UIEdgeInsets) : Prop :=
  height = contentHeight ∨
    0 ≤ inset.top + inset.bottom ∧ height - inset.top - inset.bottom ≤ contentHeight

instance (contentHeight height : CGFloat) (inset : UIEdgeInsets) :
    Decidable (FillsScrollView contentHeight height inset) := inferInstanceAs (Decidable (_ ∨ _))

/-- The positions that the two classes compute are the same just when the content fills the scroll
view. -/
theorem back_footer_position_iff (contentHeight height ignored : CGFloat) (inset : UIEdgeInsets) :
    max (contentHeight + ignored) (contentHeight - inset.top - inset.bottom + ignored) =
        max (contentHeight + ignored) (height - inset.top - inset.bottom + ignored) ↔
      FillsScrollView contentHeight height inset := by
  unfold FillsScrollView
  constructor
  · intro h
    by_cases hinset : 0 ≤ inset.top + inset.bottom
    · right
      refine ⟨hinset, ?_⟩
      have hcontent : contentHeight - inset.top - inset.bottom + ignored ≤
          contentHeight + ignored := by linarith
      rw [max_eq_left hcontent] at h
      have := le_of_le_of_eq (le_max_right _ _) h.symm
      linarith
    · left
      have hcontent : contentHeight + ignored ≤
          contentHeight - inset.top - inset.bottom + ignored := by linarith
      rw [max_eq_right hcontent] at h
      rcases max_choice (contentHeight + ignored) (height - inset.top - inset.bottom + ignored)
        with hmax | hmax
      · rw [hmax] at h
        linarith
      · rw [hmax] at h
        linarith
  · rintro (heq | ⟨hinset, hfills⟩)
    · rw [heq]
    · rw [max_eq_left (by linarith), max_eq_left (by linarith)]

namespace PlainBackFooter

variable {s t : Sys Unit}

/-- What the property says of the fields of the view. -/
theorem fixes : Fixes PlainBackFooter
    (fun view => (view.refreshMore, view.refreshBack, view.horizontalDirection, view.triggerByDrag))
    (true, true, false, false) := by
  intro s
  simp [plainBackFooter_iff]

/-- The property survives a change of the pulling percentage. -/
theorem stable : Stable PlainBackFooter := fixes.stable (fun _ => rfl)

/-- If the content fills the scroll view, both classes place the footer alike. -/
theorem config_view_y_eq (h : PlainBackFooter s)
    (hfills : FillsScrollView s.sv.contentSize.height s.sv.size.height
      s.view.scrollViewOriginalInset) :
    MJRefreshView.configViewY s = MJRefreshBackFooter.scrollViewContentSizeDidChange s := by
  have hposition := (back_footer_position_iff s.sv.contentSize.height s.sv.size.height
    s.view.ignoredScrollViewContentInsetDeta s.view.scrollViewOriginalInset).mpr hfills
  unfold MJRefreshView.configViewY MJRefreshBackFooter.scrollViewContentSizeDidChange
  simp only [h.more, h.back, if_true, Sys.scrollAsxiContentHeight, h.vertical,
    RefreshView.scrollAsixOriginInsetTop, RefreshView.scrollAsixOriginInsetBottom,
    Bool.false_eq_true, if_false, hposition]
  rw [Sys.mapView, RefreshView.set_asxi_y_of_vertical h.vertical]
  rfl

/-- Placing the footer keeps it plain. -/
theorem config_view_y (h : PlainBackFooter s) : PlainBackFooter (MJRefreshView.configViewY s) := by
  rw [MJRefreshView.configViewY, if_pos h.more, Sys.mapView,
    RefreshView.set_asxi_y_of_vertical h.vertical]
  exact PlainBackFooter.fixes.congr h rfl

/-! ## Notifications -/

/-- Setting a state other than the refreshing one does nothing more if the footer was not
refreshing. -/
theorem set_state_inert (h : PlainBackFooter s) (notify : Notify Unit) {state : MJRefreshState}
    (hold : s.view.state ≠ .refreshing) (hnew : state ≠ .refreshing) :
    MJRefreshView.setState notify state s = s ∨
      MJRefreshView.setState notify state s = MJRefreshComponent.setState state s := by
  by_cases hsame : state = s.view.state
  · exact .inl (MJRefreshView.set_state_self notify hsame)
  · right
    rw [MJRefreshView.set_state_back notify h.more h.back hsame]
    simp [MJRefreshView.backFooterStateDidChange, hold, hnew]

/-- The view is still a plain footer, and nothing has become pending. -/
structure Kept (s t : Sys Unit) : Prop where
  plain : PlainBackFooter t
  mainQueue : t.mainQueue = s.mainQueue
  completions : t.completions = s.completions

/-- A footer that is neither refreshing nor pulled starts nothing when it is told about the
offset. -/
theorem content_offset_at_rest (h : PlainBackFooter s) (notify : Notify Unit)
    (hrefreshing : s.view.state ≠ .refreshing) (hpulling : s.view.state ≠ .pulling) :
    Kept s (MJRefreshView.backFooterContentOffsetDidChange notify s) := by
  have hplain : PlainBackFooter (MJRefreshComponent.rememberInset s) :=
    PlainBackFooter.fixes.congr h rfl
  have hset : ∀ {u : Sys Unit} {state : MJRefreshState}, Kept s u → u.view.state ≠ .refreshing →
      state ≠ .refreshing → Kept s (MJRefreshView.setState notify state u) := by
    intro u state hu hold hnew
    rcases hu.plain.set_state_inert notify hold hnew with heq | heq
    · rw [heq]
      exact hu
    · rw [heq]
      exact ⟨PlainBackFooter.fixes.congr hu.plain rfl, hu.mainQueue, hu.completions⟩
  have hremember : Kept s (MJRefreshComponent.rememberInset s) := ⟨hplain, rfl, rfl⟩
  have hpercent : ∀ percent, Kept s (MJRefreshComponent.setPullingPercent percent
      (MJRefreshComponent.rememberInset s)) :=
    fun _ => ⟨PlainBackFooter.fixes.congr h rfl, rfl, rfl⟩
  rw [MJRefreshView.backFooterContentOffsetDidChange, if_neg hrefreshing]
  dsimp only
  split
  · exact hremember
  · split
    · exact hpercent _
    · unfold MJRefreshView.pullingDidChange MJRefreshComponent.pullingDidChange
      dsimp only
      split
      · split
        · exact hset (hpercent _) hrefreshing (by simp)
        · split
          next hpulled => exact absurd hpulled.1 hpulling
          · exact hpercent _
      · split
        next hpulled => exact absurd hpulled hpulling
        · split
          · exact hpercent _
          · exact hremember

/-- Notifications do not make anything pending while the footer is idle or has no more data. -/
theorem notify_at_rest (h : PlainBackFooter s)
    (hstate : s.view.state = .noMoreData ∨ s.view.state = .idle) (depth : Nat)
    (old new : CGPoint) :
    Kept s (MJRefreshView.refreshClass.notifyWithin depth old new s) := by
  cases depth with
  | zero => exact ⟨h, rfl, rfl⟩
  | succ depth =>
      have hhandler : MJRefreshView.scrollViewContentOffsetDidChange
          (MJRefreshView.refreshClass.notifyWithin depth) old new s =
          MJRefreshView.backFooterContentOffsetDidChange
            (MJRefreshView.refreshClass.notifyWithin depth) s := by
        rw [MJRefreshView.scrollViewContentOffsetDidChange, if_pos h.more, if_pos h.back]
      unfold RefreshClass.notifyWithin RefreshClass.observeContentOffset
      split
      · show Kept s (MJRefreshView.scrollViewContentOffsetDidChange _ old new s)
        rw [hhandler]
        refine h.content_offset_at_rest _ ?_ ?_
        · rcases hstate with hstate | hstate <;> simp [hstate]
        · rcases hstate with hstate | hstate <;> simp [hstate]
      · exact ⟨h, rfl, rfl⟩

/-! ## Setting the state -/

/-- Setting the offset tells the footer about it. -/
theorem set_content_offset_kept (h : PlainBackFooter s)
    (hstate : s.view.state = .noMoreData ∨ s.view.state = .idle ∨ s.view.state = .refreshing)
    (depth : Nat) (offset : CGPoint) :
    Kept s (s.setContentOffset (MJRefreshView.refreshClass.notifyWithin depth) offset) := by
  have hmoved : PlainBackFooter (s.mapScroll fun sv => { sv with contentOffset := offset }) :=
    PlainBackFooter.fixes.congr h rfl
  have hrest : ∀ old, s.view.state = .noMoreData ∨ s.view.state = .idle →
      Kept s (MJRefreshView.refreshClass.notifyWithin depth old offset
        (s.mapScroll fun sv => { sv with contentOffset := offset })) := by
    intro old hstate
    obtain ⟨hplain, hqueue, hcompletions⟩ := hmoved.notify_at_rest hstate depth old offset
    exact ⟨hplain, hqueue, hcompletions⟩
  unfold Sys.setContentOffset
  split
  · rcases hstate with hstate | hstate | hstate
    · exact hrest _ (.inl hstate)
    · exact hrest _ (.inr hstate)
    · rw [MJRefreshView.notify_within_of_refreshing hmoved.more hmoved.back hstate]
      exact ⟨hmoved, rfl, rfl⟩
  · exact ⟨h, rfl, rfl⟩

/-- The end of a refresh keeps the footer plain. -/
theorem ending_action (h : PlainBackFooter s) :
    PlainBackFooter (MJRefreshView.backFooterEndingAction s) := by
  have hview : (MJRefreshView.backFooterEndingAction s).view =
      (MJRefreshComponent.fadeOut s).view := by
    simp [MJRefreshView.backFooterEndingAction, MJRefreshComponent.fadeOut]
  exact PlainBackFooter.fixes.congr h (by rw [hview]; rfl)

/-- The end of a refresh leaves one animation pending. -/
theorem ending_action_pending (hdrained : s.Drained) :
    (MJRefreshView.backFooterEndingAction s).OnePending := by
  have hinset : ((s.fire .endRefreshingAnimationBegin).updateScroll fun sv =>
      sv.setMjInsetB (sv.mjInset.bottom - s.view.lastBottomDelta)).Drained :=
    hdrained.congr (by simp) (by simp)
  have hfaded : (MJRefreshComponent.fadeOut ((s.fire .endRefreshingAnimationBegin).updateScroll
      fun sv => sv.setMjInsetB (sv.mjInset.bottom - s.view.lastBottomDelta))).Drained := hinset
  exact hfaded.animate (by simp)

/-- Enlarging the bottom inset keeps the footer plain, its state, and what is pending. -/
theorem enlarge (h : PlainBackFooter s) :
    Kept s (MJRefreshView.backFooterEnlarge s) ∧
      (MJRefreshView.backFooterEnlarge s).view.state = s.view.state := by
  unfold MJRefreshView.backFooterEnlarge
  exact ⟨⟨PlainBackFooter.fixes.congr h (by simp), by simp, by simp⟩, by simp⟩

/-- The start of a refresh keeps the footer plain and leaves one animation pending. -/
theorem refreshing_action (h : PlainBackFooter s) (hdrained : s.Drained)
    (hstate : s.view.state = .refreshing) (depth : Nat) :
    PlainBackFooter (MJRefreshView.backFooterRefreshingAction
        (MJRefreshView.refreshClass.notifyWithin depth) s) ∧
      (MJRefreshView.backFooterRefreshingAction
        (MJRefreshView.refreshClass.notifyWithin depth) s).OnePending := by
  obtain ⟨⟨hplain, hqueue, hcompletions⟩, hkept⟩ := h.enlarge
  unfold MJRefreshView.backFooterRefreshingAction
  generalize MJRefreshView.backFooterEnlarge s = t at hplain hqueue hcompletions hkept
  obtain ⟨hmoved, hqueue', hcompletions'⟩ := hplain.set_content_offset_kept
    (.inr (.inr (hkept.trans hstate))) depth
    { t.sv.contentOffset with y := MJRefreshView.happenOffsetY t + t.view.frame.height }
  have hafter := (hdrained.congr hqueue hcompletions).congr hqueue' hcompletions'
  exact ⟨PlainBackFooter.fixes.congr hmoved rfl, hafter.animate (by simp)⟩

/-- The state handler keeps the footer plain and leaves at most one animation pending. -/
theorem state_did_change (h : PlainBackFooter s) (hdrained : s.Drained) (depth : Nat)
    (oldState : MJRefreshState) {state : MJRefreshState} (hstate : s.view.state = state) :
    PlainBackFooter (MJRefreshView.backFooterStateDidChange
        (MJRefreshView.refreshClass.notifyWithin depth) oldState state s) ∧
      (MJRefreshView.backFooterStateDidChange
        (MJRefreshView.refreshClass.notifyWithin depth) oldState state s).OnePending := by
  unfold MJRefreshView.backFooterStateDidChange
  split
  next hend =>
    dsimp only
    have hended : PlainBackFooter (if oldState = .refreshing then
          MJRefreshView.backFooterEndingAction s else s) ∧
        (if oldState = .refreshing then MJRefreshView.backFooterEndingAction s else s).OnePending ∧
        (if oldState = .refreshing then
          MJRefreshView.backFooterEndingAction s else s).view.state = state := by
      split
      · refine ⟨h.ending_action, ending_action_pending hdrained, ?_⟩
        simp [MJRefreshView.backFooterEndingAction, MJRefreshComponent.fadeOut, hstate]
      · exact ⟨h, .none hdrained, hstate⟩
    generalize (if oldState = .refreshing then MJRefreshView.backFooterEndingAction s else s) = t
      at hended
    obtain ⟨hplain, hpending, hkept⟩ := hended
    split
    · have hrest : t.view.state = .noMoreData ∨ t.view.state = .idle ∨
          t.view.state = .refreshing := by
        rw [hkept]
        rcases hend with hend | hend
        · exact .inl hend
        · exact .inr (.inl hend)
      obtain ⟨hplain', hqueue, hcompletions⟩ := hplain.set_content_offset_kept hrest depth
        { t.sv.contentOffset with y := t.sv.contentOffset.y }
      exact ⟨hplain', hpending.congr hqueue hcompletions⟩
    · exact ⟨hplain, hpending⟩
  · split
    next hrefreshing => exact h.refreshing_action hdrained (hstate.trans hrefreshing) depth
    · exact ⟨h, .none hdrained⟩

/-- Whatever state a drained footer is set to, at most one completion is pending afterwards. -/
theorem set_state (h : PlainBackFooter s) (hdrained : s.Drained) (depth : Nat)
    (state : MJRefreshState) :
    PlainBackFooter
        (MJRefreshView.setState (MJRefreshView.refreshClass.notifyWithin depth) state s) ∧
      (MJRefreshView.setState (MJRefreshView.refreshClass.notifyWithin depth) state
        s).OnePending := by
  by_cases hsame : state = s.view.state
  · rw [MJRefreshView.set_state_self _ hsame]
    exact ⟨h, .none hdrained⟩
  · have hstored : PlainBackFooter (MJRefreshComponent.setState state s) :=
      PlainBackFooter.fixes.congr h rfl
    rw [MJRefreshView.set_state_back _ h.more h.back hsame]
    exact hstored.state_did_change hdrained depth _ rfl

/-- Beginning a refresh keeps the footer plain and leaves at most one animation pending. -/
theorem begin_refreshing (h : PlainBackFooter s) (hdrained : s.Drained) (depth : Nat) :
    PlainBackFooter
        (MJRefreshView.beginRefreshing (MJRefreshView.refreshClass.notifyWithin depth) s) ∧
      (MJRefreshView.beginRefreshing
        (MJRefreshView.refreshClass.notifyWithin depth) s).OnePending := by
  have hstart : PlainBackFooter (MJRefreshComponent.setPullingPercent 1
      (s.mapView fun view => { view with alpha := 1 })) := PlainBackFooter.fixes.congr h rfl
  rw [MJRefreshView.beginRefreshing, if_neg (by simp [h.undragged]),
    MJRefreshComponent.beginRefreshing]
  split
  · exact hstart.set_state hdrained depth _
  · split
    · exact hstart.set_state hdrained depth _
    · exact ⟨hstart, .none hdrained⟩

/-- The content offset handler keeps the footer plain and leaves at most one animation pending. -/
theorem content_offset_did_change (h : PlainBackFooter s) (hdrained : s.Drained) (depth : Nat) :
    PlainBackFooter (MJRefreshView.backFooterContentOffsetDidChange
        (MJRefreshView.refreshClass.notifyWithin depth) s) ∧
      (MJRefreshView.backFooterContentOffsetDidChange
        (MJRefreshView.refreshClass.notifyWithin depth) s).OnePending := by
  have hremember : PlainBackFooter (MJRefreshComponent.rememberInset s) :=
    PlainBackFooter.fixes.congr h rfl
  have hpercent : ∀ percent, PlainBackFooter (MJRefreshComponent.setPullingPercent percent
      (MJRefreshComponent.rememberInset s)) := fun _ => PlainBackFooter.fixes.congr h rfl
  unfold MJRefreshView.backFooterContentOffsetDidChange
  split
  · exact ⟨h, .none hdrained⟩
  · dsimp only
    split
    · exact ⟨hremember, .none hdrained⟩
    · split
      · exact ⟨hpercent _, .none hdrained⟩
      · unfold MJRefreshView.pullingDidChange MJRefreshComponent.pullingDidChange
        dsimp only
        split
        · split
          · exact (hpercent _).set_state hdrained depth _
          · split
            · exact (hpercent _).set_state hdrained depth _
            · exact ⟨hpercent _, .none hdrained⟩
        · split
          · exact hremember.begin_refreshing hdrained depth
          · split
            · exact ⟨hpercent _, .none hdrained⟩
            · exact ⟨hremember, .none hdrained⟩

/-- Notifications keep the footer plain and leave at most one animation pending. -/
theorem notify (h : PlainBackFooter s) (hdrained : s.Drained) (depth : Nat) (old new : CGPoint) :
    PlainBackFooter (MJRefreshView.refreshClass.notifyWithin depth old new s) ∧
      (MJRefreshView.refreshClass.notifyWithin depth old new s).OnePending := by
  cases depth with
  | zero => exact ⟨h, .none hdrained⟩
  | succ depth =>
      have hhandler : MJRefreshView.scrollViewContentOffsetDidChange
          (MJRefreshView.refreshClass.notifyWithin depth) old new s =
          MJRefreshView.backFooterContentOffsetDidChange
            (MJRefreshView.refreshClass.notifyWithin depth) s := by
        rw [MJRefreshView.scrollViewContentOffsetDidChange, if_pos h.more, if_pos h.back]
      unfold RefreshClass.notifyWithin RefreshClass.observeContentOffset
      split
      · show PlainBackFooter (MJRefreshView.scrollViewContentOffsetDidChange _ old new s) ∧
          (MJRefreshView.scrollViewContentOffsetDidChange _ old new s).OnePending
        rw [hhandler]
        exact h.content_offset_did_change hdrained depth
      · exact ⟨h, .none hdrained⟩

end PlainBackFooter

/-! ## The methods of the two classes -/

/-- Two ways to notify do the same to footers that are pulled. -/
def AlikeForBackFooters (viewNotify notify : Notify Unit) : Prop :=
  ∀ old new s, PlainBackFooter s → notify old new s = viewNotify old new s

section Alike

variable {viewNotify notify : Notify Unit} (halike : AlikeForBackFooters viewNotify notify)
  {s : Sys Unit} (h : PlainBackFooter s)

include halike h

/-- Setting the content offset is the same for both classes. -/
theorem back_footer_set_content_offset_eq (offset : CGPoint) :
    s.setContentOffset notify offset = s.setContentOffset viewNotify offset := by
  have hmoved : PlainBackFooter (s.mapScroll fun sv => { sv with contentOffset := offset }) :=
    PlainBackFooter.fixes.congr h rfl
  unfold Sys.setContentOffset
  rw [halike _ _ _ hmoved]

/-- The state handler is the same for both classes. -/
theorem back_footer_state_did_change_eq (oldState state : MJRefreshState) :
    MJRefreshView.backFooterStateDidChange notify oldState state s =
      MJRefreshView.backFooterStateDidChange viewNotify oldState state s := by
  have hended : PlainBackFooter (if oldState = .refreshing then
      MJRefreshView.backFooterEndingAction s else s) := by
    split
    · exact h.ending_action
    · exact h
  unfold MJRefreshView.backFooterStateDidChange MJRefreshView.backFooterRefreshingAction
  dsimp only
  rw [back_footer_set_content_offset_eq halike hended,
    back_footer_set_content_offset_eq halike h.enlarge.1.plain]

/-- Setting the state is the same for both classes. -/
theorem back_footer_set_state_eq (state : MJRefreshState) :
    MJRefreshBackFooter.setState notify state s = MJRefreshView.setState viewNotify state s := by
  by_cases hsame : state = s.view.state
  · rw [MJRefreshBackFooter.setState, if_pos hsame, MJRefreshView.set_state_self _ hsame]
  · have hstored : PlainBackFooter (MJRefreshComponent.setState state s) :=
      PlainBackFooter.fixes.congr h rfl
    rw [MJRefreshBackFooter.setState, if_neg hsame,
      MJRefreshView.set_state_back _ h.more h.back hsame]
    exact back_footer_state_did_change_eq halike hstored _ _

/-- Beginning a refresh is the same for both classes. -/
theorem back_footer_begin_refreshing_eq :
    MJRefreshBackFooter.beginRefreshing notify s = MJRefreshView.beginRefreshing viewNotify s := by
  have hstart : PlainBackFooter (MJRefreshComponent.setPullingPercent 1
      (s.mapView fun view => { view with alpha := 1 })) := PlainBackFooter.fixes.congr h rfl
  rw [MJRefreshView.beginRefreshing, if_neg (by simp [h.undragged]),
    MJRefreshBackFooter.beginRefreshing, MJRefreshComponent.beginRefreshing,
    MJRefreshComponent.beginRefreshing, back_footer_set_state_eq halike hstart,
    back_footer_set_state_eq halike hstart]

/-- The content offset handler is the same for both classes. -/
theorem back_footer_content_offset_did_change_eq (old new : CGPoint) :
    MJRefreshBackFooter.scrollViewContentOffsetDidChange notify s =
      MJRefreshView.scrollViewContentOffsetDidChange viewNotify old new s := by
  have hremember : PlainBackFooter (MJRefreshComponent.rememberInset s) :=
    PlainBackFooter.fixes.congr h rfl
  have hpercent : ∀ percent, PlainBackFooter (MJRefreshComponent.setPullingPercent percent
      (MJRefreshComponent.rememberInset s)) := fun _ => PlainBackFooter.fixes.congr h rfl
  rw [MJRefreshView.scrollViewContentOffsetDidChange, if_pos h.more, if_pos h.back]
  unfold MJRefreshBackFooter.scrollViewContentOffsetDidChange
    MJRefreshView.backFooterContentOffsetDidChange MJRefreshView.pullingDidChange
    MJRefreshComponent.pullingDidChange
  dsimp only
  simp only [back_footer_set_state_eq halike (hpercent _),
    back_footer_begin_refreshing_eq halike hremember, Sys.scrollAsixOffsetY,
    RefreshView.asxiHeight, hremember.vertical, Bool.false_eq_true, if_false]

end Alike

/-- Notifications nested to the same depth do the same in both classes. -/
theorem alike_for_back_footers (depth : Nat) :
    AlikeForBackFooters (MJRefreshView.refreshClass.notifyWithin depth)
      (MJRefreshBackFooter.refreshClass.notifyWithin depth) := by
  induction depth with
  | zero =>
      intro old new s _
      rfl
  | succ depth ih =>
      intro old new s h
      unfold RefreshClass.notifyWithin RefreshClass.observeContentOffset
      split
      · exact back_footer_content_offset_did_change_eq ih h old new
      · rfl

/-! ## Runs -/

/-- The events of a footer that stays attached and is not hidden, where the content fills the
scroll view whenever the footer is placed. -/
def BackFooterAligned (s : Sys Unit) : Event → Prop
  | .attach scrollView =>
      FillsScrollView scrollView.contentSize.height scrollView.size.height scrollView.mjInset
  | .contentSize size =>
      s.view.observing = true → s.view.userInteractionEnabled = true → s.view.linked = true →
        FillsScrollView size.height s.scrollView.size.height s.view.scrollViewOriginalInset
  | .setState state => state = .idle ∨ state = .noMoreData
  | .detach => False
  | .setHidden _ => False
  | .mainQueue => False
  | .completion _ => False
  | _ => True

instance (s : Sys Unit) : (event : Event) → Decidable (BackFooterAligned s event)
  | .attach scrollView => inferInstanceAs (Decidable (FillsScrollView
      scrollView.contentSize.height scrollView.size.height scrollView.mjInset))
  | .contentSize _ => inferInstanceAs (Decidable (_ → _ → _ → _))
  | .setState _ => inferInstanceAs (Decidable (_ ∨ _))
  | .detach => .isFalse id
  | .setHidden _ => .isFalse id
  | .mainQueue => .isFalse id
  | .completion _ => .isFalse id
  | .contentOffset _ _ => .isTrue trivial
  | .panState _ => .isTrue trivial
  | .reloadData _ => .isTrue trivial
  | .window _ => .isTrue trivial
  | .beginRefreshing => .isTrue trivial
  | .endRefreshing => .isTrue trivial
  | .drawRect => .isTrue trivial
  | .layoutSubviews => .isTrue trivial

/-- After every event but attaching the two classes drain to the same state. -/
theorem back_footer_drains (depth : Nat) {s : Sys Unit} (h : PlainBackFooter s)
    (hdrained : s.Drained) {event : Event} (haligned : BackFooterAligned s event)
    (hattach : ∀ scrollView, event ≠ .attach scrollView) :
    DrainAlike MJRefreshView.refreshClass MJRefreshBackFooter.refreshClass
      (MJRefreshView.refreshClass.notifyWithin depth)
      (MJRefreshBackFooter.refreshClass.notifyWithin depth) PlainBackFooter
      (MJRefreshView.refreshClass.handle
        (MJRefreshView.refreshClass.notifyWithin depth) s event)
      (MJRefreshBackFooter.refreshClass.handle
        (MJRefreshBackFooter.refreshClass.notifyWithin depth) s event) := by
  have halike := alike_for_back_footers depth
  cases event with
  | attach scrollView => exact absurd rfl (hattach scrollView)
  | detach => exact absurd haligned id
  | setHidden hidden => exact absurd haligned id
  | mainQueue => exact absurd haligned id
  | completion index => exact absurd haligned id
  | contentOffset offset isDragging =>
      have hmoved : PlainBackFooter (s.mapScroll fun sv =>
        { sv with contentOffset := offset, isDragging := isDragging }) :=
          PlainBackFooter.fixes.congr h rfl
      exact drain_alike_of_pending PlainBackFooter.stable (halike _ _ _ hmoved)
        (hmoved.notify hdrained depth _ _)
  | contentSize size =>
      have hsize : PlainBackFooter (s.mapScroll fun sv => { sv with contentSize := size }) :=
        PlainBackFooter.fixes.congr h rfl
      show DrainAlike _ _ _ _ _
        (if s.view.observing && s.view.userInteractionEnabled then MJRefreshView.configViewY
          (s.mapScroll fun sv => { sv with contentSize := size }) else _)
        (if s.view.observing && s.view.userInteractionEnabled then
          MJRefreshBackFooter.scrollViewContentSizeDidChange
            (s.mapScroll fun sv => { sv with contentSize := size }) else _)
      split
      next hdelivers =>
        rw [Bool.and_eq_true] at hdelivers
        refine drain_alike_of_drained PlainBackFooter.stable _ (hsize.config_view_y_eq ?_) rfl
          (PlainBackFooter.fixes.congr h rfl) hdrained
        cases hlinked : s.view.linked with
        | true =>
            rw [Sys.sv_of_linked (s := s.mapScroll fun sv => { sv with contentSize := size })
              hlinked]
            exact haligned hdelivers.1 hdelivers.2 hlinked
        | false =>
            -- without a scroll view both heights are zero
            left
            simp [Sys.sv, hlinked, UIScrollView.null]
      · exact drain_alike_of_drained PlainBackFooter.stable _ rfl rfl hsize hdrained
  | panState panState =>
      refine drain_alike_of_drained PlainBackFooter.stable
        (s.mapScroll fun sv => { sv with panState := panState }) ?_ ?_
        (PlainBackFooter.fixes.congr h rfl) hdrained
      · exact MJRefreshView.handle_pan_state_of_pulled (.inr h.back) _ panState
      · exact ite_self _
  | reloadData numberOfRows =>
      exact drain_alike_of_drained PlainBackFooter.stable _ rfl rfl
        (PlainBackFooter.fixes.congr h rfl) hdrained
  | window inWindow =>
      exact drain_alike_of_drained PlainBackFooter.stable _ rfl rfl
        (PlainBackFooter.fixes.congr h rfl) hdrained
  | beginRefreshing =>
      exact drain_alike_of_pending PlainBackFooter.stable (back_footer_begin_refreshing_eq halike h)
        (h.begin_refreshing hdrained depth)
  | endRefreshing =>
      exact drain_alike_end_refreshing PlainBackFooter.stable hdrained
        (back_footer_set_state_eq halike h .idle) (h.set_state hdrained depth .idle)
  | setState state =>
      exact drain_alike_of_pending PlainBackFooter.stable (back_footer_set_state_eq halike h state)
        (h.set_state hdrained depth state)
  | drawRect =>
      refine drain_alike_draw_rect PlainBackFooter.stable h hdrained ?_
      exact drain_alike_of_pending PlainBackFooter.stable
        (back_footer_set_state_eq halike h .refreshing) (h.set_state hdrained depth .refreshing)
  | layoutSubviews =>
      exact drain_alike_of_drained PlainBackFooter.stable s (if_pos h.more) rfl h hdrained

/-- Attaching leads both classes to the same position along the axis if the content fills the scroll
view. -/
theorem back_footer_attach {s : Sys Unit} (h : PlainBackFooter s) (hdrained : s.Drained)
    (x : CGFloat) (bounce : Bool) {scrollView : UIScrollView}
    (hfills : FillsScrollView scrollView.contentSize.height scrollView.size.height
      scrollView.mjInset) :
    PlainBackFooter (MJRefreshView.willMoveToSuperview (some scrollView) s) ∧
      (MJRefreshView.willMoveToSuperview (some scrollView) s).Drained ∧
      MJRefreshBackFooter.willMoveToSuperview (some scrollView) (s.place x bounce) =
        (MJRefreshView.willMoveToSuperview (some scrollView) s).place (-scrollView.mjInset.left)
          scrollView.alwaysBounceHorizontal := by
  have hattach := MJRefreshView.component_attach h.vertical scrollView
  have hplain : PlainBackFooter
      (MJRefreshView.componentWillMoveToSuperview (some scrollView) s) := by
    rw [hattach]
    exact PlainBackFooter.fixes.congr h rfl
  have hplace : PlainBackFooter
      ((MJRefreshView.componentWillMoveToSuperview (some scrollView) s).place
        (-scrollView.mjInset.left) scrollView.alwaysBounceHorizontal) :=
    PlainBackFooter.fixes.congr hplain rfl
  have hview : MJRefreshView.willMoveToSuperview (some scrollView) s =
      MJRefreshView.configViewY
        (MJRefreshView.componentWillMoveToSuperview (some scrollView) s) := by
    rw [MJRefreshView.willMoveToSuperview, if_pos hplain.more, if_pos hplain.back]
  refine ⟨?_, ?_, ?_⟩
  · rw [hview]
    exact hplain.config_view_y
  · rw [hview, MJRefreshView.configViewY, if_pos hplain.more, hattach]
    exact hdrained
  · rw [MJRefreshBackFooter.willMoveToSuperview, component_attach_place h.vertical, hview,
      ← MJRefreshView.place_config_view_y _ _ hplain.vertical, hplace.config_view_y_eq]
    rw [hattach]
    exact hfills

/-- Every event that is treated alike leads both classes to the same state. -/
theorem back_footer_follows (depth : Nat) :
    Follows MJRefreshBackFooter.refreshClass (MJRefreshView.refreshClass.notifyWithin depth)
      (MJRefreshBackFooter.refreshClass.notifyWithin depth) PlainBackFooter BackFooterAligned := by
  intro s x bounce event h hdrained haligned
  have hplace : PlainBackFooter (s.place x bounce) := PlainBackFooter.fixes.congr h rfl
  by_cases hattach : ∃ scrollView, event = .attach scrollView
  · obtain ⟨scrollView, heq⟩ := hattach
    subst heq
    obtain ⟨hplain, hafter, hother⟩ := back_footer_attach h hdrained x bounce haligned
    refine ⟨_, -scrollView.mjInset.left, scrollView.alwaysBounceHorizontal, .done hafter, ?_,
      hplain⟩
    show RefreshClass.DrainsTo _ _ _
      (MJRefreshBackFooter.willMoveToSuperview (some scrollView) (s.place x bounce)) _
    rw [hother]
    exact .done hafter
  · have hattach' : ∀ scrollView, event ≠ .attach scrollView :=
      fun scrollView heq => hattach ⟨scrollView, heq⟩
    refine DrainAlike.follow (MJRefreshView.keeps_place_notify_within _) h.vertical hattach'
      (fun heq => ?_) (back_footer_drains depth h hdrained haligned hattach')
      (back_footer_drains depth hplace hdrained haligned hattach')
    subst heq
    exact haligned

/-- A footer of `MJRefreshView` that is pulled and a `MJRefreshBackFooter` that start as the same
view and see the same events look alike, once everything pending is drained after each event, if
the content fills the scroll view whenever the footer is placed. -/
theorem back_footer_agrees (depth : Nat) (view : RefreshView) (scrollView : UIScrollView)
    (hmore : view.refreshMore = true) (hback : view.refreshBack = true)
    (hvertical : view.horizontalDirection = false) (hundragged : view.triggerByDrag = false)
    (events : List Event)
    (haligned : Admissible (MJRefreshView.refreshClass.drainedStep
        (MJRefreshView.refreshClass.notifyWithin depth)) BackFooterAligned
      (Sys.start view scrollView ()) events) :
    let viewClass : RefreshClass Unit := MJRefreshView.refreshClass
    let footerClass : RefreshClass Unit := MJRefreshBackFooter.refreshClass
    let viewNotify := viewClass.notifyWithin depth
    let footerNotify := footerClass.notifyWithin depth
    ∃ s t, (∀ final, SettledRun (viewClass.Internal viewNotify) Sys.Drained
          (viewClass.handle viewNotify) (Sys.start view scrollView ()) events final ↔
        final = s) ∧
      (∀ final, SettledRun (footerClass.Internal footerNotify) Sys.Drained
          (footerClass.handle footerNotify) (Sys.start view scrollView ()) events final ↔
        final = t) ∧
      s.Agrees t := by
  intro viewClass footerClass viewNotify footerNotify
  have hplain : PlainBackFooter (Sys.start view scrollView ()) :=
    ⟨hmore, hback, hvertical, hundragged⟩
  obtain ⟨hview, hother, hagree, _⟩ := (back_footer_follows depth).agree_run hplain ⟨rfl, rfl⟩
    view.frame.x scrollView.alwaysBounceHorizontal haligned
  exact ⟨_, _, hview, hother, hagree⟩

/-- A footer that is pulled up and released, refreshes, and is told that there are no more data. -/
theorem back_footer_agrees_pulled :
    let events : List Event := [.attach sampleScrollView, .window true,
      .contentOffset ⟨0, 560⟩ true, .contentOffset ⟨0, 550⟩ false, .reloadData [30],
      .contentSize ⟨320, 1350⟩, .setState .noMoreData]
    let view := MJRefreshView.refreshView true true false
    let viewClass : RefreshClass Unit := MJRefreshView.refreshClass
    let footerClass : RefreshClass Unit := MJRefreshBackFooter.refreshClass
    let viewNotify := viewClass.notifyWithin 2
    let footerNotify := footerClass.notifyWithin 2
    ∃ s t, (∀ final, SettledRun (viewClass.Internal viewNotify) Sys.Drained
          (viewClass.handle viewNotify) (Sys.start view sampleScrollView ()) events final ↔
        final = s) ∧
      (∀ final, SettledRun (footerClass.Internal footerNotify) Sys.Drained
          (footerClass.handle footerNotify) (Sys.start view sampleScrollView ()) events final ↔
        final = t) ∧
      s.Agrees t :=
  back_footer_agrees 2 _ sampleScrollView rfl rfl rfl rfl _ (by decide +kernel)

/-- The content is shorter than the visible area: `MJRefreshBackFooter` stands below the visible
area and the footer of `MJRefreshView` below the content. -/
theorem back_footer_short_content :
    let scrollView : UIScrollView := { sampleScrollView with contentSize := ⟨320, 100⟩ }
    let view := MJRefreshView.refreshView true true false
    let viewClass : RefreshClass Unit := MJRefreshView.refreshClass
    let footerClass : RefreshClass Unit := MJRefreshBackFooter.refreshClass
    let start := Sys.start view scrollView ()
    let events : List Event := [.attach scrollView]
    (run (viewClass.drainedStep (viewClass.notifyWithin 2)) start events).view.frame.y = 100 ∧
      (run (footerClass.drainedStep (footerClass.notifyWithin 2)) start events).view.frame.y =
        372 := by
  exact ⟨by decide +kernel, by decide +kernel⟩

end Component.Refresh

import Component.Refresh.Agreement

/-!
# `MJRefreshView` as a footer that refreshes by itself and `MJRefreshAutoFooter`

The two classes compare the offset with different thresholds. `MJRefreshAutoFooter` starts a
refresh when the documented share of the footer is visible. `MJRefreshView` uses its own height in
place of the height of the scroll view and the remembered bottom inset in place of the current one;
when the finger is lifted it uses the top inset in place of the bottom inset. `AutoFooterAligned`
is the condition on an event under which both comparisons come out alike.
-/

namespace Component.Refresh

open Component.Lib.Run

/-- A vertical footer that refreshes by itself and ignores no inset. -/
@[mk_iff] structure PlainAutoFooter (s : Sys Unit) : Prop where
  more : s.view.refreshMore = true
  auto : s.view.refreshBack = false
  vertical : s.view.horizontalDirection = false
  ignored : s.view.ignoredScrollViewContentInsetDeta = 0

/-! ## The conditions -/

/-- How much of the footer is between the end of the content and the lower edge of what is visible,
where the footer's own share of the bottom inset does not count. -/
def visibleHeight (s : Sys Unit) : CGFloat :=
  s.sv.contentOffset.y + s.sv.size.height - (s.sv.mjInset.bottom - s.view.frame.height) -
    s.sv.contentSize.height

/-- The content is longer than the scroll view, and the documented share of the footer is
visible. -/
def ShareVisible (s : Sys Unit) : Prop :=
  s.sv.size.height < s.sv.mjInset.top + s.sv.contentSize.height ∧
    s.view.frame.height * s.view.triggerAutomaticallyRefreshPercent ≤ visibleHeight s

/-- The content is longer than the footer, and the offset is as close to the end of the content as
if the footer were as high as the scroll view. -/
def ShareAssumed (s : Sys Unit) : Prop :=
  s.view.frame.height < s.sv.mjInset.top + s.sv.contentSize.height ∧
    s.view.frame.height * s.view.triggerAutomaticallyRefreshPercent ≤
      s.sv.contentOffset.y + s.view.frame.height -
        (s.view.scrollViewOriginalInset.bottom - s.view.frame.height) - s.sv.contentSize.height

/-- The offset grows while the footer is idle and may start a refresh. -/
def MayTrigger (old new : CGPoint) (s : Sys Unit) : Prop :=
  s.view.state = .idle ∧ s.view.automaticallyRefresh = true ∧ s.view.frame.y ≠ 0 ∧ old.y < new.y

instance (s : Sys Unit) : Decidable (ShareVisible s) := inferInstanceAs (Decidable (_ ∧ _))

instance (s : Sys Unit) : Decidable (ShareAssumed s) := inferInstanceAs (Decidable (_ ∧ _))

instance (old new : CGPoint) (s : Sys Unit) : Decidable (MayTrigger old new s) :=
  inferInstanceAs (Decidable (_ ∧ _ ∧ _ ∧ _))

/-- The offsets at which lifting the finger starts a refresh decide alike. -/
def PanAligned (s : Sys Unit) : Prop :=
  s.sv.size.height ≤ s.sv.mjInset.top + s.sv.contentSize.height →
    (s.sv.contentSize.height + s.sv.mjInset.top - s.sv.size.height ≤ s.sv.contentOffset.y ↔
      (if s.sv.mjInset.top + s.sv.contentSize.height = s.sv.size.height then -s.sv.mjInset.top
        else s.sv.contentSize.height + s.sv.mjInset.bottom - s.sv.size.height) ≤
          s.sv.contentOffset.y)

/-- The events of a footer that stays attached and shown, where the comparisons of the two classes
come out alike. -/
def AutoFooterAligned (s : Sys Unit) : Event → Prop
  | .contentOffset offset isDragging =>
      Shown s = true → MayTrigger s.scrollView.contentOffset offset s →
        (ShareAssumed (scrolled offset isDragging s) ↔ ShareVisible (scrolled offset isDragging s))
  | .panState panState => Shown s = true → panState = .ended → s.view.state = .idle → PanAligned s
  | .endRefreshing =>
      s.view.state = .refreshing → s.sv.pagingEnabled = true → 0 ≤ s.sv.mjInset.bottom
  | .contentSize _ => True
  | .reloadData _ => True
  | .window _ => True
  | .beginRefreshing => True
  | .drawRect => True
  | .layoutSubviews => True
  | _ => False

namespace PlainAutoFooter

variable {s t : Sys Unit}

/-- What the property says of the fields of the view. -/
theorem fixes : Fixes PlainAutoFooter
    (fun view => (view.refreshMore, view.refreshBack, view.horizontalDirection,
      view.ignoredScrollViewContentInsetDeta))
    (true, false, false, 0) := by
  intro s
  simp [plainAutoFooter_iff]

/-- The property survives a change of the pulling percentage. -/
theorem stable : Stable PlainAutoFooter := fixes.stable (fun _ => rfl)

/-- The threshold of `MJRefreshView`. -/
theorem share_assumed_iff (h : PlainAutoFooter s) :
    ShareAssumed s ↔ s.view.asxiHeight < s.scrollAsixInsetTop + s.scrollAsxiContentHeight ∧
      MJRefreshView.autoTriggerOffset s ≤ s.scrollAsixOffsetY := by
  unfold ShareAssumed MJRefreshView.autoTriggerOffset
  simp only [RefreshView.asxiHeight, Sys.scrollAsixInsetTop, Sys.scrollAsxiContentHeight,
    RefreshView.scrollAsixOriginInsetBottom, Sys.scrollAsixOffsetY, h.vertical, Bool.false_eq_true,
    if_false]
  refine and_congr_right fun _ => ⟨fun hle => ?_, fun hle => ?_⟩ <;> linarith

/-- The threshold of `MJRefreshAutoFooter` is the documented one. -/
theorem share_visible_iff (s : Sys Unit) :
    ShareVisible s ↔ s.sv.size.height < s.sv.mjInset.top + s.sv.contentSize.height ∧
      MJRefreshAutoFooter.triggerOffset s ≤ s.sv.contentOffset.y := by
  unfold ShareVisible visibleHeight MJRefreshAutoFooter.triggerOffset
  refine and_congr_right fun _ => ⟨fun hle => ?_, fun hle => ?_⟩ <;> linarith

/-- The offset at which lifting the finger starts a refresh. -/
theorem pan_aligned_iff (h : PlainAutoFooter s) (haligned : PanAligned s) :
    MJRefreshView.panEndedOffset s ≤ s.scrollAsixOffsetY ↔
      MJRefreshAutoFooter.panEndedOffset s ≤ s.sv.contentOffset.y := by
  unfold MJRefreshView.panEndedOffset MJRefreshAutoFooter.panEndedOffset
  simp only [Sys.scrollAsixInsetTop, Sys.scrollAsxiContentHeight, Sys.scrollAsixHeight,
    Sys.scrollAsixOffsetY, h.vertical, Bool.false_eq_true, if_false]
  unfold PanAligned at haligned
  -- the comparison is strict in one class only, so equal lengths are a case of their own
  rcases lt_trichotomy (s.sv.mjInset.top + s.sv.contentSize.height) s.sv.size.height
    with hlt | heq | hgt
  · rw [if_pos hlt, if_pos hlt.le]
  · have hthreshold := haligned heq.ge
    rw [if_pos heq] at hthreshold
    rw [if_neg heq.not_lt, if_pos heq.le]
    exact hthreshold
  · have hthreshold := haligned hgt.le
    rw [if_neg hgt.ne'] at hthreshold
    rw [if_neg hgt.not_gt, if_neg hgt.not_ge]
    exact hthreshold

/-! ## Setting the state -/

/-- A refresh begins alike, with one block on the main queue. -/
theorem set_state_begin (h : PlainAutoFooter s) (viewNotify notify : Notify Unit)
    {state : MJRefreshState} (hbegin : state = .refreshing ∨ state = .willRefresh) :
    MJRefreshAutoFooter.setState notify state s = MJRefreshView.setState viewNotify state s := by
  by_cases hsame : state = s.view.state
  · rw [MJRefreshAutoFooter.setState, if_pos hsame, MJRefreshView.set_state_self _ hsame]
  · rw [MJRefreshAutoFooter.setState, if_neg hsame,
      MJRefreshView.set_state_auto _ h.more h.auto hsame]
    rcases hbegin with hbegin | hbegin <;> rw [hbegin] <;> rfl

/-- Starting a refresh keeps the footer plain and leaves one block pending. -/
theorem set_state_begin_pending (h : PlainAutoFooter s) (hdrained : s.Drained)
    (notify : Notify Unit) {state : MJRefreshState}
    (hbegin : state = .refreshing ∨ state = .willRefresh) :
    PlainAutoFooter (MJRefreshView.setState notify state s) ∧
      (MJRefreshView.setState notify state s).OnePending := by
  by_cases hsame : state = s.view.state
  · rw [MJRefreshView.set_state_self _ hsame]
    exact ⟨h, .none hdrained⟩
  · rw [MJRefreshView.set_state_auto _ h.more h.auto hsame]
    rcases hbegin with hbegin | hbegin
    · subst hbegin
      refine ⟨PlainAutoFooter.fixes.congr h rfl, .block ?_ hdrained.2⟩
      show s.mainQueue ++ [.refreshingCallback] = _
      rw [hdrained.1]
      rfl
    · subst hbegin
      exact ⟨PlainAutoFooter.fixes.congr h rfl, .none hdrained⟩

/-- A notification that the offset has not grown is ignored. -/
theorem notify_back (h : PlainAutoFooter s) (depth : Nat) {old new : CGPoint}
    (hback : new.y ≤ old.y) :
    MJRefreshView.refreshClass.notifyWithin depth old new s = s ∧
      MJRefreshAutoFooter.refreshClass.notifyWithin depth old new s = s := by
  cases depth with
  | zero => exact ⟨rfl, rfl⟩
  | succ depth =>
      have hmoves : MJRefreshView.movesBack old new s = true := by
        simp [MJRefreshView.movesBack, h.vertical, hback]
      have hview : ∀ notify,
          MJRefreshView.scrollViewContentOffsetDidChange notify old new s = s := by
        intro notify
        rw [MJRefreshView.scrollViewContentOffsetDidChange, if_pos h.more,
          if_neg (by simp [h.auto]), MJRefreshView.autoFooterContentOffsetDidChange, if_pos hmoves]
        simp only [ite_self]
      have hother : ∀ notify,
          MJRefreshAutoFooter.scrollViewContentOffsetDidChange notify old new s = s := by
        intro notify
        rw [MJRefreshAutoFooter.scrollViewContentOffsetDidChange, if_pos hback]
        simp only [ite_self]
      constructor
      · show (if _ then MJRefreshView.scrollViewContentOffsetDidChange _ old new s else s) = s
        rw [hview, ite_self]
      · show (if _ then MJRefreshAutoFooter.scrollViewContentOffsetDidChange _ old new s else s) = s
        rw [hother, ite_self]

/-- Scrolling back moves the offset and does nothing else. -/
theorem set_content_offset_back (h : PlainAutoFooter s) (depth : Nat) (offset : CGPoint)
    (hback : s.view.linked = true → offset.y ≤ s.scrollView.contentOffset.y) :
    s.setContentOffset (MJRefreshView.refreshClass.notifyWithin depth) offset =
        s.updateScroll (fun sv => { sv with contentOffset := offset }) ∧
      s.setContentOffset (MJRefreshAutoFooter.refreshClass.notifyWithin depth) offset =
        s.updateScroll (fun sv => { sv with contentOffset := offset }) := by
  have hmoved : PlainAutoFooter (s.mapScroll fun sv => { sv with contentOffset := offset }) :=
    PlainAutoFooter.fixes.congr h rfl
  unfold Sys.setContentOffset Sys.updateScroll
  cases hlinked : s.view.linked with
  | false => exact ⟨rfl, rfl⟩
  | true => exact hmoved.notify_back depth (hback hlinked)

/-- The end of a trigger keeps the footer plain. -/
theorem end_trigger (h : PlainAutoFooter s) : PlainAutoFooter (MJRefreshView.endTrigger s) := by
  unfold MJRefreshView.endTrigger
  split
  · exact PlainAutoFooter.fixes.congr h rfl
  · exact h

/-- The end of a trigger leaves nothing pending. -/
theorem end_trigger_drained (hdrained : s.Drained) : (MJRefreshView.endTrigger s).Drained := by
  unfold MJRefreshView.endTrigger
  split <;> exact hdrained

/-- The end of a trigger changes nothing that the footer reads of its scroll view. -/
theorem end_trigger_read (s : Sys Unit) :
    (MJRefreshView.endTrigger s).sv = s.sv ∧
      (MJRefreshView.endTrigger s).scrollView = s.scrollView ∧
      (MJRefreshView.endTrigger s).view.linked = s.view.linked := by
  unfold MJRefreshView.endTrigger
  split <;> exact ⟨rfl, rfl, rfl⟩

/-- A refresh ends alike if the page is not scrolled forward. -/
theorem state_did_change_idle (h : PlainAutoFooter s) (hdrained : s.Drained) (depth : Nat)
    {oldState : MJRefreshState}
    (hpaging : oldState = .refreshing → s.sv.pagingEnabled = true → 0 ≤ s.sv.mjInset.bottom) :
    MJRefreshView.autoFooterStateDidChange
        (MJRefreshAutoFooter.refreshClass.notifyWithin depth) oldState .idle s =
      MJRefreshView.autoFooterStateDidChange
        (MJRefreshView.refreshClass.notifyWithin depth) oldState .idle s ∧
    PlainAutoFooter (MJRefreshView.autoFooterStateDidChange
        (MJRefreshView.refreshClass.notifyWithin depth) oldState .idle s) ∧
    (MJRefreshView.autoFooterStateDidChange
        (MJRefreshView.refreshClass.notifyWithin depth) oldState .idle s).OnePending := by
  have hended := h.end_trigger
  have hended_drained := end_trigger_drained hdrained
  obtain ⟨hsv, _, _⟩ := end_trigger_read s
  rw [← hsv] at hpaging
  unfold MJRefreshView.autoFooterStateDidChange
  simp only [reduceCtorEq, if_false, or_true, if_true]
  generalize MJRefreshView.endTrigger s = t at hended hended_drained hpaging
  split
  next hold =>
    split
    next hpage =>
      -- the page is scrolled back by the bottom inset, which neither class reacts to
      have hback : t.view.linked = true →
          t.sv.contentOffset.y - t.sv.mjInset.bottom ≤ t.scrollView.contentOffset.y := by
        intro hlinked
        have hbottom := hpaging hold hpage
        rw [Sys.sv_of_linked hlinked] at hbottom ⊢
        linarith
      obtain ⟨hview, hother⟩ := hended.set_content_offset_back depth
        { t.sv.contentOffset with y := t.sv.contentOffset.y - t.sv.mjInset.bottom } hback
      rw [hview, hother]
      have hafter : ∀ f : UIScrollView → UIScrollView,
          ((t.updateScroll f).fire .endRefreshingAnimationBegin).Drained :=
        fun f => hended_drained.congr (by simp) (by simp)
      exact ⟨rfl, PlainAutoFooter.fixes.congr hended (by simp),
        (hafter _).animate (by simp)⟩
    · exact ⟨rfl, PlainAutoFooter.fixes.congr hended rfl, .none hended_drained⟩
  · exact ⟨rfl, hended, .none hended_drained⟩

/-- Both classes end a refresh alike, unless paging meets a negative bottom inset. -/
theorem set_state_idle (h : PlainAutoFooter s) (hdrained : s.Drained) (depth : Nat)
    (hpaging : s.view.state = .refreshing → s.sv.pagingEnabled = true → 0 ≤ s.sv.mjInset.bottom) :
    MJRefreshAutoFooter.setState (MJRefreshAutoFooter.refreshClass.notifyWithin depth) .idle s =
        MJRefreshView.setState (MJRefreshView.refreshClass.notifyWithin depth) .idle s ∧
      PlainAutoFooter
        (MJRefreshView.setState (MJRefreshView.refreshClass.notifyWithin depth) .idle s) ∧
      (MJRefreshView.setState (MJRefreshView.refreshClass.notifyWithin depth) .idle
        s).OnePending := by
  by_cases hsame : .idle = s.view.state
  · rw [MJRefreshAutoFooter.setState, if_pos hsame, MJRefreshView.set_state_self _ hsame]
    exact ⟨rfl, h, .none hdrained⟩
  · have hstored : PlainAutoFooter (MJRefreshComponent.setState .idle s) :=
      PlainAutoFooter.fixes.congr h rfl
    rw [MJRefreshAutoFooter.setState, if_neg hsame,
      MJRefreshView.set_state_auto _ h.more h.auto hsame]
    exact hstored.state_did_change_idle hdrained depth hpaging

/-! ## Beginning a refresh -/

/-- Both classes begin a refresh alike, whatever their notifications do. -/
theorem begin_refreshing (h : PlainAutoFooter s) (viewNotify notify : Notify Unit) :
    MJRefreshAutoFooter.beginRefreshing notify s = MJRefreshView.beginRefreshing viewNotify s := by
  have hstart : PlainAutoFooter (MJRefreshComponent.setPullingPercent 1
      (s.mapView fun view => { view with alpha := 1 })) := PlainAutoFooter.fixes.congr h rfl
  unfold MJRefreshAutoFooter.beginRefreshing MJRefreshView.beginRefreshing
    MJRefreshComponent.beginRefreshing
  dsimp only
  rw [hstart.set_state_begin viewNotify notify (.inl rfl),
    hstart.set_state_begin viewNotify notify (.inr rfl)]

/-- Beginning a refresh keeps the footer plain and leaves at most one block pending. -/
theorem begin_refreshing_pending (h : PlainAutoFooter s) (hdrained : s.Drained)
    (notify : Notify Unit) :
    PlainAutoFooter (MJRefreshView.beginRefreshing notify s) ∧
      (MJRefreshView.beginRefreshing notify s).OnePending := by
  have hstart : PlainAutoFooter (MJRefreshComponent.setPullingPercent 1
      (s.mapView fun view => { view with alpha := 1 })) := PlainAutoFooter.fixes.congr h rfl
  unfold MJRefreshView.beginRefreshing MJRefreshComponent.beginRefreshing
  dsimp only
  split
  · exact ⟨h, .none hdrained⟩
  · split
    · exact hstart.set_state_begin_pending hdrained notify (.inl rfl)
    · split
      · exact hstart.set_state_begin_pending hdrained notify (.inr rfl)
      · exact ⟨hstart, .none hdrained⟩

/-! ## Notifications -/

/-- A drag of the user is remembered as what triggered the refresh. -/
def dragged (s : Sys Unit) : Sys Unit :=
  let dragging := s.sv.isDragging
  s.mapView fun view => { view with triggerByDrag := dragging || view.triggerByDrag }

/-- The nested tests of the two content offset handlers. -/
theorem trigger_tests {busy long reached back starts : Prop} [Decidable busy] [Decidable long]
    [Decidable reached] [Decidable back] [Decidable starts]
    (h : starts ↔ ¬ busy ∧ ¬ back ∧ long ∧ reached) (s t : Sys Unit) :
    (if busy then s else if long then if reached then if back then s else t else s else s) =
      if starts then t else s := by
  by_cases hstarts : starts
  · obtain ⟨hbusy, hback, hlong, hreached⟩ := h.mp hstarts
    rw [if_neg hbusy, if_pos hlong, if_pos hreached, if_neg hback, if_pos hstarts]
  · rw [if_neg hstarts]
    split_ifs with hbusy hlong hreached hback <;> try rfl
    exact absurd (h.mpr ⟨hbusy, hback, hlong, hreached⟩) hstarts

/-- A refresh may start just when none of the checks of the source returns early. -/
theorem may_trigger_iff (old new : CGPoint) (s : Sys Unit) :
    MayTrigger old new s ↔ ¬ (s.view.state ≠ .idle ∨ s.view.automaticallyRefresh = false ∨
      s.view.frame.y = 0) ∧ ¬ new.y ≤ old.y := by
  unfold MayTrigger
  simp only [not_or, not_not, Bool.not_eq_false, not_le, and_assoc]

/-- `MJRefreshView` starts a refresh when it assumes that the share of the footer is visible. -/
theorem content_offset_view (h : PlainAutoFooter s) (notify : Notify Unit) (old new : CGPoint) :
    MJRefreshView.scrollViewContentOffsetDidChange notify old new s =
      if MayTrigger old new s ∧ ShareAssumed s then MJRefreshView.beginRefreshing notify (dragged s)
      else s := by
  have hmoves : MJRefreshView.movesBack old new s = true ↔ new.y ≤ old.y := by
    simp [MJRefreshView.movesBack, h.vertical]
  rw [MJRefreshView.scrollViewContentOffsetDidChange, if_pos h.more, if_neg (by simp [h.auto])]
  refine trigger_tests ?_ s _
  rw [may_trigger_iff, h.share_assumed_iff, hmoves, and_assoc]

/-- `MJRefreshAutoFooter` starts a refresh when the share of the footer is visible. -/
theorem content_offset_footer (notify : Notify Unit) (old new : CGPoint) (s : Sys Unit) :
    MJRefreshAutoFooter.scrollViewContentOffsetDidChange notify old new s =
      if MayTrigger old new s ∧ ShareVisible s then
        MJRefreshAutoFooter.beginRefreshing notify (dragged s)
      else s := by
  refine trigger_tests ?_ s _
  rw [may_trigger_iff, share_visible_iff, and_assoc]

/-- Both classes react to the content offset alike if their shares of the visible footer agree. -/
theorem content_offset_did_change (h : PlainAutoFooter s) (hdrained : s.Drained)
    (viewNotify notify : Notify Unit) {old new : CGPoint}
    (haligned : MayTrigger old new s → (ShareAssumed s ↔ ShareVisible s)) :
    MJRefreshAutoFooter.scrollViewContentOffsetDidChange notify old new s =
        MJRefreshView.scrollViewContentOffsetDidChange viewNotify old new s ∧
      PlainAutoFooter (MJRefreshView.scrollViewContentOffsetDidChange viewNotify old new s) ∧
      (MJRefreshView.scrollViewContentOffsetDidChange viewNotify old new s).OnePending := by
  have hdragged : PlainAutoFooter (dragged s) := PlainAutoFooter.fixes.congr h rfl
  have hstarts := and_congr_right haligned
  rw [content_offset_footer, h.content_offset_view, hdragged.begin_refreshing viewNotify notify]
  simp only [← hstarts]
  split
  · exact ⟨trivial, hdragged.begin_refreshing_pending hdrained viewNotify⟩
  · exact ⟨trivial, h, .none hdrained⟩

/-- Both classes react to the end of a drag alike if their offsets for it agree. -/
theorem pan_state_did_change (h : PlainAutoFooter s) (hdrained : s.Drained)
    (viewNotify notify : Notify Unit)
    (haligned : s.sv.panState = .ended → s.view.state = .idle → PanAligned s) :
    MJRefreshAutoFooter.scrollViewPanStateDidChange notify s =
        MJRefreshView.scrollViewPanStateDidChange viewNotify s ∧
      PlainAutoFooter (MJRefreshView.scrollViewPanStateDidChange viewNotify s) ∧
      (MJRefreshView.scrollViewPanStateDidChange viewNotify s).OnePending := by
  have htriggered : PlainAutoFooter
      (s.mapView fun view => { view with triggerByDrag := true }) :=
        PlainAutoFooter.fixes.congr h rfl
  have hreset : PlainAutoFooter (MJRefreshView.resetTriggerTimes s) :=
    PlainAutoFooter.fixes.congr h rfl
  rw [MJRefreshView.scrollViewPanStateDidChange, if_neg (by simp [h.more, h.auto]),
    MJRefreshAutoFooter.scrollViewPanStateDidChange]
  by_cases hstate : s.view.state = .idle
  · rw [if_neg (not_not.mpr hstate), if_neg (not_not.mpr hstate)]
    cases hpan : s.sv.panState with
    | ended =>
        dsimp only
        rw [MJRefreshView.autoFooterPanEnded, htriggered.begin_refreshing viewNotify notify]
        simp only [h.pan_aligned_iff (haligned hpan hstate)]
        split
        · exact ⟨trivial, htriggered.begin_refreshing_pending hdrained viewNotify⟩
        · exact ⟨trivial, h, .none hdrained⟩
    | began => exact ⟨rfl, hreset, .none hdrained⟩
    | possible => exact ⟨rfl, h, .none hdrained⟩
    | changed => exact ⟨rfl, h, .none hdrained⟩
    | cancelled => exact ⟨rfl, h, .none hdrained⟩
    | failed => exact ⟨rfl, h, .none hdrained⟩
  · rw [if_pos hstate, if_pos hstate]
    exact ⟨rfl, h, .none hdrained⟩

/-! ## The position -/

/-- A plain footer is placed at the end of the content. -/
theorem config_view_y (h : PlainAutoFooter s) :
    MJRefreshView.configViewY s = s.mapView fun view => { view with
      frame.y := s.sv.contentSize.height } := by
  rw [MJRefreshView.configViewY, if_pos h.more]
  simp only [h.auto, Bool.false_eq_true, if_false, Sys.scrollAsxiContentHeight, h.vertical,
    h.ignored, add_zero]
  rw [Sys.mapView, RefreshView.set_asxi_y_of_vertical h.vertical]
  rfl

/-- The other class places the footer at the end of the content as well. -/
theorem content_size_did_change (h : PlainAutoFooter s) :
    MJRefreshAutoFooter.scrollViewContentSizeDidChange s = s.mapView fun view => { view with
      frame.y := s.sv.contentSize.height } := by
  show s.mapView (fun view => { view with
    frame.y := s.sv.contentSize.height + s.view.ignoredScrollViewContentInsetDeta }) = _
  rw [h.ignored, add_zero]

/-- Both classes make room for a footer that is shown and put it below the content. -/
theorem attach (h : PlainAutoFooter s) (hdrained : s.Drained) (x : CGFloat) (bounce : Bool)
    (scrollView : UIScrollView) :
    PlainAutoFooter (MJRefreshView.willMoveToSuperview (some scrollView) s) ∧
      (MJRefreshView.willMoveToSuperview (some scrollView) s).Drained ∧
      MJRefreshAutoFooter.willMoveToSuperview (some scrollView) (s.place x bounce) =
        (MJRefreshView.willMoveToSuperview (some scrollView) s).place (-scrollView.mjInset.left)
          scrollView.alwaysBounceHorizontal := by
  have hattach := MJRefreshView.component_attach h.vertical scrollView
  have hplain : PlainAutoFooter
      (MJRefreshView.componentWillMoveToSuperview (some scrollView) s) := by
    rw [hattach]
    exact PlainAutoFooter.fixes.congr h rfl
  rw [MJRefreshView.willMoveToSuperview, if_pos hplain.more, if_neg (by simp [hplain.auto]),
    MJRefreshAutoFooter.willMoveToSuperview, component_attach_place h.vertical]
  generalize MJRefreshView.componentWillMoveToSuperview (some scrollView) s = u at hattach hplain
  dsimp only
  cases hhidden : s.view.hidden with
  | true =>
      rw [if_pos (by rw [hattach]; exact hhidden), if_pos (by rw [hattach]; exact hhidden),
        hplain.config_view_y, hattach]
      exact ⟨PlainAutoFooter.fixes.congr h rfl, hdrained, rfl⟩
  | false =>
      have hbottom : u.view.scrollAsixOriginInsetBottom = scrollView.mjInset.bottom := by
        rw [RefreshView.scrollAsixOriginInsetBottom, if_neg (by simp [hplain.vertical]), hattach]
      have hheight : u.view.asxiHeight = s.view.frame.height := by
        rw [RefreshView.asxiHeight, if_neg (by simp [hplain.vertical]), hattach]
      have hroom : ∀ value, u.setScrollAsixOriginInsetBottom value =
          u.mapScroll (UIScrollView.setMjInsetB value) := by
        intro value
        rw [Sys.setScrollAsixOriginInsetBottom, if_neg (by simp [hplain.vertical]),
          Sys.update_scroll_of_linked (by rw [hattach])]
      have hraised : ∀ value, PlainAutoFooter (u.mapScroll (UIScrollView.setMjInsetB value)) :=
        fun value => PlainAutoFooter.fixes.congr hplain rfl
      have hshown : ¬ u.view.hidden = true := by
        rw [hattach]
        simp [hhidden]
      have hshown' : ∀ x bounce, ¬ (u.place x bounce).view.hidden = true := fun _ _ => hshown
      rw [if_neg hshown, if_neg (hshown' _ _), hbottom, hheight, hroom, (hraised _).config_view_y,
        hattach]
      exact ⟨PlainAutoFooter.fixes.congr h rfl, hdrained, rfl⟩

end PlainAutoFooter

/-! ## Runs -/

instance (s : Sys Unit) : Decidable (PanAligned s) := inferInstanceAs (Decidable (_ → _))

instance (s : Sys Unit) : (event : Event) → Decidable (AutoFooterAligned s event)
  | .contentOffset _ _ => inferInstanceAs (Decidable (_ → _ → _))
  | .panState _ => inferInstanceAs (Decidable (_ → _ → _ → _))
  | .endRefreshing => inferInstanceAs (Decidable (_ → _ → _))
  | .contentSize _ => .isTrue trivial
  | .reloadData _ => .isTrue trivial
  | .window _ => .isTrue trivial
  | .beginRefreshing => .isTrue trivial
  | .drawRect => .isTrue trivial
  | .layoutSubviews => .isTrue trivial
  | .attach _ => .isFalse id
  | .detach => .isFalse id
  | .setState _ => .isFalse id
  | .setHidden _ => .isFalse id
  | .mainQueue => .isFalse id
  | .completion _ => .isFalse id

/-- The state of the pan gesture is not part of the geometry. -/
theorem pan_aligned_pan_state (panState : PanState) {s : Sys Unit} (h : PanAligned s) :
    PanAligned (s.mapScroll fun sv => { sv with panState := panState }) := by
  unfold PanAligned at h ⊢
  cases hlinked : s.view.linked with
  | true =>
      rw [Sys.sv_of_linked hlinked] at h
      rw [Sys.sv_of_linked (s := s.mapScroll _) hlinked]
      exact h
  | false =>
      have hsv : (s.mapScroll fun sv => { sv with panState := panState }).sv = s.sv := by
        simp [Sys.sv, hlinked]
      rw [hsv]
      exact h

/-- A state of the pan gesture other than the default is the one that was set. -/
theorem pan_state_read {panState state : PanState} {s : Sys Unit} (hstate : state ≠ .possible)
    (h : (s.mapScroll fun sv => { sv with panState := panState }).sv.panState = state) :
    panState = state := by
  unfold Sys.sv at h
  split at h
  · exact h
  · exact absurd h.symm hstate

section Place

variable (x : CGFloat) (bounce : Bool)

/-- How much of the footer is visible does not depend on where it is across. -/
theorem share_visible_place (s : Sys Unit) : ShareVisible (s.place x bounce) ↔ ShareVisible s := by
  unfold ShareVisible visibleHeight
  simp only [Sys.place_size, Sys.place_mj_inset, Sys.place_content_size, Sys.place_content_offset]
  rfl

/-- The share that the source computes does not depend on where the footer is across. -/
theorem share_assumed_place (s : Sys Unit) : ShareAssumed (s.place x bounce) ↔ ShareAssumed s := by
  unfold ShareAssumed
  simp only [Sys.place_mj_inset, Sys.place_content_size, Sys.place_content_offset]
  rfl

/-- Whether an event is treated alike does not depend on where the footer is across. -/
theorem auto_footer_aligned_place {s : Sys Unit} {event : Event} (h : AutoFooterAligned s event) :
    AutoFooterAligned (s.place x bounce) event := by
  cases event with
  | contentOffset offset isDragging =>
      intro hshown hmay
      have hmoved := h hshown hmay
      rw [← share_visible_place x bounce, ← share_assumed_place x bounce] at hmoved
      exact hmoved
  | panState panState =>
      intro hshown hended hidle
      have hpan := h hshown hended hidle
      unfold PanAligned at hpan ⊢
      simp only [Sys.place_size, Sys.place_mj_inset, Sys.place_content_size,
        Sys.place_content_offset]
      exact hpan
  | endRefreshing =>
      intro hrefreshing hpaging
      rw [Sys.place_paging_enabled] at hpaging
      rw [Sys.place_mj_inset]
      exact h hrefreshing hpaging
  | _ => exact h

end Place

/-- After every event the two classes drain to the same state. -/
theorem auto_footer_drains (depth : Nat) {s : Sys Unit} (h : PlainAutoFooter s)
    (hdrained : s.Drained) {event : Event} (haligned : AutoFooterAligned s event) :
    DrainAlike MJRefreshView.refreshClass MJRefreshAutoFooter.refreshClass
      (MJRefreshView.refreshClass.notifyWithin (depth + 1))
      (MJRefreshAutoFooter.refreshClass.notifyWithin (depth + 1)) PlainAutoFooter
      (MJRefreshView.refreshClass.handle
        (MJRefreshView.refreshClass.notifyWithin (depth + 1)) s event)
      (MJRefreshAutoFooter.refreshClass.handle
        (MJRefreshAutoFooter.refreshClass.notifyWithin (depth + 1)) s event) := by
  cases event with
  | attach scrollView => exact absurd haligned id
  | detach => exact absurd haligned id
  | setState state => exact absurd haligned id
  | setHidden hidden => exact absurd haligned id
  | mainQueue => exact absurd haligned id
  | completion index => exact absurd haligned id
  | contentOffset offset isDragging =>
      have hmoved : PlainAutoFooter (scrolled offset isDragging s) :=
        PlainAutoFooter.fixes.congr h rfl
      show DrainAlike _ _ _ _ _
        (if Shown s then MJRefreshView.scrollViewContentOffsetDidChange
          (MJRefreshView.refreshClass.notifyWithin depth) s.scrollView.contentOffset offset _
          else _)
        (if Shown s then MJRefreshAutoFooter.scrollViewContentOffsetDidChange
          (MJRefreshAutoFooter.refreshClass.notifyWithin depth) s.scrollView.contentOffset offset _
          else _)
      split
      next hshown =>
        obtain ⟨heq, hpending⟩ := hmoved.content_offset_did_change hdrained
          (MJRefreshView.refreshClass.notifyWithin depth)
          (MJRefreshAutoFooter.refreshClass.notifyWithin depth) (haligned hshown)
        exact drain_alike_of_pending PlainAutoFooter.stable heq hpending
      · exact drain_alike_of_drained PlainAutoFooter.stable _ rfl rfl hmoved hdrained
  | contentSize size =>
      have hsize : PlainAutoFooter (s.mapScroll fun sv => { sv with contentSize := size }) :=
        PlainAutoFooter.fixes.congr h rfl
      show DrainAlike _ _ _ _ _
        (if s.view.observing && s.view.userInteractionEnabled then MJRefreshView.configViewY
          (s.mapScroll fun sv => { sv with contentSize := size }) else _)
        (if s.view.observing && s.view.userInteractionEnabled then
          MJRefreshAutoFooter.scrollViewContentSizeDidChange
            (s.mapScroll fun sv => { sv with contentSize := size }) else _)
      split
      · exact drain_alike_of_drained PlainAutoFooter.stable _ hsize.config_view_y
          hsize.content_size_did_change (PlainAutoFooter.fixes.congr h rfl) hdrained
      · exact drain_alike_of_drained PlainAutoFooter.stable _ rfl rfl hsize hdrained
  | panState panState =>
      have hpan : PlainAutoFooter (s.mapScroll fun sv => { sv with panState := panState }) :=
        PlainAutoFooter.fixes.congr h rfl
      show DrainAlike _ _ _ _ _
        (if Shown s then MJRefreshView.scrollViewPanStateDidChange _ _ else _)
        (if Shown s then MJRefreshAutoFooter.scrollViewPanStateDidChange _ _ else _)
      split
      next hshown =>
        obtain ⟨heq, hpending⟩ := hpan.pan_state_did_change hdrained
          (MJRefreshView.refreshClass.notifyWithin (depth + 1))
          (MJRefreshAutoFooter.refreshClass.notifyWithin (depth + 1)) (by
            intro hended hidle
            exact pan_aligned_pan_state panState
              (haligned hshown (pan_state_read (by simp) hended) hidle))
        exact drain_alike_of_pending PlainAutoFooter.stable heq hpending
      · exact drain_alike_of_drained PlainAutoFooter.stable _ rfl rfl hpan hdrained
  | reloadData numberOfRows =>
      exact drain_alike_of_drained PlainAutoFooter.stable _ rfl rfl
        (PlainAutoFooter.fixes.congr h rfl) hdrained
  | window inWindow =>
      exact drain_alike_of_drained PlainAutoFooter.stable _ rfl rfl
        (PlainAutoFooter.fixes.congr h rfl) hdrained
  | beginRefreshing =>
      exact drain_alike_of_pending PlainAutoFooter.stable (h.begin_refreshing _ _)
        (h.begin_refreshing_pending hdrained _)
  | endRefreshing =>
      obtain ⟨heq, hpending⟩ := h.set_state_idle hdrained (depth + 1) haligned
      exact drain_alike_end_refreshing PlainAutoFooter.stable hdrained heq hpending
  | drawRect =>
      refine drain_alike_draw_rect PlainAutoFooter.stable h hdrained ?_
      exact drain_alike_of_pending PlainAutoFooter.stable (h.set_state_begin _ _ (.inl rfl))
        (h.set_state_begin_pending hdrained _ (.inl rfl))
  | layoutSubviews =>
      exact drain_alike_of_drained PlainAutoFooter.stable s (if_pos h.more) rfl h hdrained

/-- Every event that is treated alike leads both classes to the same state. -/
theorem auto_footer_follows (depth : Nat) :
    Follows MJRefreshAutoFooter.refreshClass
      (MJRefreshView.refreshClass.notifyWithin (depth + 1))
      (MJRefreshAutoFooter.refreshClass.notifyWithin (depth + 1)) PlainAutoFooter
      AutoFooterAligned := by
  intro s x bounce event h hdrained haligned
  have hplace : PlainAutoFooter (s.place x bounce) := PlainAutoFooter.fixes.congr h rfl
  refine DrainAlike.follow (MJRefreshView.keeps_place_notify_within _) h.vertical ?_ ?_
    (auto_footer_drains depth h hdrained haligned)
    (auto_footer_drains depth hplace hdrained (auto_footer_aligned_place x bounce haligned))
  · intro scrollView heq
    subst heq
    exact haligned
  · intro heq
    subst heq
    exact haligned

/-! ## When a refresh starts -/

/-- The footer is told about offsets and may refresh by itself: it is shown, idle and in a window,
it has been placed, and a drag has not used up its trigger times. -/
structure CanRefresh (isDragging : Bool) (s : Sys Unit) : Prop where
  shown : Shown s = true
  idle : s.view.state = .idle
  automatically : s.view.automaticallyRefresh = true
  placed : s.view.frame.y ≠ 0
  inWindow : s.view.inWindow = true
  timesLeft : (isDragging || s.view.triggerByDrag) = true →
    0 < s.view.leftTriggerTimes ∨ s.view.leftTriggerTimes = -1

/-- A plain footer whose state is set to refreshing refreshes. -/
theorem PlainAutoFooter.set_state_refreshing {s : Sys Unit} (h : PlainAutoFooter s)
    (notify : Notify Unit) :
    (MJRefreshView.setState notify .refreshing s).view.state = .refreshing := by
  by_cases hsame : .refreshing = s.view.state
  · rw [MJRefreshView.set_state_self _ hsame]
    exact hsame.symm
  · rw [MJRefreshView.set_state_auto _ h.more h.auto hsame]
    rfl

/-- A plain footer in a window refreshes after `beginRefreshing`, unless its drags are used up. -/
theorem PlainAutoFooter.begin_refreshing_state {s : Sys Unit} (h : PlainAutoFooter s)
    (notify : Notify Unit) (hwindow : s.view.inWindow = true)
    (htimes : s.view.triggerByDrag = true →
      0 < s.view.leftTriggerTimes ∨ s.view.leftTriggerTimes = -1) :
    (MJRefreshView.beginRefreshing notify s).view.state = .refreshing := by
  have hleft : ¬ (s.view.triggerByDrag = true ∧ s.view.leftTriggerTimes ≤ 0 ∧
      s.view.leftTriggerTimes ≠ -1) := by
    rintro ⟨hdrag, hspent, hlimited⟩
    have hleft := htimes hdrag
    omega
  have hstart : PlainAutoFooter (MJRefreshComponent.setPullingPercent 1
      (s.mapView fun view => { view with alpha := 1 })) := PlainAutoFooter.fixes.congr h rfl
  have hinWindow : (MJRefreshComponent.setPullingPercent 1
      (s.mapView fun view => { view with alpha := 1 })).view.inWindow = true := hwindow
  rw [MJRefreshView.begin_refreshing_of_permitted notify hleft, MJRefreshComponent.beginRefreshing,
    if_pos hinWindow]
  exact hstart.set_state_refreshing notify

/-- Draining does not change the state any more. -/
theorem Sys.OnePending.drain_state {s : Sys Unit} (h : s.OnePending) (c : RefreshClass Unit)
    (notify : Notify Unit) : (c.drain notify 3 s).view.state = s.view.state := by
  obtain ⟨final, hdrains, hview⟩ := h.drains
  rw [(hdrains c notify 1).drain_eq]
  rcases hview with hview | hview <;> rw [hview]
  rfl

/-- A change of the offset starts a refresh just when the offset grows and the documented share of
the footer is visible. -/
theorem refresh_starts_iff (depth : Nat) {s : Sys Unit} (h : PlainAutoFooter s)
    (hdrained : s.Drained) {offset : CGPoint} {isDragging : Bool} (hready : CanRefresh isDragging s)
    (haligned : AutoFooterAligned s (.contentOffset offset isDragging)) :
    (MJRefreshView.refreshClass.drainedStep (MJRefreshView.refreshClass.notifyWithin (depth + 1))
        s (.contentOffset offset isDragging)).view.state = .refreshing ↔
      s.scrollView.contentOffset.y < offset.y ∧ ShareVisible (scrolled offset isDragging s) := by
  have hmoved : PlainAutoFooter (scrolled offset isDragging s) := PlainAutoFooter.fixes.congr h rfl
  have haligned' : MayTrigger s.scrollView.contentOffset offset (scrolled offset isDragging s) →
      (ShareAssumed (scrolled offset isDragging s) ↔ ShareVisible (scrolled offset isDragging s)) :=
    haligned hready.shown
  have hhandle : MJRefreshView.refreshClass.handle
      (MJRefreshView.refreshClass.notifyWithin (depth + 1)) s (.contentOffset offset isDragging) =
      MJRefreshView.scrollViewContentOffsetDidChange (MJRefreshView.refreshClass.notifyWithin depth)
        s.scrollView.contentOffset offset (scrolled offset isDragging s) := if_pos hready.shown
  obtain ⟨_, _, hpending⟩ := hmoved.content_offset_did_change hdrained
    (MJRefreshView.refreshClass.notifyWithin depth) (MJRefreshView.refreshClass.notifyWithin depth)
    haligned'
  have hmay : MayTrigger s.scrollView.contentOffset offset (scrolled offset isDragging s) ↔
      s.scrollView.contentOffset.y < offset.y :=
    ⟨fun hmay => hmay.2.2.2,
      fun hgrows => ⟨hready.idle, hready.automatically, hready.placed, hgrows⟩⟩
  rw [RefreshClass.drainedStep, hhandle, hpending.drain_state, hmoved.content_offset_view, ← hmay,
    ← and_congr_right haligned']
  split
  next hstart =>
    have hdragged : PlainAutoFooter (PlainAutoFooter.dragged (scrolled offset isDragging s)) :=
      PlainAutoFooter.fixes.congr hmoved rfl
    refine ⟨fun _ => hstart, fun _ => hdragged.begin_refreshing_state _ hready.inWindow ?_⟩
    intro htriggered
    refine hready.timesLeft ?_
    have hread : (scrolled offset isDragging s).sv.isDragging = true → isDragging = true := by
      unfold Sys.sv
      split
      · exact id
      · intro hfalse
        cases hfalse
    rcases Bool.or_eq_true_iff.mp htriggered with hdrag | hbefore
    · rw [hread hdrag, Bool.true_or]
    · exact Bool.or_eq_true_iff.mpr (.inr hbefore)
  next hstart =>
    refine ⟨fun hrefreshing => ?_, fun hstart' => absurd hstart' hstart⟩
    exact absurd (hready.idle.symm.trans hrefreshing) (by simp)

/-- A footer of `MJRefreshView` that refreshes by itself and a `MJRefreshAutoFooter` that start as
the same view, are attached to scroll views of the same geometry and see the same events look alike,
once everything pending is drained after each event, and a refresh starts when the documented share
of the footer is visible, if the comparisons of both classes come out alike. -/
theorem auto_footer_agrees (depth : Nat) (view : RefreshView) (scrollView : UIScrollView)
    (hmore : view.refreshMore = true) (hauto : view.refreshBack = false)
    (hvertical : view.horizontalDirection = false)
    (hignored : view.ignoredScrollViewContentInsetDeta = 0) (events : List Event)
    (haligned : Admissible (MJRefreshView.refreshClass.drainedStep
        (MJRefreshView.refreshClass.notifyWithin (depth + 1))) AutoFooterAligned
      (MJRefreshView.refreshClass.attached view scrollView) events) :
    let viewClass : RefreshClass Unit := MJRefreshView.refreshClass
    let footerClass : RefreshClass Unit := MJRefreshAutoFooter.refreshClass
    let viewNotify := viewClass.notifyWithin (depth + 1)
    let footerNotify := footerClass.notifyWithin (depth + 1)
    ∃ s t, (∀ final, SettledRun (viewClass.Internal viewNotify) Sys.Drained
          (viewClass.handle viewNotify) (viewClass.attached view scrollView) events final ↔
        final = s) ∧
      (∀ final, SettledRun (footerClass.Internal footerNotify) Sys.Drained
          (footerClass.handle footerNotify) (footerClass.attached view scrollView) events final ↔
        final = t) ∧
      s.Agrees t ∧
      ∀ offset isDragging, CanRefresh isDragging s →
        AutoFooterAligned s (.contentOffset offset isDragging) →
        ((viewClass.drainedStep viewNotify s (.contentOffset offset isDragging)).view.state =
            .refreshing ↔
          s.scrollView.contentOffset.y < offset.y ∧
            ShareVisible (scrolled offset isDragging s)) := by
  intro viewClass footerClass viewNotify footerNotify
  have hstart : PlainAutoFooter (Sys.start view scrollView ()) :=
    ⟨hmore, hauto, hvertical, hignored⟩
  obtain ⟨hplain, hdrained, hplace⟩ := hstart.attach ⟨rfl, rfl⟩ view.frame.x
    scrollView.alwaysBounceHorizontal scrollView
  have hattached : footerClass.attached view scrollView =
      (viewClass.attached view scrollView).place (-scrollView.mjInset.left)
        scrollView.alwaysBounceHorizontal := hplace
  obtain ⟨hview, hother, hagree, hreached, hreachedDrained⟩ :=
    (auto_footer_follows depth).agree_run hplain hdrained (-scrollView.mjInset.left)
      scrollView.alwaysBounceHorizontal haligned
  rw [← hplace] at hother hagree
  exact ⟨_, _, hview, hother, hagree, fun offset isDragging hready hoffset =>
    refresh_starts_iff depth hreached hreachedDrained hready hoffset⟩

/-- A footer that the user scrolls into view and that refreshes and is told to end. -/
theorem auto_footer_agrees_dragged :
    let events : List Event := [.window true, .panState .began, .contentOffset ⟨0, 100⟩ true,
      .contentOffset ⟨0, 900⟩ true, .reloadData [30], .contentSize ⟨320, 1350⟩, .endRefreshing]
    let view := MJRefreshView.refreshView true false false
    let viewClass : RefreshClass Unit := MJRefreshView.refreshClass
    let footerClass : RefreshClass Unit := MJRefreshAutoFooter.refreshClass
    let viewNotify := viewClass.notifyWithin 2
    let footerNotify := footerClass.notifyWithin 2
    ∃ s t, (∀ final, SettledRun (viewClass.Internal viewNotify) Sys.Drained
          (viewClass.handle viewNotify) (viewClass.attached view sampleScrollView) events final ↔
        final = s) ∧
      (∀ final, SettledRun (footerClass.Internal footerNotify) Sys.Drained
          (footerClass.handle footerNotify) (footerClass.attached view sampleScrollView) events
          final ↔ final = t) ∧
      s.Agrees t ∧
      ∀ offset isDragging, CanRefresh isDragging s →
        AutoFooterAligned s (.contentOffset offset isDragging) →
        ((viewClass.drainedStep viewNotify s (.contentOffset offset isDragging)).view.state =
            .refreshing ↔
          s.scrollView.contentOffset.y < offset.y ∧
            ShareVisible (scrolled offset isDragging s)) :=
  auto_footer_agrees 1 _ sampleScrollView rfl rfl rfl rfl _ (by decide +kernel)

/-- A footer that is scrolled into view whole: `MJRefreshAutoFooter` starts a refresh, and the
footer of `MJRefreshView` waits until the content is nearly out of view. -/
theorem auto_footer_scrolled_into_view :
    let view := MJRefreshView.refreshView true false false
    let viewClass : RefreshClass Unit := MJRefreshView.refreshClass
    let footerClass : RefreshClass Unit := MJRefreshAutoFooter.refreshClass
    let events : List Event := [.window true, .panState .began, .contentOffset ⟨0, 600⟩ true]
    (run (viewClass.drainedStep (viewClass.notifyWithin 2))
        (viewClass.attached view sampleScrollView) events).view.state = .idle ∧
      (run (footerClass.drainedStep (footerClass.notifyWithin 2))
        (footerClass.attached view sampleScrollView) events).view.state = .refreshing := by
  exact ⟨by decide +kernel, by decide +kernel⟩

end Component.Refresh

import Component.Lib.Run
import Component.Refresh.Transpose

/-!
# Runs along the two axes

Some methods of `MJRefreshView` read or write the vertical axis whatever the direction: the header
reads the vertical offset, the footer that is pulled uses vertical lengths throughout, the footer
that refreshes by itself tests its vertical position and scrolls a page vertically, and
`setHidden:` and `animationDidStop:finished:` change vertical insets. `AxisFree` is the condition
on a step under which none of this makes a difference. `transpose_run` says that a run of such
steps in one direction is the transposed run in the other.
-/

namespace Component.Refresh

open Component.Lib.Run

namespace MJRefreshView

/-! ## Setting the state -/

/-- Setting the state reaches no access to the vertical axis that makes a difference: a footer that
is pulled neither enters nor leaves the refreshing state, and a footer that refreshes by itself
does not scroll a page when it ends. -/
def StateAxisFree (state : MJRefreshState) (s : Sys Unit) : Prop :=
  state ≠ s.view.state → s.view.refreshMore = true →
    (s.view.refreshBack = true → state ≠ .refreshing ∧ s.view.state ≠ .refreshing) ∧
    (s.view.refreshBack = false → s.view.state = .refreshing → s.sv.pagingEnabled = true →
      s.sv.mjInset.bottom = 0 ∧ s.sv.mjInset.right = 0)

/-- A footer that refreshes by itself ignores a notification without a change. -/
def InertAtRest (notify : Notify Unit) : Prop :=
  ∀ offset s, s.view.refreshMore = true → s.view.refreshBack = false →
    notify offset offset s = s

/-- At every depth a footer that refreshes by itself ignores a notification without a change. -/
theorem inert_at_rest_notify_within (depth : Nat) :
    InertAtRest (refreshClass.notifyWithin depth) := by
  intro offset s hmore hauto
  cases depth with
  | zero => rfl
  | succ depth =>
      unfold RefreshClass.notifyWithin RefreshClass.observeContentOffset
      split
      · show scrollViewContentOffsetDidChange _ _ _ s = s
        rw [scrollViewContentOffsetDidChange, if_pos hmore, if_neg (by simp [hauto]),
          autoFooterContentOffsetDidChange]
        split
        · rfl
        · split
          · split
            · rw [if_pos (by simp [movesBack])]
            · rfl
          · rfl
      · rfl

/-- Scrolling to where the view already is changes nothing. -/
theorem set_content_offset_at_rest {notify : Notify Unit} (hnotify : InertAtRest notify)
    {s : Sys Unit} (hmore : s.view.refreshMore = true) (hauto : s.view.refreshBack = false) :
    s.setContentOffset notify s.sv.contentOffset = s := by
  unfold Sys.setContentOffset
  split
  next hlinked =>
    rw [Sys.sv_of_linked hlinked]
    exact hnotify _ s hmore hauto
  · rfl

/-- A footer that is pulled does nothing when it neither enters nor leaves the refreshing state. -/
theorem back_footer_state_did_change_inert (notify : Notify Unit) {oldState state : MJRefreshState}
    (hold : oldState ≠ .refreshing) (hnew : state ≠ .refreshing) (s : Sys Unit) :
    backFooterStateDidChange notify oldState state s = s := by
  simp [backFooterStateDidChange, hold, hnew]

/-- The end of a trigger leaves the scroll view. -/
theorem end_trigger_sv (s : Sys Unit) : (endTrigger s).sv = s.sv := by
  unfold endTrigger
  split <;> rfl

/-- The end of a trigger leaves the kind of the view. -/
theorem end_trigger_kind (s : Sys Unit) :
    (endTrigger s).view.refreshMore = s.view.refreshMore ∧
      (endTrigger s).view.refreshBack = s.view.refreshBack := by
  unfold endTrigger
  split <;> exact ⟨rfl, rfl⟩

/-- The end of a trigger commutes with transposing. -/
theorem transpose_end_trigger (s : Sys Unit) :
    endTrigger s.transpose = (endTrigger s).transpose := by
  unfold endTrigger
  show (if s.view.triggerByDrag then _ else _) = _
  split <;> rfl

/-- The end of a page is the current offset when there are no insets. -/
theorem auto_footer_state_did_change_paging {notify : Notify Unit} (hnotify : InertAtRest notify)
    {s : Sys Unit} (hmore : s.view.refreshMore = true) (hauto : s.view.refreshBack = false)
    (hbottom : s.sv.mjInset.bottom = 0) :
    s.setContentOffset notify
      { s.sv.contentOffset with y := s.sv.contentOffset.y - s.sv.mjInset.bottom } = s := by
  rw [hbottom, sub_zero]
  exact set_content_offset_at_rest hnotify hmore hauto

/-- The state handler of footers that refresh by themselves commutes with transposing, unless a
refresh ends with paging and with insets at the end of the content. -/
theorem transpose_auto_footer_state_did_change {notify : Notify Unit}
    (hnotify : InertAtRest notify) {oldState state : MJRefreshState} {s : Sys Unit}
    (hmore : s.view.refreshMore = true) (hauto : s.view.refreshBack = false)
    (hpaging : oldState = .refreshing → s.sv.pagingEnabled = true →
      s.sv.mjInset.bottom = 0 ∧ s.sv.mjInset.right = 0) :
    autoFooterStateDidChange notify oldState state s.transpose =
      (autoFooterStateDidChange notify oldState state s).transpose := by
  unfold autoFooterStateDidChange
  split
  · rfl
  · split
    · dsimp only
      rw [transpose_end_trigger]
      have hsv := end_trigger_sv s
      obtain ⟨hmore', hauto'⟩ := end_trigger_kind s
      rw [hmore] at hmore'
      rw [hauto] at hauto'
      rw [← hsv] at hpaging
      generalize endTrigger s = s at hpaging hmore' hauto'
      split
      next hold =>
        have htranspose : s.transpose.sv.pagingEnabled = s.sv.pagingEnabled := by
          rw [Sys.transpose_sv]
          rfl
        rw [htranspose]
        split
        next hpage =>
          obtain ⟨hbottom, hright⟩ := hpaging hold hpage
          rw [auto_footer_state_did_change_paging hnotify hmore' hauto' hbottom,
            auto_footer_state_did_change_paging hnotify (s := s.transpose) hmore' hauto'
              (by rw [Sys.transpose_sv, UIScrollView.transpose_mj_inset]; exact hright)]
          rfl
        · rfl
      · rfl
    · rfl

/-- Setting the state commutes with transposing if it reaches no access to the vertical axis. -/
theorem transpose_set_state {notify : Notify Unit} (hnotify : InertAtRest notify)
    {state : MJRefreshState} {s : Sys Unit} (hfree : StateAxisFree state s) :
    setState notify state s.transpose = (setState notify state s).transpose := by
  by_cases hsame : state = s.view.state
  · rw [set_state_self notify hsame, set_state_self notify (s := s.transpose) hsame]
  · cases hmore : s.view.refreshMore with
    | false =>
        rw [set_state_header notify hmore hsame,
          set_state_header notify (s := s.transpose) hmore hsame, transpose_component_set_state]
        exact transpose_header_state_did_change _ _ _
    | true =>
        obtain ⟨hfreeBack, hfreeAuto⟩ := hfree hsame hmore
        cases hback : s.view.refreshBack with
        | true =>
            obtain ⟨hnew, hold⟩ := hfreeBack hback
            rw [set_state_back notify hmore hback hsame,
              set_state_back notify (s := s.transpose) hmore hback hsame,
              back_footer_state_did_change_inert notify hold hnew,
              back_footer_state_did_change_inert notify (show s.transpose.view.state ≠ _ from hold)
                hnew]
            rfl
        | false =>
            rw [set_state_auto notify hmore hback hsame,
              set_state_auto notify (s := s.transpose) hmore hback hsame,
              transpose_component_set_state]
            exact transpose_auto_footer_state_did_change hnotify hmore hback (hfreeAuto hback)

/-- Beginning a refresh does not make a footer that is pulled enter the refreshing state. -/
def BeginAxisFree (s : Sys Unit) : Prop :=
  s.view.refreshMore = true → s.view.refreshBack = true → s.view.inWindow = true →
    s.view.state = .refreshing

/-- Beginning a refresh commutes with transposing if it reaches no access to the vertical axis. -/
theorem transpose_begin_refreshing {notify : Notify Unit} (hnotify : InertAtRest notify)
    {s : Sys Unit} (hfree : BeginAxisFree s) :
    beginRefreshing notify s.transpose = (beginRefreshing notify s).transpose := by
  unfold beginRefreshing MJRefreshComponent.beginRefreshing
  show (if s.view.triggerByDrag && decide (s.view.leftTriggerTimes ≤ 0) && !unlimitedTrigger s then
    _ else _) = _
  split
  · rfl
  · dsimp only
    rw [s.transpose_map_view (f := fun view => { view with alpha := 1 }) (fun _ => rfl),
      transpose_set_pulling_percent]
    generalize hstart : MJRefreshComponent.setPullingPercent 1 _ = start
    have hwindow : start.view.inWindow = s.view.inWindow := by rw [← hstart]; rfl
    have hmore : start.view.refreshMore = s.view.refreshMore := by rw [← hstart]; rfl
    have hback : start.view.refreshBack = s.view.refreshBack := by rw [← hstart]; rfl
    have hstate : start.view.state = s.view.state := by rw [← hstart]; rfl
    show (if start.view.inWindow then _ else if start.view.state ≠ .refreshing then _ else _) = _
    split
    next hin =>
      refine transpose_set_state hnotify ?_
      intro hnew hfooter
      refine ⟨fun hpulled => ?_, fun _ hold => absurd hold.symm hnew⟩
      have hold := hfree (hmore ▸ hfooter) (hback ▸ hpulled) (hwindow ▸ hin)
      exact absurd (hstate.trans hold).symm hnew
    · split
      next hold =>
        refine transpose_set_state hnotify ?_
        intro _ _
        exact ⟨fun _ => ⟨by simp, hold⟩, fun _ h => absurd h hold⟩
      · rfl

/-! ## Notifications -/

/-- Letting go of the view does not make a footer that is pulled enter the refreshing state. -/
theorem transpose_pulling_did_change {notify : Notify Unit} (hnotify : InertAtRest notify)
    {s : Sys Unit} (pulled : Bool) (percent : CGFloat)
    (hfree : s.view.state = .pulling → s.sv.isDragging = false → BeginAxisFree s) :
    pullingDidChange notify pulled percent s.transpose =
      (pullingDidChange notify pulled percent s).transpose := by
  have hdragging : s.transpose.sv.isDragging = s.sv.isDragging := by
    rw [Sys.transpose_sv]
    rfl
  have hstate : ∀ {state : MJRefreshState} {t : Sys Unit},
      t.view.state ≠ .refreshing → state ≠ .refreshing → StateAxisFree state t := by
    intro state t hold hnew _ _
    exact ⟨fun _ => ⟨hnew, hold⟩, fun _ h => absurd h hold⟩
  unfold pullingDidChange MJRefreshComponent.pullingDidChange
  rw [hdragging, transpose_set_pulling_percent]
  generalize hpercent : MJRefreshComponent.setPullingPercent percent s = t
  dsimp only
  split
  · show (if t.view.state = .idle ∧ pulled = true then _ else
      if t.view.state = .pulling ∧ ¬ pulled = true then _ else _) = _
    split
    next hidle =>
      refine transpose_set_state hnotify (hstate ?_ (by simp))
      simp [hidle.1]
    · split
      next hpulling =>
        refine transpose_set_state hnotify (hstate ?_ (by simp))
        simp [hpulling.1]
      · rfl
  next hdrag =>
    show (if s.view.state = .pulling then _ else _) = _
    split
    next hpulling =>
      exact transpose_begin_refreshing hnotify (hfree hpulling (by simpa using hdrag))
    · split <;> rfl

/-- The offset along an axis at which the end of the content comes into view. -/
def endOfContent (content visible leading trailing : CGFloat) : CGFloat :=
  max (content - (visible - trailing - leading)) 0 - leading

/-- A notification reaches no access to the vertical axis that makes a difference: the content of a
footer that is pulled ends at the same offset along both axes, and letting go of it does not start
a refresh; the position of a footer that refreshes by itself is zero along both axes or along none;
and a header is offset alike along both axes or is pulled along none. -/
def OffsetAxisFree (s : Sys Unit) : Prop :=
  if s.view.refreshMore then
    if s.view.refreshBack then
      s.view.state ≠ .refreshing →
        endOfContent s.sv.contentSize.width s.sv.size.width s.sv.mjInset.left s.sv.mjInset.right =
          endOfContent s.sv.contentSize.height s.sv.size.height s.sv.mjInset.top
            s.sv.mjInset.bottom ∧
        (s.view.state = .pulling → s.sv.isDragging = false →
          endOfContent s.sv.contentSize.height s.sv.size.height s.sv.mjInset.top
            s.sv.mjInset.bottom < s.scrollAsixOffsetY → s.view.inWindow = false)
    else
      s.view.state = .idle → s.view.automaticallyRefresh = true →
        (s.view.frame.x = 0 ↔ s.view.frame.y = 0)
  else
    s.view.state ≠ .refreshing →
      s.sv.contentOffset.x = s.sv.contentOffset.y ∨
      -s.scrollAsixInsetTop < s.sv.contentOffset.x ∧ -s.scrollAsixInsetTop < s.sv.contentOffset.y

/-- A footer that remembers the current insets begins to show at the end of the content. -/
theorem happen_offset_y_remember_inset (s : Sys Unit) :
    happenOffsetY (MJRefreshComponent.rememberInset s) = endOfContent s.sv.contentSize.height
      s.sv.size.height s.sv.mjInset.top s.sv.mjInset.bottom := by
  show (if 0 < s.sv.contentSize.height - (s.sv.size.height - s.sv.mjInset.bottom - s.sv.mjInset.top)
    then _ else _) = _
  unfold endOfContent
  split
  next h =>
    rw [max_eq_left h.le]
    rfl
  next h =>
    rw [max_eq_right (not_lt.mp h), zero_sub]
    rfl

/-- The top inset that is remembered is the current one. -/
theorem remember_inset_origin_top (s : Sys Unit) :
    (MJRefreshComponent.rememberInset s).view.scrollAsixOriginInsetTop = s.scrollAsixInsetTop := rfl

/-- The content offset handler of headers commutes with transposing if it reaches no access to the
vertical axis. -/
theorem transpose_header_content_offset_did_change {notify : Notify Unit}
    (hnotify : InertAtRest notify) {s : Sys Unit} (hheader : s.view.refreshMore = false)
    (hfree : OffsetAxisFree s) :
    headerContentOffsetDidChange notify s.transpose =
      (headerContentOffsetDidChange notify s).transpose := by
  unfold headerContentOffsetDidChange
  show (if s.view.state = .refreshing then _ else _) = _
  split
  · exact transpose_reset_inset s
  next hstate =>
    have hoffset : s.sv.contentOffset.x = s.sv.contentOffset.y ∨
        -s.scrollAsixInsetTop < s.sv.contentOffset.x ∧
          -s.scrollAsixInsetTop < s.sv.contentOffset.y := by
      unfold OffsetAxisFree at hfree
      rw [if_neg (by simp [hheader])] at hfree
      exact hfree hstate
    dsimp only
    rw [transpose_remember_inset, Sys.transpose_sv, Sys.transpose_view,
      RefreshView.transpose_scroll_asix_origin_inset_top, RefreshView.transpose_asxi_height,
      remember_inset_origin_top]
    have hread : (MJRefreshComponent.rememberInset s).sv.transpose.contentOffset.y =
        s.sv.contentOffset.x := rfl
    have hread' : (MJRefreshComponent.rememberInset s).sv.contentOffset.y =
        s.sv.contentOffset.y := rfl
    rw [hread, hread']
    rcases hoffset with heq | ⟨hx, hy⟩
    · rw [heq]
      split
      · rfl
      · refine transpose_pulling_did_change hnotify _ _ (fun _ _ hmore => ?_)
        have hmore' : s.view.refreshMore = true := hmore
        rw [hheader] at hmore'
        cases hmore'
    · rw [if_pos hx, if_pos hy]

/-- The content offset handler of footers that are pulled commutes with transposing if it reaches no
access to the vertical axis. -/
theorem transpose_back_footer_content_offset_did_change {notify : Notify Unit}
    (hnotify : InertAtRest notify) {s : Sys Unit} (hmore : s.view.refreshMore = true)
    (hback : s.view.refreshBack = true) (hfree : OffsetAxisFree s) :
    backFooterContentOffsetDidChange notify s.transpose =
      (backFooterContentOffsetDidChange notify s).transpose := by
  unfold backFooterContentOffsetDidChange
  show (if s.view.state = .refreshing then _ else _) = _
  split
  · rfl
  next hstate =>
    unfold OffsetAxisFree at hfree
    rw [if_pos hmore, if_pos hback] at hfree
    obtain ⟨hhappen, hbegin⟩ := hfree hstate
    rw [← happen_offset_y_remember_inset] at hbegin
    have hread : happenOffsetY (MJRefreshComponent.rememberInset s.transpose) =
        happenOffsetY (MJRefreshComponent.rememberInset s) := by
      rw [happen_offset_y_remember_inset, happen_offset_y_remember_inset, Sys.transpose_sv,
        UIScrollView.transpose_mj_inset]
      exact hhappen
    dsimp only
    rw [hread, transpose_remember_inset, Sys.transpose_scroll_asix_offset_y, Sys.transpose_view,
      RefreshView.transpose_asxi_height]
    split
    · rfl
    next hbeyond =>
      show (if (MJRefreshComponent.rememberInset s).view.state = .noMoreData then _ else _) = _
      split
      · rfl
      · refine transpose_pulling_did_change hnotify _ _ (fun hpulling hdrag _ _ hin => ?_)
        have hout : s.view.inWindow = false := hbegin hpulling hdrag (lt_of_not_ge hbeyond)
        have hin' : s.view.inWindow = true := hin
        rw [hout] at hin'
        cases hin'

/-- Whether the offset moves back along the direction of the view is the same after transposing. -/
theorem transpose_moves_back (old new : CGPoint) (s : Sys Unit) :
    movesBack old.transpose new.transpose s.transpose = movesBack old new s := by
  unfold movesBack
  rw [Sys.transpose_view, RefreshView.transpose]
  cases s.view.horizontalDirection <;> rfl

/-- The content offset handler of footers that refresh by themselves commutes with transposing if it
reaches no access to the vertical axis. -/
theorem transpose_auto_footer_content_offset_did_change {notify : Notify Unit}
    (hnotify : InertAtRest notify) {s : Sys Unit} (hmore : s.view.refreshMore = true)
    (hauto : s.view.refreshBack = false) (hfree : OffsetAxisFree s) (old new : CGPoint) :
    autoFooterContentOffsetDidChange notify old.transpose new.transpose s.transpose =
      (autoFooterContentOffsetDidChange notify old new s).transpose := by
  have hguard : (s.transpose.view.state ≠ .idle ∨ s.transpose.view.automaticallyRefresh = false ∨
      s.transpose.view.frame.y = 0) ↔
      (s.view.state ≠ .idle ∨ s.view.automaticallyRefresh = false ∨ s.view.frame.y = 0) := by
    unfold OffsetAxisFree at hfree
    rw [if_pos hmore, if_neg (by simp [hauto])] at hfree
    show (s.view.state ≠ .idle ∨ s.view.automaticallyRefresh = false ∨ s.view.frame.x = 0) ↔ _
    by_cases hidle : s.view.state = .idle
    · cases hrefresh : s.view.automaticallyRefresh with
      | false => simp
      | true => simp [hidle, hfree hidle hrefresh]
    · simp [hidle]
  have htrigger : autoTriggerOffset s.transpose = autoTriggerOffset s := by
    simp only [autoTriggerOffset, Sys.transpose_scroll_asxi_content_height, Sys.transpose_view,
      RefreshView.transpose_asxi_height, RefreshView.transpose_scroll_asix_origin_inset_bottom]
    rfl
  unfold autoFooterContentOffsetDidChange
  rw [if_congr hguard rfl rfl]
  split
  · rfl
  · rw [htrigger, transpose_moves_back, Sys.transpose_view, RefreshView.transpose_asxi_height,
      Sys.transpose_scroll_asix_inset_top, Sys.transpose_scroll_asxi_content_height,
      Sys.transpose_scroll_asix_offset_y, Sys.transpose_sv]
    split
    · split
      · split
        · rfl
        · dsimp only
          rw [s.transpose_map_view (f := fun view => { view with
            triggerByDrag := s.sv.isDragging || view.triggerByDrag }) (fun _ => rfl)]
          refine transpose_begin_refreshing hnotify (fun _ hback => ?_)
          have hback' : s.view.refreshBack = true := hback
          rw [hauto] at hback'
          cases hback'
      · rfl
    · rfl

/-- Notifications nested to any depth commute with exchanging the axes. -/
theorem transpose_notify_within (depth : Nat) {s : Sys Unit}
    (hfree : Shown s = true → OffsetAxisFree s) (old new : CGPoint) :
    refreshClass.notifyWithin depth old.transpose new.transpose s.transpose =
      (refreshClass.notifyWithin depth old new s).transpose := by
  cases depth with
  | zero => rfl
  | succ depth =>
      have hnotify := inert_at_rest_notify_within depth
      by_cases hshown : Shown s = true
      · have hinner : refreshClass.notifyWithin (depth + 1) old new s =
            scrollViewContentOffsetDidChange (refreshClass.notifyWithin depth) old new s :=
          if_pos hshown
        have houter : refreshClass.notifyWithin (depth + 1) old.transpose new.transpose
            s.transpose = scrollViewContentOffsetDidChange (refreshClass.notifyWithin depth)
              old.transpose new.transpose s.transpose :=
          if_pos hshown
        rw [hinner, houter]
        unfold scrollViewContentOffsetDidChange
        show (if s.view.refreshMore then if s.view.refreshBack then _ else _ else _) = _
        cases hmore : s.view.refreshMore with
        | false =>
            exact transpose_header_content_offset_did_change hnotify hmore (hfree hshown)
        | true =>
            cases hback : s.view.refreshBack with
            | true =>
                exact transpose_back_footer_content_offset_did_change hnotify hmore hback
                  (hfree hshown)
            | false =>
                exact transpose_auto_footer_content_offset_did_change hnotify hmore hback
                  (hfree hshown) old new
      · have hinner : refreshClass.notifyWithin (depth + 1) old new s = s := if_neg hshown
        have houter : refreshClass.notifyWithin (depth + 1) old.transpose new.transpose
            s.transpose = s.transpose := if_neg hshown
        rw [hinner, houter]

/-- The handler of the pan gesture commutes with transposing. -/
theorem transpose_pan_state_did_change {notify : Notify Unit} (hnotify : InertAtRest notify)
    (s : Sys Unit) :
    scrollViewPanStateDidChange notify s.transpose =
      (scrollViewPanStateDidChange notify s).transpose := by
  unfold scrollViewPanStateDidChange
  have hpan : s.transpose.sv.panState = s.sv.panState := by
    rw [Sys.transpose_sv]
    rfl
  have hthreshold : panEndedOffset s.transpose = panEndedOffset s := by
    simp only [panEndedOffset, Sys.transpose_scroll_asix_inset_top,
      Sys.transpose_scroll_asxi_content_height, Sys.transpose_scroll_asix_height]
  rw [hpan]
  show (if !(s.view.refreshMore && !s.view.refreshBack) then _ else
    if s.view.state ≠ .idle then _ else _) = _
  split
  · rfl
  next hauto =>
    split
    · rfl
    · cases s.sv.panState with
      | ended =>
          show autoFooterPanEnded _ _ = (autoFooterPanEnded _ _).transpose
          unfold autoFooterPanEnded
          rw [hthreshold, Sys.transpose_scroll_asix_offset_y]
          split
          · rw [s.transpose_map_view (f := fun view => { view with triggerByDrag := true })
              (fun _ => rfl)]
            refine transpose_begin_refreshing hnotify (fun _ hback => ?_)
            have hback' : s.view.refreshBack = true := hback
            simp [hback'] at hauto
          · rfl
      | _ => rfl

/-! ## Blocks, completions and `setHidden:` -/

/-- Setting the offset along the axis commutes with exchanging the axes if the notification
does. -/
theorem transpose_set_content_offset (depth : Nat) {s : Sys Unit} (offset : CGPoint)
    (hfree : s.view.linked = true → Shown s = true →
      OffsetAxisFree (s.mapScroll fun sv => { sv with contentOffset := offset })) :
    s.transpose.setContentOffset (refreshClass.notifyWithin depth) offset.transpose =
      (s.setContentOffset (refreshClass.notifyWithin depth) offset).transpose := by
  cases hlinked : s.view.linked with
  | false =>
      have hlinked' : s.transpose.view.linked = false := hlinked
      rw [Sys.setContentOffset, Sys.setContentOffset, hlinked, hlinked']
      rfl
  | true =>
      rw [Sys.set_content_offset_of_linked hlinked,
        Sys.set_content_offset_of_linked (s := s.transpose) hlinked]
      exact transpose_notify_within depth
        (s := s.mapScroll fun sv => { sv with contentOffset := offset }) (hfree hlinked) _ _

/-- Setting the offset along the direction of the view commutes with transposing if the notification
reaches no access to the vertical axis. -/
theorem transpose_set_scroll_asix_offset_y (depth : Nat) {s : Sys Unit} (value : CGFloat)
    (hfree : ∀ offset, s.view.linked = true → Shown s = true →
      OffsetAxisFree (s.mapScroll fun sv => { sv with contentOffset := offset })) :
    s.transpose.setScrollAsixOffsetY (refreshClass.notifyWithin depth) value =
      (s.setScrollAsixOffsetY (refreshClass.notifyWithin depth) value).transpose := by
  unfold Sys.setScrollAsixOffsetY
  rw [Sys.transpose_sv]
  cases hdirection : s.view.horizontalDirection with
  | false =>
      rw [if_pos (show s.transpose.view.horizontalDirection = true by
        simp [RefreshView.transpose, hdirection])]
      exact transpose_set_content_offset depth { s.sv.contentOffset with y := value } (hfree _)
  | true =>
      rw [if_neg (show ¬ s.transpose.view.horizontalDirection = true by
        simp [RefreshView.transpose, hdirection])]
      exact transpose_set_content_offset depth { s.sv.contentOffset with x := value } (hfree _)

/-- Setting the top inset leaves the view. -/
theorem set_scroll_asix_origin_inset_top_view (value : CGFloat) (s : Sys Unit) :
    (s.setScrollAsixOriginInsetTop value).view = s.view := by
  unfold Sys.setScrollAsixOriginInsetTop
  split <;> exact Sys.update_scroll_view _ s

/-- The header is enlarged while it refreshes. -/
theorem transpose_header_refreshing_block (depth : Nat) {s : Sys Unit}
    (hfree : s.sv.panState ≠ .cancelled → s.view.linked = true → Shown s = true →
      s.view.refreshMore = false ∧ s.view.state = .refreshing) :
    headerRefreshingBlock (refreshClass.notifyWithin depth) s.transpose =
      (headerRefreshingBlock (refreshClass.notifyWithin depth) s).transpose := by
  have hpan : s.transpose.sv.panState = s.sv.panState := by
    rw [Sys.transpose_sv]
    rfl
  unfold headerRefreshingBlock
  dsimp only
  rw [hpan, Sys.transpose_view, RefreshView.transpose_scroll_asix_origin_inset_top,
    RefreshView.transpose_asxi_height, Sys.transpose_set_scroll_asix_origin_inset_top]
  by_cases hcancelled : s.sv.panState = .cancelled
  · simp only [hcancelled, ne_eq, not_true_eq_false, if_false]
    rfl
  · simp only [hcancelled, ne_eq, not_false_eq_true, if_true]
    have hview := set_scroll_asix_origin_inset_top_view
      (s.view.scrollAsixOriginInsetTop + s.view.asxiHeight) s
    generalize s.setScrollAsixOriginInsetTop _ = t at hview
    rw [transpose_set_scroll_asix_offset_y depth _ (s := t)]
    · rfl
    · intro offset hlinked hshown
      unfold Shown at hfree hshown
      rw [hview] at hlinked hshown
      obtain ⟨hheader, hstate⟩ := hfree hcancelled hlinked hshown
      unfold OffsetAxisFree
      rw [if_neg (by simp [hview, hheader])]
      intro hother
      exact absurd (by rw [Sys.mapScroll_view, hview]; exact hstate) hother

/-- The end of an animation of the bounds commutes with transposing, unless the view is not idle
after its refreshing animation. -/
theorem transpose_animation_did_stop (depth : Nat) {key : AnimationKey} {s : Sys Unit}
    (hfree : key = .refreshingBounds → s.view.linked = true → s.view.state = .idle) :
    animationDidStop (refreshClass.notifyWithin depth) key s.transpose =
      (animationDidStop (refreshClass.notifyWithin depth) key s).transpose := by
  cases key with
  | refreshing2IdleBounds =>
      unfold animationDidStop
      dsimp only
      rw [transpose_set_pulling_percent, Sys.transpose_set_user_interaction_enabled]
      rfl
  | refreshingBounds =>
      -- without a scroll view the writes are lost, and an idle header writes nothing
      have hskip : ∀ t : Sys Unit, (t.view.linked = true → t.view.state = .idle) →
          ∀ top offset, (if t.view.state ≠ .idle then
            (t.updateScroll (UIScrollView.setMjInsetT top)).setContentOffset
              (refreshClass.notifyWithin depth) offset else t) = t := by
        intro t ht top offset
        by_cases hidle : t.view.state = .idle
        · rw [if_neg (by simp [hidle])]
        · have hunlinked : t.view.linked = false := by
            cases hlinked : t.view.linked with
            | false => rfl
            | true => exact absurd (ht hlinked) hidle
          rw [if_pos hidle]
          simp [Sys.updateScroll, Sys.setContentOffset, hunlinked]
      unfold animationDidStop
      dsimp only
      rw [hskip s (hfree rfl), hskip s.transpose (hfree rfl),
        Sys.transpose_set_user_interaction_enabled]
      rfl

/-- Hiding or showing the view reaches no access to the vertical axis that makes a difference. -/
def HiddenAxisFree (hidden : Bool) (s : Sys Unit) : Prop :=
  (s.view.hidden ≠ hidden → s.view.linked = true →
    s.view.frame.width = 0 ∧ s.view.frame.height = 0) ∧
  (s.view.hidden = false → hidden = true → StateAxisFree .idle s) ∧
  (s.view.hidden = true → hidden = false →
    s.view.frame.x = s.sv.contentSize.width ∧ s.view.frame.y = s.sv.contentSize.height)

/-- The state handler of headers leaves the frame of the view. -/
theorem header_state_did_change_frame (oldState state : MJRefreshState) (s : Sys Unit) :
    (headerStateDidChange oldState state s).view.frame = s.view.frame ∧
      (headerStateDidChange oldState state s).view.linked = s.view.linked := by
  have hinset : ∀ (value : CGFloat) (t : Sys Unit), (t.setScrollAsixInsetTop value).view = t.view :=
    set_scroll_asix_origin_inset_top_view
  unfold headerStateDidChange
  split
  · split
    · exact ⟨rfl, rfl⟩
    · unfold headerEndingAction
      dsimp only
      split <;> simp [MJRefreshComponent.fadeOut, hinset]
  · split
    · unfold headerRefreshingAction
      split
      · split <;> simp [MJRefreshComponent.executeRefreshingCallback]
      · exact ⟨rfl, rfl⟩
    · exact ⟨rfl, rfl⟩

/-- The state handler of footers that refresh by themselves leaves the frame of the view. -/
theorem auto_footer_state_did_change_frame {notify : Notify Unit} (hnotify : InertAtRest notify)
    {oldState state : MJRefreshState} {s : Sys Unit}
    (hmore : s.view.refreshMore = true) (hauto : s.view.refreshBack = false)
    (hpaging : oldState = .refreshing → s.sv.pagingEnabled = true → s.sv.mjInset.bottom = 0) :
    (autoFooterStateDidChange notify oldState state s).view.frame = s.view.frame ∧
      (autoFooterStateDidChange notify oldState state s).view.linked = s.view.linked := by
  have hend : (endTrigger s).view.frame = s.view.frame ∧
      (endTrigger s).view.linked = s.view.linked := by
    unfold endTrigger
    split <;> exact ⟨rfl, rfl⟩
  obtain ⟨hmore', hauto'⟩ := end_trigger_kind s
  rw [← end_trigger_sv s] at hpaging
  unfold autoFooterStateDidChange
  split
  · exact ⟨rfl, rfl⟩
  · split
    · dsimp only
      split
      next hold =>
        split
        next hpage =>
          rw [auto_footer_state_did_change_paging hnotify (hmore'.trans hmore)
            (hauto'.trans hauto) (hpaging hold hpage)]
          exact hend
        · exact hend
      · exact hend
    · exact ⟨rfl, rfl⟩

/-- Setting the state moves nothing and keeps the scroll view. -/
theorem set_state_frame {notify : Notify Unit} (hnotify : InertAtRest notify)
    {state : MJRefreshState} {s : Sys Unit} (hfree : StateAxisFree state s) :
    (setState notify state s).view.frame = s.view.frame ∧
      (setState notify state s).view.linked = s.view.linked := by
  by_cases hsame : state = s.view.state
  · rw [set_state_self notify hsame]
    exact ⟨rfl, rfl⟩
  · cases hmore : s.view.refreshMore with
    | false =>
        rw [set_state_header notify hmore hsame]
        exact header_state_did_change_frame _ _ _
    | true =>
        obtain ⟨hfreeBack, hfreeAuto⟩ := hfree hsame hmore
        cases hback : s.view.refreshBack with
        | true =>
            obtain ⟨hnew, hold⟩ := hfreeBack hback
            rw [set_state_back notify hmore hback hsame,
              back_footer_state_did_change_inert notify hold hnew]
            exact ⟨rfl, rfl⟩
        | false =>
            rw [set_state_auto notify hmore hback hsame]
            exact auto_footer_state_did_change_frame hnotify hmore hback
              (fun hold hpage => (hfreeAuto hback hold hpage).1)

/-- A view without extent changes no inset. -/
theorem update_scroll_no_extent {s : Sys Unit} (hextent : s.view.linked = true →
    s.view.frame.height = 0) :
    s.updateScroll (fun sv => sv.setMjInsetB (sv.mjInset.bottom - s.view.frame.height)) = s ∧
      s.updateScroll (fun sv => sv.setMjInsetB (sv.mjInset.bottom + s.view.frame.height)) = s := by
  unfold Sys.updateScroll
  constructor
  · split
    next hlinked =>
      rw [hextent hlinked]
      simp only [sub_zero, UIScrollView.set_mj_inset_b_self]
      rfl
    · rfl
  · split
    next hlinked =>
      rw [hextent hlinked]
      simp only [add_zero, UIScrollView.set_mj_inset_b_self]
      rfl
    · rfl

/-- Hiding and showing commute with transposing if they reach no access to the vertical axis. -/
theorem transpose_set_hidden {notify : Notify Unit} (hnotify : InertAtRest notify) {hidden : Bool}
    {s : Sys Unit} (hfree : HiddenAxisFree hidden s) :
    setHidden notify hidden s.transpose = (setHidden notify hidden s).transpose := by
  obtain ⟨hextent, hstate, hplace⟩ := hfree
  have hview : s.transpose.mapView (fun view => { view with hidden := hidden }) =
      (s.mapView fun view => { view with hidden := hidden }).transpose := rfl
  cases hlast : s.view.hidden with
  | false =>
      have hlast' : s.transpose.view.hidden = false := hlast
      cases hidden with
      | false =>
          simp only [setHidden, hlast, hlast', hview]
          rfl
      | true =>
          have hidle := hstate hlast rfl
          have hfree : StateAxisFree .idle (s.mapView fun view => { view with hidden := true }) :=
            hidle
          obtain ⟨hframe, hlinked⟩ := set_state_frame hnotify hfree
          simp only [setHidden, hlast, hlast', hview, transpose_set_state hnotify hfree,
            Bool.not_false, Bool.and_self, if_true]
          generalize setState notify .idle _ = t at hframe hlinked
          have hzero : t.view.linked = true →
              t.view.frame.width = 0 ∧ t.view.frame.height = 0 := by
            intro h
            rw [hframe]
            exact hextent (by simp [hlast]) (hlinked.symm.trans h)
          rw [(update_scroll_no_extent (s := t) fun h => (hzero h).2).1,
            (update_scroll_no_extent (s := t.transpose) fun h => (hzero h).1).1]
  | true =>
      have hlast' : s.transpose.view.hidden = true := hlast
      cases hidden with
      | true =>
          simp only [setHidden, hlast, hlast', hview]
          rfl
      | false =>
          obtain ⟨hx, hy⟩ := hplace hlast rfl
          simp only [setHidden, hlast, hlast', hview, Bool.not_true, Bool.false_eq_true, if_false,
            Bool.not_false, Bool.and_self, if_true]
          generalize ht : s.mapView _ = t
          have hzero : t.view.linked = true →
              t.view.frame.width = 0 ∧ t.view.frame.height = 0 := by
            rw [← ht]
            exact hextent (by simp [hlast])
          rw [(update_scroll_no_extent (s := t) fun h => (hzero h).2).2,
            (update_scroll_no_extent (s := t.transpose) fun h => (hzero h).1).2]
          -- the view already stands where it is moved to
          have hmove : ∀ {u : Sys Unit} {y : CGFloat}, u.view.frame.y = y →
              u.mapView (fun view => { view with frame.y := y }) = u := by
            intro u y h
            subst h
            rfl
          rw [hmove (u := t), hmove (u := t.transpose)]
          · rw [Sys.transpose_sv, ← ht]
            exact hx
          · rw [← ht]
            exact hy

/-! ## Runs -/

/-- The condition on a step under which no access to the vertical axis makes a difference. -/
def AxisFree (s : Sys Unit) : Event → Prop
  | .contentOffset offset isDragging =>
      Shown s = true → OffsetAxisFree (s.mapScroll fun sv =>
        { sv with contentOffset := offset, isDragging := isDragging })
  | .beginRefreshing => BeginAxisFree s
  | .setState state => StateAxisFree state s
  | .setHidden hidden => HiddenAxisFree hidden s
  | .drawRect =>
      s.view.state = .willRefresh → s.view.refreshMore = true → s.view.refreshBack = false
  | .mainQueue =>
      (s.mainQueue.head? = some .endRefreshing → StateAxisFree .idle s) ∧
      (s.mainQueue.head? = some .headerRefreshing → s.sv.panState ≠ .cancelled →
        s.view.linked = true → Shown s = true →
        s.view.refreshMore = false ∧ s.view.state = .refreshing)
  | .completion index =>
      s.completions[index]? = some (.animationDidStop .refreshingBounds) →
        s.view.linked = true → s.view.state = .idle
  | _ => True

/-- The notification about the content size commutes with transposing. -/
theorem transpose_observe_content_size (s : Sys Unit) :
    refreshClass.observeContentSize s.transpose =
      (refreshClass.observeContentSize s).transpose := by
  unfold RefreshClass.observeContentSize
  show (if s.view.observing && s.view.userInteractionEnabled then _ else _) = _
  split
  · exact transpose_config_view_y s
  · rfl

/-- The notification about the pan gesture commutes with transposing. -/
theorem transpose_observe_pan_state {notify : Notify Unit} (hnotify : InertAtRest notify)
    (s : Sys Unit) :
    refreshClass.observePanState notify s.transpose =
      (refreshClass.observePanState notify s).transpose := by
  unfold RefreshClass.observePanState
  show (if Shown s then _ else _) = Sys.transpose (if Shown s then _ else _)
  split
  · exact transpose_pan_state_did_change hnotify s
  · rfl

/-- Drawing commutes with transposing, unless a footer that is pulled is about to refresh. -/
theorem transpose_draw_rect {notify : Notify Unit} (hnotify : InertAtRest notify) {s : Sys Unit}
    (hfree : s.view.state = .willRefresh → s.view.refreshMore = true →
      s.view.refreshBack = false) :
    MJRefreshComponent.drawRect (setState notify) s.transpose =
      (MJRefreshComponent.drawRect (setState notify) s).transpose := by
  unfold MJRefreshComponent.drawRect
  show (if s.view.state = .willRefresh then _ else _) = _
  split
  next hstate =>
    refine transpose_set_state hnotify (fun _ hmore => ⟨fun hback => ?_, fun _ hold => ?_⟩)
    · rw [hfree hstate hmore] at hback
      cases hback
    · rw [hstate] at hold
      cases hold
  · rfl

/-- A step along one axis is the same step along the other. -/
theorem transpose_step (depth : Nat) (s : Sys Unit) (event : Event) (hfree : AxisFree s event) :
    step depth s.transpose event.transpose = (step depth s event).transpose := by
  have hnotify := inert_at_rest_notify_within depth
  cases event with
  | attach scrollView => exact transpose_will_move_to_superview (some scrollView) s
  | detach => exact transpose_will_move_to_superview none s
  | contentOffset offset isDragging =>
      exact transpose_notify_within depth (s := s.mapScroll fun sv =>
        { sv with contentOffset := offset, isDragging := isDragging }) hfree _ _
  | contentSize size =>
      exact transpose_observe_content_size (s.mapScroll fun sv => { sv with contentSize := size })
  | panState panState =>
      exact transpose_observe_pan_state hnotify
        (s.mapScroll fun sv => { sv with panState := panState })
  | reloadData numberOfRows => rfl
  | window inWindow => rfl
  | beginRefreshing => exact transpose_begin_refreshing hnotify hfree
  | endRefreshing => rfl
  | setState state => exact transpose_set_state hnotify hfree
  | setHidden hidden => exact transpose_set_hidden hnotify hfree
  | drawRect => exact transpose_draw_rect hnotify hfree
  | layoutSubviews => exact transpose_place_subviews s
  | mainQueue =>
      show refreshClass.handle _ s.transpose .mainQueue = _
      unfold step
      cases hqueue : s.mainQueue with
      | nil =>
          rw [RefreshClass.handle_main_queue_nil _ _ hqueue,
            RefreshClass.handle_main_queue_nil _ _ (s := s.transpose) hqueue]
      | cons block blocks =>
          rw [RefreshClass.handle_main_queue_cons _ _ hqueue,
            RefreshClass.handle_main_queue_cons _ _ (s := s.transpose) hqueue]
          cases block with
          | endRefreshing =>
              exact transpose_set_state hnotify (s := { s with mainQueue := blocks })
                (hfree.1 (by rw [hqueue]; rfl))
          | refreshingCallback => rfl
          | headerRefreshing =>
              exact transpose_header_refreshing_block depth (s := { s with mainQueue := blocks })
                (hfree.2 (by rw [hqueue]; rfl))
  | completion index =>
      show refreshClass.handle _ s.transpose (.completion index) = _
      unfold step
      cases hindex : s.completions[index]? with
      | none =>
          rw [RefreshClass.handle_completion_none _ _ hindex,
            RefreshClass.handle_completion_none _ _ (s := s.transpose) hindex]
      | some completion =>
          rw [RefreshClass.handle_completion_some _ _ hindex,
            RefreshClass.handle_completion_some _ _ (s := s.transpose) hindex]
          cases completion with
          | animationDidStop key =>
              exact transpose_animation_did_stop depth
                (s := { s with completions := s.completions.eraseIdx index })
                (fun hkey => hfree (by rw [hindex, hkey]))
          | _ => rfl

instance (state : MJRefreshState) (s : Sys Unit) : Decidable (StateAxisFree state s) :=
  inferInstanceAs (Decidable (_ → _ → _))

instance (s : Sys Unit) : Decidable (BeginAxisFree s) := inferInstanceAs (Decidable (_ → _ → _ → _))

instance (s : Sys Unit) : Decidable (OffsetAxisFree s) :=
  inferInstanceAs (Decidable
    (if s.view.refreshMore then if s.view.refreshBack then _ else _ else _))

instance (hidden : Bool) (s : Sys Unit) : Decidable (HiddenAxisFree hidden s) :=
  inferInstanceAs (Decidable (_ ∧ _ ∧ _))

instance (s : Sys Unit) : (event : Event) → Decidable (AxisFree s event)
  | .contentOffset _ _ => inferInstanceAs (Decidable (_ → _))
  | .beginRefreshing => inferInstanceAs (Decidable (BeginAxisFree s))
  | .setState state => inferInstanceAs (Decidable (StateAxisFree state s))
  | .setHidden hidden => inferInstanceAs (Decidable (HiddenAxisFree hidden s))
  | .drawRect => inferInstanceAs (Decidable (_ → _ → _))
  | .mainQueue => inferInstanceAs (Decidable (_ ∧ _))
  | .completion _ => inferInstanceAs (Decidable (_ → _ → _))
  | .attach _ => .isTrue trivial
  | .detach => .isTrue trivial
  | .contentSize _ => .isTrue trivial
  | .panState _ => .isTrue trivial
  | .reloadData _ => .isTrue trivial
  | .window _ => .isTrue trivial
  | .endRefreshing => .isTrue trivial
  | .layoutSubviews => .isTrue trivial

end MJRefreshView

/-- A run in one direction whose steps are `AxisFree` is the transposed run in the other. -/
theorem transpose_run (depth : Nat) (view : RefreshView) (scrollView : UIScrollView)
    (events : List Event)
    (hfree : Admissible (MJRefreshView.step depth) MJRefreshView.AxisFree
      (Sys.start view scrollView ()) events) :
    run (MJRefreshView.step depth) (Sys.start view.transpose scrollView.transpose ())
        (events.map Event.transpose) =
      (run (MJRefreshView.step depth) (Sys.start view scrollView ()) events).transpose := by
  have hstep : ∀ s t event, t = s.transpose → MJRefreshView.AxisFree s event →
      MJRefreshView.step depth t event.transpose =
        (MJRefreshView.step depth s event).transpose := by
    intro s t event ht hevent
    subst ht
    exact MJRefreshView.transpose_step depth s event hevent
  exact run_simulation Event.transpose hstep rfl hfree

/-- A footer that refreshes by itself when the end of the table scrolls into view. -/
theorem transpose_run_auto_footer :
    let events : List Event := [.attach sampleScrollView, .window true, .panState .began,
      .contentOffset ⟨0, 900⟩ true, .panState .ended, .mainQueue, .endRefreshing, .mainQueue]
    let vertical := run (MJRefreshView.step 2)
      (Sys.start (MJRefreshView.refreshView true false false) sampleScrollView ()) events
    let horizontal := run (MJRefreshView.step 2)
      (Sys.start (MJRefreshView.refreshView true false true) sampleScrollView.transpose ())
      (events.map Event.transpose)
    vertical.fired = [.refreshing, .endRefreshingCompletion] ∧ horizontal = vertical.transpose := by
  refine ⟨by decide +kernel, ?_⟩
  exact transpose_run 2 (MJRefreshView.refreshView true false false) sampleScrollView _
    (by decide +kernel)

/-- A header is pulled by 56 points: the vertical one is pulled far enough to refresh, and the
horizontal one, which reads the vertical offset, does not react. -/
theorem horizontal_header_not_pulled :
    let events : List Event := [.attach sampleScrollView, .contentOffset ⟨0, -120⟩ true]
    let vertical := run (MJRefreshView.step 2)
      (Sys.start (MJRefreshView.refreshView false false false) sampleScrollView ()) events
    let horizontal := run (MJRefreshView.step 2)
      (Sys.start (MJRefreshView.refreshView false false true) sampleScrollView.transpose ())
      (events.map Event.transpose)
    vertical.view.state = .pulling ∧ horizontal.view.state = .idle ∧
      horizontal ≠ vertical.transpose := by
  intro events vertical horizontal
  have hvertical : vertical.view.state = .pulling := by decide +kernel
  have hhorizontal : horizontal.view.state = .idle := by decide +kernel
  refine ⟨hvertical, hhorizontal, fun h => ?_⟩
  have hstate : horizontal.view.state = vertical.view.state := by rw [h]; rfl
  rw [hvertical, hhorizontal] at hstate
  cases hstate

end Component.Refresh

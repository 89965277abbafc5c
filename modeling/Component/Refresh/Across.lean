import Component.Refresh.Drain
import Component.Refresh.View

/-!
# The position across the axis

`MJRefreshView` and the dedicated classes put a view at different positions across the axis and
treat the bounce of the scroll view along the other axis differently. `Sys.place` changes these two
and nothing else, and no event but attaching depends on them (`place_handle`).
-/

namespace Component.Refresh

variable {ρ : Type}

namespace Sys

/-- The same system with another horizontal position of the view and another horizontal bounce. -/
def place (x : CGFloat) (bounce : Bool) (s : Sys ρ) : Sys ρ :=
  (s.mapView fun view => { view with frame.x := x }).mapScroll fun sv =>
    { sv with alwaysBounceHorizontal := bounce }

variable (x : CGFloat) (bounce : Bool) (s : Sys ρ)

/-- The view reads the same of its scroll view. -/
theorem read_place {α : Type} (read : UIScrollView → α)
    (hread : ∀ sv : UIScrollView, read { sv with alwaysBounceHorizontal := bounce } = read sv) :
    read (s.place x bounce).sv = read s.sv := by
  unfold sv
  show read (if s.view.linked then _ else _) = _
  cases s.view.linked with
  | false => rfl
  | true => exact hread s.scrollView

/-- Moving a view across leaves the size of its scroll view. -/
@[simp] theorem place_size : (s.place x bounce).sv.size = s.sv.size :=
  s.read_place x bounce UIScrollView.size (fun _ => rfl)

/-- Moving a view across leaves the content offset. -/
@[simp] theorem place_content_offset : (s.place x bounce).sv.contentOffset = s.sv.contentOffset :=
  s.read_place x bounce UIScrollView.contentOffset (fun _ => rfl)

/-- Moving a view across leaves the content size. -/
@[simp] theorem place_content_size : (s.place x bounce).sv.contentSize = s.sv.contentSize :=
  s.read_place x bounce UIScrollView.contentSize (fun _ => rfl)

/-- Moving a view across does not start or end a drag. -/
@[simp] theorem place_is_dragging : (s.place x bounce).sv.isDragging = s.sv.isDragging :=
  s.read_place x bounce UIScrollView.isDragging (fun _ => rfl)

/-- Moving a view across leaves the state of the pan gesture. -/
@[simp] theorem place_pan_state : (s.place x bounce).sv.panState = s.sv.panState :=
  s.read_place x bounce UIScrollView.panState (fun _ => rfl)

/-- Moving a view across leaves the paging. -/
@[simp] theorem place_paging_enabled : (s.place x bounce).sv.pagingEnabled = s.sv.pagingEnabled :=
  s.read_place x bounce UIScrollView.pagingEnabled (fun _ => rfl)

/-- Moving a view across leaves the insets. -/
@[simp] theorem place_mj_inset : (s.place x bounce).sv.mjInset = s.sv.mjInset :=
  s.read_place x bounce UIScrollView.mjInset (fun _ => rfl)

/-- Moving a view across leaves the number of items. -/
@[simp] theorem place_mj_total_data_count :
    (s.place x bounce).sv.mjTotalDataCount = s.sv.mjTotalDataCount :=
  s.read_place x bounce UIScrollView.mjTotalDataCount (fun _ => rfl)

/-- A change of the view that ignores `frame.x` commutes with moving it across. -/
theorem place_map_view {f : RefreshView → RefreshView}
    (hf : ∀ view : RefreshView, f { view with frame.x := x } = { f view with frame.x := x }) :
    (s.place x bounce).mapView f = (s.mapView f).place x bounce := by
  simp [place, mapView, mapScroll, hf]

/-- A change of the scroll view that ignores `alwaysBounceHorizontal` commutes with moving the view
across. -/
theorem place_update_scroll {f : UIScrollView → UIScrollView}
    (hf : ∀ sv : UIScrollView, f { sv with alwaysBounceHorizontal := bounce } =
      { f sv with alwaysBounceHorizontal := bounce }) :
    (s.place x bounce).updateScroll f = (s.updateScroll f).place x bounce := by
  unfold updateScroll
  show (if s.view.linked then _ else _) = _
  cases s.view.linked with
  | false => rfl
  | true => simp [place, mapView, mapScroll, hf]

/-- Firing a callback commutes with moving the view across. -/
@[simp] theorem place_fire (callback : Callback) :
    (s.place x bounce).fire callback = (s.fire callback).place x bounce := rfl

end Sys

/-- A notification does not depend on the position across the axis. -/
def KeepsPlace (notify : Notify ρ) : Prop :=
  ∀ x bounce old new s, notify old new (Sys.place x bounce s) =
    (notify old new s).place x bounce

namespace MJRefreshView

variable (x : CGFloat) (bounce : Bool)

/-- Setting the pulling percent commutes with moving the view across. -/
@[simp] theorem place_set_pulling_percent (percent : CGFloat) (s : Sys ρ) :
    MJRefreshComponent.setPullingPercent percent (s.place x bounce) =
      (MJRefreshComponent.setPullingPercent percent s).place x bounce := rfl

/-- Storing a state commutes with moving the view across. -/
@[simp] theorem place_component_set_state (state : MJRefreshState) (s : Sys ρ) :
    MJRefreshComponent.setState state (s.place x bounce) =
      (MJRefreshComponent.setState state s).place x bounce := rfl

/-- The inset that is remembered does not depend on where the view is across. -/
@[simp] theorem place_remember_inset (s : Sys ρ) :
    MJRefreshComponent.rememberInset (s.place x bounce) =
      (MJRefreshComponent.rememberInset s).place x bounce := by
  unfold MJRefreshComponent.rememberInset
  rw [Sys.place_mj_inset]
  rfl

/-- The end of a trigger commutes with moving the view across. -/
@[simp] theorem place_end_trigger (s : Sys ρ) :
    endTrigger (s.place x bounce) = (endTrigger s).place x bounce := by
  unfold endTrigger
  show (if s.view.triggerByDrag then _ else _) = _
  split <;> rfl

/-- How far the content reaches beyond the scroll view does not depend on where the view is
across. -/
@[simp] theorem place_height_for_content_break_view (s : Sys ρ) :
    heightForContentBreakView (s.place x bounce) = heightForContentBreakView s := by
  unfold heightForContentBreakView
  rw [Sys.place_size, Sys.place_content_size]
  rfl

/-- The offset at which a footer begins to show does not depend on where it is across. -/
@[simp] theorem place_happen_offset_y (s : Sys ρ) :
    happenOffsetY (s.place x bounce) = happenOffsetY s := by
  unfold happenOffsetY
  rw [place_height_for_content_break_view]
  rfl

/-- The end of a refresh of a footer that is pulled commutes with moving it across. -/
theorem place_back_footer_ending_action (s : Sys ρ) :
    backFooterEndingAction (s.place x bounce) = (backFooterEndingAction s).place x bounce := by
  unfold backFooterEndingAction
  rw [Sys.place_fire]
  dsimp only
  rw [Sys.place_update_scroll x bounce (s.fire .endRefreshingAnimationBegin) (fun _ => rfl)]
  rfl

/-- The bottom inset for a refresh does not depend on where the footer is across. -/
@[simp] theorem place_back_footer_inset_bottom (s : Sys ρ) :
    backFooterInsetBottom (s.place x bounce) = backFooterInsetBottom s := by
  unfold backFooterInsetBottom
  rw [place_height_for_content_break_view]
  rfl

/-- Enlarging the bottom inset commutes with moving the footer across. -/
theorem place_back_footer_enlarge (s : Sys ρ) :
    backFooterEnlarge (s.place x bounce) = (backFooterEnlarge s).place x bounce := by
  unfold backFooterEnlarge
  dsimp only
  rw [Sys.place_mj_total_data_count, Sys.place_map_view x bounce s (fun _ => rfl)]
  generalize s.mapView _ = s
  rw [place_back_footer_inset_bottom, Sys.place_mj_inset,
    Sys.place_map_view x bounce s (fun _ => rfl)]
  exact Sys.place_update_scroll x bounce _ (fun _ => rfl)

section Handlers

variable {notify : Notify ρ} (hnotify : KeepsPlace notify)

include hnotify

/-- Setting the content offset commutes with moving the view across. -/
theorem place_set_content_offset (offset : CGPoint) (s : Sys ρ) :
    (s.place x bounce).setContentOffset notify offset =
      (s.setContentOffset notify offset).place x bounce := by
  unfold Sys.setContentOffset
  show (if s.view.linked then _ else _) = _
  split
  · exact hnotify x bounce _ _ (s.mapScroll fun sv => { sv with contentOffset := offset })
  · rfl

/-- The start of a refresh of a footer that is pulled commutes with moving it across. -/
theorem place_back_footer_refreshing_action (s : Sys ρ) :
    backFooterRefreshingAction notify (s.place x bounce) =
      (backFooterRefreshingAction notify s).place x bounce := by
  unfold backFooterRefreshingAction
  rw [place_back_footer_enlarge]
  generalize backFooterEnlarge s = s
  dsimp only
  rw [place_happen_offset_y, Sys.place_content_offset]
  exact congrArg _ (place_set_content_offset x bounce hnotify _ s)

/-- The state handler of footers that are pulled commutes with moving the view across. -/
theorem place_back_footer_state_did_change (oldState state : MJRefreshState) (s : Sys ρ) :
    backFooterStateDidChange notify oldState state (s.place x bounce) =
      (backFooterStateDidChange notify oldState state s).place x bounce := by
  have hend : (if oldState = .refreshing then backFooterEndingAction (s.place x bounce)
      else s.place x bounce) =
      (if oldState = .refreshing then backFooterEndingAction s else s).place x bounce := by
    split
    · exact place_back_footer_ending_action x bounce s
    · rfl
  unfold backFooterStateDidChange
  split
  · dsimp only
    rw [hend]
    generalize (if oldState = .refreshing then backFooterEndingAction s else s) = s
    rw [place_height_for_content_break_view, Sys.place_mj_total_data_count,
      Sys.place_content_offset]
    show (if oldState = .refreshing ∧ 0 < heightForContentBreakView s ∧
      s.sv.mjTotalDataCount ≠ s.view.lastRefreshCount then _ else _) = _
    split
    · exact place_set_content_offset x bounce hnotify _ s
    · rfl
  · split
    · exact place_back_footer_refreshing_action x bounce hnotify s
    · rfl

/-- The state handler of footers that refresh by themselves commutes with moving the view across. -/
theorem place_auto_footer_state_did_change (oldState state : MJRefreshState) (s : Sys ρ) :
    autoFooterStateDidChange notify oldState state (s.place x bounce) =
      (autoFooterStateDidChange notify oldState state s).place x bounce := by
  unfold autoFooterStateDidChange
  split
  · rfl
  · split
    · dsimp only
      rw [place_end_trigger]
      generalize endTrigger s = s
      rw [Sys.place_paging_enabled, Sys.place_content_offset, Sys.place_mj_inset]
      split
      · split
        · rw [place_set_content_offset x bounce hnotify]
          rfl
        · rfl
      · rfl
    · rfl

omit hnotify in
/-- Setting the top inset along the direction of the view commutes with moving it across. -/
theorem place_set_scroll_asix_inset_top (value : CGFloat) (s : Sys ρ) :
    (s.place x bounce).setScrollAsixInsetTop value =
      (s.setScrollAsixInsetTop value).place x bounce := by
  unfold Sys.setScrollAsixInsetTop
  show (if s.view.horizontalDirection then _ else _) = _
  split
  · exact s.place_update_scroll x bounce (fun _ => rfl)
  · exact s.place_update_scroll x bounce (fun _ => rfl)

omit hnotify in
/-- The top inset along the direction of the view does not depend on where it is across. -/
@[simp] theorem place_scroll_asix_inset_top (s : Sys ρ) :
    (s.place x bounce).scrollAsixInsetTop = s.scrollAsixInsetTop := by
  unfold Sys.scrollAsixInsetTop
  rw [Sys.place_mj_inset]
  rfl

omit hnotify in
/-- The offset along the direction of the view does not depend on where it is across. -/
@[simp] theorem place_scroll_asix_offset_y (s : Sys ρ) :
    (s.place x bounce).scrollAsixOffsetY = s.scrollAsixOffsetY := by
  unfold Sys.scrollAsixOffsetY
  rw [Sys.place_content_offset]
  rfl

omit hnotify in
/-- The content height along the direction of the view does not depend on where it is across. -/
@[simp] theorem place_scroll_asxi_content_height (s : Sys ρ) :
    (s.place x bounce).scrollAsxiContentHeight = s.scrollAsxiContentHeight := by
  unfold Sys.scrollAsxiContentHeight
  rw [Sys.place_content_size]
  rfl

omit hnotify in
/-- The height of the scroll view along the direction of the view does not depend on where it is
across. -/
@[simp] theorem place_scroll_asix_height (s : Sys ρ) :
    (s.place x bounce).scrollAsixHeight = s.scrollAsixHeight := by
  unfold Sys.scrollAsixHeight
  rw [Sys.place_size]
  rfl

omit hnotify in
/-- Enabling or disabling touches commutes with moving the view across. -/
theorem place_set_user_interaction_enabled (enabled : Bool) (s : Sys ρ) :
    (s.place x bounce).updateScroll (UIScrollView.setUserInteractionEnabled enabled) =
      (s.updateScroll (UIScrollView.setUserInteractionEnabled enabled)).place x bounce :=
  s.place_update_scroll x bounce (fun _ => rfl)

omit hnotify in
/-- The end of a refresh of a header commutes with moving it across. -/
theorem place_header_ending_action (s : Sys ρ) :
    headerEndingAction (s.place x bounce) = (headerEndingAction s).place x bounce := by
  unfold headerEndingAction
  rw [place_scroll_asix_inset_top, place_set_scroll_asix_inset_top,
    show (s.place x bounce).view.insetTDelta = s.view.insetTDelta from rfl]
  generalize s.setScrollAsixInsetTop _ = s
  dsimp only
  rw [place_set_user_interaction_enabled]
  show (if s.view.isCollectionViewAnimationBug then _ else _) = _
  split <;> rfl

omit hnotify in
/-- The start of a refresh of a header commutes with moving it across. -/
theorem place_header_refreshing_action (s : Sys ρ) :
    headerRefreshingAction (s.place x bounce) = (headerRefreshingAction s).place x bounce := by
  unfold headerRefreshingAction
  rw [Sys.place_pan_state, place_set_user_interaction_enabled]
  show (if s.view.isCollectionViewAnimationBug then _ else _) = _
  split
  · split <;> rfl
  · rfl

omit hnotify in
/-- The state handler of headers commutes with moving the view across. -/
theorem place_header_state_did_change (oldState state : MJRefreshState) (s : Sys ρ) :
    headerStateDidChange oldState state (s.place x bounce) =
      (headerStateDidChange oldState state s).place x bounce := by
  unfold headerStateDidChange
  split
  · split
    · rfl
    · exact place_header_ending_action x bounce s
  · split
    · exact place_header_refreshing_action x bounce s
    · rfl

/-- Setting the state commutes with moving the view across. -/
theorem place_set_state (state : MJRefreshState) (s : Sys ρ) :
    setState notify state (s.place x bounce) = (setState notify state s).place x bounce := by
  unfold setState
  dsimp only
  rw [place_component_set_state, place_back_footer_state_did_change x bounce hnotify,
    place_auto_footer_state_did_change x bounce hnotify, place_header_state_did_change]
  show (if state = s.view.state then _ else if s.view.refreshMore then
    if s.view.refreshBack then _ else _ else _) = _
  split
  · rfl
  · show _ = Sys.place x bounce
      (if s.view.refreshMore then if s.view.refreshBack then _ else _ else _)
    split
    · split <;> rfl
    · rfl

/-- Beginning a refresh commutes with moving the view across. -/
theorem place_begin_refreshing (s : Sys ρ) :
    beginRefreshing notify (s.place x bounce) = (beginRefreshing notify s).place x bounce := by
  unfold beginRefreshing MJRefreshComponent.beginRefreshing
  dsimp only
  rw [Sys.place_map_view x bounce s (fun _ => rfl), place_set_pulling_percent,
    place_set_state x bounce hnotify, place_set_state x bounce hnotify]
  generalize MJRefreshComponent.setPullingPercent 1 _ = start
  show (if s.view.triggerByDrag && decide (s.view.leftTriggerTimes ≤ 0) && !unlimitedTrigger s then
    _ else if start.view.inWindow then _ else if start.view.state ≠ .refreshing then _ else _) = _
  split
  · rfl
  · split
    · rfl
    · split <;> rfl

/-- The end of the content offset handlers commutes with moving the view across. -/
theorem place_pulling_did_change (pulled : Bool) (percent : CGFloat) (s : Sys ρ) :
    pullingDidChange notify pulled percent (s.place x bounce) =
      (pullingDidChange notify pulled percent s).place x bounce := by
  unfold pullingDidChange MJRefreshComponent.pullingDidChange
  dsimp only
  rw [Sys.place_is_dragging, place_set_pulling_percent, place_set_state x bounce hnotify,
    place_set_state x bounce hnotify, place_begin_refreshing x bounce hnotify]
  generalize MJRefreshComponent.setPullingPercent percent s = t
  show (if s.sv.isDragging then if t.view.state = .idle ∧ pulled = true then _ else
    if t.view.state = .pulling ∧ ¬ pulled = true then _ else _ else
    if s.view.state = .pulling then _ else _) = _
  split
  · split
    · rfl
    · split <;> rfl
  · split
    · rfl
    · split <;> rfl

omit hnotify in
/-- Adjusting the top inset during a refresh commutes with moving the view across. -/
theorem place_reset_inset (s : Sys ρ) :
    resetInset (s.place x bounce) = (resetInset s).place x bounce := by
  have hclamp : clampedInsetTop (s.place x bounce) = clampedInsetTop s := by
    unfold clampedInsetTop
    rw [place_scroll_asix_offset_y]
    rfl
  unfold resetInset
  dsimp only
  rw [hclamp, Sys.place_map_view x bounce s (fun _ => rfl)]
  generalize clampedInsetTop s = insetT
  show (if !s.scrollView.respondsToAdjustedContentInset && !s.view.inWindow then _ else _) = _
  split
  · rfl
  · rw [show (s.place x bounce).view.scrollAsixOriginInsetTop = s.view.scrollAsixOriginInsetTop
      from rfl]
    generalize s.mapView _ = s
    rw [place_scroll_asix_inset_top, place_set_scroll_asix_inset_top]
    split <;> rfl

/-- The content offset handler of footers that are pulled commutes with moving the view across. -/
theorem place_back_footer_content_offset_did_change (s : Sys ρ) :
    backFooterContentOffsetDidChange notify (s.place x bounce) =
      (backFooterContentOffsetDidChange notify s).place x bounce := by
  unfold backFooterContentOffsetDidChange
  dsimp only
  rw [place_remember_inset]
  show (if s.view.state = .refreshing then _ else _) = _
  split
  · rfl
  · generalize MJRefreshComponent.rememberInset s = s
    rw [place_scroll_asix_offset_y, place_happen_offset_y, place_set_pulling_percent,
      place_pulling_did_change x bounce hnotify]
    split
    · rfl
    · show (if s.view.state = .noMoreData then _ else _) = _
      split <;> rfl

/-- The content offset handler of footers that refresh by themselves commutes with moving the view
across. -/
theorem place_auto_footer_content_offset_did_change (old new : CGPoint) (s : Sys ρ) :
    autoFooterContentOffsetDidChange notify old new (s.place x bounce) =
      (autoFooterContentOffsetDidChange notify old new s).place x bounce := by
  have htrigger : autoTriggerOffset (s.place x bounce) = autoTriggerOffset s := by
    unfold autoTriggerOffset
    rw [place_scroll_asxi_content_height]
    rfl
  unfold autoFooterContentOffsetDidChange
  dsimp only
  rw [place_scroll_asix_inset_top, place_scroll_asxi_content_height, htrigger,
    place_scroll_asix_offset_y, Sys.place_is_dragging,
    Sys.place_map_view x bounce s (fun _ => rfl), place_begin_refreshing x bounce hnotify]
  show (if s.view.state ≠ .idle ∨ s.view.automaticallyRefresh = false ∨ s.view.frame.y = 0 then _
    else if s.view.asxiHeight < s.scrollAsixInsetTop + s.scrollAsxiContentHeight then
      if _ then if movesBack old new s then _ else _ else _ else _) = _
  split
  · rfl
  · split
    · split
      · split <;> rfl
      · rfl
    · rfl

/-- The content offset handler of headers commutes with moving the view across. -/
theorem place_header_content_offset_did_change (s : Sys ρ) :
    headerContentOffsetDidChange notify (s.place x bounce) =
      (headerContentOffsetDidChange notify s).place x bounce := by
  unfold headerContentOffsetDidChange
  dsimp only
  rw [place_reset_inset, place_remember_inset]
  show (if s.view.state = .refreshing then _ else _) = _
  split
  · rfl
  · generalize MJRefreshComponent.rememberInset s = s
    rw [Sys.place_content_offset, place_pulling_did_change x bounce hnotify]
    show (if -s.view.scrollAsixOriginInsetTop < s.sv.contentOffset.y then _ else _) = _
    split <;> rfl

/-- The content offset handler of every kind of view commutes with moving the view across. -/
theorem place_content_offset_did_change (old new : CGPoint) (s : Sys ρ) :
    scrollViewContentOffsetDidChange notify old new (s.place x bounce) =
      (scrollViewContentOffsetDidChange notify old new s).place x bounce := by
  unfold scrollViewContentOffsetDidChange
  rw [place_back_footer_content_offset_did_change x bounce hnotify,
    place_auto_footer_content_offset_did_change x bounce hnotify,
    place_header_content_offset_did_change x bounce hnotify]
  show (if s.view.refreshMore then if s.view.refreshBack then _ else _ else _) = _
  split
  · split <;> rfl
  · rfl

/-- The handler of the pan gesture commutes with moving the view across. -/
theorem place_pan_state_did_change (s : Sys ρ) :
    scrollViewPanStateDidChange notify (s.place x bounce) =
      (scrollViewPanStateDidChange notify s).place x bounce := by
  have hended : autoFooterPanEnded notify (s.place x bounce) =
      (autoFooterPanEnded notify s).place x bounce := by
    have hthreshold : panEndedOffset (s.place x bounce) = panEndedOffset s := by
      unfold panEndedOffset
      rw [place_scroll_asix_inset_top, place_scroll_asxi_content_height, place_scroll_asix_height]
    unfold autoFooterPanEnded
    rw [hthreshold, place_scroll_asix_offset_y, Sys.place_map_view x bounce s (fun _ => rfl),
      place_begin_refreshing x bounce hnotify]
    split <;> rfl
  unfold scrollViewPanStateDidChange
  rw [Sys.place_pan_state, hended]
  show (if !(s.view.refreshMore && !s.view.refreshBack) then _ else
    if s.view.state ≠ .idle then _ else _) = _
  split
  · rfl
  · split
    · rfl
    · cases s.sv.panState <;> rfl

/-- The block that enlarges the top inset commutes with moving the view across. -/
theorem place_header_refreshing_block (s : Sys ρ) :
    headerRefreshingBlock notify (s.place x bounce) =
      (headerRefreshingBlock notify s).place x bounce := by
  have hoffset : ∀ (value : CGFloat) (t : Sys ρ),
      (t.place x bounce).setScrollAsixOffsetY notify value =
      (t.setScrollAsixOffsetY notify value).place x bounce := by
    intro value t
    unfold Sys.setScrollAsixOffsetY
    rw [Sys.place_content_offset]
    show (if t.view.horizontalDirection then _ else _) = _
    split <;> exact place_set_content_offset x bounce hnotify _ t
  have hinset : ∀ (value : CGFloat) (t : Sys ρ),
      (t.place x bounce).setScrollAsixOriginInsetTop value =
        (t.setScrollAsixOriginInsetTop value).place x bounce :=
    place_set_scroll_asix_inset_top x bounce
  unfold headerRefreshingBlock
  dsimp only
  rw [Sys.place_pan_state, hinset, hoffset]
  split <;> rfl

/-- The end of an animation of the bounds commutes with moving the view across. -/
theorem place_animation_did_stop (key : AnimationKey) (s : Sys ρ) :
    animationDidStop notify key (s.place x bounce) =
      (animationDidStop notify key s).place x bounce := by
  unfold animationDidStop
  cases key with
  | refreshing2IdleBounds =>
      dsimp only
      rw [place_set_pulling_percent, place_set_user_interaction_enabled]
      rfl
  | refreshingBounds =>
      dsimp only
      rw [Sys.place_update_scroll x bounce s (fun _ => rfl), Sys.place_content_offset,
        place_set_content_offset x bounce hnotify]
      have hinner : ∀ t : Sys ρ, (if (s.place x bounce).view.state ≠ .idle then t.place x bounce
          else s.place x bounce) = (if s.view.state ≠ .idle then t else s).place x bounce := by
        intro t
        show (if s.view.state ≠ .idle then _ else _) = _
        split <;> rfl
      rw [hinner, place_set_user_interaction_enabled]
      rfl

/-- Hiding and showing commute with moving the view across. -/
theorem place_set_hidden (hidden : Bool) (s : Sys ρ) :
    setHidden notify hidden (s.place x bounce) = (setHidden notify hidden s).place x bounce := by
  unfold setHidden
  dsimp only
  rw [Sys.place_map_view x bounce s (fun _ => rfl), place_set_state x bounce hnotify,
    Sys.place_update_scroll x bounce _ (fun _ => rfl),
    Sys.place_update_scroll x bounce _ (fun _ => rfl), Sys.place_content_size]
  show (if !s.view.hidden && hidden then _ else if s.view.hidden && !hidden then _ else _) = _
  split
  · rfl
  · split <;> rfl

end Handlers

/-- A vertical view moves along the axis only. -/
theorem place_set_asxi_y (value : CGFloat) {s : Sys ρ}
    (hvertical : s.view.horizontalDirection = false) :
    (s.place x bounce).mapView (RefreshView.setAsxiY value) =
      (s.mapView (RefreshView.setAsxiY value)).place x bounce := by
  have hvertical' : (s.place x bounce).view.horizontalDirection = false := hvertical
  simp only [Sys.mapView, RefreshView.setAsxiY, hvertical, hvertical', Bool.false_eq_true, if_false]
  rfl

/-- Placing a vertical view along its direction commutes with moving it across. -/
theorem place_config_view_y {s : Sys ρ} (hvertical : s.view.horizontalDirection = false) :
    configViewY (s.place x bounce) = (configViewY s).place x bounce := by
  unfold configViewY
  dsimp only
  rw [place_scroll_asxi_content_height, place_set_asxi_y x bounce _ hvertical]
  show (if s.view.refreshMore then _ else _) = _
  split <;> rfl

/-- The layout of a vertical view commutes with moving it across. -/
theorem place_place_subviews {s : Sys ρ} (hvertical : s.view.horizontalDirection = false) :
    placeSubviews (s.place x bounce) = (placeSubviews s).place x bounce := by
  unfold placeSubviews
  rw [place_set_asxi_y x bounce _ hvertical]
  show (if s.view.refreshMore then _ else _) = _
  split <;> rfl

/-- Notifications nested to any depth do not depend on the position across the axis. -/
theorem keeps_place_notify_within (depth : Nat) :
    KeepsPlace (refreshClass.notifyWithin depth : Notify ρ) := by
  induction depth with
  | zero =>
      intro x bounce old new s
      rfl
  | succ depth ih =>
      intro x bounce old new s
      unfold RefreshClass.notifyWithin RefreshClass.observeContentOffset
      show (if Shown s then _ else _) = Sys.place x bounce (if Shown s then _ else _)
      split
      · exact place_content_offset_did_change x bounce ih old new s
      · rfl

/-- Every block on the main queue commutes with moving the view across. -/
theorem place_run_block {notify : Notify ρ} (hnotify : KeepsPlace notify) (block : Block)
    (s : Sys ρ) :
    refreshClass.runBlock notify block (s.place x bounce) =
      (refreshClass.runBlock notify block s).place x bounce := by
  cases block with
  | endRefreshing => exact place_set_state x bounce hnotify .idle s
  | refreshingCallback => rfl
  | headerRefreshing => exact place_header_refreshing_block x bounce hnotify s

/-- Every completion of an animation commutes with moving the view across. -/
theorem place_run_completion {notify : Notify ρ} (hnotify : KeepsPlace notify)
    (completion : Completion) (s : Sys ρ) :
    refreshClass.runCompletion notify completion (s.place x bounce) =
      (refreshClass.runCompletion notify completion s).place x bounce := by
  cases completion with
  | animationDidStop key => exact place_animation_did_stop x bounce hnotify key s
  | _ => rfl

/-- Running the head of the main queue commutes with moving the view across. -/
theorem place_handle_main_queue {notify : Notify ρ} (hnotify : KeepsPlace notify) (s : Sys ρ) :
    refreshClass.handle notify (s.place x bounce) .mainQueue =
      (refreshClass.handle notify s .mainQueue).place x bounce := by
  cases hqueue : s.mainQueue with
  | nil =>
      rw [RefreshClass.handle_main_queue_nil _ _ hqueue,
        RefreshClass.handle_main_queue_nil _ _ (s := s.place x bounce) hqueue]
  | cons block blocks =>
      rw [RefreshClass.handle_main_queue_cons _ _ hqueue,
        RefreshClass.handle_main_queue_cons _ _ (s := s.place x bounce) hqueue]
      exact place_run_block x bounce hnotify block { s with mainQueue := blocks }

/-- Running a pending completion commutes with moving the view across. -/
theorem place_handle_completion {notify : Notify ρ} (hnotify : KeepsPlace notify) (index : Nat)
    (s : Sys ρ) :
    refreshClass.handle notify (s.place x bounce) (.completion index) =
      (refreshClass.handle notify s (.completion index)).place x bounce := by
  cases hindex : s.completions[index]? with
  | none =>
      rw [RefreshClass.handle_completion_none _ _ hindex,
        RefreshClass.handle_completion_none _ _ (s := s.place x bounce) hindex]
  | some completion =>
      rw [RefreshClass.handle_completion_some _ _ hindex,
        RefreshClass.handle_completion_some _ _ (s := s.place x bounce) hindex]
      exact place_run_completion x bounce hnotify completion
        { s with completions := s.completions.eraseIdx index }

/-- No event but attaching and detaching depends on the position across the axis. -/
theorem place_handle {notify : Notify ρ} (hnotify : KeepsPlace notify) {s : Sys ρ}
    (hvertical : s.view.horizontalDirection = false) {event : Event}
    (hattach : ∀ scrollView, event ≠ .attach scrollView) (hdetach : event ≠ .detach) :
    refreshClass.handle notify (s.place x bounce) event =
      (refreshClass.handle notify s event).place x bounce := by
  cases event with
  | attach scrollView => exact absurd rfl (hattach scrollView)
  | detach => exact absurd rfl hdetach
  | contentOffset offset isDragging =>
      exact hnotify x bounce _ _ (s.mapScroll fun sv =>
        { sv with contentOffset := offset, isDragging := isDragging })
  | contentSize size =>
      show refreshClass.observeContentSize
        ((s.mapScroll fun sv => { sv with contentSize := size }).place x bounce) = _
      unfold RefreshClass.observeContentSize
      show (if s.view.observing && s.view.userInteractionEnabled then configViewY _ else _) =
        Sys.place x bounce
          (if s.view.observing && s.view.userInteractionEnabled then configViewY _ else _)
      split
      · exact place_config_view_y x bounce hvertical
      · rfl
  | panState panState =>
      show refreshClass.observePanState notify
        ((s.mapScroll fun sv => { sv with panState := panState }).place x bounce) = _
      unfold RefreshClass.observePanState
      show (if Shown s then scrollViewPanStateDidChange notify _ else _) =
        Sys.place x bounce (if Shown s then scrollViewPanStateDidChange notify _ else _)
      split
      · exact place_pan_state_did_change x bounce hnotify _
      · rfl
  | reloadData numberOfRows => rfl
  | window inWindow => rfl
  | beginRefreshing => exact place_begin_refreshing x bounce hnotify s
  | endRefreshing => rfl
  | setState state => exact place_set_state x bounce hnotify state s
  | setHidden hidden => exact place_set_hidden x bounce hnotify hidden s
  | drawRect =>
      show (if s.view.state = .willRefresh then setState notify .refreshing _ else _) =
        Sys.place x bounce
          (if s.view.state = .willRefresh then setState notify .refreshing _ else _)
      split
      · exact place_set_state x bounce hnotify .refreshing s
      · rfl
  | layoutSubviews => exact place_place_subviews x bounce hvertical
  | mainQueue => exact place_handle_main_queue x bounce hnotify s
  | completion index => exact place_handle_completion x bounce hnotify index s

/-- Running everything that is pending commutes with moving the view across. -/
theorem place_drain {notify : Notify ρ} (hnotify : KeepsPlace notify) (fuel : Nat) (s : Sys ρ) :
    refreshClass.drain notify fuel (s.place x bounce) =
      (refreshClass.drain notify fuel s).place x bounce := by
  induction fuel generalizing s with
  | zero => rfl
  | succ fuel ih =>
      unfold RefreshClass.drain
      rw [place_handle_main_queue x bounce hnotify, place_handle_completion x bounce hnotify, ih,
        ih]
      show (if s.mainQueue ≠ [] then _ else if s.completions ≠ [] then _ else _) = _
      split
      · rfl
      · split <;> rfl

end MJRefreshView

end Component.Refresh

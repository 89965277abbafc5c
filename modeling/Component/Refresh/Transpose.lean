import Component.Refresh.View

/-!
# The two directions of `MJRefreshView`

`transpose` exchanges the axes of a view and its scroll view and flips `horizontalDirection`. The
axis accessors do not see the difference, so every method that goes through them commutes with
`transpose`. This module has these methods; the ones that also read or write the vertical axis
directly are the subject of `Component.Refresh.Symmetry`.
-/

namespace Component.Refresh

/-! ## Exchanging the axes -/

/-- A scroll view with its axes exchanged. -/
def UIScrollView.transpose (sv : UIScrollView) : UIScrollView :=
  { sv with
    size := sv.size.transpose
    contentInset := sv.contentInset.transpose
    adjustment := sv.adjustment.transpose
    contentOffset := sv.contentOffset.transpose
    contentSize := sv.contentSize.transpose
    alwaysBounceHorizontal := sv.alwaysBounceVertical
    alwaysBounceVertical := sv.alwaysBounceHorizontal }

/-- A view of the other direction, with its axes exchanged. -/
def RefreshView.transpose (view : RefreshView) : RefreshView :=
  { view with
    horizontalDirection := !view.horizontalDirection
    frame := view.frame.transpose
    scrollViewOriginalInset := view.scrollViewOriginalInset.transpose }

/-- A view of the other direction on a scroll view with its axes exchanged. -/
def Sys.transpose (s : Sys Unit) : Sys Unit :=
  { s with view := s.view.transpose, scrollView := s.scrollView.transpose }

/-- The same event along the other axis. -/
def Event.transpose : Event → Event
  | .attach scrollView => .attach scrollView.transpose
  | .contentOffset offset isDragging => .contentOffset offset.transpose isDragging
  | .contentSize size => .contentSize size.transpose
  | event => event

namespace UIScrollView

/-- The insets of the transposed scroll view are the transposed insets. -/
@[simp] theorem transpose_mj_inset (sv : UIScrollView) :
    sv.transpose.mjInset = sv.mjInset.transpose := by
  unfold mjInset insetAdjustment transpose
  cases sv.respondsToAdjustedContentInset <;> rfl

/-- Setting the top inset corresponds to setting the left inset. -/
@[simp] theorem transpose_set_mj_inset_t (value : CGFloat) (sv : UIScrollView) :
    sv.transpose.setMjInsetL value = (sv.setMjInsetT value).transpose := by
  unfold setMjInsetL setMjInsetT insetAdjustment transpose
  cases sv.respondsToAdjustedContentInset <;> rfl

/-- Setting the left inset corresponds to setting the top inset. -/
@[simp] theorem transpose_set_mj_inset_l (value : CGFloat) (sv : UIScrollView) :
    sv.transpose.setMjInsetT value = (sv.setMjInsetL value).transpose := by
  unfold setMjInsetL setMjInsetT insetAdjustment transpose
  cases sv.respondsToAdjustedContentInset <;> rfl

/-- Setting the bottom inset corresponds to setting the right inset. -/
@[simp] theorem transpose_set_mj_inset_b (value : CGFloat) (sv : UIScrollView) :
    sv.transpose.setMjInsetR value = (sv.setMjInsetB value).transpose := by
  unfold setMjInsetR setMjInsetB insetAdjustment transpose
  cases sv.respondsToAdjustedContentInset <;> rfl

/-- Setting the right inset corresponds to setting the bottom inset. -/
@[simp] theorem transpose_set_mj_inset_r (value : CGFloat) (sv : UIScrollView) :
    sv.transpose.setMjInsetB value = (sv.setMjInsetR value).transpose := by
  unfold setMjInsetR setMjInsetB insetAdjustment transpose
  cases sv.respondsToAdjustedContentInset <;> rfl

end UIScrollView

namespace RefreshView

/-- The height along the direction of a view is the same after transposing. -/
@[simp] theorem transpose_asxi_height (view : RefreshView) :
    view.transpose.asxiHeight = view.asxiHeight := by
  unfold asxiHeight transpose
  cases view.horizontalDirection <;> rfl

/-- The remembered top inset along the direction of a view is the same after transposing. -/
@[simp] theorem transpose_scroll_asix_origin_inset_top (view : RefreshView) :
    view.transpose.scrollAsixOriginInsetTop = view.scrollAsixOriginInsetTop := by
  unfold scrollAsixOriginInsetTop transpose
  cases view.horizontalDirection <;> rfl

/-- The remembered bottom inset along the direction of a view is the same after transposing. -/
@[simp] theorem transpose_scroll_asix_origin_inset_bottom (view : RefreshView) :
    view.transpose.scrollAsixOriginInsetBottom = view.scrollAsixOriginInsetBottom := by
  unfold scrollAsixOriginInsetBottom transpose
  cases view.horizontalDirection <;> rfl

/-- Placing a view across its direction commutes with transposing. -/
theorem transpose_set_asxi_x (value : CGFloat) (view : RefreshView) :
    view.transpose.setAsxiX value = (view.setAsxiX value).transpose := by
  unfold setAsxiX
  cases h : view.horizontalDirection <;> simp [transpose, CGRect.transpose, h]

/-- Placing a view along its direction commutes with transposing. -/
theorem transpose_set_asxi_y (value : CGFloat) (view : RefreshView) :
    view.transpose.setAsxiY value = (view.setAsxiY value).transpose := by
  unfold setAsxiY
  cases h : view.horizontalDirection <;> simp [transpose, CGRect.transpose, h]

/-- Setting the width across the direction of a view commutes with transposing. -/
theorem transpose_set_asxi_width (value : CGFloat) (view : RefreshView) :
    view.transpose.setAsxiWidth value = (view.setAsxiWidth value).transpose := by
  unfold setAsxiWidth
  cases h : view.horizontalDirection <;> simp [transpose, CGRect.transpose, h]

end RefreshView

namespace Sys

/-- The view of the transposed system is the transposed view. -/
@[simp] theorem transpose_view (s : Sys Unit) : s.transpose.view = s.view.transpose := rfl

/-- The scroll view of the transposed system is the transposed scroll view. -/
@[simp] theorem transpose_sv (s : Sys Unit) : s.transpose.sv = s.sv.transpose := by
  unfold sv
  show (if s.view.linked then _ else _) = _
  cases s.view.linked <;> rfl

/-- A write to the view that treats the axes alike. -/
theorem transpose_map_view {f g : RefreshView → RefreshView} (s : Sys Unit)
    (h : ∀ view : RefreshView, g view.transpose = (f view).transpose) :
    s.transpose.mapView g = (s.mapView f).transpose := by
  simp [mapView, transpose, h]

/-- A write to the scroll view that treats the axes alike. -/
theorem transpose_map_scroll {f g : UIScrollView → UIScrollView} (s : Sys Unit)
    (h : ∀ sv : UIScrollView, g sv.transpose = (f sv).transpose) :
    s.transpose.mapScroll g = (s.mapScroll f).transpose := by
  simp [mapScroll, transpose, h]

/-- Changes of the scroll view that correspond to each other commute with transposing. -/
theorem transpose_update_scroll {f g : UIScrollView → UIScrollView} (s : Sys Unit)
    (h : ∀ sv : UIScrollView, g sv.transpose = (f sv).transpose) :
    s.transpose.updateScroll g = (s.updateScroll f).transpose := by
  unfold updateScroll
  show (if s.view.linked then _ else _) = _
  cases s.view.linked with
  | false => rfl
  | true => exact s.transpose_map_scroll h

/-- Enabling or disabling touches commutes with transposing. -/
theorem transpose_set_user_interaction_enabled (enabled : Bool) (s : Sys Unit) :
    s.transpose.updateScroll (UIScrollView.setUserInteractionEnabled enabled) =
      (s.updateScroll (UIScrollView.setUserInteractionEnabled enabled)).transpose :=
  s.transpose_update_scroll (fun _ => rfl)

/-- The width of the scroll view across the direction of the view is the same after transposing. -/
@[simp] theorem transpose_scroll_asxi_width (s : Sys Unit) :
    s.transpose.scrollAsxiWidth = s.scrollAsxiWidth := by
  unfold scrollAsxiWidth
  rw [transpose_sv, transpose_view, RefreshView.transpose]
  cases s.view.horizontalDirection <;> rfl

/-- The height of the scroll view along the direction of the view is the same after transposing. -/
@[simp] theorem transpose_scroll_asix_height (s : Sys Unit) :
    s.transpose.scrollAsixHeight = s.scrollAsixHeight := by
  unfold scrollAsixHeight
  rw [transpose_sv, transpose_view, RefreshView.transpose]
  cases s.view.horizontalDirection <;> rfl

/-- The offset along the direction of the view is the same after transposing. -/
@[simp] theorem transpose_scroll_asix_offset_y (s : Sys Unit) :
    s.transpose.scrollAsixOffsetY = s.scrollAsixOffsetY := by
  unfold scrollAsixOffsetY
  rw [transpose_sv, transpose_view, RefreshView.transpose]
  cases s.view.horizontalDirection <;> rfl

/-- The top inset along the direction of the view is the same after transposing. -/
@[simp] theorem transpose_scroll_asix_inset_top (s : Sys Unit) :
    s.transpose.scrollAsixInsetTop = s.scrollAsixInsetTop := by
  unfold scrollAsixInsetTop
  rw [transpose_sv, transpose_view, RefreshView.transpose, UIScrollView.transpose_mj_inset]
  cases s.view.horizontalDirection <;> rfl

/-- The content height along the direction of the view is the same after transposing. -/
@[simp] theorem transpose_scroll_asxi_content_height (s : Sys Unit) :
    s.transpose.scrollAsxiContentHeight = s.scrollAsxiContentHeight := by
  unfold scrollAsxiContentHeight
  rw [transpose_sv, transpose_view, RefreshView.transpose]
  cases s.view.horizontalDirection <;> rfl

/-- Setting the top inset along the direction of the view commutes with transposing. -/
theorem transpose_set_scroll_asix_inset_top (value : CGFloat) (s : Sys Unit) :
    s.transpose.setScrollAsixInsetTop value = (s.setScrollAsixInsetTop value).transpose := by
  unfold setScrollAsixInsetTop
  rw [transpose_view, RefreshView.transpose]
  cases s.view.horizontalDirection with
  | false => exact s.transpose_update_scroll (UIScrollView.transpose_set_mj_inset_t value)
  | true => exact s.transpose_update_scroll (UIScrollView.transpose_set_mj_inset_l value)

/-- Setting the top inset through `setScroll_asix_origin_Inset_top:` commutes with transposing. -/
theorem transpose_set_scroll_asix_origin_inset_top (value : CGFloat) (s : Sys Unit) :
    s.transpose.setScrollAsixOriginInsetTop value =
      (s.setScrollAsixOriginInsetTop value).transpose :=
  s.transpose_set_scroll_asix_inset_top value

/-- Setting the bottom inset through `setScroll_asix_origin_Inset_bottom:` commutes with
transposing. -/
theorem transpose_set_scroll_asix_origin_inset_bottom (value : CGFloat) (s : Sys Unit) :
    s.transpose.setScrollAsixOriginInsetBottom value =
      (s.setScrollAsixOriginInsetBottom value).transpose := by
  unfold setScrollAsixOriginInsetBottom
  rw [transpose_view, RefreshView.transpose]
  cases s.view.horizontalDirection with
  | false => exact s.transpose_update_scroll (UIScrollView.transpose_set_mj_inset_b value)
  | true => exact s.transpose_update_scroll (UIScrollView.transpose_set_mj_inset_r value)

end Sys

/-! ## Methods that treat the axes alike -/

namespace MJRefreshView

/-- Setting the pulling percent commutes with transposing. -/
theorem transpose_set_pulling_percent (percent : CGFloat) (s : Sys Unit) :
    MJRefreshComponent.setPullingPercent percent s.transpose =
      (MJRefreshComponent.setPullingPercent percent s).transpose := rfl

/-- Storing a state commutes with transposing. -/
theorem transpose_component_set_state (state : MJRefreshState) (s : Sys Unit) :
    MJRefreshComponent.setState state s.transpose =
      (MJRefreshComponent.setState state s).transpose := rfl

/-- Remembering the insets commutes with transposing. -/
theorem transpose_remember_inset (s : Sys Unit) :
    MJRefreshComponent.rememberInset s.transpose =
      (MJRefreshComponent.rememberInset s).transpose := by
  unfold MJRefreshComponent.rememberInset
  rw [Sys.transpose_sv, UIScrollView.transpose_mj_inset]
  rfl

/-- Bouncing along the direction of the view commutes with transposing. -/
theorem transpose_config_bouces (s : Sys Unit) :
    configBouces s.transpose = (configBouces s).transpose := by
  unfold configBouces
  rw [Sys.transpose_view, RefreshView.transpose]
  cases s.view.horizontalDirection with
  | false => exact s.transpose_update_scroll (fun _ => rfl)
  | true => exact s.transpose_update_scroll (fun _ => rfl)

/-- Recording the scroll view commutes with transposing. -/
theorem transpose_record_scroll_view (scrollView : UIScrollView) (s : Sys Unit) :
    recordScrollView scrollView.transpose s.transpose =
      (recordScrollView scrollView s).transpose := by
  unfold recordScrollView
  rw [UIScrollView.transpose_mj_inset]
  rfl

/-- Placing a view across its direction when it is attached commutes with transposing. -/
theorem transpose_place_across (s : Sys Unit) :
    placeAcross s.transpose = (placeAcross s).transpose := by
  unfold placeAcross
  rw [Sys.transpose_scroll_asxi_width,
    s.transpose_map_view (RefreshView.transpose_set_asxi_width _)]
  generalize s.mapView _ = s
  dsimp only
  rw [Sys.transpose_view, RefreshView.transpose_scroll_asix_origin_inset_top]
  exact s.transpose_map_view (RefreshView.transpose_set_asxi_x _)

/-- What every view does when it moves to a superview commutes with transposing. -/
theorem transpose_component_will_move_to_superview (newSuperview : Option UIScrollView)
    (s : Sys Unit) :
    componentWillMoveToSuperview (newSuperview.map UIScrollView.transpose) s.transpose =
      (componentWillMoveToSuperview newSuperview s).transpose := by
  cases newSuperview with
  | none => rfl
  | some scrollView =>
      simp only [componentWillMoveToSuperview, Option.map_some, transpose_record_scroll_view,
        transpose_place_across, transpose_config_bouces]
      exact Sys.transpose_map_view _ (fun _ => rfl)

/-- Placing a view along its direction commutes with transposing, whatever its kind. -/
theorem transpose_config_view_y (s : Sys Unit) :
    configViewY s.transpose = (configViewY s).transpose := by
  unfold configViewY
  simp only [Sys.transpose_scroll_asxi_content_height, Sys.transpose_view,
    RefreshView.transpose_scroll_asix_origin_inset_top,
    RefreshView.transpose_scroll_asix_origin_inset_bottom]
  show (if s.view.refreshMore then _ else _) = _
  cases s.view.refreshMore with
  | false => rfl
  | true => exact s.transpose_map_view (RefreshView.transpose_set_asxi_y _)

/-- Moving to a superview commutes with transposing for every kind of view. -/
theorem transpose_will_move_to_superview (newSuperview : Option UIScrollView) (s : Sys Unit) :
    willMoveToSuperview (newSuperview.map UIScrollView.transpose) s.transpose =
      (willMoveToSuperview newSuperview s).transpose := by
  unfold willMoveToSuperview
  rw [transpose_component_will_move_to_superview]
  generalize componentWillMoveToSuperview newSuperview s = s
  simp only [Sys.transpose_view, RefreshView.transpose_asxi_height,
    RefreshView.transpose_scroll_asix_origin_inset_bottom]
  show (if s.view.refreshMore then if s.view.refreshBack then _ else _ else _) = _
  cases s.view.refreshMore with
  | false => rfl
  | true =>
      cases s.view.refreshBack with
      | true => exact transpose_config_view_y s
      | false =>
          cases newSuperview with
          | none =>
              show (if s.view.hidden then _ else _) = _
              cases s.view.hidden with
              | true => rfl
              | false => exact s.transpose_set_scroll_asix_origin_inset_bottom _
          | some scrollView =>
              show configViewY (if s.view.hidden then _ else _) = _
              cases s.view.hidden with
              | true => exact transpose_config_view_y s
              | false =>
                  simp only [Bool.false_eq_true, if_false, if_true]
                  rw [s.transpose_set_scroll_asix_origin_inset_bottom]
                  exact transpose_config_view_y _

/-- The layout of a view commutes with transposing. -/
theorem transpose_place_subviews (s : Sys Unit) :
    placeSubviews s.transpose = (placeSubviews s).transpose := by
  unfold placeSubviews
  rw [Sys.transpose_view, RefreshView.transpose_asxi_height]
  show (if s.view.refreshMore then _ else _) = _
  cases s.view.refreshMore with
  | true => rfl
  | false => exact s.transpose_map_view (RefreshView.transpose_set_asxi_y _)

/-- The end of a refresh of a header commutes with transposing. -/
theorem transpose_header_ending_action (s : Sys Unit) :
    headerEndingAction s.transpose = (headerEndingAction s).transpose := by
  unfold headerEndingAction
  rw [Sys.transpose_scroll_asix_inset_top,
    show s.transpose.view.insetTDelta = s.view.insetTDelta from rfl,
    s.transpose_set_scroll_asix_inset_top]
  generalize s.setScrollAsixInsetTop _ = s
  dsimp only
  show (if s.view.isCollectionViewAnimationBug then _ else _) = _
  cases s.view.isCollectionViewAnimationBug with
  | false => rfl
  | true =>
      simp only [if_true]
      rw [s.transpose_set_user_interaction_enabled]
      rfl

/-- The start of a refresh of a header commutes with transposing. -/
theorem transpose_header_refreshing_action (s : Sys Unit) :
    headerRefreshingAction s.transpose = (headerRefreshingAction s).transpose := by
  unfold headerRefreshingAction
  rw [Sys.transpose_sv]
  show (if s.view.isCollectionViewAnimationBug then if s.sv.panState ≠ .cancelled then _ else _
    else _) = _
  cases s.view.isCollectionViewAnimationBug with
  | false => rfl
  | true =>
      simp only [if_true]
      by_cases hpan : s.sv.panState = .cancelled
      · rw [if_neg (by simp [hpan]), if_neg (by simp [hpan])]
        rfl
      · rw [if_pos hpan, if_pos hpan, s.transpose_set_user_interaction_enabled]
        rfl

/-- The state handler of headers commutes with transposing. -/
theorem transpose_header_state_did_change (oldState state : MJRefreshState) (s : Sys Unit) :
    headerStateDidChange oldState state s.transpose =
      (headerStateDidChange oldState state s).transpose := by
  unfold headerStateDidChange
  split
  · split
    · rfl
    · exact transpose_header_ending_action s
  · split
    · exact transpose_header_refreshing_action s
    · rfl

/-- Adjusting the top inset during a refresh commutes with transposing. -/
theorem transpose_reset_inset (s : Sys Unit) :
    resetInset s.transpose = (resetInset s).transpose := by
  have hclamp : clampedInsetTop s.transpose = clampedInsetTop s := by
    unfold clampedInsetTop
    simp only [Sys.transpose_view, Sys.transpose_scroll_asix_offset_y,
      RefreshView.transpose_scroll_asix_origin_inset_top, RefreshView.transpose_asxi_height]
  unfold resetInset
  rw [hclamp, Sys.transpose_view, RefreshView.transpose_scroll_asix_origin_inset_top]
  show (if !s.scrollView.respondsToAdjustedContentInset && !s.view.inWindow then _ else _) = _
  split
  · rfl
  · dsimp only
    rw [s.transpose_map_view (f := fun view => { view with
      insetTDelta := s.view.scrollAsixOriginInsetTop - clampedInsetTop s }) (fun _ => rfl)]
    generalize clampedInsetTop s = insetT
    generalize s.mapView _ = s
    rw [Sys.transpose_scroll_asix_inset_top]
    split
    · exact s.transpose_set_scroll_asix_inset_top _
    · rfl

end MJRefreshView

end Component.Refresh

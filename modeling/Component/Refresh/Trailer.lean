import Component.Lib.Run
import Component.Refresh.Dedicated
import Component.Refresh.Transpose

/-!
# `MJRefreshTrailer`

`MJRefreshTrailer` stands at the right end of a scroll view and is pulled to the left. It was
written along the lines of `MJRefreshBackFooter` with the axes exchanged, but the two are separate
classes, and they are attached and placed differently: a trailer gets its length only when it is
laid out and its position only when the content size changes. `trailer_run` says that from then on a
trailer does what a footer of the same length does, along the other axis.
-/

namespace Component.Refresh

open Component.Lib.Run

variable {ρ : Type} (notify : Notify ρ)

namespace MJRefreshTrailer

/-! ## The class -/

/-- `MJRefreshTrailWidth`. -/
def mjRefreshTrailWidth : CGFloat := 60

/-- `widthForContentBreakView`. -/
def widthForContentBreakView (s : Sys ρ) : CGFloat :=
  let w := s.sv.size.width - s.view.scrollViewOriginalInset.right -
    s.view.scrollViewOriginalInset.left
  s.sv.contentSize.width - w

/-- `happenOffsetX`. -/
def happenOffsetX (s : Sys ρ) : CGFloat :=
  let deltaW := widthForContentBreakView s
  if 0 < deltaW then deltaW - s.view.scrollViewOriginalInset.left
  else -s.view.scrollViewOriginalInset.left

/-- The animation that ends a refresh. The property `lastRightDelta` is the field that a footer
uses for `lastBottomDelta`. -/
def endingAction (s : Sys ρ) : Sys ρ :=
  let s := s.fire .endRefreshingAnimationBegin
  let s := s.updateScroll fun sv => sv.setMjInsetR (sv.mjInset.right - s.view.lastBottomDelta)
  let s := MJRefreshComponent.fadeOut s
  s.animate .endRefreshing

/-- The right inset with which the trailer stays in view while it refreshes. -/
def insetRight (s : Sys ρ) : CGFloat :=
  let right := s.view.frame.width + s.view.scrollViewOriginalInset.right
  let deltaW := widthForContentBreakView s
  if deltaW < 0 then right - deltaW else right

/-- The right inset is enlarged. -/
def enlarge (s : Sys ρ) : Sys ρ :=
  let count := s.sv.mjTotalDataCount
  let s := s.mapView fun view => { view with lastRefreshCount := count }
  let right := insetRight s
  let delta := right - s.sv.mjInset.right
  let s := s.mapView fun view => { view with lastBottomDelta := delta }
  s.updateScroll (UIScrollView.setMjInsetR right)

/-- The animation that starts a refresh. -/
def refreshingAction (s : Sys ρ) : Sys ρ :=
  let s := enlarge s
  let s := s.setContentOffset notify
    { s.sv.contentOffset with x := happenOffsetX s + s.view.frame.width }
  s.animate .executeRefreshingCallback

/-- `setState:` once the new state is stored. -/
def stateDidChange (oldState state : MJRefreshState) (s : Sys ρ) : Sys ρ :=
  if state = .noMoreData ∨ state = .idle then
    let s := if oldState = .refreshing then endingAction s else s
    let deltaW := widthForContentBreakView s
    if oldState = .refreshing ∧ 0 < deltaW ∧
        s.sv.mjTotalDataCount ≠ s.view.lastRefreshCount then
      s.setContentOffset notify { s.sv.contentOffset with x := s.sv.contentOffset.x }
    else s
  else if state = .refreshing then refreshingAction notify s
  else s

/-- `setState:`. -/
def setState (state : MJRefreshState) (s : Sys ρ) : Sys ρ :=
  let oldState := s.view.state
  if state = oldState then s
  else stateDidChange notify oldState state (MJRefreshComponent.setState state s)

/-- `beginRefreshing`, which is inherited. -/
def beginRefreshing (s : Sys ρ) : Sys ρ := MJRefreshComponent.beginRefreshing (setState notify) s

/-- `scrollViewContentOffsetDidChange:`. -/
def scrollViewContentOffsetDidChange (s : Sys ρ) : Sys ρ :=
  if s.view.state = .refreshing then s
  else
    let s := MJRefreshComponent.rememberInset s
    let currentOffsetX := s.sv.contentOffset.x
    let happenOffsetX := happenOffsetX s
    if currentOffsetX ≤ happenOffsetX then s
    else
      let pullingPercent := (currentOffsetX - happenOffsetX) / s.view.frame.width
      if s.view.state = .noMoreData then MJRefreshComponent.setPullingPercent pullingPercent s
      else
        let normal2pullingOffsetX := happenOffsetX + s.view.frame.width
        MJRefreshComponent.pullingDidChange (setState notify) (beginRefreshing notify)
          (normal2pullingOffsetX < currentOffsetX) pullingPercent s

/-- `scrollViewContentSizeDidChange:`. The property `ignoredScrollViewContentInsetRight` is the
field that all refresh views have for it. -/
def scrollViewContentSizeDidChange (s : Sys ρ) : Sys ρ :=
  let contentWidth := s.sv.contentSize.width + s.view.ignoredScrollViewContentInsetDeta
  let scrollWidth := s.sv.size.width - s.view.scrollViewOriginalInset.left -
    s.view.scrollViewOriginalInset.right + s.view.ignoredScrollViewContentInsetDeta
  s.mapView fun view => { view with frame.x := max contentWidth scrollWidth }

/-- `placeSubviews`. -/
def placeSubviews (s : Sys ρ) : Sys ρ :=
  let height := s.sv.size.height
  s.mapView fun view => { view with frame.height := height, frame.width := mjRefreshTrailWidth }

/-- `willMoveToSuperview:`. -/
def willMoveToSuperview (newSuperview : Option UIScrollView) (s : Sys ρ) : Sys ρ :=
  let s := MJRefreshComponent.willMoveToSuperview newSuperview s
  match newSuperview with
  | some _ => s.updateScroll fun sv =>
      { sv with alwaysBounceHorizontal := true, alwaysBounceVertical := false }
  | none => s

/-- The class `MJRefreshTrailer`, which starts no animation of the bounds. -/
def refreshClass : RefreshClass ρ where
  setState := setState
  beginRefreshing := beginRefreshing
  willMoveToSuperview := willMoveToSuperview
  scrollViewContentOffsetDidChange := fun notify _ _ s => scrollViewContentOffsetDidChange notify s
  scrollViewContentSizeDidChange := scrollViewContentSizeDidChange
  scrollViewPanStateDidChange := fun _ s => s
  placeSubviews := placeSubviews
  setHidden := fun _ hidden s => MJRefreshComponent.setHidden hidden s
  headerRefreshingBlock := fun _ s => s
  animationDidStop := fun _ _ s => s

/-- One event of a single `MJRefreshTrailer`. -/
def step (depth : Nat) (s : Sys Unit) (event : Event) : Sys Unit :=
  refreshClass.handle (refreshClass.notifyWithin depth) s event

end MJRefreshTrailer

/-- One event of a single `MJRefreshBackFooter`. -/
def MJRefreshBackFooter.step (depth : Nat) (s : Sys Unit) (event : Event) : Sys Unit :=
  MJRefreshBackFooter.refreshClass.handle
    (MJRefreshBackFooter.refreshClass.notifyWithin depth) s event

/-! ## The mirror image of a footer -/

/-- A view with its axes exchanged, where its position and its extent across the new axis are the
given ones. -/
def RefreshView.mirror (across : CGFloat × CGFloat) (view : RefreshView) : RefreshView :=
  { view.transpose with
    frame := { view.frame.transpose with y := across.1, height := across.2 } }

/-- A footer and its scroll view with the axes exchanged. -/
def Sys.mirror (across : CGFloat × CGFloat) (s : Sys Unit) : Sys Unit :=
  { s with view := s.view.mirror across, scrollView := s.scrollView.transpose }

section Mirror

variable (across : CGFloat × CGFloat)

/-- The view of the mirrored system is the mirrored view. -/
@[simp] theorem mirror_view (s : Sys Unit) : (s.mirror across).view = s.view.mirror across := rfl

/-- The scroll view of the mirrored system is the transposed scroll view. -/
@[simp] theorem mirror_sv (s : Sys Unit) : (s.mirror across).sv = s.sv.transpose := by
  unfold Sys.sv
  show (if s.view.linked then _ else _) = _
  cases s.view.linked <;> rfl

/-- A write to the view that the mirror image makes, too. -/
theorem mirror_map_view {f g : RefreshView → RefreshView} (s : Sys Unit)
    (h : ∀ view : RefreshView, g (view.mirror across) = (f view).mirror across) :
    (s.mirror across).mapView g = (s.mapView f).mirror across := by
  simp [Sys.mapView, Sys.mirror, h]

/-- A write to the scroll view that the mirror image makes, too. -/
theorem mirror_update_scroll {f g : UIScrollView → UIScrollView} (s : Sys Unit)
    (h : ∀ sv : UIScrollView, g sv.transpose = (f sv).transpose) :
    (s.mirror across).updateScroll g = (s.updateScroll f).mirror across := by
  unfold Sys.updateScroll
  show (if s.view.linked then _ else _) = _
  cases s.view.linked with
  | false => rfl
  | true => simp [Sys.mapScroll, Sys.mirror, h]

/-- Both sides take the same branch. -/
theorem mirror_ite {c : Prop} [Decidable c] {a b s t : Sys Unit}
    (hpos : c → a = s.mirror across) (hneg : ¬ c → b = t.mirror across) :
    (if c then a else b) = (if c then s else t).mirror across := by
  split
  next h => exact hpos h
  next h => exact hneg h

/-- Remembering the insets commutes with mirroring. -/
theorem mirror_remember_inset (s : Sys Unit) :
    MJRefreshComponent.rememberInset (s.mirror across) =
      (MJRefreshComponent.rememberInset s).mirror across := by
  unfold MJRefreshComponent.rememberInset
  rw [mirror_sv, UIScrollView.transpose_mj_inset]
  rfl

/-- How far the content reaches beyond the scroll view is the same after mirroring. -/
theorem mirror_width_for_content_break_view (s : Sys Unit) :
    MJRefreshTrailer.widthForContentBreakView (s.mirror across) =
      MJRefreshView.heightForContentBreakView s := by
  unfold MJRefreshTrailer.widthForContentBreakView
  rw [mirror_sv]
  rfl

/-- A trailer begins to show at the offset at which the footer does. -/
theorem mirror_happen_offset_x (s : Sys Unit) :
    MJRefreshTrailer.happenOffsetX (s.mirror across) = MJRefreshView.happenOffsetY s := by
  unfold MJRefreshTrailer.happenOffsetX
  rw [mirror_width_for_content_break_view]
  rfl

/-- A trailer ends a refresh as the footer does. -/
theorem mirror_ending_action (s : Sys Unit) :
    MJRefreshTrailer.endingAction (s.mirror across) =
      (MJRefreshView.backFooterEndingAction s).mirror across := by
  unfold MJRefreshTrailer.endingAction
  have hinset := mirror_update_scroll across (s.fire .endRefreshingAnimationBegin)
    (f := fun sv => sv.setMjInsetB (sv.mjInset.bottom - s.view.lastBottomDelta))
    (g := fun sv => sv.setMjInsetR (sv.mjInset.right - s.view.lastBottomDelta)) (fun sv => by
      rw [UIScrollView.transpose_mj_inset, UIScrollView.transpose_set_mj_inset_b]
      rfl)
  exact congrArg (fun s => (MJRefreshComponent.fadeOut s).animate .endRefreshing) hinset

/-- The right inset for a refresh of a trailer is the bottom inset for one of the footer. -/
theorem mirror_inset_right (s : Sys Unit) :
    MJRefreshTrailer.insetRight (s.mirror across) = MJRefreshView.backFooterInsetBottom s := by
  unfold MJRefreshTrailer.insetRight
  rw [mirror_width_for_content_break_view]
  rfl

/-- A trailer enlarges the right inset as the footer enlarges the bottom inset. -/
theorem mirror_enlarge (s : Sys Unit) :
    MJRefreshTrailer.enlarge (s.mirror across) =
      (MJRefreshView.backFooterEnlarge s).mirror across := by
  unfold MJRefreshTrailer.enlarge MJRefreshView.backFooterEnlarge
  dsimp only
  rw [mirror_sv, mirror_map_view across s (f := fun view => { view with
    lastRefreshCount := s.sv.mjTotalDataCount }) (fun _ => rfl)]
  generalize s.mapView _ = s
  rw [mirror_inset_right, mirror_sv, UIScrollView.transpose_mj_inset,
    mirror_map_view across s (f := fun view => { view with
      lastBottomDelta := MJRefreshView.backFooterInsetBottom s - s.sv.mjInset.bottom })
      (fun _ => rfl)]
  exact mirror_update_scroll across _ (UIScrollView.transpose_set_mj_inset_b _)

end Mirror

/-! ## Handlers and their mirror images -/

/-- Notifications to a footer and to its mirror image. -/
def MirrorsNotify (notify notify' : Notify Unit) : Prop :=
  ∀ across old new s, notify' old.transpose new.transpose (s.mirror across) =
    (notify old new s).mirror across

section Handlers

variable {notify notify' : Notify Unit} (hnotify : MirrorsNotify notify notify')
  (across : CGFloat × CGFloat)

include hnotify

/-- Setting the content offset commutes with mirroring. -/
theorem mirror_set_content_offset (offset : CGPoint) (s : Sys Unit) :
    (s.mirror across).setContentOffset notify' offset.transpose =
      (s.setContentOffset notify offset).mirror across := by
  unfold Sys.setContentOffset
  show (if s.view.linked then _ else _) = _
  cases s.view.linked with
  | false => rfl
  | true =>
      exact hnotify across _ offset (s.mapScroll fun sv => { sv with contentOffset := offset })

/-- The state handler commutes with mirroring. -/
theorem mirror_state_did_change (oldState state : MJRefreshState) (s : Sys Unit) :
    MJRefreshTrailer.stateDidChange notify' oldState state (s.mirror across) =
      (MJRefreshView.backFooterStateDidChange notify oldState state s).mirror across := by
  refine mirror_ite across (fun _ => ?_) (fun _ => mirror_ite across (fun _ => ?_) (fun _ => rfl))
  · have hend : (if oldState = .refreshing then MJRefreshTrailer.endingAction (s.mirror across)
        else s.mirror across) = (if oldState = .refreshing then
          MJRefreshView.backFooterEndingAction s else s).mirror across :=
      mirror_ite across (fun _ => mirror_ending_action across s) (fun _ => rfl)
    dsimp only
    rw [hend]
    generalize (if oldState = .refreshing then MJRefreshView.backFooterEndingAction s else s) = s
    rw [mirror_width_for_content_break_view, mirror_sv]
    exact mirror_ite across (fun _ => mirror_set_content_offset hnotify across _ s) (fun _ => rfl)
  · unfold MJRefreshTrailer.refreshingAction MJRefreshView.backFooterRefreshingAction
    dsimp only
    rw [mirror_enlarge]
    generalize MJRefreshView.backFooterEnlarge s = s
    rw [mirror_happen_offset_x, mirror_sv]
    have hoffset := mirror_set_content_offset hnotify across
      { s.sv.contentOffset with y := MJRefreshView.happenOffsetY s + s.view.frame.height } s
    exact congrArg (Sys.animate .executeRefreshingCallback) hoffset

/-- Setting the state commutes with mirroring. -/
theorem mirror_set_state (state : MJRefreshState) (s : Sys Unit) :
    MJRefreshTrailer.setState notify' state (s.mirror across) =
      (MJRefreshBackFooter.setState notify state s).mirror across :=
  mirror_ite across (fun _ => rfl) (fun _ =>
    mirror_state_did_change hnotify across _ state (MJRefreshComponent.setState state s))

/-- Beginning a refresh commutes with mirroring. -/
theorem mirror_begin_refreshing (s : Sys Unit) :
    MJRefreshTrailer.beginRefreshing notify' (s.mirror across) =
      (MJRefreshBackFooter.beginRefreshing notify s).mirror across := by
  have hset : ∀ state s, MJRefreshTrailer.setState notify' state (s.mirror across) =
      (MJRefreshBackFooter.setState notify state s).mirror across :=
    fun state s => mirror_set_state hnotify across state s
  have happear : MJRefreshComponent.setPullingPercent 1
      ((s.mirror across).mapView fun view => { view with alpha := 1 }) =
      (MJRefreshComponent.setPullingPercent 1
        (s.mapView fun view => { view with alpha := 1 })).mirror across := rfl
  unfold MJRefreshTrailer.beginRefreshing MJRefreshBackFooter.beginRefreshing
    MJRefreshComponent.beginRefreshing
  dsimp only
  rw [happear]
  generalize MJRefreshComponent.setPullingPercent 1 _ = s
  exact mirror_ite across (fun _ => hset _ s)
    (fun _ => mirror_ite across (fun _ => hset _ s) (fun _ => rfl))

/-- The end of the content offset handlers commutes with mirroring. -/
theorem mirror_pulling_did_change (pulled : Bool) (percent : CGFloat) (s : Sys Unit) :
    MJRefreshComponent.pullingDidChange (MJRefreshTrailer.setState notify')
        (MJRefreshTrailer.beginRefreshing notify') pulled percent (s.mirror across) =
      (MJRefreshComponent.pullingDidChange (MJRefreshBackFooter.setState notify)
        (MJRefreshBackFooter.beginRefreshing notify) pulled percent s).mirror across := by
  have hset : ∀ state s, MJRefreshTrailer.setState notify' state (s.mirror across) =
      (MJRefreshBackFooter.setState notify state s).mirror across :=
    fun state s => mirror_set_state hnotify across state s
  have hpercent : MJRefreshComponent.setPullingPercent percent (s.mirror across) =
      (MJRefreshComponent.setPullingPercent percent s).mirror across := rfl
  unfold MJRefreshComponent.pullingDidChange
  rw [mirror_sv, hpercent]
  refine mirror_ite across (fun _ => ?_) (fun _ => ?_)
  · generalize MJRefreshComponent.setPullingPercent percent s = s
    exact mirror_ite across (fun _ => hset _ s)
      (fun _ => mirror_ite across (fun _ => hset _ s) (fun _ => rfl))
  · exact mirror_ite across (fun _ => mirror_begin_refreshing hnotify across s)
      (fun _ => mirror_ite across (fun _ => rfl) (fun _ => rfl))

/-- The content offset handlers commute with mirroring. -/
theorem mirror_content_offset_did_change (s : Sys Unit) :
    MJRefreshTrailer.scrollViewContentOffsetDidChange notify' (s.mirror across) =
      (MJRefreshBackFooter.scrollViewContentOffsetDidChange notify s).mirror across := by
  refine mirror_ite across (fun _ => rfl) (fun _ => ?_)
  rw [mirror_remember_inset]
  generalize MJRefreshComponent.rememberInset s = s
  dsimp only
  rw [mirror_happen_offset_x, mirror_sv]
  refine mirror_ite across (fun _ => rfl) (fun _ => mirror_ite across (fun _ => rfl) (fun _ => ?_))
  exact mirror_pulling_did_change hnotify across _ _ s

end Handlers

/-- Notifications nested to any depth are mirrored. -/
theorem mirrors_notify_within (depth : Nat) :
    MirrorsNotify (MJRefreshBackFooter.refreshClass.notifyWithin depth)
      (MJRefreshTrailer.refreshClass.notifyWithin depth) := by
  induction depth with
  | zero =>
      intro across old new s
      rfl
  | succ depth ih =>
      intro across old new s
      exact mirror_ite across (fun _ => mirror_content_offset_did_change ih across s)
        (fun _ => rfl)

/-! ## The length of a footer -/

/-- Notifications leave the height of the view alone. -/
def KeepsHeight (notify : Notify Unit) : Prop :=
  ∀ old new s, (notify old new s).view.frame.height = s.view.frame.height

section Height

variable {notify : Notify Unit} (hnotify : KeepsHeight notify)

include hnotify

/-- Setting the content offset leaves the height of the footer. -/
theorem height_set_content_offset (offset : CGPoint) (s : Sys Unit) :
    (s.setContentOffset notify offset).view.frame.height = s.view.frame.height := by
  unfold Sys.setContentOffset
  split
  · exact hnotify _ _ _
  · rfl

/-- The state handler leaves the height of the footer. -/
theorem height_back_footer_state_did_change (oldState state : MJRefreshState) (s : Sys Unit) :
    (MJRefreshView.backFooterStateDidChange notify oldState state s).view.frame.height =
      s.view.frame.height := by
  unfold MJRefreshView.backFooterStateDidChange
  split
  · have hend : (if oldState = .refreshing then MJRefreshView.backFooterEndingAction s
        else s).view.frame.height = s.view.frame.height := by
      split
      · simp [MJRefreshView.backFooterEndingAction, MJRefreshComponent.fadeOut]
      · rfl
    dsimp only
    generalize (if oldState = .refreshing then MJRefreshView.backFooterEndingAction s else s) =
      ended at hend
    split
    · rw [height_set_content_offset hnotify, hend]
    · exact hend
  · split
    · show (Sys.setContentOffset notify _ _).view.frame.height = _
      rw [height_set_content_offset hnotify]
      simp [MJRefreshView.backFooterEnlarge]
    · rfl

/-- Setting the state leaves the height of the footer. -/
theorem height_back_footer_set_state (state : MJRefreshState) (s : Sys Unit) :
    (MJRefreshBackFooter.setState notify state s).view.frame.height = s.view.frame.height := by
  unfold MJRefreshBackFooter.setState
  dsimp only
  split
  · rfl
  · exact height_back_footer_state_did_change hnotify _ _ _

/-- Beginning a refresh leaves the height of the footer. -/
theorem height_back_footer_begin_refreshing (s : Sys Unit) :
    (MJRefreshBackFooter.beginRefreshing notify s).view.frame.height = s.view.frame.height := by
  unfold MJRefreshBackFooter.beginRefreshing MJRefreshComponent.beginRefreshing
  dsimp only
  split
  · exact height_back_footer_set_state hnotify _ _
  · split
    · exact height_back_footer_set_state hnotify _ _
    · rfl

/-- The content offset handler leaves the height of the footer. -/
theorem height_back_footer_content_offset_did_change (s : Sys Unit) :
    (MJRefreshBackFooter.scrollViewContentOffsetDidChange notify s).view.frame.height =
      s.view.frame.height := by
  have hset := height_back_footer_set_state hnotify
  unfold MJRefreshBackFooter.scrollViewContentOffsetDidChange MJRefreshComponent.pullingDidChange
  dsimp only
  split_ifs
  · rfl
  · rfl
  · rfl
  · exact hset _ _
  · exact hset _ _
  · rfl
  · exact height_back_footer_begin_refreshing hnotify _
  · rfl
  · rfl

end Height

/-- Notifications at every depth leave the height of the footer. -/
theorem keeps_height_notify_within (depth : Nat) :
    KeepsHeight (MJRefreshBackFooter.refreshClass.notifyWithin depth) := by
  induction depth with
  | zero =>
      intro old new s
      rfl
  | succ depth ih =>
      intro old new s
      unfold RefreshClass.notifyWithin RefreshClass.observeContentOffset
      split
      · exact height_back_footer_content_offset_did_change ih s
      · rfl

/-- A footer keeps its height, wherever it is attached. -/
theorem height_back_footer_step (depth : Nat) (s : Sys Unit) (event : Event) :
    (MJRefreshBackFooter.step depth s event).view.frame.height = s.view.frame.height := by
  have hnotify := keeps_height_notify_within depth
  have hset := height_back_footer_set_state hnotify
  unfold MJRefreshBackFooter.step
  cases event with
  | attach scrollView =>
      show (MJRefreshBackFooter.willMoveToSuperview _ s).view.frame.height = _
      simp [MJRefreshBackFooter.willMoveToSuperview, MJRefreshComponent.willMoveToSuperview,
        MJRefreshBackFooter.scrollViewContentSizeDidChange, MJRefreshComponent.rememberInset]
  | detach | reloadData _ | window _ | endRefreshing | setHidden _ | layoutSubviews => rfl
  | contentOffset offset isDragging => exact hnotify _ _ _
  | contentSize size =>
      simp only [RefreshClass.handle, RefreshClass.observeContentSize]
      split <;> rfl
  | panState panState =>
      simp only [RefreshClass.handle, RefreshClass.observePanState]
      split <;> rfl
  | beginRefreshing => exact height_back_footer_begin_refreshing hnotify s
  | setState state => exact hset state s
  | drawRect =>
      simp only [RefreshClass.handle, MJRefreshComponent.drawRect]
      split
      · exact hset _ s
      · rfl
  | mainQueue =>
      simp only [RefreshClass.handle]
      split
      · rfl
      next block blocks _ =>
        cases block with
        | endRefreshing => exact hset _ _
        | refreshingCallback | headerRefreshing => rfl
  | completion index =>
      simp only [RefreshClass.handle]
      split
      · rfl
      next completion _ => cases completion <;> rfl

/-! ## Runs -/

/-- The view stays where it is attached. -/
def Event.stays : Event → Bool
  | .attach _ | .detach => false
  | _ => true

/-- A trailer mirrors a footer up to its position and extent across the axis, and both are as long
as a trailer is. -/
def Mirrors (s t : Sys Unit) : Prop :=
  s.view.frame.height = MJRefreshTrailer.mjRefreshTrailWidth ∧ ∃ across, t = s.mirror across

/-- The handler of the content size commutes with mirroring. -/
theorem mirror_content_size_did_change (across : CGFloat × CGFloat) (s : Sys Unit) :
    MJRefreshTrailer.scrollViewContentSizeDidChange (s.mirror across) =
      (MJRefreshBackFooter.scrollViewContentSizeDidChange s).mirror across := by
  unfold MJRefreshTrailer.scrollViewContentSizeDidChange
  rw [mirror_sv]
  rfl

/-- An event of a footer is mirrored by the event along the other axis. -/
theorem Mirrors.step {s t : Sys Unit} (h : Mirrors s t) (depth : Nat) {event : Event}
    (hevent : event.stays = true) :
    Mirrors (MJRefreshBackFooter.step depth s event)
      (MJRefreshTrailer.step depth t event.transpose) := by
  obtain ⟨hheight, across, rfl⟩ := h
  refine ⟨(height_back_footer_step depth s event).trans hheight, ?_⟩
  have hnotify := mirrors_notify_within depth
  unfold MJRefreshBackFooter.step MJRefreshTrailer.step
  cases event with
  | attach _ | detach => cases hevent
  | contentOffset offset isDragging =>
      exact ⟨across, hnotify across _ offset (s.mapScroll fun sv => { sv with
        contentOffset := offset, isDragging := isDragging })⟩
  | contentSize size =>
      refine ⟨across, mirror_ite across (fun _ => ?_) (fun _ => rfl)⟩
      exact mirror_content_size_did_change across
        (s.mapScroll fun sv => { sv with contentSize := size })
  | panState panState => exact ⟨across, mirror_ite across (fun _ => rfl) (fun _ => rfl)⟩
  | reloadData _ | window _ | endRefreshing | setHidden _ => exact ⟨across, rfl⟩
  | beginRefreshing => exact ⟨across, mirror_begin_refreshing hnotify across s⟩
  | setState state => exact ⟨across, mirror_set_state hnotify across state s⟩
  | drawRect =>
      exact ⟨across, mirror_ite across (fun _ => mirror_set_state hnotify across _ s)
        (fun _ => rfl)⟩
  | layoutSubviews =>
      -- laying out gives the trailer the extent of the scroll view and the length it has already
      refine ⟨(across.1, s.sv.size.width), ?_⟩
      show MJRefreshTrailer.placeSubviews (s.mirror across) = s.mirror _
      unfold MJRefreshTrailer.placeSubviews
      rw [mirror_sv, ← hheight]
      rfl
  | mainQueue =>
      refine ⟨across, ?_⟩
      show MJRefreshTrailer.refreshClass.handle _ (s.mirror across) .mainQueue = _
      cases hqueue : s.mainQueue with
      | nil =>
          have hqueue' : (s.mirror across).mainQueue = [] := hqueue
          rw [RefreshClass.handle_main_queue_nil _ _ hqueue',
            RefreshClass.handle_main_queue_nil _ _ hqueue]
      | cons block blocks =>
          have hqueue' : (s.mirror across).mainQueue = block :: blocks := hqueue
          rw [RefreshClass.handle_main_queue_cons _ _ hqueue',
            RefreshClass.handle_main_queue_cons _ _ hqueue]
          cases block with
          | endRefreshing => exact mirror_set_state hnotify across _ { s with mainQueue := blocks }
          | refreshingCallback | headerRefreshing => rfl
  | completion index =>
      refine ⟨across, ?_⟩
      show MJRefreshTrailer.refreshClass.handle _ (s.mirror across) (.completion index) = _
      cases hindex : s.completions[index]? with
      | none =>
          have hindex' : (s.mirror across).completions[index]? = none := hindex
          rw [RefreshClass.handle_completion_none _ _ hindex',
            RefreshClass.handle_completion_none _ _ hindex]
      | some completion =>
          have hindex' : (s.mirror across).completions[index]? = some completion := hindex
          rw [RefreshClass.handle_completion_some _ _ hindex',
            RefreshClass.handle_completion_some _ _ hindex]
          cases completion <;> rfl

/-- A footer after it has been attached. -/
theorem back_footer_attached (view : RefreshView) (scrollView : UIScrollView) :
    ∃ y, MJRefreshBackFooter.refreshClass.attached view scrollView =
      Sys.start { view with
        linked := true
        observing := true
        scrollViewOriginalInset := scrollView.mjInset
        frame := ⟨-scrollView.mjInset.left, y, scrollView.size.width, view.frame.height⟩ }
        { scrollView with alwaysBounceVertical := true } () :=
  ⟨_, rfl⟩

/-- A trailer after it has been attached: it is as long as the scroll view. -/
theorem trailer_attached (view : RefreshView) (scrollView : UIScrollView) :
    MJRefreshTrailer.refreshClass.attached view scrollView =
      Sys.start { view with
        linked := true
        observing := true
        scrollViewOriginalInset := scrollView.mjInset
        frame := ⟨-scrollView.mjInset.left, view.frame.y, scrollView.size.width,
          view.frame.height⟩ }
        { scrollView with alwaysBounceHorizontal := true, alwaysBounceVertical := false } () :=
  rfl

/-- Attaching a footer and a trailer, laying them out and telling them the content size brings them
into line. -/
theorem mirrors_attached (depth : Nat) (view : RefreshView) (frame : CGRect)
    (scrollView : UIScrollView) (size : CGSize)
    (hheight : view.frame.height = MJRefreshTrailer.mjRefreshTrailWidth)
    (henabled : view.userInteractionEnabled = true)
    (hbounce : scrollView.alwaysBounceHorizontal = false) :
    Mirrors
      (run (MJRefreshBackFooter.step depth) (Sys.start view scrollView ())
        [.attach scrollView, .layoutSubviews, .contentSize size])
      (run (MJRefreshTrailer.step depth)
        (Sys.start { view.transpose with frame := frame } scrollView.transpose ())
        [.attach scrollView.transpose, .layoutSubviews, .contentSize size.transpose]) := by
  have hfooter : run (MJRefreshBackFooter.step depth) (Sys.start view scrollView ())
      [.attach scrollView, .layoutSubviews, .contentSize size] =
      MJRefreshBackFooter.scrollViewContentSizeDidChange
        ((MJRefreshBackFooter.refreshClass.attached view scrollView).mapScroll
          fun sv => { sv with contentSize := size }) := by
    refine if_pos ?_
    show (true && view.userInteractionEnabled) = true
    rw [henabled, Bool.and_self]
  have htrailer : run (MJRefreshTrailer.step depth)
      (Sys.start { view.transpose with frame := frame } scrollView.transpose ())
      [.attach scrollView.transpose, .layoutSubviews, .contentSize size.transpose] =
      MJRefreshTrailer.scrollViewContentSizeDidChange ((MJRefreshTrailer.placeSubviews
        (MJRefreshTrailer.refreshClass.attached { view.transpose with frame := frame }
          scrollView.transpose)).mapScroll fun sv =>
            { sv with contentSize := size.transpose }) := by
    refine if_pos ?_
    show (true && view.userInteractionEnabled) = true
    rw [henabled, Bool.and_self]
  obtain ⟨y, hattached⟩ := back_footer_attached view scrollView
  rw [hfooter, htrailer, hattached, trailer_attached]
  refine ⟨hheight, (frame.y, scrollView.size.width), ?_⟩
  rw [UIScrollView.transpose_mj_inset]
  unfold MJRefreshTrailer.placeSubviews
  rw [← hheight]
  refine Sys.ext rfl (UIScrollView.ext rfl rfl rfl rfl rfl rfl rfl rfl rfl rfl ?_ rfl rfl) rfl rfl
    rfl rfl rfl
  exact hbounce.symm

/-- Once a trailer has been attached, laid out and told the content size, it does all that a footer
of the same length does, along the other axis. -/
theorem trailer_run (depth : Nat) (view : RefreshView) (frame : CGRect) (scrollView : UIScrollView)
    (size : CGSize) (hheight : view.frame.height = MJRefreshTrailer.mjRefreshTrailWidth)
    (henabled : view.userInteractionEnabled = true)
    (hbounce : scrollView.alwaysBounceHorizontal = false) (events : List Event)
    (hevents : ∀ event ∈ events, event.stays = true) :
    let setup : List Event := [.attach scrollView, .layoutSubviews, .contentSize size]
    let s := run (MJRefreshBackFooter.step depth) (Sys.start view scrollView ()) (setup ++ events)
    let t := run (MJRefreshTrailer.step depth)
      (Sys.start { view.transpose with frame := frame } scrollView.transpose ())
      ((setup ++ events).map Event.transpose)
    ∃ across, t = s.mirror across := by
  intro setup s t
  have hsetup := mirrors_attached depth view frame scrollView size hheight henabled hbounce
  have hstep : ∀ state state' event, Mirrors state state' → event.stays = true →
      Mirrors (MJRefreshBackFooter.step depth state event)
        (MJRefreshTrailer.step depth state' event.transpose) :=
    fun _ _ _ h hevent => h.step depth hevent
  obtain ⟨-, across, hacross⟩ := run_simulation Event.transpose hstep hsetup
    (admissible_of_forall (MJRefreshBackFooter.step depth) _ hevents)
  exact ⟨across, hacross⟩

/-- A footer and a trailer are pulled by more than their length, let go and refreshed. -/
theorem trailer_run_refreshed :
    let view := { MJRefreshView.refreshView true true false with
      frame := ⟨0, 0, 0, 60⟩, inWindow := true }
    let setup : List Event := [.attach sampleScrollView, .layoutSubviews, .contentSize ⟨320, 900⟩]
    let events : List Event := [.contentOffset ⟨0, 570⟩ true, .contentOffset ⟨0, 560⟩ false,
      .completion 0, .mainQueue, .endRefreshing, .mainQueue, .completion 0]
    let s := run (MJRefreshBackFooter.step 2) (Sys.start view sampleScrollView ())
      (setup ++ events)
    let t := run (MJRefreshTrailer.step 2)
      (Sys.start { view.transpose with frame := ⟨0, 0, 0, 0⟩ } sampleScrollView.transpose ())
      ((setup ++ events).map Event.transpose)
    s.fired = [.refreshing, .endRefreshingAnimationBegin, .endRefreshingCompletion] ∧
      ∃ across, t = s.mirror across :=
  ⟨by decide +kernel, trailer_run 2 _ _ sampleScrollView _ rfl rfl rfl _ (by decide +kernel)⟩

end Component.Refresh

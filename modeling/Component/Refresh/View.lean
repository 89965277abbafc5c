import Component.Refresh.System

/-!
# `MJRefreshView`

One class that is a header (`refreshMore = NO`), a footer that refreshes when it scrolls into view
(`refreshMore = YES`, `refreshBack = NO`) or a footer that has to be pulled (`refreshMore = YES`,
`refreshBack = YES`), along either axis. Most of its methods go through the axis accessors of
`MJRefreshComponent`, but some read or write the vertical axis whatever the direction; each
definition uses the accessors that its method uses.
-/

namespace Component.Refresh.MJRefreshView

variable {ρ : Type} (notify : Notify ρ)

/-! ## Creating, attaching and placing -/

/-- `mj_refreshDefaultDeta`. -/
def mjRefreshDefaultDeta (refreshMore : Bool) : CGFloat := if refreshMore then 54 else 44

/-- `refreshViewWithBlock:refreshMore:refreshBack:horizontalDirection:`: what `initWithFrame:` and
`configPrepare` leave in a new view. -/
def refreshView (refreshMore refreshBack horizontalDirection : Bool) : RefreshView :=
  RefreshView.setAsxiHeight (mjRefreshDefaultDeta refreshMore) {
    refreshMore := refreshMore
    refreshBack := refreshBack
    horizontalDirection := horizontalDirection
    frame := ⟨0, 0, 0, 0⟩
    hidden := false
    userInteractionEnabled := true
    inWindow := false
    alpha := 1
    automaticallyChangeAlpha := false
    linked := false
    observing := false
    state := .idle
    pullingPercent := 0
    scrollViewOriginalInset := ⟨0, 0, 0, 0⟩
    ignoredScrollViewContentInsetDeta := 0
    triggerByDrag := false
    leftTriggerTimes := if refreshMore && !refreshBack then 1 else 0
    autoTriggerTimes := if refreshMore && !refreshBack then 1 else 0
    triggerAutomaticallyRefreshPercent := if refreshMore && !refreshBack then 1 else 0
    automaticallyRefresh := refreshMore && !refreshBack
    lastRefreshCount := 0
    lastBottomDelta := 0
    insetTDelta := 0
    isCollectionViewAnimationBug := false }

/-- `configBouces`. -/
def configBouces (s : Sys ρ) : Sys ρ :=
  if s.view.horizontalDirection then
    s.updateScroll fun sv =>
      { sv with alwaysBounceHorizontal := true, alwaysBounceVertical := false }
  else
    s.updateScroll fun sv =>
      { sv with alwaysBounceHorizontal := false, alwaysBounceVertical := true }

/-- The view records its scroll view and the inset it has. The scroll view that it leaves is not kept
here; where it matters what becomes of it, `Hosted` keeps it. -/
def recordScrollView (scrollView : UIScrollView) (s : Sys ρ) : Sys ρ :=
  (s.mapScroll fun _ => scrollView).mapView fun view => { view with
    linked := true
    scrollViewOriginalInset := scrollView.mjInset }

/-- The view gets its length and its position across the axis. -/
def placeAcross (s : Sys ρ) : Sys ρ :=
  let s := s.mapView (RefreshView.setAsxiWidth s.scrollAsxiWidth)
  -- the inset along the axis decides the position across it
  s.mapView (RefreshView.setAsxiX (-s.view.scrollAsixOriginInsetTop))

/-- `willMoveToSuperview:` of `MJRefreshComponent`. A view that is removed keeps its pointer to
the scroll view. -/
def componentWillMoveToSuperview (newSuperview : Option UIScrollView) (s : Sys ρ) : Sys ρ :=
  match newSuperview with
  | none => s.mapView fun view => { view with observing := false }
  | some scrollView =>
      let s := configBouces (placeAcross (recordScrollView scrollView s))
      s.mapView fun view => { view with observing := true }

/-- What attaching does to a vertical view of any kind. -/
theorem component_attach {s : Sys ρ} (hvertical : s.view.horizontalDirection = false)
    (scrollView : UIScrollView) :
    componentWillMoveToSuperview (some scrollView) s = { s with
      view := { s.view with
        linked := true
        observing := true
        scrollViewOriginalInset := scrollView.mjInset
        frame.width := scrollView.size.width
        frame.x := -scrollView.mjInset.top }
      scrollView := { scrollView with
        alwaysBounceHorizontal := false
        alwaysBounceVertical := true } } := by
  simp [componentWillMoveToSuperview, configBouces, placeAcross, recordScrollView,
    RefreshView.setAsxiWidth, RefreshView.setAsxiX, RefreshView.scrollAsixOriginInsetTop,
    Sys.scrollAsxiWidth, Sys.sv, Sys.updateScroll, Sys.mapView, Sys.mapScroll, hvertical]

/-- `configViewY`. -/
def configViewY (s : Sys ρ) : Sys ρ :=
  if s.view.refreshMore then
    let viewK := s.scrollAsxiContentHeight + s.view.ignoredScrollViewContentInsetDeta
    -- the length of the content again, not that of the scroll view
    let scrollLength := s.scrollAsxiContentHeight - s.view.scrollAsixOriginInsetTop -
      s.view.scrollAsixOriginInsetBottom + s.view.ignoredScrollViewContentInsetDeta
    let viewK := if s.view.refreshBack then max viewK scrollLength else viewK
    s.mapView (RefreshView.setAsxiY viewK)
  else s

/-- `willMoveToSuperview:`. -/
def willMoveToSuperview (newSuperview : Option UIScrollView) (s : Sys ρ) : Sys ρ :=
  let s := componentWillMoveToSuperview newSuperview s
  if s.view.refreshMore then
    if s.view.refreshBack then configViewY s
    else
      match newSuperview with
      | some _ =>
          let s :=
            if s.view.hidden then s
            else s.setScrollAsixOriginInsetBottom
              (s.view.scrollAsixOriginInsetBottom + s.view.asxiHeight)
          configViewY s
      | none =>
          -- `-=` reads the inset from before the view made room for itself
          if s.view.hidden then s
          else s.setScrollAsixOriginInsetBottom
            (s.view.scrollAsixOriginInsetBottom - s.view.asxiHeight)
  else s

/-- `placeSubviews`. -/
def placeSubviews (s : Sys ρ) : Sys ρ :=
  if s.view.refreshMore then s
  else s.mapView (RefreshView.setAsxiY
    (-s.view.asxiHeight - s.view.ignoredScrollViewContentInsetDeta))

/-! ## Changes of the state -/

/-- `heightForContentBreakView`. -/
def heightForContentBreakView (s : Sys ρ) : CGFloat :=
  let h := s.sv.size.height - s.view.scrollViewOriginalInset.bottom -
    s.view.scrollViewOriginalInset.top
  s.sv.contentSize.height - h

/-- `happenOffsetY`. -/
def happenOffsetY (s : Sys ρ) : CGFloat :=
  let deltaH := heightForContentBreakView s
  if 0 < deltaH then deltaH - s.view.scrollViewOriginalInset.top
  else -s.view.scrollViewOriginalInset.top

/-- The animation with which a footer that is pulled ends a refresh. -/
def backFooterEndingAction (s : Sys ρ) : Sys ρ :=
  let s := s.fire .endRefreshingAnimationBegin
  let s := s.updateScroll fun sv => sv.setMjInsetB (sv.mjInset.bottom - s.view.lastBottomDelta)
  let s := MJRefreshComponent.fadeOut s
  s.animate .endRefreshing

/-- The bottom inset with which a footer that is pulled stays in view while it refreshes. -/
def backFooterInsetBottom (s : Sys ρ) : CGFloat :=
  let bottom := s.view.frame.height + s.view.scrollViewOriginalInset.bottom
  let deltaH := heightForContentBreakView s
  if deltaH < 0 then bottom - deltaH else bottom

/-- The bottom inset is enlarged for a footer that is pulled. -/
def backFooterEnlarge (s : Sys ρ) : Sys ρ :=
  let count := s.sv.mjTotalDataCount
  let s := s.mapView fun view => { view with lastRefreshCount := count }
  let bottom := backFooterInsetBottom s
  let delta := bottom - s.sv.mjInset.bottom
  let s := s.mapView fun view => { view with lastBottomDelta := delta }
  s.updateScroll (UIScrollView.setMjInsetB bottom)

/-- The animation with which a footer that is pulled starts a refresh. -/
def backFooterRefreshingAction (s : Sys ρ) : Sys ρ :=
  let s := backFooterEnlarge s
  let s := s.setContentOffset notify
    { s.sv.contentOffset with y := happenOffsetY s + s.view.frame.height }
  s.animate .executeRefreshingCallback

/-- `setState:` of a footer that is pulled, once the new state is stored. -/
def backFooterStateDidChange (oldState state : MJRefreshState) (s : Sys ρ) : Sys ρ :=
  if state = .noMoreData ∨ state = .idle then
    let s := if oldState = .refreshing then backFooterEndingAction s else s
    let deltaH := heightForContentBreakView s
    if oldState = .refreshing ∧ 0 < deltaH ∧
        s.sv.mjTotalDataCount ≠ s.view.lastRefreshCount then
      -- the offset is set to what it is, which still causes a notification
      s.setContentOffset notify { s.sv.contentOffset with y := s.sv.contentOffset.y }
    else s
  else if state = .refreshing then backFooterRefreshingAction notify s
  else s

/-- `unlimitedTrigger`. -/
def unlimitedTrigger (s : Sys ρ) : Bool := s.view.leftTriggerTimes = -1

/-- A drag that triggered a refresh is used up when the refresh ends. -/
def endTrigger (s : Sys ρ) : Sys ρ :=
  if s.view.triggerByDrag then
    let left := if unlimitedTrigger s then s.view.leftTriggerTimes else s.view.leftTriggerTimes - 1
    s.mapView fun view => { view with leftTriggerTimes := left, triggerByDrag := false }
  else s

/-- `setState:` of a footer that refreshes by itself, once the new state is stored. -/
def autoFooterStateDidChange (oldState state : MJRefreshState) (s : Sys ρ) : Sys ρ :=
  if state = .refreshing then MJRefreshComponent.executeRefreshingCallback s
  else if state = .noMoreData ∨ state = .idle then
    let s := endTrigger s
    if oldState = .refreshing then
      if s.sv.pagingEnabled then
        let offset : CGPoint :=
          { s.sv.contentOffset with y := s.sv.contentOffset.y - s.sv.mjInset.bottom }
        let s := s.setContentOffset notify offset
        let s := s.fire .endRefreshingAnimationBegin
        s.animate .endRefreshingPaging
      else s.fire .endRefreshingCompletion
    else s
  else s

/-- `headerEndingAction`. -/
def headerEndingAction (s : Sys ρ) : Sys ρ :=
  let s := s.setScrollAsixInsetTop (s.scrollAsixInsetTop + s.view.insetTDelta)
  if s.view.isCollectionViewAnimationBug then
    let s := s.updateScroll (UIScrollView.setUserInteractionEnabled false)
    let s := s.animate (.animationDidStop .refreshing2IdleBounds)
    let s := s.fire .endRefreshingAnimationBegin
    MJRefreshComponent.fadeOut s
  else
    let s := s.fire .endRefreshingAnimationBegin
    let s := MJRefreshComponent.fadeOut s
    s.animate .endRefreshing

/-- `headerRefreshingAction`. -/
def headerRefreshingAction (s : Sys ρ) : Sys ρ :=
  if s.view.isCollectionViewAnimationBug then
    if s.sv.panState ≠ .cancelled then
      let s := s.updateScroll (UIScrollView.setUserInteractionEnabled false)
      s.animate (.animationDidStop .refreshingBounds)
    else MJRefreshComponent.executeRefreshingCallback s
  else s.dispatchAsync .headerRefreshing

/-- `setState:` of a header, once the new state is stored. -/
def headerStateDidChange (oldState state : MJRefreshState) (s : Sys ρ) : Sys ρ :=
  if state = .idle then
    if oldState ≠ .refreshing then s else headerEndingAction s
  else if state = .refreshing then headerRefreshingAction s
  else s

/-- `setState:`. -/
def setState (state : MJRefreshState) (s : Sys ρ) : Sys ρ :=
  let oldState := s.view.state
  if state = oldState then s
  else
    let s := MJRefreshComponent.setState state s
    if s.view.refreshMore then
      if s.view.refreshBack then backFooterStateDidChange notify oldState state s
      else autoFooterStateDidChange notify oldState state s
    else headerStateDidChange oldState state s

/-- Setting the state that a view has already does nothing. -/
theorem set_state_self {state : MJRefreshState} {s : Sys ρ} (h : state = s.view.state) :
    setState notify state s = s := by
  rw [setState, if_pos h]

/-- A new state of a footer that is pulled is stored and handled. -/
theorem set_state_back {state : MJRefreshState} {s : Sys ρ} (hmore : s.view.refreshMore = true)
    (hback : s.view.refreshBack = true) (hnew : state ≠ s.view.state) :
    setState notify state s = backFooterStateDidChange notify s.view.state state
      (MJRefreshComponent.setState state s) := by
  simp [setState, hnew, hmore, hback]

/-- A new state of a footer that refreshes by itself is stored and handled. -/
theorem set_state_auto {state : MJRefreshState} {s : Sys ρ} (hmore : s.view.refreshMore = true)
    (hauto : s.view.refreshBack = false) (hnew : state ≠ s.view.state) :
    setState notify state s = autoFooterStateDidChange notify s.view.state state
      (MJRefreshComponent.setState state s) := by
  simp [setState, hnew, hmore, hauto]

/-- A new state of a header is stored and handled. -/
theorem set_state_header {state : MJRefreshState} {s : Sys ρ} (hmore : s.view.refreshMore = false)
    (hnew : state ≠ s.view.state) :
    setState notify state s =
      headerStateDidChange s.view.state state (MJRefreshComponent.setState state s) := by
  simp [setState, hnew, hmore]

/-- `beginRefreshing`. -/
def beginRefreshing (s : Sys ρ) : Sys ρ :=
  if s.view.triggerByDrag && decide (s.view.leftTriggerTimes ≤ 0) && !unlimitedTrigger s then s
  else MJRefreshComponent.beginRefreshing (setState notify) s

/-- A drag that finds its budget used up is refused. -/
theorem begin_refreshing_of_refused {s : Sys ρ}
    (h : s.view.triggerByDrag = true ∧ s.view.leftTriggerTimes ≤ 0 ∧
      s.view.leftTriggerTimes ≠ -1) : beginRefreshing notify s = s := by
  refine if_pos ?_
  simp [unlimitedTrigger, h]

/-- A refresh that is permitted begins as that of every component. -/
theorem begin_refreshing_of_permitted {s : Sys ρ}
    (h : ¬ (s.view.triggerByDrag = true ∧ s.view.leftTriggerTimes ≤ 0 ∧
      s.view.leftTriggerTimes ≠ -1)) :
    beginRefreshing notify s = MJRefreshComponent.beginRefreshing (setState notify) s := by
  refine if_neg fun hrefused => h ?_
  simpa [unlimitedTrigger, and_assoc] using hrefused

/-- The block that `headerRefreshingAction` puts on the main queue. -/
def headerRefreshingBlock (s : Sys ρ) : Sys ρ :=
  let s :=
    -- whether the header still refreshes is not asked
    if s.sv.panState ≠ .cancelled then
      let top := s.view.scrollAsixOriginInsetTop + s.view.asxiHeight
      let s := s.setScrollAsixOriginInsetTop top
      s.setScrollAsixOffsetY notify (-top)
    else s
  s.animate .executeRefreshingCallback

/-- `animationDidStop:finished:`. Removing the animations from the layer only makes the other one
stop, too. -/
def animationDidStop (key : AnimationKey) (s : Sys ρ) : Sys ρ :=
  match key with
  | .refreshing2IdleBounds =>
      let s := MJRefreshComponent.setPullingPercent 0 s
      let s := s.updateScroll (UIScrollView.setUserInteractionEnabled true)
      s.fire .endRefreshingCompletion
  | .refreshingBounds =>
      let s :=
        if s.view.state ≠ .idle then
          -- the vertical axis, whatever the direction of the view
          let top := s.view.scrollViewOriginalInset.top + s.view.frame.height
          let s := s.updateScroll (UIScrollView.setMjInsetT top)
          s.setContentOffset notify { s.sv.contentOffset with y := -top }
        else s
      let s := s.updateScroll (UIScrollView.setUserInteractionEnabled true)
      MJRefreshComponent.executeRefreshingCallback s

/-- `setHidden:`. -/
def setHidden (hidden : Bool) (s : Sys ρ) : Sys ρ :=
  let lastHidden := s.view.hidden
  let s := s.mapView fun view => { view with hidden := hidden }
  if !lastHidden && hidden then
    let s := setState notify .idle s
    -- views of all kinds take their height from the bottom inset
    s.updateScroll fun sv => sv.setMjInsetB (sv.mjInset.bottom - s.view.frame.height)
  else if lastHidden && !hidden then
    let s := s.updateScroll fun sv => sv.setMjInsetB (sv.mjInset.bottom + s.view.frame.height)
    -- a header that is shown again is placed below the content as well
    let contentH := s.sv.contentSize.height
    s.mapView fun view => { view with frame.y := contentH }
  else s

/-! ## Notifications of the scroll view -/

/-- The inset that keeps a refreshing header in view, between the remembered inset and that inset
plus the header. -/
def clampedInsetTop (s : Sys ρ) : CGFloat :=
  let insetT :=
    if s.view.scrollAsixOriginInsetTop < -s.scrollAsixOffsetY then -s.scrollAsixOffsetY
    else s.view.scrollAsixOriginInsetTop
  if s.view.asxiHeight + s.view.scrollAsixOriginInsetTop < insetT then
    s.view.asxiHeight + s.view.scrollAsixOriginInsetTop
  else insetT

/-- `resetInset`. -/
def resetInset (s : Sys ρ) : Sys ρ :=
  if !s.scrollView.respondsToAdjustedContentInset && !s.view.inWindow then s
  else
    let insetT := clampedInsetTop s
    let delta := s.view.scrollAsixOriginInsetTop - insetT
    let s := s.mapView fun view => { view with insetTDelta := delta }
    if s.scrollAsixInsetTop ≠ insetT then s.setScrollAsixInsetTop insetT else s

/-- The end of the content offset handlers of a header and of a footer that is pulled. -/
def pullingDidChange (pulled : Bool) (pullingPercent : CGFloat) (s : Sys ρ) : Sys ρ :=
  MJRefreshComponent.pullingDidChange (setState notify) (beginRefreshing notify) pulled
    pullingPercent s

/-- `scrollViewContentOffsetDidChange:` of a footer that is pulled. -/
def backFooterContentOffsetDidChange (s : Sys ρ) : Sys ρ :=
  if s.view.state = .refreshing then s
  else
    let s := MJRefreshComponent.rememberInset s
    let currentOffsetY := s.scrollAsixOffsetY
    let happenOffsetY := happenOffsetY s
    if currentOffsetY ≤ happenOffsetY then s
    else
      let pullingPercent := (currentOffsetY - happenOffsetY) / s.view.asxiHeight
      if s.view.state = .noMoreData then MJRefreshComponent.setPullingPercent pullingPercent s
      else
        let normal2pullingOffsetY := happenOffsetY + s.view.asxiHeight
        pullingDidChange notify (normal2pullingOffsetY < currentOffsetY) pullingPercent s

/-- The content offset at which a footer that refreshes by itself is triggered. -/
def autoTriggerOffset (s : Sys ρ) : CGFloat :=
  -- the first height is that of the view, where the height of the scroll view is meant
  s.scrollAsxiContentHeight - s.view.asxiHeight +
    s.view.asxiHeight * s.view.triggerAutomaticallyRefreshPercent +
    s.view.scrollAsixOriginInsetBottom - s.view.asxiHeight

/-- The offset has not grown along the axis. -/
def movesBack (old new : CGPoint) (s : Sys ρ) : Bool :=
  if s.view.horizontalDirection then new.x ≤ old.x else new.y ≤ old.y

/-- `scrollViewContentOffsetDidChange:` of a footer that refreshes by itself. -/
def autoFooterContentOffsetDidChange (old new : CGPoint) (s : Sys ρ) : Sys ρ :=
  if s.view.state ≠ .idle ∨ s.view.automaticallyRefresh = false ∨ s.view.frame.y = 0 then s
  else if s.view.asxiHeight < s.scrollAsixInsetTop + s.scrollAsxiContentHeight then
    if autoTriggerOffset s ≤ s.scrollAsixOffsetY then
      if movesBack old new s then s
      else
        let dragging := s.sv.isDragging
        -- the flag of an earlier drag stays
        beginRefreshing notify (s.mapView fun view => { view with
          triggerByDrag := dragging || view.triggerByDrag })
    else s
  else s

/-- `scrollViewContentOffsetDidChange:` of a header. It reads the vertical offset in both
directions. -/
def headerContentOffsetDidChange (s : Sys ρ) : Sys ρ :=
  if s.view.state = .refreshing then resetInset s
  else
    let s := MJRefreshComponent.rememberInset s
    let offsetY := s.sv.contentOffset.y
    let happenOffsetY := -s.view.scrollAsixOriginInsetTop
    if happenOffsetY < offsetY then s
    else
      let normal2pullingOffsetY := happenOffsetY - s.view.asxiHeight
      let pullingPercent := (happenOffsetY - offsetY) / s.view.asxiHeight
      pullingDidChange notify (offsetY < normal2pullingOffsetY) pullingPercent s

/-- `scrollViewContentOffsetDidChange:`. -/
def scrollViewContentOffsetDidChange (old new : CGPoint) (s : Sys ρ) : Sys ρ :=
  if s.view.refreshMore then
    if s.view.refreshBack then backFooterContentOffsetDidChange notify s
    else autoFooterContentOffsetDidChange notify old new s
  else headerContentOffsetDidChange notify s

/-- `scrollViewContentSizeDidChange:`. -/
def scrollViewContentSizeDidChange (s : Sys ρ) : Sys ρ := configViewY s

/-- The content offset at which lifting the finger triggers a footer that refreshes by itself. -/
def panEndedOffset (s : Sys ρ) : CGFloat :=
  if s.scrollAsixInsetTop + s.scrollAsxiContentHeight < s.scrollAsixHeight then
    -s.scrollAsixInsetTop
  else s.scrollAsxiContentHeight + s.scrollAsixInsetTop - s.scrollAsixHeight

/-- The finger is lifted and the footer refreshes by itself. -/
def autoFooterPanEnded (s : Sys ρ) : Sys ρ :=
  if panEndedOffset s ≤ s.scrollAsixOffsetY then
    beginRefreshing notify (s.mapView fun view => { view with triggerByDrag := true })
  else s

/-- `resetTriggerTimes`. -/
def resetTriggerTimes (s : Sys ρ) : Sys ρ :=
  s.mapView fun view => { view with leftTriggerTimes := view.autoTriggerTimes }

/-- `scrollViewPanStateDidChange:`. -/
def scrollViewPanStateDidChange (s : Sys ρ) : Sys ρ :=
  if !(s.view.refreshMore && !s.view.refreshBack) then s
  else if s.view.state ≠ .idle then s
  else
    match s.sv.panState with
    | .ended => autoFooterPanEnded notify s
    -- every new drag may start `autoTriggerTimes` refreshes
    | .began => resetTriggerTimes s
    | _ => s

/-- The class `MJRefreshView`. -/
def refreshClass : RefreshClass ρ where
  setState := setState
  beginRefreshing := beginRefreshing
  willMoveToSuperview := willMoveToSuperview
  scrollViewContentOffsetDidChange := scrollViewContentOffsetDidChange
  scrollViewContentSizeDidChange := scrollViewContentSizeDidChange
  scrollViewPanStateDidChange := scrollViewPanStateDidChange
  placeSubviews := placeSubviews
  setHidden := setHidden
  headerRefreshingBlock := headerRefreshingBlock
  animationDidStop := animationDidStop

/-- While it refreshes a footer that is pulled ignores notifications. -/
theorem notify_within_of_refreshing {s : Sys ρ} (hmore : s.view.refreshMore = true)
    (hback : s.view.refreshBack = true) (hstate : s.view.state = .refreshing) (depth : Nat)
    (old new : CGPoint) : refreshClass.notifyWithin depth old new s = s := by
  cases depth with
  | zero => rfl
  | succ depth =>
      unfold RefreshClass.notifyWithin RefreshClass.observeContentOffset
      split
      · show scrollViewContentOffsetDidChange _ _ _ s = s
        rw [scrollViewContentOffsetDidChange, if_pos hmore, if_pos hback,
          backFooterContentOffsetDidChange, if_pos hstate]
      · rfl

/-- A header is not placed again when the content size changes. -/
theorem handle_content_size_of_header {s : Sys ρ} (hmore : s.view.refreshMore = false)
    (notify : Notify ρ) (size : CGSize) :
    refreshClass.handle notify s (.contentSize size) =
      s.mapScroll fun sv => { sv with contentSize := size } := by
  show RefreshClass.observeContentSize _ _ = _
  unfold RefreshClass.observeContentSize
  split
  · exact if_neg (by simp [hmore])
  · rfl

/-- Only an auto footer looks at the pan gesture. -/
theorem handle_pan_state_of_pulled {s : Sys ρ}
    (hpulled : s.view.refreshMore = false ∨ s.view.refreshBack = true) (notify : Notify ρ)
    (panState : PanState) :
    refreshClass.handle notify s (.panState panState) =
      s.mapScroll fun sv => { sv with panState := panState } := by
  show RefreshClass.observePanState _ _ _ = _
  unfold RefreshClass.observePanState
  split
  · refine if_pos ?_
    rcases hpulled with hmore | hback
    · simp [hmore]
    · simp [hback]
  · rfl

/-- One event of a single `MJRefreshView`, whose handlers may set the offset of the scroll view
again up to `depth` times within each other. -/
def step (depth : Nat) (s : Sys Unit) (event : Event) : Sys Unit :=
  refreshClass.handle (refreshClass.notifyWithin depth) s event

end Component.Refresh.MJRefreshView

namespace Component.Refresh

/-- The user or the system has scrolled to an offset, and nobody has been told. -/
def scrolled (offset : CGPoint) (isDragging : Bool) (s : Sys Unit) : Sys Unit :=
  s.mapScroll fun sv => { sv with contentOffset := offset, isDragging := isDragging }

/-- Headers and footers that are pulled start a refresh when they are let go. The other kind of
footer refreshes by itself. -/
def RefreshView.pulled (view : RefreshView) : Bool := !view.refreshMore || view.refreshBack

/-- A footer that is pulled. -/
theorem RefreshView.back_of_pulled {view : RefreshView} (hpulled : view.pulled = true)
    (hmore : view.refreshMore = true) : view.refreshBack = true := by
  simpa [RefreshView.pulled, hmore] using hpulled

/-- The view is shown and told about changes of its scroll view. -/
def Shown {ρ : Type} (s : Sys ρ) : Bool :=
  s.view.observing && s.view.userInteractionEnabled && !s.view.hidden

end Component.Refresh

import Component.Refresh.View

/-!
# The dedicated classes

`MJRefreshHeader`, `MJRefreshBackFooter` and `MJRefreshAutoFooter` are the classes that
`MJRefreshView` merges into one. They work along the vertical axis, and `refreshMore`,
`refreshBack` and `horizontalDirection` mean nothing to them. What their methods have in common
with those of `MJRefreshView` is taken from there; where a method differs, it has its own body.
-/

namespace Component.Refresh

variable {ρ : Type} (notify : Notify ρ)

/-- `willMoveToSuperview:` of the `MJRefreshComponent` below the dedicated classes. -/
def MJRefreshComponent.willMoveToSuperview (newSuperview : Option UIScrollView) (s : Sys ρ) :
    Sys ρ :=
  match newSuperview with
  | none => s.mapView fun view => { view with observing := false }
  | some scrollView =>
      let s := (s.mapScroll fun _ => scrollView).mapView fun view => { view with
        linked := true
        frame.width := scrollView.size.width
        frame.x := -scrollView.mjInset.left }
      let s := s.updateScroll fun sv => { sv with alwaysBounceVertical := true }
      let s := MJRefreshComponent.rememberInset s
      s.mapView fun view => { view with observing := true }

/-- `setHidden:` of a view that does not override it. -/
def MJRefreshComponent.setHidden (hidden : Bool) (s : Sys ρ) : Sys ρ :=
  s.mapView fun view => { view with hidden := hidden }

/-! ## `MJRefreshHeader` -/

namespace MJRefreshHeader

/-- `placeSubviews`. -/
def placeSubviews (s : Sys ρ) : Sys ρ :=
  s.mapView fun view => { view with
    frame.y := -view.frame.height - view.ignoredScrollViewContentInsetDeta }

/-- The inset that `resetInset` computes. -/
def clampedInsetTop (s : Sys ρ) : CGFloat :=
  let insetT :=
    if s.view.scrollViewOriginalInset.top < -s.sv.contentOffset.y then -s.sv.contentOffset.y
    else s.view.scrollViewOriginalInset.top
  if s.view.frame.height + s.view.scrollViewOriginalInset.top < insetT then
    s.view.frame.height + s.view.scrollViewOriginalInset.top
  else insetT

/-- `resetInset`. -/
def resetInset (s : Sys ρ) : Sys ρ :=
  if !s.scrollView.respondsToAdjustedContentInset && !s.view.inWindow then s
  else
    let insetT := clampedInsetTop s
    let delta := s.view.scrollViewOriginalInset.top - insetT
    let s := s.mapView fun view => { view with insetTDelta := delta }
    if s.sv.mjInset.top ≠ insetT then s.updateScroll (UIScrollView.setMjInsetT insetT) else s

/-- `headerEndingAction`. -/
def headerEndingAction (s : Sys ρ) : Sys ρ :=
  let s := s.updateScroll fun sv => sv.setMjInsetT (sv.mjInset.top + s.view.insetTDelta)
  if s.view.isCollectionViewAnimationBug then
    let s := s.updateScroll (UIScrollView.setUserInteractionEnabled false)
    let s := s.animate (.animationDidStop .refreshing2IdleBounds)
    let s := s.fire .endRefreshingAnimationBegin
    MJRefreshComponent.fadeOut s
  else
    let s := s.fire .endRefreshingAnimationBegin
    let s := MJRefreshComponent.fadeOut s
    s.animate .endRefreshing

/-- `headerRefreshingAction`. The inset is enlarged at once and not from the main queue. -/
def headerRefreshingAction (s : Sys ρ) : Sys ρ :=
  if s.view.isCollectionViewAnimationBug then
    if s.sv.panState ≠ .cancelled then
      let s := s.updateScroll (UIScrollView.setUserInteractionEnabled false)
      s.animate (.animationDidStop .refreshingBounds)
    else MJRefreshComponent.executeRefreshingCallback s
  else
    let s :=
      if s.sv.panState ≠ .cancelled then
        let top := s.view.scrollViewOriginalInset.top + s.view.frame.height
        let s := s.updateScroll (UIScrollView.setMjInsetT top)
        s.setContentOffset notify { s.sv.contentOffset with y := -top }
      else s
    s.animate .executeRefreshingCallback

/-- `setState:`. -/
def setState (state : MJRefreshState) (s : Sys ρ) : Sys ρ :=
  let oldState := s.view.state
  if state = oldState then s
  else
    let s := MJRefreshComponent.setState state s
    if state = .idle then
      if oldState ≠ .refreshing then s else headerEndingAction s
    else if state = .refreshing then headerRefreshingAction notify s
    else s

/-- `beginRefreshing`, which is inherited. -/
def beginRefreshing (s : Sys ρ) : Sys ρ := MJRefreshComponent.beginRefreshing (setState notify) s

/-- `scrollViewContentOffsetDidChange:`. -/
def scrollViewContentOffsetDidChange (s : Sys ρ) : Sys ρ :=
  if s.view.state = .refreshing then resetInset s
  else
    let s := MJRefreshComponent.rememberInset s
    let offsetY := s.sv.contentOffset.y
    let happenOffsetY := -s.view.scrollViewOriginalInset.top
    if happenOffsetY < offsetY then s
    else
      let normal2pullingOffsetY := happenOffsetY - s.view.frame.height
      let pullingPercent := (happenOffsetY - offsetY) / s.view.frame.height
      MJRefreshComponent.pullingDidChange (setState notify) (beginRefreshing notify)
        (offsetY < normal2pullingOffsetY) pullingPercent s

/-- The class `MJRefreshHeader`. It puts no block for its refreshing action on the main queue, and
`animationDidStop:finished:` is that of `MJRefreshView`. -/
def refreshClass : RefreshClass ρ where
  setState := setState
  beginRefreshing := beginRefreshing
  willMoveToSuperview := MJRefreshComponent.willMoveToSuperview
  scrollViewContentOffsetDidChange := fun notify _ _ s => scrollViewContentOffsetDidChange notify s
  scrollViewContentSizeDidChange := id
  scrollViewPanStateDidChange := fun _ s => s
  placeSubviews := placeSubviews
  setHidden := fun _ hidden s => MJRefreshComponent.setHidden hidden s
  headerRefreshingBlock := fun _ s => s
  animationDidStop := MJRefreshView.animationDidStop

end MJRefreshHeader

/-! ## `MJRefreshBackFooter` -/

namespace MJRefreshBackFooter

/-- `scrollViewContentSizeDidChange:`. -/
def scrollViewContentSizeDidChange (s : Sys ρ) : Sys ρ :=
  let contentHeight := s.sv.contentSize.height + s.view.ignoredScrollViewContentInsetDeta
  let scrollHeight := s.sv.size.height - s.view.scrollViewOriginalInset.top -
    s.view.scrollViewOriginalInset.bottom + s.view.ignoredScrollViewContentInsetDeta
  s.mapView fun view => { view with frame.y := max contentHeight scrollHeight }

/-- `willMoveToSuperview:`. -/
def willMoveToSuperview (newSuperview : Option UIScrollView) (s : Sys ρ) : Sys ρ :=
  scrollViewContentSizeDidChange (MJRefreshComponent.willMoveToSuperview newSuperview s)

/-- `setState:`. -/
def setState (state : MJRefreshState) (s : Sys ρ) : Sys ρ :=
  let oldState := s.view.state
  if state = oldState then s
  else
    MJRefreshView.backFooterStateDidChange notify oldState state
      (MJRefreshComponent.setState state s)

/-- `beginRefreshing`, which is inherited. -/
def beginRefreshing (s : Sys ρ) : Sys ρ := MJRefreshComponent.beginRefreshing (setState notify) s

/-- `scrollViewContentOffsetDidChange:`. -/
def scrollViewContentOffsetDidChange (s : Sys ρ) : Sys ρ :=
  if s.view.state = .refreshing then s
  else
    let s := MJRefreshComponent.rememberInset s
    let currentOffsetY := s.sv.contentOffset.y
    let happenOffsetY := MJRefreshView.happenOffsetY s
    if currentOffsetY ≤ happenOffsetY then s
    else
      let pullingPercent := (currentOffsetY - happenOffsetY) / s.view.frame.height
      if s.view.state = .noMoreData then MJRefreshComponent.setPullingPercent pullingPercent s
      else
        let normal2pullingOffsetY := happenOffsetY + s.view.frame.height
        MJRefreshComponent.pullingDidChange (setState notify) (beginRefreshing notify)
          (normal2pullingOffsetY < currentOffsetY) pullingPercent s

/-- The class `MJRefreshBackFooter`, which starts no animation of the bounds. -/
def refreshClass : RefreshClass ρ where
  setState := setState
  beginRefreshing := beginRefreshing
  willMoveToSuperview := willMoveToSuperview
  scrollViewContentOffsetDidChange := fun notify _ _ s => scrollViewContentOffsetDidChange notify s
  scrollViewContentSizeDidChange := scrollViewContentSizeDidChange
  scrollViewPanStateDidChange := fun _ s => s
  placeSubviews := id
  setHidden := fun _ hidden s => MJRefreshComponent.setHidden hidden s
  headerRefreshingBlock := fun _ s => s
  animationDidStop := fun _ _ s => s

end MJRefreshBackFooter

/-! ## `MJRefreshAutoFooter` -/

namespace MJRefreshAutoFooter

/-- `willMoveToSuperview:`. -/
def willMoveToSuperview (newSuperview : Option UIScrollView) (s : Sys ρ) : Sys ρ :=
  let s := MJRefreshComponent.willMoveToSuperview newSuperview s
  match newSuperview with
  | some _ =>
      let s :=
        if s.view.hidden then s
        else s.updateScroll fun sv => sv.setMjInsetB (sv.mjInset.bottom + s.view.frame.height)
      let contentH := s.sv.contentSize.height
      s.mapView fun view => { view with frame.y := contentH }
  | none =>
      -- the current inset is read, not the remembered one as in `MJRefreshView`
      if s.view.hidden then s
      else s.updateScroll fun sv => sv.setMjInsetB (sv.mjInset.bottom - s.view.frame.height)

/-- `scrollViewContentSizeDidChange:`. -/
def scrollViewContentSizeDidChange (s : Sys ρ) : Sys ρ :=
  let contentH := s.sv.contentSize.height
  s.mapView fun view => { view with
    frame.y := contentH + view.ignoredScrollViewContentInsetDeta }

/-- `setState:`. -/
def setState (state : MJRefreshState) (s : Sys ρ) : Sys ρ :=
  let oldState := s.view.state
  if state = oldState then s
  else
    MJRefreshView.autoFooterStateDidChange notify oldState state
      (MJRefreshComponent.setState state s)

/-- `beginRefreshing`. -/
def beginRefreshing (s : Sys ρ) : Sys ρ :=
  if s.view.triggerByDrag && decide (s.view.leftTriggerTimes ≤ 0) &&
      !MJRefreshView.unlimitedTrigger s then s
  else MJRefreshComponent.beginRefreshing (setState notify) s

/-- The content offset at which the footer is triggered. -/
def triggerOffset (s : Sys ρ) : CGFloat :=
  s.sv.contentSize.height - s.sv.size.height +
    s.view.frame.height * s.view.triggerAutomaticallyRefreshPercent + s.sv.mjInset.bottom -
    s.view.frame.height

/-- `scrollViewContentOffsetDidChange:`. -/
def scrollViewContentOffsetDidChange (old new : CGPoint) (s : Sys ρ) : Sys ρ :=
  if s.view.state ≠ .idle ∨ s.view.automaticallyRefresh = false ∨ s.view.frame.y = 0 then s
  else if s.sv.size.height < s.sv.mjInset.top + s.sv.contentSize.height then
    if triggerOffset s ≤ s.sv.contentOffset.y then
      if new.y ≤ old.y then s
      else
        let dragging := s.sv.isDragging
        beginRefreshing notify (s.mapView fun view => { view with
          triggerByDrag := dragging || view.triggerByDrag })
    else s
  else s

/-- The content offset at which lifting the finger triggers the footer. -/
def panEndedOffset (s : Sys ρ) : CGFloat :=
  -- `MJRefreshView` compares strictly, and adds the top inset where the bottom inset stands here
  if s.sv.mjInset.top + s.sv.contentSize.height ≤ s.sv.size.height then -s.sv.mjInset.top
  else s.sv.contentSize.height + s.sv.mjInset.bottom - s.sv.size.height

/-- `scrollViewPanStateDidChange:`. -/
def scrollViewPanStateDidChange (s : Sys ρ) : Sys ρ :=
  if s.view.state ≠ .idle then s
  else
    match s.sv.panState with
    | .ended =>
        if panEndedOffset s ≤ s.sv.contentOffset.y then
          beginRefreshing notify (s.mapView fun view => { view with triggerByDrag := true })
        else s
    | .began => MJRefreshView.resetTriggerTimes s
    | _ => s

/-- `setHidden:`. -/
def setHidden (hidden : Bool) (s : Sys ρ) : Sys ρ :=
  let lastHidden := s.view.hidden
  let s := s.mapView fun view => { view with hidden := hidden }
  if !lastHidden && hidden then
    let s := setState notify .idle s
    s.updateScroll fun sv => sv.setMjInsetB (sv.mjInset.bottom - s.view.frame.height)
  else if lastHidden && !hidden then
    let s := s.updateScroll fun sv => sv.setMjInsetB (sv.mjInset.bottom + s.view.frame.height)
    let contentH := s.sv.contentSize.height
    s.mapView fun view => { view with frame.y := contentH }
  else s

/-- The class `MJRefreshAutoFooter`, which starts no animation of the bounds. -/
def refreshClass : RefreshClass ρ where
  setState := setState
  beginRefreshing := beginRefreshing
  willMoveToSuperview := willMoveToSuperview
  scrollViewContentOffsetDidChange := scrollViewContentOffsetDidChange
  scrollViewContentSizeDidChange := scrollViewContentSizeDidChange
  scrollViewPanStateDidChange := scrollViewPanStateDidChange
  placeSubviews := id
  setHidden := setHidden
  headerRefreshingBlock := fun _ s => s
  animationDidStop := fun _ _ s => s

end MJRefreshAutoFooter

end Component.Refresh

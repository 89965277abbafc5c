import Component.Refresh.ScrollView

/-!
# Refresh views and what is pending for them

`RefreshView` holds the stored properties of a refresh view. A `Sys` is a refresh view together
with its scroll view, the blocks it has put on the main queue, the completions of its animations
and a record of the callbacks it has fired. Animations take effect at once and their completions
run later, in any order. The functions of `MJRefreshComponent` that all refresh views share are
defined here.

A scroll view tells its observers synchronously when its content offset is set, so setting the
offset inside a handler runs the handlers again. Handlers therefore take a parameter `notify`,
which delivers such a notification. A `Sys` may carry more of the world in `rest`, for
notifications that also reach other views.

The block that `setState:` of `MJRefreshComponent` puts on the main queue only marks the view for
layout, and `setNeedsDisplay` only marks it for drawing. Layout and drawing are events of their
own that may come at any time, so neither mark is kept.
-/

namespace Component.Refresh

/-- `MJRefreshState`. -/
inductive MJRefreshState where
  | idle
  | pulling
  | refreshing
  | willRefresh
  | noMoreData
  deriving DecidableEq, Repr

/-- The stored properties of a refresh view. `linked` says that `_scrollView` is not `nil`, and
`observing` that the view is registered for the notifications of its scroll view. -/
@[ext] structure RefreshView where
  refreshMore : Bool
  refreshBack : Bool
  horizontalDirection : Bool
  frame : CGRect
  hidden : Bool
  userInteractionEnabled : Bool
  inWindow : Bool
  alpha : CGFloat
  automaticallyChangeAlpha : Bool
  linked : Bool
  observing : Bool
  state : MJRefreshState
  pullingPercent : CGFloat
  scrollViewOriginalInset : UIEdgeInsets
  ignoredScrollViewContentInsetDeta : CGFloat
  triggerByDrag : Bool
  leftTriggerTimes : Int
  autoTriggerTimes : Int
  triggerAutomaticallyRefreshPercent : CGFloat
  automaticallyRefresh : Bool
  lastRefreshCount : Int
  lastBottomDelta : CGFloat
  insetTDelta : CGFloat
  isCollectionViewAnimationBug : Bool
  deriving DecidableEq, Repr

/-- The blocks that refresh views put on the main queue: `endRefreshing` sets the state to idle. -/
inductive Block where
  | endRefreshing
  | refreshingCallback
  | headerRefreshing
  deriving DecidableEq, Repr

/-- The identities of the two bounds animations of a header. -/
inductive AnimationKey where
  | refreshingBounds
  | refreshing2IdleBounds
  deriving DecidableEq, Repr

/-- The completions of animations. `endRefreshing` also resets the pulling percentage, and
`endRefreshingPaging` does not. -/
inductive Completion where
  | executeRefreshingCallback
  | endRefreshing
  | endRefreshingPaging
  | animationDidStop (key : AnimationKey)
  deriving DecidableEq, Repr

/-- The callbacks of the application. `refreshing` stands for `refreshingBlock`, the target's
action and `beginRefreshingCompletionBlock`, which are called together. -/
inductive Callback where
  | refreshing
  | endRefreshingAnimationBegin
  | endRefreshingCompletion
  deriving DecidableEq, Repr

/-- A refresh view, its scroll view and what is pending. `transitions` records every change of the
state as the pair of the old and the new one. -/
@[ext] structure Sys (ρ : Type) where
  view : RefreshView
  scrollView : UIScrollView
  mainQueue : List Block
  completions : List Completion
  fired : List Callback
  transitions : List (MJRefreshState × MJRefreshState)
  rest : ρ

/-- Delivers the notification that the content offset has changed from the first point to the
second. -/
abbrev Notify (ρ : Type) := CGPoint → CGPoint → Sys ρ → Sys ρ

variable {ρ : Type}

namespace RefreshView

/-- `isRefreshing`. -/
def isRefreshing (view : RefreshView) : Bool :=
  view.state = .refreshing || view.state = .willRefresh

/-! ## The axis accessors of `MJRefreshComponent` -/

/-- `setAsxi_x:`. -/
def setAsxiX (value : CGFloat) (view : RefreshView) : RefreshView :=
  if view.horizontalDirection then { view with frame.y := value }
  else { view with frame.x := value }

/-- `setAsxi_y:`. -/
def setAsxiY (value : CGFloat) (view : RefreshView) : RefreshView :=
  if view.horizontalDirection then { view with frame.x := value }
  else { view with frame.y := value }

/-- The position of a vertical view along its direction is `frame.y`. -/
theorem set_asxi_y_of_vertical {view : RefreshView} (h : view.horizontalDirection = false)
    (value : CGFloat) : view.setAsxiY value = { view with frame.y := value } :=
  if_neg (by simp [h])

/-- `setAsxi_width:`. -/
def setAsxiWidth (value : CGFloat) (view : RefreshView) : RefreshView :=
  if view.horizontalDirection then { view with frame.height := value }
  else { view with frame.width := value }

/-- `asxi_height`. -/
def asxiHeight (view : RefreshView) : CGFloat :=
  if view.horizontalDirection then view.frame.width else view.frame.height

/-- `setAsxi_height:`. -/
def setAsxiHeight (value : CGFloat) (view : RefreshView) : RefreshView :=
  if view.horizontalDirection then { view with frame.width := value }
  else { view with frame.height := value }

/-- `scroll_asix_origin_Inset_top` reads the remembered inset. -/
def scrollAsixOriginInsetTop (view : RefreshView) : CGFloat :=
  if view.horizontalDirection then view.scrollViewOriginalInset.left
  else view.scrollViewOriginalInset.top

/-- `scroll_asix_origin_Inset_bottom` reads the remembered inset. -/
def scrollAsixOriginInsetBottom (view : RefreshView) : CGFloat :=
  if view.horizontalDirection then view.scrollViewOriginalInset.right
  else view.scrollViewOriginalInset.bottom

end RefreshView

namespace Sys

/-- A write to the properties of the view. -/
@[simps] def mapView (f : RefreshView → RefreshView) (s : Sys ρ) : Sys ρ :=
  { s with view := f s.view }

/-- A change of the scroll view. -/
@[simps] def mapScroll (f : UIScrollView → UIScrollView) (s : Sys ρ) : Sys ρ :=
  { s with scrollView := f s.scrollView }

/-- What the view reads of its scroll view. -/
def sv (s : Sys ρ) : UIScrollView :=
  if s.view.linked then s.scrollView
  else UIScrollView.null s.scrollView.respondsToAdjustedContentInset

/-- A write of the view to its scroll view, which is lost when there is none. -/
def updateScroll (f : UIScrollView → UIScrollView) (s : Sys ρ) : Sys ρ :=
  if s.view.linked then s.mapScroll f else s

/-- `setContentOffset:`, which notifies the observers. -/
def setContentOffset (notify : Notify ρ) (offset : CGPoint) (s : Sys ρ) : Sys ρ :=
  if s.view.linked then
    notify s.scrollView.contentOffset offset
      (s.mapScroll fun sv => { sv with contentOffset := offset })
  else s

/-- A linked view reads its scroll view. -/
theorem sv_of_linked {s : Sys ρ} (h : s.view.linked = true) : s.sv = s.scrollView := by
  rw [sv, if_pos h]

/-- A view that reads anything of a scroll view has one. -/
theorem linked_of_sv_ne {s : Sys ρ}
    (h : s.sv ≠ UIScrollView.null s.scrollView.respondsToAdjustedContentInset) :
    s.view.linked = true := by
  by_contra hlinked
  exact h (if_neg hlinked)

/-- A linked view writes to its scroll view. -/
theorem update_scroll_of_linked {s : Sys ρ} (h : s.view.linked = true)
    (f : UIScrollView → UIScrollView) : s.updateScroll f = s.mapScroll f := by
  rw [updateScroll, if_pos h]

/-- Writing to the scroll view leaves the view. -/
@[simp] theorem update_scroll_view (f : UIScrollView → UIScrollView) (s : Sys ρ) :
    (s.updateScroll f).view = s.view := by
  unfold updateScroll
  split <;> rfl

/-- Writing to the scroll view leaves the main queue. -/
@[simp] theorem update_scroll_main_queue (f : UIScrollView → UIScrollView) (s : Sys ρ) :
    (s.updateScroll f).mainQueue = s.mainQueue := by
  unfold updateScroll
  split <;> rfl

/-- Writing to the scroll view leaves the pending completions. -/
@[simp] theorem update_scroll_completions (f : UIScrollView → UIScrollView) (s : Sys ρ) :
    (s.updateScroll f).completions = s.completions := by
  unfold updateScroll
  split <;> rfl

/-- A linked view that sets the content offset of its scroll view causes a notification. -/
theorem set_content_offset_of_linked {s : Sys ρ} (h : s.view.linked = true) (notify : Notify ρ)
    (offset : CGPoint) :
    s.setContentOffset notify offset = notify s.scrollView.contentOffset offset
      (s.mapScroll fun sv => { sv with contentOffset := offset }) := by
  rw [setContentOffset, if_pos h]

/-- `scroll_asxi_width`. -/
def scrollAsxiWidth (s : Sys ρ) : CGFloat :=
  if s.view.horizontalDirection then s.sv.size.height else s.sv.size.width

/-- `scroll_asix_height`. -/
def scrollAsixHeight (s : Sys ρ) : CGFloat :=
  if s.view.horizontalDirection then s.sv.size.width else s.sv.size.height

/-- `scroll_asix_offset_y`. -/
def scrollAsixOffsetY (s : Sys ρ) : CGFloat :=
  if s.view.horizontalDirection then s.sv.contentOffset.x else s.sv.contentOffset.y

/-- `setScroll_asix_offset_y:`. -/
def setScrollAsixOffsetY (notify : Notify ρ) (value : CGFloat) (s : Sys ρ) : Sys ρ :=
  if s.view.horizontalDirection then
    s.setContentOffset notify { s.sv.contentOffset with x := value }
  else s.setContentOffset notify { s.sv.contentOffset with y := value }

/-- `scroll_asix_inset_top`. -/
def scrollAsixInsetTop (s : Sys ρ) : CGFloat :=
  if s.view.horizontalDirection then s.sv.mjInset.left else s.sv.mjInset.top

/-- `setScroll_asix_inset_top:`. -/
def setScrollAsixInsetTop (value : CGFloat) (s : Sys ρ) : Sys ρ :=
  if s.view.horizontalDirection then s.updateScroll (UIScrollView.setMjInsetL value)
  else s.updateScroll (UIScrollView.setMjInsetT value)

/-- `scroll_asxi_content_height`. -/
def scrollAsxiContentHeight (s : Sys ρ) : CGFloat :=
  if s.view.horizontalDirection then s.sv.contentSize.width else s.sv.contentSize.height

/-- `setScroll_asix_origin_Inset_top:` writes the inset of the scroll view, not the remembered
one. -/
def setScrollAsixOriginInsetTop (value : CGFloat) (s : Sys ρ) : Sys ρ :=
  if s.view.horizontalDirection then s.updateScroll (UIScrollView.setMjInsetL value)
  else s.updateScroll (UIScrollView.setMjInsetT value)

/-- `setScroll_asix_origin_Inset_bottom:` writes the inset of the scroll view, not the remembered
one. -/
def setScrollAsixOriginInsetBottom (value : CGFloat) (s : Sys ρ) : Sys ρ :=
  if s.view.horizontalDirection then s.updateScroll (UIScrollView.setMjInsetR value)
  else s.updateScroll (UIScrollView.setMjInsetB value)

/-- A new run: nothing is pending and nothing has been recorded. -/
def start (view : RefreshView) (scrollView : UIScrollView) (rest : ρ) : Sys ρ :=
  ⟨view, scrollView, [], [], [], [], rest⟩

/-- Nothing is pending. -/
def Drained (s : Sys ρ) : Prop := s.mainQueue = [] ∧ s.completions = []

/-- `dispatch_async` on the main queue. -/
@[simps] def dispatchAsync (block : Block) (s : Sys ρ) : Sys ρ :=
  { s with mainQueue := s.mainQueue ++ [block] }

/-- An animation leaves its completion behind. -/
@[simps] def animate (completion : Completion) (s : Sys ρ) : Sys ρ :=
  { s with completions := s.completions ++ [completion] }

/-- A callback of the application runs. -/
@[simps] def fire (callback : Callback) (s : Sys ρ) : Sys ρ :=
  { s with fired := s.fired ++ [callback] }

end Sys

/-! ## What refresh views inherit from `MJRefreshComponent` -/

namespace MJRefreshComponent

/-- `setState:`. -/
@[simps] def setState (state : MJRefreshState) (s : Sys ρ) : Sys ρ :=
  { s with view.state := state, transitions := s.transitions ++ [(s.view.state, state)] }

/-- `setPullingPercent:`. -/
def setPullingPercent (percent : CGFloat) (s : Sys ρ) : Sys ρ :=
  s.mapView fun view => { view with
    pullingPercent := percent
    -- the alpha of a view that refreshes is left alone
    alpha := if view.isRefreshing then view.alpha
      else if view.automaticallyChangeAlpha then percent else view.alpha }

/-- The line `if (self.isAutomaticallyChangeAlpha) self.alpha = 0.0;`. -/
def fadeOut (s : Sys ρ) : Sys ρ :=
  s.mapView fun view => { view with
    alpha := if view.automaticallyChangeAlpha then 0 else view.alpha }

/-- `executeRefreshingCallback`. -/
def executeRefreshingCallback (s : Sys ρ) : Sys ρ :=
  s.dispatchAsync .refreshingCallback

/-- `beginRefreshing`, where `setState` is the setter of the view's own class. -/
def beginRefreshing (setState : MJRefreshState → Sys ρ → Sys ρ) (s : Sys ρ) : Sys ρ :=
  let s := setPullingPercent 1 (s.mapView fun view => { view with alpha := 1 })
  if s.view.inWindow then setState .refreshing s
  -- a view without a window waits for `drawRect:`
  else if s.view.state ≠ .refreshing then setState .willRefresh s
  else s

/-- `drawRect:`. -/
def drawRect (setState : MJRefreshState → Sys ρ → Sys ρ) (s : Sys ρ) : Sys ρ :=
  if s.view.state = .willRefresh then setState .refreshing s else s

/-- `endRefreshing`. -/
def endRefreshing (s : Sys ρ) : Sys ρ := s.dispatchAsync .endRefreshing

/-- The line `_scrollViewOriginalInset = self.scrollView.mj_inset;`. -/
def rememberInset (s : Sys ρ) : Sys ρ :=
  let inset := s.sv.mjInset
  s.mapView fun view => { view with scrollViewOriginalInset := inset }

/-- The end of the content offset handlers of headers and of footers that are pulled, where
`setState` and `beginRefreshing` are the methods of the view's own class and `pulled` says that the
offset is beyond the point at which letting go starts a refresh. -/
def pullingDidChange (setState : MJRefreshState → Sys ρ → Sys ρ) (beginRefreshing : Sys ρ → Sys ρ)
    (pulled : Bool) (pullingPercent : CGFloat) (s : Sys ρ) : Sys ρ :=
  if s.sv.isDragging then
    let s := setPullingPercent pullingPercent s
    if s.view.state = .idle ∧ pulled then setState .pulling s
    else if s.view.state = .pulling ∧ ¬ pulled then setState .idle s
    else s
  else if s.view.state = .pulling then beginRefreshing s
  else if pullingPercent < 1 then setPullingPercent pullingPercent s
  else s

end MJRefreshComponent

/-! ## Classes and events -/

/-- The methods of a class of refresh views. -/
structure RefreshClass (ρ : Type) where
  setState : Notify ρ → MJRefreshState → Sys ρ → Sys ρ
  beginRefreshing : Notify ρ → Sys ρ → Sys ρ
  willMoveToSuperview : Option UIScrollView → Sys ρ → Sys ρ
  scrollViewContentOffsetDidChange : Notify ρ → CGPoint → CGPoint → Sys ρ → Sys ρ
  scrollViewContentSizeDidChange : Sys ρ → Sys ρ
  scrollViewPanStateDidChange : Notify ρ → Sys ρ → Sys ρ
  placeSubviews : Sys ρ → Sys ρ
  setHidden : Notify ρ → Bool → Sys ρ → Sys ρ
  headerRefreshingBlock : Notify ρ → Sys ρ → Sys ρ
  animationDidStop : Notify ρ → AnimationKey → Sys ρ → Sys ρ

/-- What can happen to a refresh view. The main queue runs in order, completions in any order. -/
inductive Event where
  | attach (scrollView : UIScrollView)
  | detach
  | contentOffset (offset : CGPoint) (isDragging : Bool)
  | contentSize (size : CGSize)
  | panState (panState : PanState)
  | reloadData (numberOfRows : List Nat)
  | window (inWindow : Bool)
  | beginRefreshing
  | endRefreshing
  | setState (state : MJRefreshState)
  | setHidden (hidden : Bool)
  | drawRect
  | layoutSubviews
  | mainQueue
  | completion (index : Nat)
  deriving DecidableEq, Repr

namespace RefreshClass

/-- `observeValueForKeyPath:ofObject:change:context:` for the content offset. -/
def observeContentOffset (c : RefreshClass ρ) (notify : Notify ρ) : Notify ρ := fun old new s =>
  if s.view.observing && s.view.userInteractionEnabled && !s.view.hidden then
    c.scrollViewContentOffsetDidChange notify old new s
  else s

/-- `observeValueForKeyPath:ofObject:change:context:` for the content size, which is handled even
by a hidden view. -/
def observeContentSize (c : RefreshClass ρ) (s : Sys ρ) : Sys ρ :=
  if s.view.observing && s.view.userInteractionEnabled then c.scrollViewContentSizeDidChange s
  else s

/-- `observeValueForKeyPath:ofObject:change:context:` for the state of the pan gesture. -/
def observePanState (c : RefreshClass ρ) (notify : Notify ρ) (s : Sys ρ) : Sys ρ :=
  if s.view.observing && s.view.userInteractionEnabled && !s.view.hidden then
    c.scrollViewPanStateDidChange notify s
  else s

/-- A notification to a single view, with handlers nested at most `depth` deep. -/
def notifyWithin (c : RefreshClass ρ) : Nat → Notify ρ
  | 0 => fun _ _ s => s
  | depth + 1 => c.observeContentOffset (c.notifyWithin depth)

/-- A block of the main queue runs. -/
def runBlock (c : RefreshClass ρ) (notify : Notify ρ) : Block → Sys ρ → Sys ρ
  | .endRefreshing => c.setState notify .idle
  | .refreshingCallback => Sys.fire .refreshing
  | .headerRefreshing => c.headerRefreshingBlock notify

/-- The completion of an animation runs. -/
def runCompletion (c : RefreshClass ρ) (notify : Notify ρ) : Completion → Sys ρ → Sys ρ
  | .executeRefreshingCallback => MJRefreshComponent.executeRefreshingCallback
  | .endRefreshing => fun s =>
      (MJRefreshComponent.setPullingPercent 0 s).fire .endRefreshingCompletion
  | .endRefreshingPaging => Sys.fire .endRefreshingCompletion
  | .animationDidStop key => c.animationDidStop notify key

/-- What an event does, where `notify` tells the observers of the scroll view. -/
def handle (c : RefreshClass ρ) (notify : Notify ρ) (s : Sys ρ) : Event → Sys ρ
  | .attach scrollView => c.willMoveToSuperview (some scrollView) s
  | .detach => c.willMoveToSuperview none s
  | .contentOffset offset isDragging =>
      notify s.scrollView.contentOffset offset
        (s.mapScroll fun sv => { sv with contentOffset := offset, isDragging := isDragging })
  | .contentSize size =>
      c.observeContentSize (s.mapScroll fun sv => { sv with contentSize := size })
  | .panState panState =>
      c.observePanState notify (s.mapScroll fun sv => { sv with panState := panState })
  | .reloadData numberOfRows => s.mapScroll fun sv => { sv with numberOfRows := numberOfRows }
  | .window inWindow => s.mapView fun view => { view with inWindow := inWindow }
  | .beginRefreshing => c.beginRefreshing notify s
  | .endRefreshing => MJRefreshComponent.endRefreshing s
  | .setState state => c.setState notify state s
  | .setHidden hidden => c.setHidden notify hidden s
  | .drawRect => MJRefreshComponent.drawRect (c.setState notify) s
  | .layoutSubviews => c.placeSubviews s
  | .mainQueue =>
      match s.mainQueue with
      | [] => s
      | block :: blocks => c.runBlock notify block { s with mainQueue := blocks }
  | .completion index =>
      match s.completions[index]? with
      | none => s
      | some completion =>
          c.runCompletion notify completion
            { s with completions := s.completions.eraseIdx index }

/-- A view of the class that has just been attached to a scroll view. -/
def attached (c : RefreshClass Unit) (view : RefreshView) (scrollView : UIScrollView) : Sys Unit :=
  c.willMoveToSuperview (some scrollView) (Sys.start view scrollView ())

/-- Nothing happens while the main queue is empty. -/
theorem handle_main_queue_nil (c : RefreshClass ρ) (notify : Notify ρ) {s : Sys ρ}
    (h : s.mainQueue = []) : c.handle notify s .mainQueue = s := by
  simp only [handle, h]

/-- The block at the head of the main queue leaves it and runs. -/
theorem handle_main_queue_cons (c : RefreshClass ρ) (notify : Notify ρ) {s : Sys ρ} {block : Block}
    {blocks : List Block} (h : s.mainQueue = block :: blocks) :
    c.handle notify s .mainQueue = c.runBlock notify block { s with mainQueue := blocks } := by
  simp only [handle, h]

/-- Nothing happens for a completion that does not exist. -/
theorem handle_completion_none (c : RefreshClass ρ) (notify : Notify ρ) {s : Sys ρ} {index : Nat}
    (h : s.completions[index]? = none) : c.handle notify s (.completion index) = s := by
  simp only [handle, h]

/-- A pending completion leaves the list and runs. -/
theorem handle_completion_some (c : RefreshClass ρ) (notify : Notify ρ) {s : Sys ρ} {index : Nat}
    {completion : Completion} (h : s.completions[index]? = some completion) :
    c.handle notify s (.completion index) = c.runCompletion notify completion
      { s with completions := s.completions.eraseIdx index } := by
  simp only [handle, h]

end RefreshClass

end Component.Refresh

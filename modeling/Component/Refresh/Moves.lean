import Component.Lib.Run
import Component.Refresh.View

/-!
# The moves of `MJRefreshView`

Whatever happens to an `MJRefreshView`, it reacts by a sequence of a few elementary moves: it
writes geometry, shows or fades itself, changes its state, freezes its scroll view for an
animation, announces the end of a refresh, or leaves a block or a completion behind.
`reaches_handle` says so for every event and for all the notifications that are nested in it,
together with the changes of the state that the event allows (`Sys.Allows`). What holds along every
run is then proved move by move in `Component.Refresh.StateMachine` and
`Component.Refresh.Appearance`.
-/

namespace Component.Refresh

variable {ρ : Type}

/-- What the moves other than writing geometry are about. -/
structure Conduct where
  pulled : Bool
  state : MJRefreshState
  alpha : CGFloat
  interactive : Bool
  mainQueue : List Block
  completions : List Completion
  transitions : List (MJRefreshState × MJRefreshState)
  announced : Nat

/-- The conduct of a view and its scroll view. -/
def Sys.conduct (s : Sys ρ) : Conduct where
  pulled := s.view.pulled
  state := s.view.state
  alpha := s.view.alpha
  interactive := s.scrollView.userInteractionEnabled
  mainQueue := s.mainQueue
  completions := s.completions
  transitions := s.transitions
  announced := s.fired.count .endRefreshingAnimationBegin

/-! ## Elementary moves -/

section Moves

variable (allows : Sys ρ → MJRefreshState → Prop) (adopts : UIScrollView → Prop)

/-- Some change of the state that may happen leaves the refreshing state. -/
def Leaves : Prop := ∃ s state, allows s state ∧ s.view.state = .refreshing

/-- One elementary move, where `allows` are the changes of the state that may happen and `adopts`
the scroll views that the view may be attached to. -/
inductive Move : Sys ρ → Sys ρ → Prop where
  | write {s s' : Sys ρ} (hconduct : s'.conduct = s.conduct)
      (hlinked : s.view.linked = true → s'.view.linked = true) : Move s s'
  | adopt (s : Sys ρ) (scrollView : UIScrollView) (h : adopts scrollView) :
      Move s (s.mapScroll fun _ => scrollView)
  | percent (s : Sys ρ) (percent : CGFloat) :
      Move s (MJRefreshComponent.setPullingPercent percent s)
  | appear (s : Sys ρ) : Move s (s.mapView fun view => { view with alpha := 1 })
  | fade (s : Sys ρ) (h : s.view.isRefreshing = false) : Move s (MJRefreshComponent.fadeOut s)
  | change (s : Sys ρ) (state : MJRefreshState) (h : allows s state)
      (hnew : state ≠ s.view.state) : Move s (MJRefreshComponent.setState state s)
  | dispatch (s : Sys ρ) (block : Block) (h : block ≠ .endRefreshing) :
      Move s (s.dispatchAsync block)
  | animate (s : Sys ρ) (completion : Completion) : Move s (s.animate completion)
  | freeze (s : Sys ρ) (key : AnimationKey) :
      Move s ((s.updateScroll (UIScrollView.setUserInteractionEnabled false)).animate
        (.animationDidStop key))
  | release (s : Sys ρ) :
      Move s (s.updateScroll (UIScrollView.setUserInteractionEnabled true))
  | announce (s : Sys ρ) (h : Leaves allows) : Move s (s.fire .endRefreshingAnimationBegin)

/-- Elementary moves lead from the first state to the second. -/
def Reaches : Sys ρ → Sys ρ → Prop := Relation.ReflTransGen (Move allows adopts)

end Moves

section Reaching

variable {allows allows' : Sys ρ → MJRefreshState → Prop}
  {adopts adopts' : UIScrollView → Prop} {s s' s'' : Sys ρ}

/-- Every state is reached from itself without a move. -/
theorem Reaches.refl : Reaches allows adopts s s := Relation.ReflTransGen.refl

/-- Moves can be made one after another. -/
theorem Reaches.trans (h : Reaches allows adopts s s') (h' : Reaches allows adopts s' s'') :
    Reaches allows adopts s s'' := Relation.ReflTransGen.trans h h'

/-- One move reaches its result. -/
theorem Move.reaches (h : Move allows adopts s s') : Reaches allows adopts s s' :=
  Relation.ReflTransGen.single h

/-- One more move may follow. -/
theorem Reaches.tail (h : Reaches allows adopts s s') (h' : Move allows adopts s' s'') :
    Reaches allows adopts s s'' := Relation.ReflTransGen.tail h h'

/-- Writing what is not part of the conduct, and not unlinking the view, is a move. -/
theorem Reaches.write (hconduct : s'.conduct = s.conduct)
    (hlinked : s.view.linked = true → s'.view.linked = true) : Reaches allows adopts s s' :=
  (Move.write hconduct hlinked).reaches

/-- What every move preserves holds wherever moves lead. -/
theorem Reaches.invariant {inv : Sys ρ → Prop}
    (hmove : ∀ s s', inv s → Move allows adopts s s' → inv s')
    (h : Reaches allows adopts s s') (hs : inv s) : inv s' := by
  induction h with
  | refl => exact hs
  | tail _ hlast ih => exact hmove _ _ ih hlast

/-- What is reached under some rules is reached under rules that allow more. -/
theorem Reaches.mono (hallows : ∀ s state, allows s state → allows' s state)
    (hadopts : ∀ scrollView, adopts scrollView → adopts' scrollView)
    (h : Reaches allows adopts s s') : Reaches allows' adopts' s s' := by
  refine Relation.ReflTransGen.mono ?_ _ _ h
  intro s s' hmove
  cases hmove with
  | write hconduct hlinked => exact .write hconduct hlinked
  | adopt scrollView h => exact .adopt _ _ (hadopts _ h)
  | percent percent => exact .percent _ _
  | appear => exact .appear _
  | fade h => exact .fade _ h
  | change state h hnew => exact .change _ _ (hallows _ _ h) hnew
  | dispatch block h => exact .dispatch _ _ h
  | animate completion => exact .animate _ _
  | freeze key => exact .freeze _ _
  | release => exact .release _
  | announce h =>
      obtain ⟨before, state, hbefore, hrefreshing⟩ := h
      exact .announce _ ⟨before, state, hallows _ _ hbefore, hrefreshing⟩

/-- A change of the scroll view other than of its touches keeps the conduct. -/
theorem update_scroll_conduct {f : UIScrollView → UIScrollView}
    (hf : ∀ sv, (f sv).userInteractionEnabled = sv.userInteractionEnabled) :
    (s.updateScroll f).conduct = s.conduct := by
  unfold Sys.updateScroll
  split
  · simp only [Sys.conduct, Sys.mapScroll, hf]
  · rfl

/-- Afterwards the scroll view may change, apart from its touches. -/
theorem Reaches.update_scroll (h : Reaches allows adopts s s') {f : UIScrollView → UIScrollView}
    (hf : ∀ sv, (f sv).userInteractionEnabled = sv.userInteractionEnabled) :
    Reaches allows adopts s (s'.updateScroll f) :=
  h.tail (.write (update_scroll_conduct hf) (fun h => by rwa [Sys.update_scroll_view]))

/-- Afterwards a callback may fire, unless it announces the end of a refresh. -/
theorem Reaches.fire (h : Reaches allows adopts s s') {callback : Callback}
    (hcallback : callback ≠ .endRefreshingAnimationBegin) :
    Reaches allows adopts s (s'.fire callback) :=
  h.tail (.write (by simp [Sys.conduct, List.count_eq_zero, hcallback.symm]) id)

/-- Afterwards an animation may start. -/
theorem Reaches.animate (h : Reaches allows adopts s s') (completion : Completion) :
    Reaches allows adopts s (s'.animate completion) := h.tail (.animate _ _)

/-- Afterwards the top inset along the direction of the view may be set. -/
theorem Reaches.set_scroll_asix_inset_top (h : Reaches allows adopts s s') (value : CGFloat) :
    Reaches allows adopts s (s'.setScrollAsixInsetTop value) := by
  unfold Sys.setScrollAsixInsetTop
  split <;> exact h.update_scroll (fun _ => rfl)

/-- Afterwards the bottom inset along the direction of the view may be set. -/
theorem Reaches.set_scroll_asix_origin_inset_bottom (h : Reaches allows adopts s s')
    (value : CGFloat) : Reaches allows adopts s (s'.setScrollAsixOriginInsetBottom value) := by
  unfold Sys.setScrollAsixOriginInsetBottom
  split <;> exact h.update_scroll (fun _ => rfl)

/-- The view is moved or resized. -/
theorem Reaches.place (h : Reaches allows adopts s s') {f : RefreshView → RefreshView}
    (hf : ∀ view, ∃ frame, f view = { view with frame := frame }) :
    Reaches allows adopts s (s'.mapView f) := by
  obtain ⟨frame, hframe⟩ := hf s'.view
  refine h.tail (.write ?_ ?_)
  · simp only [Sys.mapView, hframe]
    rfl
  · intro hlinked
    simpa only [Sys.mapView, hframe] using hlinked

end Reaching

/-! ## The changes of the state that an event allows -/

/-- The changes of the state when the content offset moves. A view that is pulled goes back and
forth between idle and pulling and starts a refresh from pulling; the other kind of footer starts
one from idle. -/
def ScrollAllows (s : Sys ρ) : MJRefreshState → Prop
  | .idle => s.view.pulled = true ∧ s.view.state = .pulling
  | .pulling => s.view.pulled = true ∧ s.view.state = .idle
  | .refreshing | .willRefresh => s.view.alpha = 1 ∧
      s.view.state = if s.view.pulled then .pulling else .idle
  | .noMoreData => False

/-- Scrolling changes only the idle and the pulling state. -/
theorem not_scroll_allows {s : Sys ρ} (hidle : s.view.state ≠ .idle)
    (hpulling : s.view.state ≠ .pulling) (state : MJRefreshState) : ¬ ScrollAllows s state := by
  cases state with
  | idle => exact fun h => hpulling h.2
  | pulling => exact fun h => hidle h.2
  | noMoreData => exact id
  | refreshing | willRefresh =>
      rintro ⟨-, hstate⟩
      split at hstate
      · exact hpulling hstate
      · exact hidle hstate

/-- The changes of the state while an event is handled that has arrived in the first state. -/
def Sys.Allows (start : Sys ρ) (event : Event) (s : Sys ρ) (state : MJRefreshState) : Prop :=
  match event with
  | .contentOffset _ _ | .panState _ | .completion _ => ScrollAllows s state
  | .beginRefreshing =>
      s.view.alpha = 1 ∧ s.view.state ≠ .refreshing ∧ (state = .refreshing ∨ state = .willRefresh)
  | .setState new => state = new ∨ ScrollAllows s state
  | .setHidden hidden => hidden = true ∧ state = .idle
  | .drawRect => s.view.state = .willRefresh ∧ state = .refreshing
  | .mainQueue =>
      (start.mainQueue.head? = some .endRefreshing ∧ state = .idle) ∨ ScrollAllows s state
  | _ => False

/-- The scroll views that an event attaches the view to. -/
def Event.Adopts (event : Event) (scrollView : UIScrollView) : Prop := event = .attach scrollView

/-- Notifications lead to the changes that scrolling allows, and to none for a hidden view. -/
structure Scrolls (notify : Notify ρ) : Prop where
  reaches : ∀ old new s, Reaches ScrollAllows (fun _ => False) s (notify old new s)
  hidden : ∀ old new s, s.view.hidden = true → notify old new s = s

/-- Scrolling changes the state of a view that is idle or pulling only. -/
theorem Scrolls.of_busy {notify : Notify ρ} (hnotify : Scrolls notify) (old new : CGPoint)
    {s : Sys ρ} (hidle : s.view.state ≠ .idle) (hpulling : s.view.state ≠ .pulling) :
    Reaches (fun _ _ => False) (fun _ => False) s (notify old new s) := by
  -- the state stays the same all along, and no change of it is allowed there
  suffices ∀ s', Reaches ScrollAllows (fun _ => False) s s' →
      Reaches (fun _ _ => False) (fun _ => False) s s' ∧ s'.view.state = s.view.state from
    (this _ (hnotify.reaches old new s)).1
  intro s' h
  induction h with
  | refl => exact ⟨.refl, rfl⟩
  | tail _ hlast ih =>
      obtain ⟨hbefore, hstate⟩ := ih
      cases hlast with
      | write hconduct hlinked =>
          exact ⟨hbefore.tail (.write hconduct hlinked),
            (congrArg Conduct.state hconduct).trans hstate⟩
      | adopt scrollView h => exact h.elim
      | percent percent => exact ⟨hbefore.tail (.percent _ _), hstate⟩
      | appear => exact ⟨hbefore.tail (.appear _), hstate⟩
      | fade h => exact ⟨hbefore.tail (.fade _ h), hstate⟩
      | change state h hnew =>
          rw [← hstate] at hidle hpulling
          exact absurd h (not_scroll_allows hidle hpulling state)
      | dispatch block h => exact ⟨hbefore.tail (.dispatch _ _ h), hstate⟩
      | animate completion => exact ⟨hbefore.tail (.animate _ _), hstate⟩
      | freeze key => exact ⟨hbefore.tail (.freeze _ _), by simpa using hstate⟩
      | release => exact ⟨hbefore.tail (.release _), by simpa using hstate⟩
      | announce h =>
          obtain ⟨before, state, hbefore, hrefreshing⟩ := h
          refine absurd hbefore (not_scroll_allows ?_ ?_ state)
          · simp [hrefreshing]
          · simp [hrefreshing]

/-! ## Changing the state -/

section Methods

variable {notify : Notify ρ} {allows : Sys ρ → MJRefreshState → Prop}
  {adopts : UIScrollView → Prop} {s : Sys ρ}

/-- Notifications to a view in the given state. -/
def Nested (notify : Notify ρ) (allows : Sys ρ → MJRefreshState → Prop)
    (adopts : UIScrollView → Prop) (state : MJRefreshState) (hidden : Bool) : Prop :=
  ∀ old new s, s.view.state = state → s.view.hidden = hidden →
    Reaches allows adopts s (notify old new s)

/-- Afterwards the content offset may be set if the nested handlers keep to the rules. -/
theorem Reaches.set_content_offset {s' : Sys ρ} (h : Reaches allows adopts s s')
    (hnested : Nested notify allows adopts s'.view.state s'.view.hidden) (offset : CGPoint) :
    Reaches allows adopts s (s'.setContentOffset notify offset) := by
  unfold Sys.setContentOffset
  split
  · have hscrolled : Reaches allows adopts s
        (s'.mapScroll fun sv => { sv with contentOffset := offset }) := h.tail (.write rfl id)
    exact hscrolled.trans (hnested _ _ _ rfl rfl)
  · exact h

/-- The end of a refresh of a footer that is pulled consists of moves. -/
theorem reaches_back_footer_ending_action (hleaves : Leaves allows)
    (hstate : s.view.isRefreshing = false) :
    Reaches allows adopts s (MJRefreshView.backFooterEndingAction s) := by
  refine Reaches.animate (Reaches.tail ?_ (.fade _ ?_)) _
  · exact (Move.announce _ hleaves).reaches.update_scroll (fun _ => rfl)
  · rw [Sys.update_scroll_view]
    exact hstate

/-- The end of a refresh of a footer that is pulled leaves the state and `hidden`. -/
theorem back_footer_ending_action_view (s : Sys ρ) :
    (MJRefreshView.backFooterEndingAction s).view.state = s.view.state ∧
      (MJRefreshView.backFooterEndingAction s).view.hidden = s.view.hidden := by
  simp [MJRefreshView.backFooterEndingAction, MJRefreshComponent.fadeOut]

/-- Enlarging the bottom inset consists of moves. -/
theorem reaches_back_footer_enlarge :
    Reaches allows adopts s (MJRefreshView.backFooterEnlarge s) := by
  refine Reaches.update_scroll (.write ?_ ?_) (fun _ => rfl)
  · rfl
  · exact id

/-- Enlarging the bottom inset leaves the state and `hidden`. -/
theorem back_footer_enlarge_view (s : Sys ρ) :
    (MJRefreshView.backFooterEnlarge s).view.state = s.view.state ∧
      (MJRefreshView.backFooterEnlarge s).view.hidden = s.view.hidden := by
  simp [MJRefreshView.backFooterEnlarge]

/-- The state handler of footers that are pulled consists of moves. -/
theorem reaches_back_footer_state_did_change {oldState : MJRefreshState}
    (hleaves : oldState = .refreshing → Leaves allows)
    (hnested : Nested notify allows adopts s.view.state s.view.hidden) :
    Reaches allows adopts s
      (MJRefreshView.backFooterStateDidChange notify oldState s.view.state s) := by
  unfold MJRefreshView.backFooterStateDidChange
  split
  next hend =>
    have hrest : s.view.isRefreshing = false := by
      rcases hend with h | h <;> simp [RefreshView.isRefreshing, h]
    by_cases hold : oldState = .refreshing
    · simp only [hold, if_true, true_and]
      have hview := back_footer_ending_action_view s
      split
      · exact (reaches_back_footer_ending_action (hleaves hold) hrest).set_content_offset
          (by rwa [hview.1, hview.2]) _
      · exact reaches_back_footer_ending_action (hleaves hold) hrest
    · simp only [hold, if_false, false_and]
      exact .refl
  · split
    · have hview := back_footer_enlarge_view s
      exact (reaches_back_footer_enlarge.set_content_offset
        (by rwa [hview.1, hview.2]) _).animate _
    · exact .refl

/-- The state handler of footers that refresh by themselves consists of moves. -/
theorem reaches_auto_footer_state_did_change {oldState : MJRefreshState}
    (hleaves : oldState = .refreshing → Leaves allows)
    (hnested : Nested notify allows adopts s.view.state s.view.hidden) :
    Reaches allows adopts s
      (MJRefreshView.autoFooterStateDidChange notify oldState s.view.state s) := by
  have htrigger : Reaches allows adopts s (MJRefreshView.endTrigger s) ∧
      (MJRefreshView.endTrigger s).view.state = s.view.state ∧
      (MJRefreshView.endTrigger s).view.hidden = s.view.hidden := by
    unfold MJRefreshView.endTrigger
    split
    · exact ⟨.write rfl id, rfl, rfl⟩
    · exact ⟨.refl, rfl, rfl⟩
  obtain ⟨htrigger, hstate, hhidden⟩ := htrigger
  unfold MJRefreshView.autoFooterStateDidChange
  split
  · exact (Move.dispatch _ _ (by simp)).reaches
  · split
    · dsimp only
      split
      next hold =>
        split
        · refine Reaches.animate (Reaches.tail ?_ (.announce _ (hleaves hold))) _
          exact htrigger.set_content_offset (by rwa [hstate, hhidden]) _
        · exact htrigger.fire (by simp)
      · exact htrigger
    · exact .refl

/-- The end of a refresh of a header consists of moves. -/
theorem reaches_header_ending_action (hleaves : Leaves allows)
    (hstate : s.view.isRefreshing = false) :
    Reaches allows adopts s (MJRefreshView.headerEndingAction s) := by
  have hinset : Reaches allows adopts s
      (s.setScrollAsixInsetTop (s.scrollAsixInsetTop + s.view.insetTDelta)) :=
    Reaches.refl.set_scroll_asix_inset_top _
  have hview : (s.setScrollAsixInsetTop (s.scrollAsixInsetTop + s.view.insetTDelta)).view =
      s.view := by
    unfold Sys.setScrollAsixInsetTop
    split <;> exact Sys.update_scroll_view _ _
  unfold MJRefreshView.headerEndingAction
  dsimp only
  split
  · refine ((hinset.tail (.freeze _ _)).tail (.announce _ hleaves)).tail (.fade _ ?_)
    simpa [hview] using hstate
  · refine ((hinset.tail (.announce _ hleaves)).tail (.fade _ ?_)).animate _
    simpa [hview] using hstate

/-- The state handler of headers consists of moves. -/
theorem reaches_header_state_did_change {oldState : MJRefreshState}
    (hleaves : oldState = .refreshing → Leaves allows) :
    Reaches allows adopts s (MJRefreshView.headerStateDidChange oldState s.view.state s) := by
  unfold MJRefreshView.headerStateDidChange
  split
  next hidle =>
    split
    · exact .refl
    next hold =>
      exact reaches_header_ending_action (hleaves (not_not.mp hold))
        (by simp [RefreshView.isRefreshing, hidle])
  · split
    · unfold MJRefreshView.headerRefreshingAction
      split
      · split
        · exact (Move.freeze _ _).reaches
        · exact (Move.dispatch _ _ (by simp)).reaches
      · exact (Move.dispatch _ _ (by simp)).reaches
    · exact .refl

/-- Setting the state is an allowed change, followed by what belongs to the new state. -/
theorem reaches_set_state {state : MJRefreshState} (hallows : state ≠ s.view.state → allows s state)
    (hnested : Nested notify allows adopts state s.view.hidden) :
    Reaches allows adopts s (MJRefreshView.setState notify state s) := by
  unfold MJRefreshView.setState
  dsimp only
  split
  · exact .refl
  next hnew =>
    have hchange : Reaches allows adopts s (MJRefreshComponent.setState state s) :=
      (Move.change s state (hallows hnew) hnew).reaches
    have hleaves : s.view.state = .refreshing → Leaves allows :=
      fun hold => ⟨s, state, hallows hnew, hold⟩
    split
    · split
      · exact hchange.trans (reaches_back_footer_state_did_change
          (s := MJRefreshComponent.setState state s) hleaves hnested)
      · exact hchange.trans (reaches_auto_footer_state_did_change
          (s := MJRefreshComponent.setState state s) hleaves hnested)
    · exact hchange.trans (reaches_header_state_did_change
        (s := MJRefreshComponent.setState state s) hleaves)

/-! ## The handlers -/

/-- Starting a refresh makes the view opaque before it changes the state. -/
theorem reaches_begin_refreshing
    (hallows : ∀ s' : Sys ρ, s'.view.alpha = 1 → s'.view.pulled = s.view.pulled →
      s'.view.state = s.view.state → ∀ state, state = .refreshing ∨ state = .willRefresh →
      state ≠ s.view.state → s.view.state ≠ .refreshing → allows s' state)
    (hnotify : Scrolls notify) :
    Reaches allows adopts s (MJRefreshView.beginRefreshing notify s) := by
  have hnested : ∀ state, state = .refreshing ∨ state = .willRefresh →
      Nested notify allows adopts state s.view.hidden := by
    intro state hstate old new s' hs' _
    have hreaches : Reaches (fun _ _ => False) (fun _ => False) s' (notify old new s') := by
      apply hnotify.of_busy
      · rcases hstate with h | h <;> simp [hs', h]
      · rcases hstate with h | h <;> simp [hs', h]
    exact hreaches.mono (fun _ _ => False.elim) (fun _ => False.elim)
  unfold MJRefreshView.beginRefreshing
  split
  · exact .refl
  · unfold MJRefreshComponent.beginRefreshing
    dsimp only
    have happear : Reaches allows adopts s (MJRefreshComponent.setPullingPercent 1
        (s.mapView fun view => { view with alpha := 1 })) :=
      (Move.appear s).reaches.tail (.percent _ _)
    have halpha : (MJRefreshComponent.setPullingPercent 1
        (s.mapView fun view => { view with alpha := 1 })).view.alpha = 1 := by
      simp [MJRefreshComponent.setPullingPercent]
    split
    · refine happear.trans (reaches_set_state (fun hnew => ?_) (hnested _ (.inl rfl)))
      exact hallows _ halpha rfl rfl _ (.inl rfl) hnew (Ne.symm hnew)
    · split
      next hrefreshing =>
        refine happear.trans (reaches_set_state (fun hnew => ?_) (hnested _ (.inr rfl)))
        exact hallows _ halpha rfl rfl _ (.inr rfl) hnew hrefreshing
      · exact happear

/-- The end of the content offset handlers makes the moves of scrolling. -/
theorem reaches_pulling_did_change (hnotify : Scrolls notify) (hpulled : s.view.pulled = true)
    (pulled : Bool) (percent : CGFloat) :
    Reaches ScrollAllows (fun _ => False) s
      (MJRefreshView.pullingDidChange notify pulled percent s) := by
  have hnested : ∀ state, Nested notify ScrollAllows (fun _ => False) state s.view.hidden :=
    fun _ old new s' _ _ => hnotify.reaches old new s'
  have hpercent : Reaches ScrollAllows (fun _ => False) s
      (MJRefreshComponent.setPullingPercent percent s) := (Move.percent _ _).reaches
  unfold MJRefreshView.pullingDidChange MJRefreshComponent.pullingDidChange
  split
  · dsimp only
    split
    next h => exact hpercent.trans (reaches_set_state (fun _ => ⟨hpulled, h.1⟩) (hnested _))
    · split
      next h => exact hpercent.trans (reaches_set_state (fun _ => ⟨hpulled, h.1⟩) (hnested _))
      · exact hpercent
  · split
    next hpulling =>
      refine reaches_begin_refreshing ?_ hnotify
      intro s' halpha hs' hstate state hnew _ _
      have hstart : s'.view.state = if s'.view.pulled then .pulling else .idle := by
        rw [hstate, hs', hpulled, hpulling]
        rfl
      rcases hnew with rfl | rfl
      · exact ⟨halpha, hstart⟩
      · exact ⟨halpha, hstart⟩
    · split
      · exact hpercent
      · exact .refl

/-- A footer that refreshes by itself starts a refresh from idle. -/
theorem reaches_auto_footer_begin_refreshing (hnotify : Scrolls notify)
    (hauto : s.view.pulled = false) (hidle : s.view.state = .idle) :
    Reaches ScrollAllows (fun _ => False) s (MJRefreshView.beginRefreshing notify s) := by
  refine reaches_begin_refreshing ?_ hnotify
  intro s' halpha hs' hstate state hnew _ _
  have hstart : s'.view.state = if s'.view.pulled then .pulling else .idle := by
    rw [hstate, hs', hauto, hidle]
    rfl
  rcases hnew with rfl | rfl
  · exact ⟨halpha, hstart⟩
  · exact ⟨halpha, hstart⟩

/-- Adjusting the top inset during a refresh consists of moves. -/
theorem reaches_reset_inset : Reaches allows adopts s (MJRefreshView.resetInset s) := by
  unfold MJRefreshView.resetInset
  split
  · exact .refl
  · dsimp only
    split
    · refine Reaches.set_scroll_asix_inset_top ?_ _
      exact .write rfl id
    · exact .write rfl id

/-- The content offset handlers make the moves of scrolling. -/
theorem reaches_content_offset_did_change (hnotify : Scrolls notify) (old new : CGPoint) :
    Reaches ScrollAllows (fun _ => False) s
      (MJRefreshView.scrollViewContentOffsetDidChange notify old new s) := by
  have hremember : Reaches ScrollAllows (fun _ => False) s
      (MJRefreshComponent.rememberInset s) := .write rfl id
  unfold MJRefreshView.scrollViewContentOffsetDidChange
  split
  next hmore =>
    split
    next hback =>
      have hpulled : (MJRefreshComponent.rememberInset s).view.pulled = true := by
        simp [RefreshView.pulled, MJRefreshComponent.rememberInset, hback]
      unfold MJRefreshView.backFooterContentOffsetDidChange
      split
      · exact .refl
      · dsimp only
        split
        · exact hremember
        · split
          · exact hremember.tail (.percent _ _)
          · exact hremember.trans (reaches_pulling_did_change hnotify hpulled _ _)
    next hback =>
      have hauto : s.view.pulled = false := by simp [RefreshView.pulled, hmore, hback]
      unfold MJRefreshView.autoFooterContentOffsetDidChange
      split
      · exact .refl
      next hstate =>
        have hidle : s.view.state = .idle := not_not.mp fun h => hstate (.inl h)
        split
        · split
          · split
            · exact .refl
            · refine Reaches.trans ?_ (reaches_auto_footer_begin_refreshing hnotify ?_ ?_)
              · exact .write rfl id
              · exact hauto
              · exact hidle
          · exact .refl
        · exact .refl
  next hmore =>
    have hpulled : (MJRefreshComponent.rememberInset s).view.pulled = true := by
      simp [RefreshView.pulled, MJRefreshComponent.rememberInset, hmore]
    unfold MJRefreshView.headerContentOffsetDidChange
    split
    · exact reaches_reset_inset
    · dsimp only
      split
      · exact hremember
      · exact hremember.trans (reaches_pulling_did_change hnotify hpulled _ _)

/-- The handler of the pan gesture makes the moves of scrolling. -/
theorem reaches_pan_state_did_change (hnotify : Scrolls notify) :
    Reaches ScrollAllows (fun _ => False) s
      (MJRefreshView.scrollViewPanStateDidChange notify s) := by
  unfold MJRefreshView.scrollViewPanStateDidChange
  split
  · exact .refl
  next hkind =>
    have hauto : s.view.pulled = false := by
      simpa [RefreshView.pulled] using hkind
    split
    · exact .refl
    next hidle =>
      split
      · unfold MJRefreshView.autoFooterPanEnded
        split
        · refine Reaches.trans ?_ (reaches_auto_footer_begin_refreshing hnotify ?_ ?_)
          · exact .write rfl id
          · exact hauto
          · exact not_not.mp hidle
        · exact .refl
      · exact .write rfl id
      · exact .refl

/-- Afterwards the view may be placed along its direction. -/
theorem reaches_config_view_y {s' : Sys ρ} (h : Reaches allows adopts s s') :
    Reaches allows adopts s (MJRefreshView.configViewY s') := by
  unfold MJRefreshView.configViewY
  split
  · refine h.place (fun view => ?_)
    unfold RefreshView.setAsxiY
    split <;> exact ⟨_, rfl⟩
  · exact h

/-- What every view does when it moves to a superview consists of moves. -/
theorem reaches_component_will_move_to_superview (newSuperview : Option UIScrollView)
    (hadopts : ∀ scrollView ∈ newSuperview, adopts scrollView) :
    Reaches allows adopts s (MJRefreshView.componentWillMoveToSuperview newSuperview s) := by
  cases newSuperview with
  | none => exact .write rfl id
  | some scrollView =>
      have hadopt : Reaches allows adopts s (s.mapScroll fun _ => scrollView) :=
        (Move.adopt s scrollView (hadopts _ rfl)).reaches
      have hrecord : Reaches allows adopts s (MJRefreshView.recordScrollView scrollView s) :=
        hadopt.tail (.write rfl (fun _ => rfl))
      have hplace : Reaches allows adopts s (MJRefreshView.placeAcross
          (MJRefreshView.recordScrollView scrollView s)) := by
        refine (hrecord.place (fun view => ?_)).place (fun view => ?_)
        · unfold RefreshView.setAsxiWidth
          split <;> exact ⟨_, rfl⟩
        · unfold RefreshView.setAsxiX
          split <;> exact ⟨_, rfl⟩
      have hbounces : Reaches allows adopts s (MJRefreshView.configBouces
          (MJRefreshView.placeAcross (MJRefreshView.recordScrollView scrollView s))) := by
        unfold MJRefreshView.configBouces
        split <;> exact hplace.update_scroll (fun _ => rfl)
      exact hbounces.tail (.write rfl id)

/-- Moving to a superview consists of moves, whatever the kind of the view. -/
theorem reaches_will_move_to_superview (newSuperview : Option UIScrollView)
    (hadopts : ∀ scrollView ∈ newSuperview, adopts scrollView) :
    Reaches allows adopts s (MJRefreshView.willMoveToSuperview newSuperview s) := by
  have hcomponent : Reaches allows adopts s
      (MJRefreshView.componentWillMoveToSuperview newSuperview s) :=
    reaches_component_will_move_to_superview newSuperview hadopts
  unfold MJRefreshView.willMoveToSuperview
  dsimp only
  split
  · split
    · exact reaches_config_view_y hcomponent
    · cases newSuperview with
      | none =>
          dsimp only
          split
          · exact hcomponent
          · exact hcomponent.set_scroll_asix_origin_inset_bottom _
      | some scrollView =>
          dsimp only
          apply reaches_config_view_y
          split
          · exact hcomponent
          · exact hcomponent.set_scroll_asix_origin_inset_bottom _
  · exact hcomponent

/-- Hiding a view may make it idle, and showing it changes no state. -/
theorem reaches_set_hidden (hnotify : Scrolls notify) (hidden : Bool) :
    Reaches (fun _ state => hidden = true ∧ state = .idle) (fun _ => False) s
      (MJRefreshView.setHidden notify hidden s) := by
  unfold MJRefreshView.setHidden
  dsimp only
  split
  next h =>
    obtain rfl : hidden = true := (Bool.and_eq_true_iff.mp h).2
    refine Reaches.update_scroll ?_ (fun _ => rfl)
    refine Reaches.trans ?_ (reaches_set_state (fun _ => ⟨rfl, rfl⟩) ?_)
    · exact .write rfl id
    · intro old new s' _ hhidden
      rw [hnotify.hidden old new s' hhidden]
      exact .refl
  · split
    · refine Reaches.place (Reaches.update_scroll ?_ ?_) ?_
      · exact .write rfl id
      · exact fun _ => rfl
      · exact fun _ => ⟨_, rfl⟩
    · exact .write rfl id

/-- The block that enlarges the top inset makes the moves of scrolling. -/
theorem reaches_header_refreshing_block (hnotify : Scrolls notify) :
    Reaches ScrollAllows (fun _ => False) s (MJRefreshView.headerRefreshingBlock notify s) := by
  have hnested : ∀ state hidden, Nested notify ScrollAllows (fun _ => False) state hidden :=
    fun _ _ old new s' _ _ => hnotify.reaches old new s'
  unfold MJRefreshView.headerRefreshingBlock
  dsimp only
  split
  · refine Reaches.animate ?_ _
    have hinset : Reaches ScrollAllows (fun _ => False) s (s.setScrollAsixOriginInsetTop
        (s.view.scrollAsixOriginInsetTop + s.view.asxiHeight)) :=
      Reaches.refl.set_scroll_asix_inset_top _
    unfold Sys.setScrollAsixOffsetY
    split <;> exact hinset.set_content_offset (hnested _ _) _
  · exact Reaches.refl.animate _

/-- The end of an animation of the bounds makes the moves of scrolling. -/
theorem reaches_animation_did_stop (hnotify : Scrolls notify) (key : AnimationKey) :
    Reaches ScrollAllows (fun _ => False) s (MJRefreshView.animationDidStop notify key s) := by
  have hnested : ∀ state hidden, Nested notify ScrollAllows (fun _ => False) state hidden :=
    fun _ _ old new s' _ _ => hnotify.reaches old new s'
  unfold MJRefreshView.animationDidStop
  cases key with
  | refreshing2IdleBounds => exact ((Move.percent _ _).reaches.tail (.release _)).fire (by simp)
  | refreshingBounds =>
      dsimp only
      refine Reaches.tail (Reaches.tail ?_ (.release _)) (.dispatch _ _ (by simp))
      split
      · refine Reaches.set_content_offset (Reaches.update_scroll .refl ?_) (hnested _ _) _
        exact fun _ => rfl
      · exact .refl

end Methods

/-- Notifications nested to any depth lead to the changes that scrolling allows. -/
theorem scrolls_notify_within (depth : Nat) :
    Scrolls (MJRefreshView.refreshClass.notifyWithin depth : Notify ρ) := by
  induction depth with
  | zero => exact ⟨fun _ _ _ => .refl, fun _ _ _ _ => rfl⟩
  | succ depth ih =>
      constructor
      · intro old new s
        unfold RefreshClass.notifyWithin RefreshClass.observeContentOffset
        split
        · exact reaches_content_offset_did_change ih old new
        · exact .refl
      · intro old new s hhidden
        unfold RefreshClass.notifyWithin RefreshClass.observeContentOffset
        exact if_neg (by simp [hhidden])

/-! ## Events -/

/-- What the arrival of an event does to what is pending: the block or the completion that is
going to run is taken out, and `endRefreshing` adds its block. -/
def Sys.arrive (s : Sys ρ) : Event → Sys ρ
  | .mainQueue => { s with mainQueue := s.mainQueue.tail }
  | .completion index => { s with completions := s.completions.eraseIdx index }
  | .endRefreshing => s.dispatchAsync .endRefreshing
  | _ => s

section Events

variable {notify : Notify ρ} {s : Sys ρ}

/-- A block on the main queue makes the moves of scrolling, apart from the one that ends a
refresh. -/
theorem reaches_run_block (hnotify : Scrolls notify) (block : Block)
    {allows : Sys ρ → MJRefreshState → Prop} {adopts : UIScrollView → Prop}
    (hscroll : ∀ s state, ScrollAllows s state → allows s state)
    (hend : block = .endRefreshing → ∀ s, allows s .idle) :
    Reaches allows adopts s (MJRefreshView.refreshClass.runBlock notify block s) := by
  have hmono : ∀ s s' : Sys ρ, Reaches ScrollAllows (fun _ => False) s s' →
      Reaches allows adopts s s' := fun _ _ h => h.mono hscroll (fun _ => False.elim)
  cases block with
  | endRefreshing =>
      refine reaches_set_state (fun _ => hend rfl s) ?_
      intro old new s' _ _
      exact hmono _ _ (hnotify.reaches old new s')
  | refreshingCallback => exact Reaches.refl.fire (by simp)
  | headerRefreshing => exact hmono _ _ (reaches_header_refreshing_block hnotify)

/-- The completion of an animation makes the moves of scrolling. -/
theorem reaches_run_completion (hnotify : Scrolls notify) (completion : Completion) :
    Reaches ScrollAllows (fun _ => False) s
      (MJRefreshView.refreshClass.runCompletion notify completion s) := by
  cases completion with
  | executeRefreshingCallback => exact (Move.dispatch _ _ (by simp)).reaches
  | endRefreshing => exact (Move.percent _ _).reaches.fire (by simp)
  | endRefreshingPaging => exact Reaches.refl.fire (by simp)
  | animationDidStop key => exact reaches_animation_did_stop hnotify key

/-- Every event is handled by moves that it allows. -/
theorem reaches_handle (hnotify : Scrolls notify) (event : Event) :
    Reaches (s.Allows event) event.Adopts (s.arrive event)
      (MJRefreshView.refreshClass.handle notify s event) := by
  have hnone : ∀ scrollView : UIScrollView, False → event.Adopts scrollView :=
    fun _ => False.elim
  cases event with
  | attach scrollView =>
      apply reaches_will_move_to_superview
      rintro _ ⟨rfl⟩
      rfl
  | detach => exact reaches_will_move_to_superview none (fun _ h => by cases h)
  | contentOffset offset isDragging =>
      refine Reaches.trans ?_ ((hnotify.reaches _ _ _).mono (fun _ _ => id) hnone)
      exact .write rfl id
  | contentSize size =>
      simp only [RefreshClass.handle, RefreshClass.observeContentSize]
      split
      · apply reaches_config_view_y
        exact .write rfl id
      · exact .write rfl id
  | panState panState =>
      simp only [RefreshClass.handle, RefreshClass.observePanState]
      split
      · refine Reaches.trans ?_
          ((reaches_pan_state_did_change hnotify).mono (fun _ _ => id) hnone)
        exact .write rfl id
      · exact .write rfl id
  | reloadData numberOfRows => exact .write rfl id
  | window inWindow => exact .write rfl id
  | beginRefreshing =>
      refine reaches_begin_refreshing ?_ hnotify
      intro s' halpha _ hstate state hnew _ hrefreshing
      exact ⟨halpha, hstate ▸ hrefreshing, hnew⟩
  | endRefreshing => exact .refl
  | setState state =>
      refine reaches_set_state (fun _ => .inl rfl) ?_
      intro old new s' _ _
      exact (hnotify.reaches old new s').mono (fun _ _ => .inr) hnone
  | setHidden hidden => exact (reaches_set_hidden hnotify hidden).mono (fun _ _ => id) hnone
  | drawRect =>
      simp only [RefreshClass.handle, MJRefreshComponent.drawRect]
      split
      next hstate =>
        refine reaches_set_state (fun _ => ⟨hstate, rfl⟩) ?_
        intro old new s' hs' _
        exact (hnotify.of_busy old new (by simp [hs']) (by simp [hs'])).mono
          (fun _ _ => False.elim) hnone
      · exact .refl
  | layoutSubviews =>
      show Reaches _ _ s (MJRefreshView.placeSubviews s)
      unfold MJRefreshView.placeSubviews
      split
      · exact .refl
      · refine Reaches.refl.place (fun view => ?_)
        unfold RefreshView.setAsxiY
        split <;> exact ⟨_, rfl⟩
  | mainQueue =>
      cases hqueue : s.mainQueue with
      | nil =>
          rw [RefreshClass.handle_main_queue_nil _ _ hqueue]
          exact .write (by simp [Sys.arrive, Sys.conduct, hqueue]) id
      | cons block blocks =>
          rw [RefreshClass.handle_main_queue_cons _ _ hqueue]
          have harrive : s.arrive .mainQueue = { s with mainQueue := blocks } := by
            simp [Sys.arrive, hqueue]
          rw [harrive]
          refine reaches_run_block hnotify block (fun _ _ => .inr) ?_
          rintro rfl s'
          exact .inl ⟨by simp [hqueue], rfl⟩
  | completion index =>
      cases hindex : s.completions[index]? with
      | none =>
          rw [RefreshClass.handle_completion_none _ _ hindex]
          have hlong : s.completions.length ≤ index := List.getElem?_eq_none_iff.mp hindex
          exact .write (by simp [Sys.arrive, Sys.conduct, List.eraseIdx_of_length_le hlong]) id
      | some completion =>
          rw [RefreshClass.handle_completion_some _ _ hindex]
          exact (reaches_run_completion hnotify completion).mono (fun _ _ => id) hnone

end Events

end Component.Refresh

import Component.Lib.Run
import Component.Refresh.View

/-!
# No refresh callback is lost or duplicated

`Sys.owed` balances the entries into and the exits from the refreshing state against the callbacks
that have been fired or are still on their way, as a block on the main queue or the completion of
an animation. No handler changes the balance, whatever notifications are nested in it
(`owed_handle`). When nothing is pending, the callbacks fired are therefore the entries and exits
so far (`callbacks_fired_once`).
-/

namespace Component.Refresh

open Component.Lib.Run

variable {ρ : Type}

/-! ## The balance -/

/-- The refreshing and the end callbacks that a block will lead to. -/
def Block.due : Block → ℤ × ℤ
  | .endRefreshing => (0, 0)
  | .refreshingCallback => (1, 0)
  | .headerRefreshing => (1, 0)

/-- The refreshing and the end callbacks that a completion will lead to. -/
def Completion.due : Completion → ℤ × ℤ
  | .executeRefreshingCallback => (1, 0)
  | .endRefreshing => (0, 1)
  | .endRefreshingPaging => (0, 1)
  | .animationDidStop .refreshingBounds => (1, 0)
  | .animationDidStop .refreshing2IdleBounds => (0, 1)

/-- Whether a callback that has been fired is a refreshing or an end callback. -/
def Callback.due : Callback → ℤ × ℤ
  | .refreshing => (1, 0)
  | .endRefreshingAnimationBegin => (0, 0)
  | .endRefreshingCompletion => (0, 1)

/-- The callbacks owed for a change of the state: one for entering the refreshing state and one
for leaving it. -/
def transitionDue (transition : MJRefreshState × MJRefreshState) : ℤ × ℤ :=
  (if transition.2 = .refreshing then 1 else 0, if transition.1 = .refreshing then 1 else 0)

/-- The callbacks owed for the changes of the state so far that are neither fired nor pending. -/
def Sys.owed (s : Sys ρ) : ℤ × ℤ :=
  (s.transitions.map transitionDue).sum - (s.mainQueue.map Block.due).sum -
    (s.completions.map Completion.due).sum - (s.fired.map Callback.due).sum

/-- A block on the main queue pays the callback that it is for. -/
@[simp] theorem owed_dispatch_async (block : Block) (s : Sys ρ) :
    (s.dispatchAsync block).owed = s.owed - block.due := by
  simp only [Sys.owed, Sys.dispatchAsync, List.map_append, List.sum_append, List.map_cons,
    List.map_nil, List.sum_cons, List.sum_nil]
  abel

/-- A pending completion pays the callback that it is for. -/
@[simp] theorem owed_animate (completion : Completion) (s : Sys ρ) :
    (s.animate completion).owed = s.owed - completion.due := by
  simp only [Sys.owed, Sys.animate, List.map_append, List.sum_append, List.map_cons,
    List.map_nil, List.sum_cons, List.sum_nil]
  abel

/-- A callback that fires pays for itself. -/
@[simp] theorem owed_fire (callback : Callback) (s : Sys ρ) :
    (s.fire callback).owed = s.owed - callback.due := by
  simp only [Sys.owed, Sys.fire, List.map_append, List.sum_append, List.map_cons,
    List.map_nil, List.sum_cons, List.sum_nil]
  abel

/-- A change of the state owes the callbacks that belong to it. -/
@[simp] theorem owed_component_set_state (state : MJRefreshState) (s : Sys ρ) :
    (MJRefreshComponent.setState state s).owed = s.owed + transitionDue (s.view.state, state) := by
  simp only [Sys.owed, MJRefreshComponent.setState, List.map_append, List.sum_append,
    List.map_cons, List.map_nil, List.sum_cons, List.sum_nil]
  abel

/-- Remembering the insets owes nothing. -/
@[simp] theorem owed_remember_inset (s : Sys ρ) :
    (MJRefreshComponent.rememberInset s).owed = s.owed := rfl

/-- A change of the scroll view owes nothing. -/
@[simp] theorem owed_update_scroll (f : UIScrollView → UIScrollView) (s : Sys ρ) :
    (s.updateScroll f).owed = s.owed := by
  unfold Sys.updateScroll
  split <;> rfl

/-- A change of the view that is no change of its state owes nothing. -/
@[simp] theorem owed_map_view (f : RefreshView → RefreshView) (s : Sys ρ) :
    (s.mapView f).owed = s.owed := rfl

/-- Setting the pulling percent owes nothing. -/
@[simp] theorem owed_set_pulling_percent (percent : CGFloat) (s : Sys ρ) :
    (MJRefreshComponent.setPullingPercent percent s).owed = s.owed := rfl

/-- Fading out owes nothing. -/
@[simp] theorem owed_fade_out (s : Sys ρ) : (MJRefreshComponent.fadeOut s).owed = s.owed := rfl

/-- Setting the top inset owes nothing. -/
@[simp] theorem owed_set_scroll_asix_inset_top (value : CGFloat) (s : Sys ρ) :
    (s.setScrollAsixInsetTop value).owed = s.owed := by
  unfold Sys.setScrollAsixInsetTop
  split <;> simp

/-- Setting the top inset through `setScroll_asix_origin_Inset_top:` owes nothing. -/
@[simp] theorem owed_set_scroll_asix_origin_inset_top (value : CGFloat) (s : Sys ρ) :
    (s.setScrollAsixOriginInsetTop value).owed = s.owed := by
  unfold Sys.setScrollAsixOriginInsetTop
  split <;> simp

/-- Setting the bottom inset through `setScroll_asix_origin_Inset_bottom:` owes nothing. -/
@[simp] theorem owed_set_scroll_asix_origin_inset_bottom (value : CGFloat) (s : Sys ρ) :
    (s.setScrollAsixOriginInsetBottom value).owed = s.owed := by
  unfold Sys.setScrollAsixOriginInsetBottom
  split <;> simp

/-- The block at the head of the main queue is taken off. -/
theorem owed_dequeue {s : Sys ρ} {block : Block} {blocks : List Block}
    (h : s.mainQueue = block :: blocks) :
    ({ s with mainQueue := blocks } : Sys ρ).owed = s.owed + block.due := by
  simp only [Sys.owed, h, List.map_cons, List.sum_cons]
  abel

/-- A completion is taken out of those that are pending. -/
theorem owed_take_completion {s : Sys ρ} {index : Nat} {completion : Completion}
    (h : s.completions[index]? = some completion) :
    ({ s with completions := s.completions.eraseIdx index } : Sys ρ).owed =
      s.owed + completion.due := by
  obtain ⟨hindex, hget⟩ := List.getElem?_eq_some_iff.mp h
  have hperm := ((List.getElem_cons_eraseIdx_perm hindex).map Completion.due).sum_eq
  rw [hget, List.map_cons, List.sum_cons] at hperm
  simp only [Sys.owed, ← hperm]
  abel

/-! ## Setting the offset and the state -/

/-- Delivering a notification leaves the balance as it is. -/
def KeepsOwed (notify : Notify ρ) : Prop := ∀ old new s, (notify old new s).owed = s.owed

section Handlers

variable {notify : Notify ρ} (hnotify : KeepsOwed notify)

include hnotify

/-- Setting the content offset owes nothing if notifications owe nothing. -/
theorem owed_set_content_offset (offset : CGPoint) (s : Sys ρ) :
    (s.setContentOffset notify offset).owed = s.owed := by
  unfold Sys.setContentOffset
  split
  · exact hnotify _ _ _
  · rfl

/-- Setting the offset along the direction of the view owes nothing if notifications owe nothing. -/
theorem owed_set_scroll_asix_offset_y (value : CGFloat) (s : Sys ρ) :
    (s.setScrollAsixOffsetY notify value).owed = s.owed := by
  unfold Sys.setScrollAsixOffsetY
  split <;> exact owed_set_content_offset hnotify _ _

omit hnotify in
/-- The end of a refresh of a footer that is pulled pays one end callback. -/
theorem owed_back_footer_ending_action (s : Sys ρ) :
    (MJRefreshView.backFooterEndingAction s).owed = s.owed - (0, 1) := by
  simp [MJRefreshView.backFooterEndingAction, Completion.due, Callback.due]

/-- The start of a refresh of a footer that is pulled pays one refreshing callback. -/
theorem owed_back_footer_refreshing_action (s : Sys ρ) :
    (MJRefreshView.backFooterRefreshingAction notify s).owed = s.owed - (1, 0) := by
  simp only [MJRefreshView.backFooterRefreshingAction, MJRefreshView.backFooterEnlarge,
    owed_animate, owed_set_content_offset hnotify, owed_update_scroll, owed_map_view,
    Completion.due]

/-- A footer that is pulled pays for a change of its state. -/
theorem owed_back_footer_state_did_change {oldState state : MJRefreshState}
    (hleave : oldState = .refreshing → state = .noMoreData ∨ state = .idle) (s : Sys ρ) :
    (MJRefreshView.backFooterStateDidChange notify oldState state s).owed =
      s.owed - transitionDue (oldState, state) := by
  unfold MJRefreshView.backFooterStateDidChange
  by_cases hend : state = .noMoreData ∨ state = .idle
  · have henter : state ≠ .refreshing := by
      rcases hend with h | h <;> simp [h]
    simp only [hend, if_true]
    by_cases hold : oldState = .refreshing
    · simp only [hold, if_true, true_and]
      split <;>
        simp [owed_set_content_offset hnotify, owed_back_footer_ending_action, transitionDue,
          henter]
    · simp [hold, transitionDue, henter, Prod.mk_zero_zero]
  · have hold : oldState ≠ .refreshing := fun h => hend (hleave h)
    simp only [hend, if_false]
    by_cases henter : state = .refreshing
    · simp [henter, owed_back_footer_refreshing_action hnotify, transitionDue, hold]
    · simp [henter, hold, transitionDue, Prod.mk_zero_zero]

/-- A footer that refreshes by itself pays for a change of its state. -/
theorem owed_auto_footer_state_did_change {oldState state : MJRefreshState}
    (hleave : oldState = .refreshing → state = .noMoreData ∨ state = .idle) (s : Sys ρ) :
    (MJRefreshView.autoFooterStateDidChange notify oldState state s).owed =
      s.owed - transitionDue (oldState, state) := by
  have htrigger : (MJRefreshView.endTrigger s).owed = s.owed := by
    unfold MJRefreshView.endTrigger
    split <;> rfl
  unfold MJRefreshView.autoFooterStateDidChange
  by_cases henter : state = .refreshing
  · -- a refresh does not start from a refresh, so one refreshing callback is due
    have hold : oldState ≠ .refreshing := by
      intro h
      rcases hleave h with h | h <;> simp [h] at henter
    simp [henter, hold, transitionDue, MJRefreshComponent.executeRefreshingCallback, Block.due]
  · simp only [henter, if_false]
    by_cases hend : state = .noMoreData ∨ state = .idle
    · simp only [hend, if_true]
      by_cases hold : oldState = .refreshing
      · simp only [hold, if_true]
        split <;>
          simp [owed_set_content_offset hnotify, htrigger, transitionDue, henter, Completion.due,
            Callback.due]
      · simp [hold, htrigger, transitionDue, henter, Prod.mk_zero_zero]
    · have hold : oldState ≠ .refreshing := fun h => hend (hleave h)
      simp [hend, hold, transitionDue, henter, Prod.mk_zero_zero]

omit hnotify in
/-- A header pays for a change of its state. -/
theorem owed_header_state_did_change {oldState state : MJRefreshState}
    (hleave : oldState = .refreshing → state = .idle) (s : Sys ρ) :
    (MJRefreshView.headerStateDidChange oldState state s).owed =
      s.owed - transitionDue (oldState, state) := by
  unfold MJRefreshView.headerStateDidChange
  by_cases hend : state = .idle
  · have henter : state ≠ .refreshing := by simp [hend]
    simp only [hend, if_true]
    by_cases hold : oldState = .refreshing
    · simp only [hold, ne_eq, not_true_eq_false, if_false, MJRefreshView.headerEndingAction]
      split <;> simp [transitionDue, Completion.due, Callback.due]
    · simp [hold, transitionDue, Prod.mk_zero_zero]
  · have hold : oldState ≠ .refreshing := fun h => hend (hleave h)
    simp only [hend, if_false]
    by_cases henter : state = .refreshing
    · simp only [henter, if_true, MJRefreshView.headerRefreshingAction]
      split
      · split <;>
          simp [transitionDue, hold, Completion.due, Block.due,
            MJRefreshComponent.executeRefreshingCallback]
      · simp [transitionDue, hold, Block.due]
    · simp [henter, hold, transitionDue, Prod.mk_zero_zero]

/-- The changes of the state that leave a refresh: every one to idle, and for a footer the one to
the state without more data. -/
def LeavesRefreshing (state : MJRefreshState) (s : Sys ρ) : Prop :=
  s.view.state = .refreshing →
    state = .refreshing ∨ state = .idle ∨ state = .noMoreData ∧ s.view.refreshMore = true

/-- Setting the state pays what the change of the state owes. -/
theorem owed_set_state {state : MJRefreshState} {s : Sys ρ} (hleave : LeavesRefreshing state s) :
    (MJRefreshView.setState notify state s).owed = s.owed := by
  unfold MJRefreshView.setState
  by_cases hsame : state = s.view.state
  · simp [hsame]
  · have hother : s.view.state = .refreshing →
        state = .idle ∨ state = .noMoreData ∧ s.view.refreshMore = true := by
      intro h
      rcases hleave h with h' | h'
      · exact absurd (h'.trans h.symm) hsame
      · exact h'
    have hfooter : s.view.state = .refreshing → state = .noMoreData ∨ state = .idle :=
      fun h => (hother h).symm.imp_left And.left
    simp only [hsame, if_false]
    -- for each kind of view the handler pays what the entry in the log owes
    split
    · split
      · rw [owed_back_footer_state_did_change hnotify hfooter, owed_component_set_state]
        abel
      · rw [owed_auto_footer_state_did_change hnotify hfooter, owed_component_set_state]
        abel
    next hmore =>
      have hheader : s.view.state = .refreshing → state = .idle := by
        intro h
        rcases hother h with h' | h'
        · exact h'
        · exact absurd h'.2 hmore
      rw [owed_header_state_did_change hheader, owed_component_set_state]
      abel

/-! ## The handlers -/

/-- Beginning a refresh leaves nothing owed that was not owed before. -/
theorem owed_begin_refreshing (s : Sys ρ) :
    (MJRefreshView.beginRefreshing notify s).owed = s.owed := by
  unfold MJRefreshView.beginRefreshing MJRefreshComponent.beginRefreshing
  split
  · rfl
  · dsimp only
    split
    · exact owed_set_state hnotify (fun _ => .inl rfl)
    · split
      next hstate => exact owed_set_state hnotify (fun h => absurd h hstate)
      · rfl

/-- The end of the content offset handlers leaves what is owed. -/
theorem owed_pulling_did_change (pulled : Bool) (percent : CGFloat) (s : Sys ρ) :
    (MJRefreshView.pullingDidChange notify pulled percent s).owed = s.owed := by
  unfold MJRefreshView.pullingDidChange MJRefreshComponent.pullingDidChange
  split
  · dsimp only
    split
    next h =>
      refine owed_set_state hnotify (fun hstate => ?_)
      rw [h.1] at hstate
      cases hstate
    · split
      · exact owed_set_state hnotify (fun _ => .inr (.inl rfl))
      · rfl
  · split
    · exact owed_begin_refreshing hnotify s
    · split <;> rfl

omit hnotify in
/-- Adjusting the top inset during a refresh owes nothing. -/
theorem owed_reset_inset (s : Sys ρ) : (MJRefreshView.resetInset s).owed = s.owed := by
  unfold MJRefreshView.resetInset
  split
  · rfl
  · dsimp only
    split
    · rw [owed_set_scroll_asix_inset_top, owed_map_view]
    · exact owed_map_view _ s

/-- The content offset handlers leave what is owed. -/
theorem owed_content_offset_did_change (old new : CGPoint) (s : Sys ρ) :
    (MJRefreshView.scrollViewContentOffsetDidChange notify old new s).owed = s.owed := by
  unfold MJRefreshView.scrollViewContentOffsetDidChange
  split
  · split
    · unfold MJRefreshView.backFooterContentOffsetDidChange
      split
      · rfl
      · dsimp only
        split
        · exact owed_remember_inset s
        · split
          · rw [owed_set_pulling_percent, owed_remember_inset]
          · rw [owed_pulling_did_change hnotify, owed_remember_inset]
    · unfold MJRefreshView.autoFooterContentOffsetDidChange
      split
      · rfl
      · split
        · split
          · split
            · rfl
            · rw [owed_begin_refreshing hnotify, owed_map_view]
          · rfl
        · rfl
  · unfold MJRefreshView.headerContentOffsetDidChange
    split
    · exact owed_reset_inset s
    · dsimp only
      split
      · exact owed_remember_inset s
      · rw [owed_pulling_did_change hnotify, owed_remember_inset]

/-- The handler of the pan gesture leaves what is owed. -/
theorem owed_pan_state_did_change (s : Sys ρ) :
    (MJRefreshView.scrollViewPanStateDidChange notify s).owed = s.owed := by
  unfold MJRefreshView.scrollViewPanStateDidChange
  split
  · rfl
  · split
    · rfl
    · split
      · unfold MJRefreshView.autoFooterPanEnded
        split
        · rw [owed_begin_refreshing hnotify, owed_map_view]
        · rfl
      · exact owed_map_view _ s
      · rfl

omit hnotify in
/-- Placing a view along its direction owes nothing. -/
theorem owed_config_view_y (s : Sys ρ) : (MJRefreshView.configViewY s).owed = s.owed := by
  unfold MJRefreshView.configViewY
  split
  · exact owed_map_view _ s
  · rfl

omit hnotify in
/-- Setting the bounces owes nothing. -/
theorem owed_config_bouces (s : Sys ρ) : (MJRefreshView.configBouces s).owed = s.owed := by
  unfold MJRefreshView.configBouces
  split <;> exact owed_update_scroll _ s

omit hnotify in
/-- Moving to a superview owes nothing. -/
theorem owed_will_move_to_superview (newSuperview : Option UIScrollView) (s : Sys ρ) :
    (MJRefreshView.willMoveToSuperview newSuperview s).owed = s.owed := by
  have hcomponent :
      (MJRefreshView.componentWillMoveToSuperview newSuperview s).owed = s.owed := by
    cases newSuperview with
    | none => rfl
    | some scrollView =>
        simp only [MJRefreshView.componentWillMoveToSuperview]
        rw [owed_map_view, owed_config_bouces]
        rfl
  unfold MJRefreshView.willMoveToSuperview
  dsimp only
  split
  · split
    · rw [owed_config_view_y, hcomponent]
    · cases newSuperview with
      | none =>
          dsimp only
          split
          · exact hcomponent
          · rw [owed_set_scroll_asix_origin_inset_bottom, hcomponent]
      | some scrollView =>
          dsimp only
          rw [owed_config_view_y]
          split
          · exact hcomponent
          · rw [owed_set_scroll_asix_origin_inset_bottom, hcomponent]
  · exact hcomponent

/-- Hiding and showing leave what is owed. -/
theorem owed_set_hidden (hidden : Bool) (s : Sys ρ) :
    (MJRefreshView.setHidden notify hidden s).owed = s.owed := by
  unfold MJRefreshView.setHidden
  dsimp only
  split
  · rw [owed_update_scroll, owed_set_state hnotify (fun _ => .inr (.inl rfl)), owed_map_view]
  · split
    · rw [owed_map_view, owed_update_scroll, owed_map_view]
    · exact owed_map_view _ s

/-- A block that runs has left the queue and pays again what it is for. -/
theorem owed_run_block (block : Block) (s : Sys ρ) :
    (MJRefreshView.refreshClass.runBlock notify block s).owed = s.owed - block.due := by
  cases block with
  | endRefreshing =>
      show (MJRefreshView.setState notify .idle s).owed = _
      rw [owed_set_state hnotify (fun _ => .inr (.inl rfl)), Block.due, Prod.mk_zero_zero, sub_zero]
  | refreshingCallback => exact owed_fire _ _
  | headerRefreshing =>
      show (MJRefreshView.headerRefreshingBlock notify s).owed = _
      unfold MJRefreshView.headerRefreshingBlock
      dsimp only
      split
      · rw [owed_animate, owed_set_scroll_asix_offset_y hnotify,
          owed_set_scroll_asix_origin_inset_top]
        rfl
      · exact owed_animate _ _

/-- A completion that runs has left the list and pays again what it is for. -/
theorem owed_run_completion (completion : Completion) (s : Sys ρ) :
    (MJRefreshView.refreshClass.runCompletion notify completion s).owed =
      s.owed - completion.due := by
  cases completion with
  | executeRefreshingCallback => exact owed_dispatch_async _ _
  | endRefreshing => exact owed_fire _ _
  | endRefreshingPaging => exact owed_fire _ _
  | animationDidStop key =>
      show (MJRefreshView.animationDidStop notify key s).owed = _
      unfold MJRefreshView.animationDidStop
      cases key with
      | refreshingBounds =>
          dsimp only [MJRefreshComponent.executeRefreshingCallback]
          rw [owed_dispatch_async, owed_update_scroll]
          split
          · rw [owed_set_content_offset hnotify, owed_update_scroll]
            rfl
          · rfl
      | refreshing2IdleBounds =>
          dsimp only
          rw [owed_fire, owed_update_scroll, owed_set_pulling_percent]
          rfl

end Handlers

/-- Notifications nested to any depth keep the balance. -/
theorem keeps_owed_notify_within (depth : Nat) :
    KeepsOwed (MJRefreshView.refreshClass.notifyWithin depth : Notify ρ) := by
  induction depth with
  | zero =>
      intro old new s
      rfl
  | succ depth ih =>
      intro old new s
      unfold RefreshClass.notifyWithin RefreshClass.observeContentOffset
      split
      · exact owed_content_offset_did_change ih old new s
      · rfl

/-! ## Runs -/

/-- The events after which the callbacks are counted: the application sets the state only of a
footer, and only to the state without more data. -/
def UsesState (s : Sys ρ) : Event → Prop
  | .setState state => state = .noMoreData ∧ s.view.refreshMore = true
  | _ => True

/-- No event changes the balance. -/
theorem owed_handle {notify : Notify ρ} (hnotify : KeepsOwed notify) (s : Sys ρ) (event : Event)
    (huses : UsesState s event) :
    (MJRefreshView.refreshClass.handle notify s event).owed = s.owed := by
  cases event with
  | attach scrollView => exact owed_will_move_to_superview _ _
  | detach => exact owed_will_move_to_superview _ _
  | contentOffset offset isDragging => exact hnotify _ _ _
  | contentSize size =>
      simp only [RefreshClass.handle, RefreshClass.observeContentSize]
      split
      · exact owed_config_view_y _
      · rfl
  | panState panState =>
      simp only [RefreshClass.handle, RefreshClass.observePanState]
      split
      · exact owed_pan_state_did_change hnotify _
      · rfl
  | reloadData numberOfRows => rfl
  | window inWindow => rfl
  | beginRefreshing => exact owed_begin_refreshing hnotify s
  | endRefreshing =>
      show (s.dispatchAsync .endRefreshing).owed = s.owed
      rw [owed_dispatch_async, Block.due, Prod.mk_zero_zero, sub_zero]
  | setState state => exact owed_set_state hnotify (fun _ => .inr (.inr huses))
  | setHidden hidden => exact owed_set_hidden hnotify hidden s
  | drawRect =>
      simp only [RefreshClass.handle, MJRefreshComponent.drawRect]
      split
      · exact owed_set_state hnotify (fun _ => .inl rfl)
      · rfl
  | layoutSubviews =>
      show (MJRefreshView.placeSubviews s).owed = s.owed
      unfold MJRefreshView.placeSubviews
      split <;> rfl
  | mainQueue =>
      simp only [RefreshClass.handle]
      split
      · rfl
      next block blocks hqueue =>
        rw [owed_run_block hnotify, owed_dequeue hqueue, add_sub_cancel_right]
  | completion index =>
      simp only [RefreshClass.handle]
      split
      · rfl
      next completion hindex =>
        rw [owed_run_completion hnotify, owed_take_completion hindex, add_sub_cancel_right]

/-- The callbacks fired, as counts. -/
theorem sum_fired_due (fired : List Callback) :
    (fired.map Callback.due).sum =
      ((fired.count .refreshing : ℤ), (fired.count .endRefreshingCompletion : ℤ)) := by
  induction fired with
  | nil => rfl
  | cons callback fired ih =>
      rw [List.map_cons, List.sum_cons, ih]
      cases callback <;> simp [Callback.due, add_comm]

/-- The entries into and the exits from the refreshing state, as counts. -/
theorem sum_transition_due (transitions : List (MJRefreshState × MJRefreshState)) :
    (transitions.map transitionDue).sum =
      ((transitions.countP (fun transition => transition.2 = .refreshing) : ℤ),
       (transitions.countP (fun transition => transition.1 = .refreshing) : ℤ)) := by
  induction transitions with
  | nil => rfl
  | cons transition transitions ih =>
      rw [List.map_cons, List.sum_cons, ih, List.countP_cons, List.countP_cons]
      simp only [transitionDue, Prod.mk_add_mk, decide_eq_true_eq, Nat.cast_add, Nat.cast_ite,
        Nat.cast_one, Nat.cast_zero, add_comm]

/-- Whenever everything pending is drained, the refreshing callback has run once for every entry
into the refreshing state and the end callback once for every exit from it. -/
theorem callbacks_fired_once (depth : Nat) (view : RefreshView) (scrollView : UIScrollView)
    (events : List Event)
    (huses : Admissible (MJRefreshView.step depth) UsesState (Sys.start view scrollView ()) events)
    (hdrained : (run (MJRefreshView.step depth) (Sys.start view scrollView ()) events).Drained) :
    let s := run (MJRefreshView.step depth) (Sys.start view scrollView ()) events
    s.fired.count .refreshing =
        s.transitions.countP (fun transition => transition.2 = .refreshing) ∧
      s.fired.count .endRefreshingCompletion =
        s.transitions.countP (fun transition => transition.1 = .refreshing) := by
  intro s
  have howed : s.owed = 0 := by
    have hstep : ∀ state event, state.owed = 0 → UsesState state event →
        (MJRefreshView.step depth state event).owed = 0 := by
      intro state event hstate hevent
      exact (owed_handle (keeps_owed_notify_within depth) state event hevent).trans hstate
    exact run_invariant hstep rfl huses
  have hsum : (s.transitions.map transitionDue).sum = (s.fired.map Callback.due).sum := by
    have hqueue : s.mainQueue = [] := hdrained.1
    have hcompletions : s.completions = [] := hdrained.2
    simp only [Sys.owed, hqueue, hcompletions, List.map_nil, List.sum_nil, sub_zero] at howed
    exact sub_eq_zero.mp howed
  rw [sum_transition_due, sum_fired_due, Prod.mk.injEq] at hsum
  exact ⟨by exact_mod_cast hsum.1.symm, by exact_mod_cast hsum.2.symm⟩

/-- A header that refreshes once: everything is drained, and both callbacks have run once. -/
theorem callbacks_fired_once_header :
    let events : List Event := [.attach sampleScrollView, .window true, .beginRefreshing,
      .mainQueue, .completion 0, .mainQueue, .endRefreshing, .mainQueue, .completion 0]
    let start := Sys.start (MJRefreshView.refreshView false false false) sampleScrollView ()
    let s := run (MJRefreshView.step 2) start events
    s.fired.count .refreshing = 1 ∧
      s.fired.count .refreshing =
        s.transitions.countP (fun transition => transition.2 = .refreshing) ∧
      s.fired.count .endRefreshingCompletion =
        s.transitions.countP (fun transition => transition.1 = .refreshing) := by
  refine ⟨by decide +kernel, callbacks_fired_once 2 (MJRefreshView.refreshView false false false)
    sampleScrollView _ ?_ ?_⟩
  · exact ⟨trivial, trivial, trivial, trivial, trivial, trivial, trivial, trivial, trivial,
      trivial⟩
  · exact ⟨by decide +kernel, by decide +kernel⟩

end Component.Refresh

import Component.Refresh.View

/-!
# What an event does to the trigger of an auto footer

A footer that refreshes by itself counts the refreshes that a drag may still trigger in
`leftTriggerTimes`, and remembers in `triggerByDrag` that a drag is behind the current refresh. The
counter, the flag and the state are tested and changed in different handlers, which can be nested
when a handler moves the scroll view. `Trigger` is that part of the footer. `Nudged` is what a
notification about the content offset can do to it, and `ended_of_ends` and `changed_of_not_ends`
say, once and for all events, what a whole event can do.
-/

namespace Component.Refresh

/-- The part of a footer that decides about triggers, and the record of the changes of its state. -/
@[ext] structure Trigger where
  refreshMore : Bool
  refreshBack : Bool
  state : MJRefreshState
  triggerByDrag : Bool
  leftTriggerTimes : Int
  autoTriggerTimes : Int
  transitions : List (MJRefreshState × MJRefreshState)

variable {ρ : Type}

/-- The trigger of a footer. -/
def Sys.trigger (s : Sys ρ) : Trigger where
  refreshMore := s.view.refreshMore
  refreshBack := s.view.refreshBack
  state := s.view.state
  triggerByDrag := s.view.triggerByDrag
  leftTriggerTimes := s.view.leftTriggerTimes
  autoTriggerTimes := s.view.autoTriggerTimes
  transitions := s.transitions

namespace Trigger

/-- The footer refreshes by itself. -/
def IsAuto (t : Trigger) : Prop := t.refreshMore = true ∧ t.refreshBack = false

/-- A drag is behind what follows. -/
def flag (dragging : Bool) (t : Trigger) : Trigger :=
  { t with triggerByDrag := dragging || t.triggerByDrag }

/-- A change of the state. -/
def moveTo (state : MJRefreshState) (t : Trigger) : Trigger :=
  { t with state := state, transitions := t.transitions ++ [(t.state, state)] }

/-- `beginRefreshing` does not refuse. -/
def Permits (t : Trigger) : Prop :=
  ¬ (t.triggerByDrag = true ∧ t.leftTriggerTimes ≤ 0 ∧ t.leftTriggerTimes ≠ -1)

/-- A change of the state that uses up the drag behind it. -/
def finish (state : MJRefreshState) (t : Trigger) : Trigger :=
  { t.moveTo state with
    leftTriggerTimes :=
      if t.triggerByDrag then
        if t.leftTriggerTimes = -1 then t.leftTriggerTimes else t.leftTriggerTimes - 1
      else t.leftTriggerTimes
    triggerByDrag := false }

/-- The counter starts again. -/
def reset (t : Trigger) : Trigger := { t with leftTriggerTimes := t.autoTriggerTimes }

end Trigger

/-- A refresh begins: the state becomes refreshing, or will once the view is drawn. -/
def MJRefreshState.IsActive (state : MJRefreshState) : Prop :=
  state = .refreshing ∨ state = .willRefresh

/-- What a notification about the content offset can do to a trigger. Only an idle footer reacts:
the drag behind the notification is noted, and a refresh begins unless it is refused. -/
inductive Nudged (t : Trigger) : Trigger → Prop where
  | none : Nudged t t
  | flagged (dragging : Bool) : t.state = .idle → Nudged t (t.flag dragging)
  | started (dragging : Bool) {state : MJRefreshState} : t.state = .idle → state.IsActive →
      (t.flag dragging).Permits → Nudged t ((t.flag dragging).moveTo state)

/-- Notifications nudge the trigger. -/
def Nudges (notify : Notify ρ) : Prop :=
  ∀ old new s, s.trigger.IsAuto → Nudged s.trigger (notify old new s).trigger

/-! ## What leaves the trigger alone -/

/-- A change of the scroll view leaves the trigger. -/
@[simp] theorem trigger_update_scroll (f : UIScrollView → UIScrollView) (s : Sys ρ) :
    (s.updateScroll f).trigger = s.trigger := by
  unfold Sys.updateScroll
  split <;> rfl

/-- Setting the top inset leaves the trigger. -/
@[simp] theorem trigger_set_scroll_asix_origin_inset_top (value : CGFloat) (s : Sys ρ) :
    (s.setScrollAsixOriginInsetTop value).trigger = s.trigger := by
  unfold Sys.setScrollAsixOriginInsetTop
  split <;> exact trigger_update_scroll _ s

/-- Setting the bottom inset leaves the trigger. -/
@[simp] theorem trigger_set_scroll_asix_origin_inset_bottom (value : CGFloat) (s : Sys ρ) :
    (s.setScrollAsixOriginInsetBottom value).trigger = s.trigger := by
  unfold Sys.setScrollAsixOriginInsetBottom
  split <;> exact trigger_update_scroll _ s

/-- The trigger does not depend on the frame. -/
theorem trigger_map_view_frame {f : RefreshView → RefreshView} {s : Sys ρ} {frame : CGRect}
    (h : f s.view = { s.view with frame := frame }) : (s.mapView f).trigger = s.trigger := by
  rw [Sys.mapView, h]
  rfl

/-- Placing a view across its direction leaves the trigger. -/
@[simp] theorem trigger_set_asxi_x (value : CGFloat) (s : Sys ρ) :
    (s.mapView (RefreshView.setAsxiX value)).trigger = s.trigger := by
  by_cases h : s.view.horizontalDirection = true
  · exact trigger_map_view_frame (if_pos h)
  · exact trigger_map_view_frame (if_neg h)

/-- Placing a view along its direction leaves the trigger. -/
@[simp] theorem trigger_set_asxi_y (value : CGFloat) (s : Sys ρ) :
    (s.mapView (RefreshView.setAsxiY value)).trigger = s.trigger := by
  by_cases h : s.view.horizontalDirection = true
  · exact trigger_map_view_frame (if_pos h)
  · exact trigger_map_view_frame (if_neg h)

/-- Setting the width across the direction of a view leaves the trigger. -/
@[simp] theorem trigger_set_asxi_width (value : CGFloat) (s : Sys ρ) :
    (s.mapView (RefreshView.setAsxiWidth value)).trigger = s.trigger := by
  by_cases h : s.view.horizontalDirection = true
  · exact trigger_map_view_frame (if_pos h)
  · exact trigger_map_view_frame (if_neg h)

namespace MJRefreshView

/-- Placing a view at the end of the content leaves the trigger. -/
@[simp] theorem trigger_config_view_y (s : Sys ρ) : (configViewY s).trigger = s.trigger := by
  unfold configViewY
  dsimp only
  split
  · exact trigger_set_asxi_y _ s
  · rfl

/-- What every view does when it moves to a superview leaves the trigger. -/
theorem trigger_component_will_move (newSuperview : Option UIScrollView) (s : Sys ρ) :
    (componentWillMoveToSuperview newSuperview s).trigger = s.trigger := by
  unfold componentWillMoveToSuperview
  cases newSuperview with
  | none => rfl
  | some scrollView =>
      have hbounces : ∀ s : Sys ρ, (configBouces s).trigger = s.trigger := by
        intro s
        unfold configBouces
        split <;> exact trigger_update_scroll _ s
      have hplaced : (placeAcross (recordScrollView scrollView s)).trigger = s.trigger := by
        unfold placeAcross
        rw [trigger_set_asxi_x, trigger_set_asxi_width]
        rfl
      exact (hbounces _).trans hplaced

/-- Moving to a superview leaves the trigger. -/
theorem trigger_will_move_to_superview (newSuperview : Option UIScrollView) (s : Sys ρ) :
    (willMoveToSuperview newSuperview s).trigger = s.trigger := by
  unfold willMoveToSuperview
  rw [← trigger_component_will_move newSuperview s]
  generalize componentWillMoveToSuperview newSuperview s = moved
  dsimp only
  split
  · split
    · exact trigger_config_view_y moved
    · cases newSuperview with
      | none =>
          dsimp only
          split
          · rfl
          · exact trigger_set_scroll_asix_origin_inset_bottom _ moved
      | some scrollView =>
          dsimp only
          rw [trigger_config_view_y]
          split
          · rfl
          · exact trigger_set_scroll_asix_origin_inset_bottom _ moved
  · rfl

/-! ## Changes of the state -/

section Handlers

variable {notify : Notify ρ} {s : Sys ρ}

/-- A change to a state in which the footer is neither idle nor out of data. -/
theorem trigger_set_state_active (hauto : s.trigger.IsAuto) {state : MJRefreshState}
    (hidle : state ≠ .idle) (hdata : state ≠ .noMoreData) :
    (setState notify state s).trigger =
      if state = s.view.state then s.trigger else s.trigger.moveTo state := by
  split
  next hsame => rw [set_state_self notify hsame]
  next hnew =>
    rw [set_state_auto notify hauto.1 hauto.2 hnew, autoFooterStateDidChange]
    split
    · rfl
    · rw [if_neg (by simp [hidle, hdata])]
      rfl

/-- Beginning a refresh leaves the trigger, or it is permitted and the state becomes an active
one. -/
theorem trigger_begin_refreshing (notify : Notify ρ) (hauto : s.trigger.IsAuto) :
    (beginRefreshing notify s).trigger = s.trigger ∨
      s.trigger.Permits ∧ ∃ state, state.IsActive ∧ state ≠ s.view.state ∧
        (beginRefreshing notify s).trigger = s.trigger.moveTo state := by
  have hactive : ∀ {t : Sys ρ} {state : MJRefreshState}, t.trigger = s.trigger → state.IsActive →
      (setState notify state t).trigger = s.trigger ∨ state ≠ s.view.state ∧
        (setState notify state t).trigger = s.trigger.moveTo state := by
    intro t state ht hstate
    have hview : t.view.state = s.view.state := congrArg Trigger.state ht
    rw [trigger_set_state_active (ht ▸ hauto) (by rcases hstate with h | h <;> simp [h])
      (by rcases hstate with h | h <;> simp [h]), ht, hview]
    split
    next hsame => exact .inl rfl
    next hnew => exact .inr ⟨hnew, rfl⟩
  by_cases hpermits : s.trigger.Permits
  · rw [begin_refreshing_of_permitted notify hpermits]
    unfold MJRefreshComponent.beginRefreshing
    generalize hready : MJRefreshComponent.setPullingPercent 1
      (s.mapView fun view => { view with alpha := 1 }) = ready
    have hsame : ready.trigger = s.trigger := by
      rw [← hready]
      rfl
    dsimp only
    split
    · exact (hactive hsame (.inl rfl)).imp_right fun h => ⟨hpermits, _, .inl rfl, h⟩
    · split
      · exact (hactive hsame (.inr rfl)).imp_right fun h => ⟨hpermits, _, .inr rfl, h⟩
      · exact .inl hsame
  · rw [begin_refreshing_of_refused notify (not_not.mp hpermits)]
    exact .inl rfl

/-- An idle footer that is told about a drag and then begins to refresh. -/
theorem nudged_begin_refreshing {t : Sys ρ} (hauto : s.trigger.IsAuto)
    (hidle : s.view.state = .idle) (dragging : Bool) (ht : t.trigger = s.trigger.flag dragging) :
    Nudged s.trigger (beginRefreshing notify t).trigger := by
  have htAuto : t.trigger.IsAuto := by
    rw [ht]
    exact hauto
  rcases trigger_begin_refreshing notify htAuto with h | ⟨hpermits, state, hstate, _, h⟩
  · rw [h, ht]
    exact .flagged dragging hidle
  · rw [h, ht]
    exact .started dragging hidle hstate (ht ▸ hpermits)

/-- Setting the content offset does to the trigger what a notification does. -/
theorem nudged_set_content_offset (hnotify : Nudges notify) (hauto : s.trigger.IsAuto)
    (offset : CGPoint) : Nudged s.trigger (s.setContentOffset notify offset).trigger := by
  unfold Sys.setContentOffset
  split
  · have hscrolled := hnotify s.scrollView.contentOffset offset
      (s.mapScroll fun sv => { sv with contentOffset := offset }) hauto
    exact hscrolled
  · exact .none

/-- The end of a refresh uses up the drag behind it. -/
theorem trigger_end_trigger (state : MJRefreshState) (s : Sys ρ) :
    (endTrigger (MJRefreshComponent.setState state s)).trigger = s.trigger.finish state := by
  unfold endTrigger
  cases hdrag : s.view.triggerByDrag with
  | false =>
      rw [if_neg (by simp [hdrag])]
      simp [Sys.trigger, Trigger.finish, Trigger.moveTo, hdrag]
  | true =>
      rw [if_pos (by simp [hdrag])]
      simp [Sys.trigger, Trigger.finish, Trigger.moveTo, hdrag, unlimitedTrigger]

/-- A change to idle or to no more data uses up the drag. The paging that may follow notifies the
footer, which is idle by then. -/
theorem nudged_set_state_finish (hnotify : Nudges notify) (hauto : s.trigger.IsAuto)
    {state : MJRefreshState} (hfinish : state = .idle ∨ state = .noMoreData)
    (hnew : state ≠ s.view.state) :
    Nudged (s.trigger.finish state) (setState notify state s).trigger := by
  rw [set_state_auto notify hauto.1 hauto.2 hnew, autoFooterStateDidChange,
    if_neg (by rcases hfinish with h | h <;> simp [h]), if_pos hfinish.symm]
  have hended := trigger_end_trigger state s
  generalize endTrigger (MJRefreshComponent.setState state s) = ended at hended ⊢
  rw [← hended]
  dsimp only
  split
  · split
    · have hendedAuto : ended.trigger.IsAuto := by
        rw [hended]
        exact hauto
      exact nudged_set_content_offset hnotify hendedAuto _
    · exact .none
  · exact .none

/-- What a header does at the end of its animations moves the scroll view at most. -/
theorem nudged_header_refreshing_block (hnotify : Nudges notify) (hauto : s.trigger.IsAuto) :
    Nudged s.trigger (headerRefreshingBlock notify s).trigger := by
  unfold headerRefreshingBlock
  dsimp only
  split
  · generalize hinset : s.setScrollAsixOriginInsetTop
      (s.view.scrollAsixOriginInsetTop + s.view.asxiHeight) = inset
    have hsame : inset.trigger = s.trigger := by
      rw [← hinset, trigger_set_scroll_asix_origin_inset_top]
    rw [← hsame] at hauto ⊢
    show Nudged inset.trigger (Sys.setScrollAsixOffsetY notify _ inset).trigger
    unfold Sys.setScrollAsixOffsetY
    split <;> exact nudged_set_content_offset hnotify hauto _
  · exact .none

/-- The end of an animation of the bounds does to the trigger what a notification does. -/
theorem nudged_animation_did_stop (hnotify : Nudges notify) (hauto : s.trigger.IsAuto)
    (key : AnimationKey) : Nudged s.trigger (animationDidStop notify key s).trigger := by
  cases key with
  | refreshing2IdleBounds =>
      have hsame : (animationDidStop notify .refreshing2IdleBounds s).trigger = s.trigger := by
        show (Sys.updateScroll _ (MJRefreshComponent.setPullingPercent 0 s)).trigger = s.trigger
        rw [trigger_update_scroll]
        rfl
      rw [hsame]
      exact .none
  | refreshingBounds =>
      show Nudged s.trigger (Sys.updateScroll _ _).trigger
      rw [trigger_update_scroll]
      dsimp only
      split
      · generalize hinset : s.updateScroll (UIScrollView.setMjInsetT
          (s.view.scrollViewOriginalInset.top + s.view.frame.height)) = inset
        have hsame : inset.trigger = s.trigger := by
          rw [← hinset, trigger_update_scroll]
        rw [← hsame] at hauto ⊢
        exact nudged_set_content_offset hnotify hauto _
      · exact .none

/-! ## Notifications -/

/-- The content offset handler does to the trigger what a notification does. -/
theorem nudged_content_offset_did_change (hauto : s.trigger.IsAuto) (old new : CGPoint) :
    Nudged s.trigger (scrollViewContentOffsetDidChange notify old new s).trigger := by
  have hmore : s.view.refreshMore = true := hauto.1
  have hback : s.view.refreshBack = false := hauto.2
  rw [scrollViewContentOffsetDidChange, if_pos hmore, if_neg (by simp [hback]),
    autoFooterContentOffsetDidChange]
  split
  · exact .none
  next hidle =>
    split
    · split
      · split
        · exact .none
        · exact nudged_begin_refreshing hauto (by_contra fun h => hidle (.inl h)) s.sv.isDragging
            rfl
      · exact .none
    · exact .none

end Handlers

/-- However deep handlers are nested, a notification only nudges the trigger. -/
theorem notify_within_nudges (depth : Nat) :
    Nudges (refreshClass.notifyWithin depth : Notify ρ) := by
  cases depth with
  | zero => exact fun _ _ _ _ => .none
  | succ depth =>
      intro old new s hauto
      show Nudged s.trigger (RefreshClass.observeContentOffset _ _ old new s).trigger
      unfold RefreshClass.observeContentOffset
      split
      · exact nudged_content_offset_did_change hauto old new
      · exact .none

/-! ## Events -/

/-- The event sets the state to idle or to no more data, and it was not in that state before. -/
def EndsTrigger (s : Sys ρ) : Event → Prop
  | .setState state => (state = .idle ∨ state = .noMoreData) ∧ state ≠ s.view.state
  | .setHidden hidden => hidden = true ∧ s.view.hidden = false ∧ s.view.state ≠ .idle
  | .mainQueue => s.mainQueue.head? = some .endRefreshing ∧ s.view.state ≠ .idle
  | _ => False

instance (s : Sys ρ) (event : Event) : Decidable (EndsTrigger s event) := by
  cases event <;> unfold EndsTrigger <;> infer_instance

/-- What an event can do to a trigger if it does not end a refresh. -/
inductive Changed (event : Event) (t : Trigger) : Trigger → Prop where
  | nudged {t' : Trigger} : Nudged t t' → Changed event t t'
  | moved {state : MJRefreshState} : t.state ≠ .idle ∨ event = .setState state →
      state ≠ .idle → state ≠ .noMoreData → Changed event t (t.moveTo state)
  | reset : event = .panState .began → t.state = .idle → Changed event t t.reset

/-- Leaving the trigger alone is allowed for every event. -/
theorem Changed.of_eq {event : Event} {t t' : Trigger} (h : t' = t) : Changed event t t' := by
  rw [h]
  exact .nudged .none

section Events

variable {notify : Notify ρ} {s : Sys ρ}

/-- An event that ends a refresh finishes the trigger, and a nested notification may nudge it. -/
theorem ended_of_ends (hnotify : Nudges notify) (hauto : s.trigger.IsAuto) {event : Event}
    (h : EndsTrigger s event) :
    ∃ state, (state = .idle ∨ state = .noMoreData) ∧ state ≠ s.view.state ∧
      Nudged (s.trigger.finish state) (refreshClass.handle notify s event).trigger := by
  cases event with
  | setState state =>
      exact ⟨state, h.1, h.2, nudged_set_state_finish hnotify hauto h.1 h.2⟩
  | setHidden hidden =>
      obtain ⟨rfl, hvisible, hstate⟩ := h
      refine ⟨.idle, .inl rfl, hstate.symm, ?_⟩
      have hfinished := nudged_set_state_finish (s := s.mapView fun view =>
        { view with hidden := true }) hnotify hauto (.inl rfl) hstate.symm
      show Nudged _ (setHidden notify true s).trigger
      simp only [setHidden, hvisible, Bool.not_false, Bool.and_self, if_true,
        trigger_update_scroll]
      exact hfinished
  | mainQueue =>
      obtain ⟨hhead, hstate⟩ := h
      refine ⟨.idle, .inl rfl, hstate.symm, ?_⟩
      obtain ⟨blocks, hqueue⟩ : ∃ blocks, s.mainQueue = .endRefreshing :: blocks := by
        cases hqueue : s.mainQueue with
        | nil => simp [hqueue] at hhead
        | cons block blocks =>
            rw [hqueue, List.head?_cons, Option.some.injEq] at hhead
            exact ⟨blocks, by rw [hhead]⟩
      rw [RefreshClass.handle_main_queue_cons _ _ hqueue]
      exact nudged_set_state_finish (s := { s with mainQueue := blocks }) hnotify hauto (.inl rfl)
        hstate.symm
  | _ => exact h.elim

/-- Beginning a refresh is allowed for every event. -/
theorem changed_begin_refreshing (hauto : s.trigger.IsAuto) (event : Event) :
    Changed event s.trigger (beginRefreshing notify s).trigger := by
  rcases trigger_begin_refreshing notify hauto with h | ⟨hpermits, state, hstate, _, h⟩
  · exact .of_eq h
  · rw [h]
    by_cases hidle : s.view.state = .idle
    · exact .nudged (.started false hidle hstate hpermits)
    · refine .moved (.inl hidle) ?_ ?_ <;> rcases hstate with rfl | rfl <;> decide

/-- Setting an active state is allowed if the application does it, or if the view is not idle. -/
theorem changed_set_state_active (hauto : s.trigger.IsAuto) {event : Event}
    {state : MJRefreshState} (hevent : s.view.state ≠ .idle ∨ event = .setState state)
    (hidle : state ≠ .idle) (hdata : state ≠ .noMoreData) :
    Changed event s.trigger (setState notify state s).trigger := by
  rw [trigger_set_state_active hauto hidle hdata]
  split
  · exact .of_eq rfl
  · exact .moved hevent hidle hdata

/-- What a change of the pan gesture does. -/
theorem changed_pan_state (hauto : s.trigger.IsAuto) (panState : PanState) :
    Changed (.panState panState) s.trigger
      (refreshClass.handle notify s (.panState panState)).trigger := by
  generalize hpanned : s.mapScroll (fun sv => { sv with panState := panState }) = panned
  have hsame : panned.trigger = s.trigger := by
    rw [← hpanned]
    rfl
  have hview : panned.view = s.view := by
    rw [← hpanned]
    rfl
  obtain ⟨hmore, hback⟩ : panned.view.refreshMore = true ∧ panned.view.refreshBack = false := by
    rw [hview]
    exact hauto
  have hhandle : refreshClass.handle notify s (.panState panState) =
      refreshClass.observePanState notify panned := by
    rw [← hpanned]
    rfl
  rw [hhandle, RefreshClass.observePanState]
  split
  · show Changed _ _ (scrollViewPanStateDidChange notify panned).trigger
    rw [scrollViewPanStateDidChange, if_neg (by simp [hmore, hback])]
    split
    · exact .of_eq hsame
    next hidle =>
      have hidle : panned.view.state = .idle := not_not.mp hidle
      split
      · -- lifting the finger
        rw [autoFooterPanEnded]
        split
        · exact .nudged (nudged_begin_refreshing hauto (hview ▸ hidle) true (hsame ▸ rfl))
        · exact .of_eq hsame
      next hbegan =>
        -- a footer without a scroll view does not see the gesture
        have hpan : panState = .began := by
          rw [← hpanned, Sys.sv] at hbegan
          split at hbegan
          · exact hbegan
          · cases hbegan
        have hreset : (resetTriggerTimes panned).trigger = s.trigger.reset := by
          rw [← hsame]
          rfl
        rw [hreset]
        exact .reset (by rw [hpan]) ((congrArg RefreshView.state hview).symm.trans hidle)
      · exact .of_eq hsame
  · exact .of_eq hsame

/-- Hiding or showing a view whose state is not changed by it. -/
theorem trigger_set_hidden {hidden : Bool} (h : ¬ EndsTrigger s (.setHidden hidden)) :
    (setHidden notify hidden s).trigger = s.trigger := by
  unfold setHidden
  dsimp only
  split
  next hhides =>
    simp only [Bool.and_eq_true, Bool.not_eq_true'] at hhides
    have hidle : MJRefreshState.idle = s.view.state := by
      by_contra hnew
      exact h ⟨hhides.2, hhides.1, Ne.symm hnew⟩
    have hsame : setState notify .idle (s.mapView fun view => { view with hidden := hidden }) =
        s.mapView fun view => { view with hidden := hidden } :=
      set_state_self notify hidle
    rw [trigger_update_scroll, hsame]
    rfl
  · split
    · show (Sys.updateScroll _ _).trigger = s.trigger
      rw [trigger_update_scroll]
      rfl
    · rfl

/-- What the next block of the main queue does if it does not end a refresh. -/
theorem changed_main_queue (hnotify : Nudges notify) (hauto : s.trigger.IsAuto)
    (h : ¬ EndsTrigger s .mainQueue) :
    Changed .mainQueue s.trigger (refreshClass.handle notify s .mainQueue).trigger := by
  cases hqueue : s.mainQueue with
  | nil =>
      rw [RefreshClass.handle_main_queue_nil _ _ hqueue]
      exact .of_eq rfl
  | cons block blocks =>
      rw [RefreshClass.handle_main_queue_cons _ _ hqueue]
      cases block with
      | endRefreshing =>
          have hidle : MJRefreshState.idle = s.view.state := by
            by_contra hnew
            exact h ⟨by rw [hqueue]; rfl, Ne.symm hnew⟩
          have hsame : setState notify .idle { s with mainQueue := blocks } =
              { s with mainQueue := blocks } :=
            set_state_self notify hidle
          have htrigger := congrArg Sys.trigger hsame
          exact .of_eq htrigger
      | refreshingCallback => exact .of_eq rfl
      | headerRefreshing =>
          -- the block moves the content offset, so the footer is notified
          exact .nudged (nudged_header_refreshing_block (s := { s with mainQueue := blocks })
            hnotify hauto)

/-- What the end of an animation does. -/
theorem changed_completion (hnotify : Nudges notify) (hauto : s.trigger.IsAuto) (index : Nat) :
    Changed (.completion index) s.trigger
      (refreshClass.handle notify s (.completion index)).trigger := by
  cases hcompletion : s.completions[index]? with
  | none =>
      rw [RefreshClass.handle_completion_none _ _ hcompletion]
      exact .of_eq rfl
  | some completion =>
      rw [RefreshClass.handle_completion_some _ _ hcompletion]
      cases completion with
      | executeRefreshingCallback => exact .of_eq rfl
      | endRefreshing => exact .of_eq rfl
      | endRefreshingPaging => exact .of_eq rfl
      | animationDidStop key =>
          exact .nudged (nudged_animation_did_stop
            (s := { s with completions := s.completions.eraseIdx index }) hnotify hauto key)

/-- The events that leave the trigger alone. -/
def SparesTrigger : Event → Prop
  | .attach _ | .detach | .contentSize _ | .reloadData _ | .window _ | .endRefreshing
  | .layoutSubviews => True
  | _ => False

/-- The events that are said to leave the trigger alone do so. -/
theorem trigger_handle_of_spares {event : Event} (h : SparesTrigger event) :
    (refreshClass.handle notify s event).trigger = s.trigger := by
  cases event with
  | attach scrollView => exact trigger_will_move_to_superview (some scrollView) s
  | detach => exact trigger_will_move_to_superview none s
  | contentSize size =>
      show (RefreshClass.observeContentSize refreshClass _).trigger = s.trigger
      unfold RefreshClass.observeContentSize
      split
      · exact trigger_config_view_y _
      · rfl
  | reloadData numberOfRows => rfl
  | window inWindow => rfl
  | endRefreshing => rfl
  | layoutSubviews =>
      show (placeSubviews s).trigger = s.trigger
      unfold placeSubviews
      split
      · rfl
      · exact trigger_set_asxi_y _ s
  | _ => exact h.elim

/-- What an event can do to a trigger if it does not end a refresh. -/
theorem changed_of_not_ends (hnotify : Nudges notify) (hauto : s.trigger.IsAuto) {event : Event}
    (h : ¬ EndsTrigger s event) :
    Changed event s.trigger (refreshClass.handle notify s event).trigger := by
  cases event with
  | attach _ | detach | contentSize _ | reloadData _ | window _ | endRefreshing | layoutSubviews =>
      exact .of_eq (trigger_handle_of_spares trivial)
  | contentOffset offset isDragging =>
      have hscrolled := hnotify s.scrollView.contentOffset offset
        (s.mapScroll fun sv => { sv with contentOffset := offset, isDragging := isDragging }) hauto
      exact .nudged hscrolled
  | panState panState => exact changed_pan_state hauto panState
  | beginRefreshing => exact changed_begin_refreshing hauto _
  | setState state =>
      by_cases hfinish : state = .idle ∨ state = .noMoreData
      · have hsame : state = s.view.state := by
          by_contra hnew
          exact h ⟨hfinish, hnew⟩
        exact .of_eq (congrArg Sys.trigger (set_state_self notify hsame))
      · rw [not_or] at hfinish
        exact changed_set_state_active hauto (.inr rfl) hfinish.1 hfinish.2
  | setHidden hidden => exact .of_eq (trigger_set_hidden h)
  | drawRect =>
      show Changed _ _ (MJRefreshComponent.drawRect (setState notify) s).trigger
      unfold MJRefreshComponent.drawRect
      split
      next hwill =>
        exact changed_set_state_active hauto (.inl (by rw [hwill]; decide)) (by decide) (by decide)
      next => exact .of_eq rfl
  | mainQueue => exact changed_main_queue hnotify hauto h
  | completion index => exact changed_completion hnotify hauto index

end Events

end MJRefreshView

end Component.Refresh

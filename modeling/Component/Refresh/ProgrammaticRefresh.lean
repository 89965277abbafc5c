import Component.Refresh.TriggerBudget

/-!
# Refreshes begun by the application

An auto footer that notes a drag asks `beginRefreshing` for a refresh, which is refused when the
drag budget is exhausted. The note stays, and the footer is idle. The next call of
`beginRefreshing` is then refused as well, whoever makes it. `programmatic_refresh_iff` says that
this is the only way in which a footer in a window comes to refuse a call of the application.
-/

namespace Component.Refresh

open Component.Lib.Run

variable {ρ : Type}

/-! ## Noted drags -/

namespace Trigger

variable {t : Trigger}

/-- Drags may not start another refresh. Minus one stands for no bound. -/
def Exhausted (t : Trigger) : Prop := t.leftTriggerTimes ≤ 0 ∧ t.leftTriggerTimes ≠ -1

instance (t : Trigger) : Decidable t.Exhausted := inferInstanceAs (Decidable (_ ∧ _))

/-- What `beginRefreshing` makes of an idle trigger in a window. -/
def begun (t : Trigger) : Trigger :=
  if t.triggerByDrag = true ∧ t.Exhausted then t else t.moveTo .refreshing

/-- No drag has been noted without a refresh. -/
def Quiet (t : Trigger) : Prop := t.state = .idle → t.triggerByDrag = false

/-- A trigger that is not idle is quiet. -/
theorem quiet_of_state_ne (h : t.state ≠ .idle) : t.Quiet := fun hidle => absurd hidle h

/-- A refresh begins unless it is a drag's and the drags are used up. -/
theorem begun_of_permitted (h : ¬ (t.triggerByDrag = true ∧ t.Exhausted)) :
    t.begun = t.moveTo .refreshing := if_neg h

/-- A drag does not begin a refresh once the drags are used up. -/
theorem begun_of_refused (hdrag : t.triggerByDrag = true) (hexhausted : t.Exhausted) :
    t.begun = t := if_pos ⟨hdrag, hexhausted⟩

/-- A drag that is not refused starts a refresh. -/
theorem Quiet.begun_flag (h : t.Quiet) (hidle : t.state = .idle) {dragging : Bool}
    (hpermitted : ¬ (dragging = true ∧ t.Exhausted)) : (t.flag dragging).begun.Quiet := by
  have hflag : ¬ ((t.flag dragging).triggerByDrag = true ∧ (t.flag dragging).Exhausted) := by
    rintro ⟨hdrag, hexhausted⟩
    have hdragging : (dragging || t.triggerByDrag) = true := hdrag
    rw [h hidle, Bool.or_false] at hdragging
    exact hpermitted ⟨hdragging, hexhausted⟩
  rw [begun_of_permitted hflag]
  exact quiet_of_state_ne (by simp [moveTo])

/-- A footer that will refuse a call of `beginRefreshing`. -/
structure Refuses (t : Trigger) : Prop where
  idle : t.state = .idle
  noted : t.triggerByDrag = true
  exhausted : t.Exhausted

/-- A drag that is refused stays noted. -/
theorem refuses_begun_flag (hidle : t.state = .idle) (hexhausted : t.Exhausted) :
    (t.flag true).begun.Refuses := by
  rw [begun_of_refused (t := t.flag true) rfl hexhausted]
  exact ⟨hidle, rfl, hexhausted⟩

/-- The end of a refresh uses up the drag behind it. -/
theorem quiet_finish (state : MJRefreshState) : (t.finish state).Quiet := fun _ => rfl

end Trigger

namespace MJRefreshView

section Begin

variable (notify : Notify ρ) {s : Sys ρ}

/-- An idle footer in a window refreshes unless it refuses. -/
theorem trigger_begin_refreshing_idle (hauto : s.trigger.IsAuto) (hwindow : s.view.inWindow = true)
    (hidle : s.view.state = .idle) : (beginRefreshing notify s).trigger = s.trigger.begun := by
  by_cases hrefused : s.trigger.triggerByDrag = true ∧ s.trigger.Exhausted
  · -- `beginRefreshing` does not ask who calls it, only whether a drag has been noted
    rw [begin_refreshing_of_refused notify hrefused, Trigger.begun, if_pos hrefused]
  · rw [begin_refreshing_of_permitted notify hrefused, MJRefreshComponent.beginRefreshing,
      Trigger.begun_of_permitted hrefused]
    generalize hready : MJRefreshComponent.setPullingPercent 1
      (s.mapView fun view => { view with alpha := 1 }) = ready
    have hsame : ready.trigger = s.trigger ∧ ready.view.inWindow = true := by
      rw [← hready]
      exact ⟨rfl, hwindow⟩
    have hstate : ready.view.state = .idle := (congrArg Trigger.state hsame.1).trans hidle
    rw [if_pos hsame.2, trigger_set_state_active (hsame.1 ▸ hauto) (by simp) (by simp),
      if_neg (by simp [hstate]), hsame.1]

end Begin

/-! ## Notifications -/

/-- A notification about the content offset makes an idle footer ask for a refresh. -/
def InReach (old new : CGPoint) (s : Sys Unit) : Prop :=
  Shown s = true ∧ s.view.automaticallyRefresh = true ∧ s.view.frame.y ≠ 0 ∧
    s.view.asxiHeight < s.scrollAsixInsetTop + s.scrollAsxiContentHeight ∧
    autoTriggerOffset s ≤ s.scrollAsixOffsetY ∧ movesBack old new s = false

instance (old new : CGPoint) (s : Sys Unit) : Decidable (InReach old new s) :=
  inferInstanceAs (Decidable (_ ∧ _))

/-- What a notification about the content offset does to the trigger of a footer in a window. -/
theorem trigger_notify_within (depth : Nat) {s : Sys Unit} (hauto : s.trigger.IsAuto)
    (hwindow : s.view.inWindow = true) (old new : CGPoint) :
    (refreshClass.notifyWithin (depth + 1) old new s).trigger =
      if s.view.state = .idle ∧ InReach old new s then (s.trigger.flag s.sv.isDragging).begun
      else s.trigger := by
  have hmore : s.view.refreshMore = true := hauto.1
  have hback : s.view.refreshBack = false := hauto.2
  have hhandler : scrollViewContentOffsetDidChange (refreshClass.notifyWithin depth) old new s =
      autoFooterContentOffsetDidChange (refreshClass.notifyWithin depth) old new s := by
    rw [scrollViewContentOffsetDidChange, if_pos hmore, if_neg (by simp [hback])]
  have hnotify : refreshClass.notifyWithin (depth + 1) old new s =
      if Shown s then autoFooterContentOffsetDidChange (refreshClass.notifyWithin depth) old new s
      else s := by
    rw [← hhandler]
    rfl
  rw [hnotify]
  by_cases hreach : s.view.state = .idle ∧ InReach old new s
  · rw [if_pos hreach]
    obtain ⟨hidle, hshown, hautomatic, hplaced, hlong, hoffset, hforward⟩ := hreach
    rw [if_pos hshown, autoFooterContentOffsetDidChange,
      if_neg (by simp [hidle, hautomatic, hplaced]), if_pos hlong, if_pos hoffset,
      if_neg (by simp [hforward])]
    exact trigger_begin_refreshing_idle _ hauto hwindow hidle
  · rw [if_neg hreach]
    by_cases hshown : Shown s = true
    · -- one of the conditions of the handler fails, and it changes nothing
      rw [if_pos hshown, autoFooterContentOffsetDidChange]
      split
      · rfl
      next hready =>
        simp only [not_or, ne_eq, not_not, Bool.not_eq_false] at hready
        split
        next hlong =>
          split
          next hoffset =>
            split
            · rfl
            next hforward =>
              exact absurd ⟨hready.1, hshown, hready.2.1, hready.2.2, hlong, hoffset,
                Bool.not_eq_true _ ▸ hforward⟩ hreach
          · rfl
        · rfl
    · rw [if_neg hshown]

/-- What is in reach does not depend on the trigger. -/
theorem in_reach_congr {s t : Sys Unit} {state : MJRefreshState} {triggerByDrag : Bool}
    {leftTriggerTimes : Int} (hscroll : t.scrollView = s.scrollView)
    (hview : t.view = { s.view with
      state := state
      triggerByDrag := triggerByDrag
      leftTriggerTimes := leftTriggerTimes }) (old new : CGPoint) :
    InReach old new t ↔ InReach old new s := by
  simp only [InReach, Shown, autoTriggerOffset, movesBack, Sys.scrollAsixInsetTop,
    Sys.scrollAsxiContentHeight, Sys.scrollAsixOffsetY, RefreshView.asxiHeight,
    RefreshView.scrollAsixOriginInsetBottom, Sys.sv, hview, hscroll]

/-- The offset to which a scroll view with paging is moved at the end of a refresh. -/
def pagedOffset (s : Sys Unit) : CGPoint :=
  { s.scrollView.contentOffset with
    y := s.scrollView.contentOffset.y - s.scrollView.mjInset.bottom }

/-- The end of a refresh moves the scroll view, which makes the footer ask for another one. -/
def PagesIntoReach (s : Sys Unit) : Prop :=
  s.view.state = .refreshing ∧ s.view.linked = true ∧ s.scrollView.pagingEnabled = true ∧
    InReach s.scrollView.contentOffset (pagedOffset s)
      (scrolled (pagedOffset s) s.scrollView.isDragging s)

instance (s : Sys Unit) : Decidable (PagesIntoReach s) := inferInstanceAs (Decidable (_ ∧ _))

/-- What ending a refresh leaves of the view and the scroll view. -/
theorem end_trigger_view (state : MJRefreshState) (s : Sys Unit) :
    (endTrigger (MJRefreshComponent.setState state s)).scrollView = s.scrollView ∧
      ∃ triggerByDrag leftTriggerTimes,
        (endTrigger (MJRefreshComponent.setState state s)).view = { s.view with
          state := state
          triggerByDrag := triggerByDrag
          leftTriggerTimes := leftTriggerTimes } := by
  unfold endTrigger
  split
  · exact ⟨rfl, _, _, rfl⟩
  · exact ⟨rfl, _, _, rfl⟩

/-- What the move at the end of a refresh does to the trigger of a footer in a window. -/
theorem trigger_notify_paged (depth : Nat) {s moved : Sys Unit} (hauto : s.trigger.IsAuto)
    (hwindow : s.view.inWindow = true) (hrefreshing : s.view.state = .refreshing)
    (hlinked : s.view.linked = true) (hpaging : s.scrollView.pagingEnabled = true)
    {triggerByDrag : Bool} {leftTriggerTimes : Int}
    (hview : moved.view = { s.view with
      state := .idle
      triggerByDrag := triggerByDrag
      leftTriggerTimes := leftTriggerTimes })
    (hscroll : moved.scrollView =
      (scrolled (pagedOffset s) s.scrollView.isDragging s).scrollView)
    (htrigger : moved.trigger = s.trigger.finish .idle) :
    (refreshClass.notifyWithin (depth + 1) s.scrollView.contentOffset (pagedOffset s)
        moved).trigger =
      if PagesIntoReach s then ((s.trigger.finish .idle).flag s.scrollView.isDragging).begun
      else s.trigger.finish .idle := by
  have hauto' : moved.trigger.IsAuto := htrigger ▸ hauto
  have hwindow' : moved.view.inWindow = true := by
    rw [hview]
    exact hwindow
  have hidle : moved.view.state = .idle := by rw [hview]
  have hdragging : moved.sv.isDragging = s.scrollView.isDragging := by
    rw [Sys.sv_of_linked (by rw [hview]; exact hlinked), hscroll]
    rfl
  have hcondition : (moved.view.state = .idle ∧
      InReach s.scrollView.contentOffset (pagedOffset s) moved) ↔ PagesIntoReach s := by
    rw [in_reach_congr (s := scrolled (pagedOffset s) s.scrollView.isDragging s) hscroll hview,
      PagesIntoReach]
    simp [hidle, hrefreshing, hlinked, hpaging]
  have hnotified := trigger_notify_within depth hauto' hwindow' s.scrollView.contentOffset
    (pagedOffset s)
  rw [htrigger, hdragging] at hnotified
  simpa only [hcondition] using hnotified

/-- What the end of a refresh does to the trigger of a footer in a window. -/
theorem trigger_set_state_idle (depth : Nat) {s : Sys Unit} (hauto : s.trigger.IsAuto)
    (hwindow : s.view.inWindow = true) (hnew : MJRefreshState.idle ≠ s.view.state) :
    (setState (refreshClass.notifyWithin (depth + 1)) .idle s).trigger =
      if PagesIntoReach s then ((s.trigger.finish .idle).flag s.scrollView.isDragging).begun
      else s.trigger.finish .idle := by
  rw [set_state_auto _ hauto.1 hauto.2 hnew, autoFooterStateDidChange, if_neg (by simp),
    if_pos (.inr rfl)]
  have htrigger := trigger_end_trigger .idle s
  obtain ⟨hscroll, triggerByDrag, leftTriggerTimes, hview⟩ := end_trigger_view .idle s
  generalize endTrigger (MJRefreshComponent.setState .idle s) = ended at htrigger hscroll hview ⊢
  have hlinked : ended.view.linked = s.view.linked := by rw [hview]
  have hsv : ended.sv = s.sv := by rw [Sys.sv, Sys.sv, hlinked, hscroll]
  dsimp only
  rw [hsv]
  by_cases hpages : s.view.state = .refreshing ∧ s.sv.pagingEnabled = true
  · obtain ⟨hrefreshing, hpaging⟩ := hpages
    -- a footer without a scroll view finds no paging
    have hattached : s.view.linked = true := by
      refine Sys.linked_of_sv_ne fun hnull => ?_
      rw [hnull] at hpaging
      cases hpaging
    rw [if_pos hrefreshing, if_pos hpaging, Sys.sv_of_linked hattached,
      Sys.set_content_offset_of_linked (hlinked.trans hattached), hscroll]
    rw [Sys.sv_of_linked hattached] at hpaging
    refine trigger_notify_paged depth hauto hwindow hrefreshing hattached hpaging hview ?_ htrigger
    rw [Sys.mapScroll_scrollView, hscroll]
    rfl
  · have hnot : ¬ PagesIntoReach s := by
      rintro ⟨hrefreshing, hattached, hpaging, _⟩
      exact hpages ⟨hrefreshing, by rwa [Sys.sv_of_linked hattached]⟩
    rw [if_neg hnot, ← htrigger]
    split
    next hrefreshing =>
      rw [if_neg fun hpaging => hpages ⟨hrefreshing, hpaging⟩]
      rfl
    next => rfl

/-- The pan gesture has changed, and nobody has been told. -/
def panned (panState : PanState) (s : Sys Unit) : Sys Unit :=
  s.mapScroll fun sv => { sv with panState := panState }

/-- Lifting the finger makes an idle footer ask for a refresh. -/
def PanEndsInReach (panState : PanState) (s : Sys Unit) : Prop :=
  Shown s = true ∧ s.view.linked = true ∧ panState = .ended ∧
    panEndedOffset s ≤ s.scrollAsixOffsetY

instance (panState : PanState) (s : Sys Unit) : Decidable (PanEndsInReach panState s) :=
  inferInstanceAs (Decidable (_ ∧ _))

section Pan

variable (notify : Notify Unit) {s : Sys Unit} (hauto : s.trigger.IsAuto)

include hauto in
/-- What a footer that is shown and idle makes of a change of the pan gesture. -/
theorem handle_pan_state (hshown : Shown s = true) (hidle : s.view.state = .idle)
    (panState : PanState) :
    refreshClass.handle notify s (.panState panState) =
      match (panned panState s).sv.panState with
      | .ended => autoFooterPanEnded notify (panned panState s)
      | .began => resetTriggerTimes (panned panState s)
      | _ => panned panState s := by
  have hmore : (panned panState s).view.refreshMore = true := hauto.1
  have hback : (panned panState s).view.refreshBack = false := hauto.2
  have hstate : (panned panState s).view.state = .idle := hidle
  have hhandle : refreshClass.handle notify s (.panState panState) =
      scrollViewPanStateDidChange notify (panned panState s) := if_pos hshown
  rw [hhandle, scrollViewPanStateDidChange, if_neg (by simp [hmore, hback])]
  exact if_neg (by simp [hstate])

/-- Whether the offset is far enough for a refresh does not depend on the pan gesture. -/
theorem pan_ended_in_reach_iff (hlinked : s.view.linked = true) (panState : PanState) :
    panEndedOffset (panned panState s) ≤ (panned panState s).scrollAsixOffsetY ↔
      panEndedOffset s ≤ s.scrollAsixOffsetY := by
  simp only [panned, panEndedOffset, Sys.scrollAsixInsetTop, Sys.scrollAsxiContentHeight,
    Sys.scrollAsixHeight, Sys.scrollAsixOffsetY, Sys.sv, Sys.mapScroll_view,
    Sys.mapScroll_scrollView, hlinked]
  rfl

include hauto in
/-- Lifting the finger in reach. -/
theorem trigger_pan_ended (hwindow : s.view.inWindow = true) (hidle : s.view.state = .idle)
    {panState : PanState} (hreach : PanEndsInReach panState s) :
    (refreshClass.handle notify s (.panState panState)).trigger = (s.trigger.flag true).begun := by
  obtain ⟨hshown, hlinked, rfl, hoffset⟩ := hreach
  have hsv : (panned .ended s).sv.panState = .ended := by
    rw [Sys.sv_of_linked (s := panned .ended s) hlinked]
    rfl
  rw [handle_pan_state notify hauto hshown hidle, hsv]
  show (autoFooterPanEnded notify (panned .ended s)).trigger = _
  rw [autoFooterPanEnded, if_pos ((pan_ended_in_reach_iff hlinked .ended).mpr hoffset)]
  exact trigger_begin_refreshing_idle _ hauto hwindow hidle

include hauto in
/-- Any other change of the gesture notes no drag. -/
theorem trigger_pan_other {panState : PanState}
    (hnot : ¬ (s.view.state = .idle ∧ PanEndsInReach panState s)) :
    (refreshClass.handle notify s (.panState panState)).trigger = s.trigger ∨
      (refreshClass.handle notify s (.panState panState)).trigger = s.trigger.reset := by
  by_cases hshown : Shown s = true
  · by_cases hidle : s.view.state = .idle
    · rw [handle_pan_state notify hauto hshown hidle]
      split
      next hended =>
        rw [autoFooterPanEnded, if_neg]
        · exact .inl rfl
        · intro hoffset
          -- a footer without a scroll view does not see the gesture
          have hlinked : (panned panState s).view.linked = true := by
            refine Sys.linked_of_sv_ne fun hnull => ?_
            rw [hnull] at hended
            cases hended
          rw [Sys.sv_of_linked hlinked] at hended
          exact hnot ⟨hidle, hshown, hlinked, hended,
            (pan_ended_in_reach_iff (s := s) hlinked panState).mp hoffset⟩
      · exact .inr rfl
      · exact .inl rfl
    · have hstate : (panned panState s).view.state ≠ .idle := hidle
      have hhandle : refreshClass.handle notify s (.panState panState) =
          scrollViewPanStateDidChange notify (panned panState s) := if_pos hshown
      rw [hhandle, scrollViewPanStateDidChange, if_pos hstate, ite_self]
      exact .inl rfl
  · have hhandle : refreshClass.handle notify s (.panState panState) = panned panState s :=
      if_neg hshown
    rw [hhandle]
    exact .inl rfl

end Pan

end MJRefreshView

/-! ## What stays the same -/

/-- The view is in a window, and none of the work of a header is pending. -/
structure Sys.Steady (s : Sys ρ) : Prop where
  inWindow : s.view.inWindow = true
  blocks : Block.headerRefreshing ∉ s.mainQueue
  completions : ∀ key, Completion.animationDidStop key ∉ s.completions

namespace Sys.Steady

variable {s t : Sys ρ}

/-- Being steady depends on the window and on what is pending only. -/
theorem congr (h : s.Steady) (hwindow : t.view.inWindow = s.view.inWindow)
    (hqueue : t.mainQueue = s.mainQueue) (hcompletions : t.completions = s.completions) :
    t.Steady :=
  ⟨hwindow.trans h.inWindow, hqueue ▸ h.blocks, fun key => hcompletions ▸ h.completions key⟩

/-- A block that is not a header's keeps a footer steady. -/
theorem dispatch_async (h : s.Steady) {block : Block} (hblock : block ≠ .headerRefreshing) :
    (s.dispatchAsync block).Steady := by
  refine ⟨h.inWindow, ?_, h.completions⟩
  rw [Sys.dispatchAsync_mainQueue, List.mem_append, List.mem_singleton, not_or]
  exact ⟨h.blocks, hblock.symm⟩

/-- An animation that is not a header's keeps a footer steady. -/
theorem animate (h : s.Steady) {completion : Completion}
    (hcompletion : ∀ key, completion ≠ .animationDidStop key) : (s.animate completion).Steady := by
  refine ⟨h.inWindow, h.blocks, fun key => ?_⟩
  rw [Sys.animate_completions, List.mem_append, List.mem_singleton, not_or]
  exact ⟨h.completions key, (hcompletion key).symm⟩

/-- A change of the scroll view keeps a footer steady. -/
theorem update_scroll (h : s.Steady) (f : UIScrollView → UIScrollView) :
    (s.updateScroll f).Steady :=
  h.congr (by rw [Sys.update_scroll_view]) (Sys.update_scroll_main_queue f s)
    (Sys.update_scroll_completions f s)

/-- The next block leaves the main queue. -/
theorem dequeue (h : s.Steady) {block : Block} {blocks : List Block}
    (hqueue : s.mainQueue = block :: blocks) : ({ s with mainQueue := blocks } : Sys ρ).Steady :=
  ⟨h.inWindow, fun hmem => h.blocks (by rw [hqueue]; exact List.mem_cons_of_mem _ hmem),
    h.completions⟩

/-- A completion is taken. -/
theorem take_completion (h : s.Steady) (index : Nat) :
    ({ s with completions := s.completions.eraseIdx index } : Sys ρ).Steady :=
  ⟨h.inWindow, h.blocks, fun key hmem => h.completions key (List.mem_of_mem_eraseIdx hmem)⟩

end Sys.Steady

namespace MJRefreshView

/-- Notifications to an auto footer keep it steady. -/
def KeepsSteady (notify : Notify ρ) : Prop :=
  ∀ old new s, s.trigger.IsAuto → s.Steady → (notify old new s).Steady

section Steady

variable {notify : Notify ρ} {s : Sys ρ}

/-- Setting the state of an auto footer keeps it steady. -/
theorem steady_set_state (hnotify : KeepsSteady notify) (hauto : s.trigger.IsAuto) (h : s.Steady)
    (state : MJRefreshState) : (setState notify state s).Steady := by
  by_cases hsame : state = s.view.state
  · rw [set_state_self notify hsame]
    exact h
  · rw [set_state_auto notify hauto.1 hauto.2 hsame, autoFooterStateDidChange]
    have hstored : (MJRefreshComponent.setState state s).Steady := h.congr rfl rfl rfl
    split
    · -- a refresh begins, and its callback is dispatched
      exact hstored.dispatch_async (by simp)
    · split
      · have hendedAuto : (endTrigger (MJRefreshComponent.setState state s)).trigger.IsAuto := by
          rw [trigger_end_trigger]
          exact hauto
        have hended : (endTrigger (MJRefreshComponent.setState state s)).Steady := by
          unfold endTrigger
          split
          · exact hstored.congr rfl rfl rfl
          · exact hstored
        generalize endTrigger (MJRefreshComponent.setState state s) = ended at hendedAuto hended ⊢
        dsimp only
        split
        · split
          · -- with paging the scroll view is moved, which notifies the footer again
            have hpaged : ∀ offset, (ended.setContentOffset notify offset).Steady := by
              intro offset
              unfold Sys.setContentOffset
              split
              · exact hnotify _ _ _ hendedAuto (hended.congr rfl rfl rfl)
              · exact hended
            exact ((hpaged _).congr rfl rfl rfl : Sys.Steady (Sys.fire _ _)).animate (by simp)
          · exact hended.congr rfl rfl rfl
        · exact hended
      · exact hstored

/-- Beginning a refresh keeps an auto footer steady. -/
theorem steady_begin_refreshing (hnotify : KeepsSteady notify) (hauto : s.trigger.IsAuto)
    (h : s.Steady) : (beginRefreshing notify s).Steady := by
  unfold beginRefreshing
  split
  · exact h
  · unfold MJRefreshComponent.beginRefreshing
    generalize hready : MJRefreshComponent.setPullingPercent 1
      (s.mapView fun view => { view with alpha := 1 }) = ready
    have hsteady : ready.Steady := by
      rw [← hready]
      exact h.congr rfl rfl rfl
    have hreadyAuto : ready.trigger.IsAuto := by
      rw [← hready]
      exact hauto
    dsimp only
    split
    · exact steady_set_state hnotify hreadyAuto hsteady _
    · split
      · exact steady_set_state hnotify hreadyAuto hsteady _
      · exact hsteady

/-- The content offset handler keeps an auto footer steady. -/
theorem steady_content_offset_did_change (hnotify : KeepsSteady notify) (hauto : s.trigger.IsAuto)
    (h : s.Steady) (old new : CGPoint) :
    (scrollViewContentOffsetDidChange notify old new s).Steady := by
  have hmore : s.view.refreshMore = true := hauto.1
  have hback : s.view.refreshBack = false := hauto.2
  rw [scrollViewContentOffsetDidChange, if_pos hmore, if_neg (by simp [hback]),
    autoFooterContentOffsetDidChange]
  split
  · exact h
  · split
    · split
      · split
        · exact h
        · exact steady_begin_refreshing hnotify hauto (h.congr rfl rfl rfl)
      · exact h
    · exact h

/-- The handler of the pan gesture keeps an auto footer steady. -/
theorem steady_pan_state_did_change (hnotify : KeepsSteady notify) (hauto : s.trigger.IsAuto)
    (h : s.Steady) : (scrollViewPanStateDidChange notify s).Steady := by
  rw [scrollViewPanStateDidChange]
  split
  · exact h
  · split
    · exact h
    · split
      · rw [autoFooterPanEnded]
        split
        · exact steady_begin_refreshing hnotify hauto (h.congr rfl rfl rfl)
        · exact h
      · exact h.congr rfl rfl rfl
      · exact h

/-- Placing a view along its direction keeps it steady. -/
theorem steady_config_view_y (h : s.Steady) : (configViewY s).Steady := by
  unfold configViewY
  dsimp only
  split
  · refine h.congr ?_ rfl rfl
    rw [Sys.mapView_view, RefreshView.setAsxiY]
    split <;> rfl
  · exact h

/-- Hiding and showing keep an auto footer steady. -/
theorem steady_set_hidden (hnotify : KeepsSteady notify) (hauto : s.trigger.IsAuto) (h : s.Steady)
    (hidden : Bool) : (setHidden notify hidden s).Steady := by
  unfold setHidden
  dsimp only
  have hmarked : (s.mapView fun view => { view with hidden := hidden }).Steady :=
    h.congr rfl rfl rfl
  have hmarkedAuto : (s.mapView fun view => { view with hidden := hidden }).trigger.IsAuto := hauto
  split
  · exact (steady_set_state hnotify hmarkedAuto hmarked .idle).update_scroll _
  · split
    · exact (hmarked.update_scroll _).congr rfl rfl rfl
    · exact hmarked

end Steady

/-- Notifications at every depth keep an auto footer steady. -/
theorem keeps_steady_notify_within (depth : Nat) :
    KeepsSteady (refreshClass.notifyWithin depth : Notify ρ) := by
  induction depth with
  | zero => exact fun _ _ _ _ h => h
  | succ depth ih =>
      intro old new s hauto h
      show (RefreshClass.observeContentOffset _ _ old new s).Steady
      unfold RefreshClass.observeContentOffset
      split
      · exact steady_content_offset_did_change ih hauto h old new
      · exact h

end MJRefreshView

/-! ## Events -/

/-- The view is neither attached nor removed, it stays in its window, and its state is not set from
outside. -/
def Event.KeepsPlace : Event → Prop
  | .attach _ | .detach | .window _ | .setState _ => False
  | _ => True

instance : (event : Event) → Decidable event.KeepsPlace
  | .attach _ => .isFalse id
  | .detach => .isFalse id
  | .window _ => .isFalse id
  | .setState _ => .isFalse id
  | .contentOffset _ _ => .isTrue trivial
  | .contentSize _ => .isTrue trivial
  | .panState _ => .isTrue trivial
  | .reloadData _ => .isTrue trivial
  | .setHidden _ => .isTrue trivial
  | .beginRefreshing => .isTrue trivial
  | .endRefreshing => .isTrue trivial
  | .drawRect => .isTrue trivial
  | .layoutSubviews => .isTrue trivial
  | .mainQueue => .isTrue trivial
  | .completion _ => .isTrue trivial

namespace MJRefreshView

/-- The event is a drag for which the footer asks for a refresh although the budget is exhausted. -/
def DragRefused (s : Sys Unit) : Event → Prop
  | .contentOffset offset isDragging =>
      s.view.state = .idle ∧
        InReach s.scrollView.contentOffset offset (scrolled offset isDragging s) ∧
        (scrolled offset isDragging s).sv.isDragging = true ∧ s.trigger.Exhausted
  | .panState panState =>
      s.view.state = .idle ∧ PanEndsInReach panState s ∧ s.trigger.Exhausted
  | .mainQueue =>
      s.mainQueue.head? = some .endRefreshing ∧ PagesIntoReach s ∧
        s.scrollView.isDragging = true ∧ (s.trigger.finish .idle).Exhausted
  | _ => False

instance (s : Sys Unit) : (event : Event) → Decidable (DragRefused s event)
  | .contentOffset _ _ => inferInstanceAs (Decidable (_ ∧ _ ∧ _ ∧ _))
  | .panState _ => inferInstanceAs (Decidable (_ ∧ _ ∧ _))
  | .mainQueue => inferInstanceAs (Decidable (_ ∧ _ ∧ _ ∧ _))
  | .attach _ => .isFalse id
  | .detach => .isFalse id
  | .window _ => .isFalse id
  | .contentSize _ => .isFalse id
  | .reloadData _ => .isFalse id
  | .setState _ => .isFalse id
  | .setHidden _ => .isFalse id
  | .beginRefreshing => .isFalse id
  | .endRefreshing => .isFalse id
  | .drawRect => .isFalse id
  | .layoutSubviews => .isFalse id
  | .completion _ => .isFalse id

section Handle

variable {s : Sys ρ}

/-- No event changes the kind of an auto footer. -/
theorem is_auto_handle {notify : Notify ρ} (hnotify : Nudges notify) (hauto : s.trigger.IsAuto)
    (event : Event) : (refreshClass.handle notify s event).trigger.IsAuto := by
  by_cases hends : EndsTrigger s event
  · obtain ⟨state, _, _, hnudged⟩ := ended_of_ends hnotify hauto hends
    exact hnudged.times.2.2 hauto
  · have hchanged := changed_of_not_ends hnotify hauto hends
    generalize (refreshClass.handle notify s event).trigger = after at hchanged ⊢
    cases hchanged with
    | nudged hnudged => exact hnudged.times.2.2 hauto
    | moved _ _ _ => exact hauto
    | reset _ _ => exact hauto

/-- The block at the head of the main queue keeps an auto footer steady. -/
theorem steady_main_queue {notify : Notify ρ} (hnotify : KeepsSteady notify)
    (hauto : s.trigger.IsAuto) (h : s.Steady) :
    (refreshClass.handle notify s .mainQueue).Steady := by
  cases hqueue : s.mainQueue with
  | nil =>
      rw [RefreshClass.handle_main_queue_nil _ _ hqueue]
      exact h
  | cons block blocks =>
      rw [RefreshClass.handle_main_queue_cons _ _ hqueue]
      cases block with
      | endRefreshing =>
          exact steady_set_state (s := { s with mainQueue := blocks }) hnotify hauto
            (h.dequeue hqueue) .idle
      | refreshingCallback => exact (h.dequeue hqueue).congr rfl rfl rfl
      | headerRefreshing => exact absurd (hqueue ▸ List.mem_cons_self) h.blocks

/-- The completion of an animation keeps a footer steady, since none is a header's. -/
theorem steady_completion {notify : Notify ρ} (h : s.Steady) (index : Nat) :
    (refreshClass.handle notify s (.completion index)).Steady := by
  cases hcompletion : s.completions[index]? with
  | none =>
      rw [RefreshClass.handle_completion_none _ _ hcompletion]
      exact h
  | some completion =>
      rw [RefreshClass.handle_completion_some _ _ hcompletion]
      cases completion with
      | executeRefreshingCallback => exact (h.take_completion index).dispatch_async (by simp)
      | endRefreshing => exact (h.take_completion index).congr rfl rfl rfl
      | endRefreshingPaging => exact (h.take_completion index).congr rfl rfl rfl
      | animationDidStop key =>
          exact absurd (List.mem_of_getElem? hcompletion) (h.completions key)

/-- Every event that leaves the view in its window keeps an auto footer steady. -/
theorem steady_handle {notify : Notify ρ} (hnotify : KeepsSteady notify)
    (hauto : s.trigger.IsAuto) (h : s.Steady) {event : Event} (hevent : event.KeepsPlace) :
    (refreshClass.handle notify s event).Steady := by
  cases event with
  | attach scrollView => exact hevent.elim
  | detach => exact hevent.elim
  | window inWindow => exact hevent.elim
  | setState state => exact hevent.elim
  | contentOffset offset isDragging => exact hnotify _ _ _ hauto (h.congr rfl rfl rfl)
  | contentSize size =>
      show (RefreshClass.observeContentSize refreshClass _).Steady
      unfold RefreshClass.observeContentSize
      split
      · exact steady_config_view_y (h.congr rfl rfl rfl)
      · exact h.congr rfl rfl rfl
  | panState panState =>
      show (RefreshClass.observePanState refreshClass notify _).Steady
      unfold RefreshClass.observePanState
      split
      · exact steady_pan_state_did_change hnotify hauto (h.congr rfl rfl rfl)
      · exact h.congr rfl rfl rfl
  | reloadData numberOfRows => exact h.congr rfl rfl rfl
  | beginRefreshing => exact steady_begin_refreshing hnotify hauto h
  | endRefreshing => exact h.dispatch_async (by simp)
  | setHidden hidden => exact steady_set_hidden hnotify hauto h hidden
  | drawRect =>
      show (MJRefreshComponent.drawRect (setState notify) s).Steady
      unfold MJRefreshComponent.drawRect
      split
      · exact steady_set_state hnotify hauto h _
      · exact h
  | layoutSubviews =>
      have hmore : s.view.refreshMore = true := hauto.1
      show (placeSubviews s).Steady
      rw [placeSubviews, if_pos hmore]
      exact h
  | mainQueue => exact steady_main_queue hnotify hauto h
  | completion index => exact steady_completion h index

end Handle

section Step

variable (depth : Nat) {s : Sys Unit} (hauto : s.trigger.IsAuto) (hwindow : s.view.inWindow = true)
include hauto hwindow

/-- What a change of the content offset does to the trigger. -/
theorem trigger_step_content_offset (offset : CGPoint) (isDragging : Bool) :
    (step (depth + 1) s (.contentOffset offset isDragging)).trigger =
      if s.view.state = .idle ∧
          InReach s.scrollView.contentOffset offset (scrolled offset isDragging s) then
        (s.trigger.flag (scrolled offset isDragging s).sv.isDragging).begun
      else s.trigger :=
  trigger_notify_within depth (s := scrolled offset isDragging s) hauto hwindow
    s.scrollView.contentOffset offset

/-- What the block that ends a refresh does to the trigger. -/
theorem trigger_step_end_refreshing {blocks : List Block}
    (hqueue : s.mainQueue = .endRefreshing :: blocks) (hnew : MJRefreshState.idle ≠ s.view.state) :
    (step (depth + 1) s .mainQueue).trigger =
      if PagesIntoReach s then ((s.trigger.finish .idle).flag s.scrollView.isDragging).begun
      else s.trigger.finish .idle := by
  rw [step, RefreshClass.handle_main_queue_cons _ _ hqueue]
  exact trigger_set_state_idle depth (s := { s with mainQueue := blocks }) hauto hwindow hnew

end Step

end MJRefreshView

/-- An auto footer in a window that has noted no drag without a refresh. -/
structure Sys.Willing (s : Sys Unit) : Prop where
  auto : s.trigger.IsAuto
  steady : s.Steady
  quiet : s.trigger.Quiet

namespace MJRefreshView

section Runs

variable (depth : Nat) {s : Sys Unit} (h : s.Willing)
include h

/-- An event that leaves the trigger alone keeps it quiet. -/
theorem quiet_of_spares {event : Event} (hevent : SparesTrigger event) :
    (step (depth + 1) s event).trigger.Quiet := by
  rw [step, trigger_handle_of_spares hevent]
  exact h.quiet

/-- A change of the offset keeps the trigger quiet, unless it is a drag that is refused. -/
theorem quiet_content_offset {offset : CGPoint} {isDragging : Bool}
    (hkept : ¬ DragRefused s (.contentOffset offset isDragging)) :
    (step (depth + 1) s (.contentOffset offset isDragging)).trigger.Quiet := by
  rw [trigger_step_content_offset depth h.auto h.steady.inWindow]
  split
  next hreach =>
    exact h.quiet.begun_flag hreach.1 fun hdrag => hkept ⟨hreach.1, hreach.2, hdrag⟩
  next => exact h.quiet

/-- A pan gesture keeps the trigger quiet, unless it is a drag that is refused. -/
theorem quiet_pan_state {panState : PanState} (hkept : ¬ DragRefused s (.panState panState)) :
    (step (depth + 1) s (.panState panState)).trigger.Quiet := by
  by_cases hreach : s.view.state = .idle ∧ PanEndsInReach panState s
  · have hpanned := trigger_pan_ended (refreshClass.notifyWithin (depth + 1)) h.auto
      h.steady.inWindow hreach.1 hreach.2
    rw [step, hpanned]
    exact h.quiet.begun_flag hreach.1 fun hdrag => hkept ⟨hreach.1, hreach.2, hdrag.2⟩
  · rcases trigger_pan_other (refreshClass.notifyWithin (depth + 1)) h.auto hreach with
      hsame | hreset
    · rw [step, hsame]
      exact h.quiet
    · rw [step, hreset]
      exact h.quiet

/-- A view that is hidden is not told that the scroll view is moved at the end of a refresh. -/
theorem quiet_set_hidden (hidden : Bool) :
    (step (depth + 1) s (.setHidden hidden)).trigger.Quiet := by
  by_cases hends : EndsTrigger s (.setHidden hidden)
  · obtain ⟨rfl, hvisible, hstate⟩ := hends
    -- the view is marked as hidden before its state is set
    have hnot : ¬ PagesIntoReach (s.mapView fun view => { view with hidden := true }) := by
      rintro ⟨_, _, _, hshown, _⟩
      exact absurd hshown (by simp [Shown, scrolled])
    have hended := trigger_set_state_idle depth
      (s := s.mapView fun view => { view with hidden := true }) h.auto h.steady.inWindow hstate.symm
    rw [if_neg hnot] at hended
    have hstep : (step (depth + 1) s (.setHidden true)).trigger = s.trigger.finish .idle := by
      show (setHidden (refreshClass.notifyWithin (depth + 1)) true s).trigger = _
      simp only [setHidden, hvisible, Bool.not_false, Bool.and_self, if_true,
        trigger_update_scroll]
      exact hended
    rw [hstep]
    exact Trigger.quiet_finish _
  · have hstep : (step (depth + 1) s (.setHidden hidden)).trigger = s.trigger :=
      trigger_set_hidden hends
    rw [hstep]
    exact h.quiet

/-- `beginRefreshing` keeps the trigger quiet. -/
theorem quiet_begin_refreshing : (step (depth + 1) s .beginRefreshing).trigger.Quiet := by
  have hstep : (step (depth + 1) s .beginRefreshing).trigger =
      (beginRefreshing (refreshClass.notifyWithin (depth + 1)) s).trigger := rfl
  rw [hstep]
  rcases trigger_begin_refreshing (refreshClass.notifyWithin (depth + 1)) h.auto with
    hsame | ⟨_, state, hactive, _, hmoved⟩
  · rw [hsame]
    exact h.quiet
  · rw [hmoved]
    refine Trigger.quiet_of_state_ne ?_
    rcases hactive with rfl | rfl <;> simp [Trigger.moveTo]

/-- Drawing keeps the trigger quiet. -/
theorem quiet_draw_rect : (step (depth + 1) s .drawRect).trigger.Quiet := by
  show (MJRefreshComponent.drawRect (setState _) s).trigger.Quiet
  unfold MJRefreshComponent.drawRect
  split
  · rw [trigger_set_state_active h.auto (by simp) (by simp)]
    split
    · exact h.quiet
    · exact Trigger.quiet_of_state_ne (by simp [Trigger.moveTo])
  · exact h.quiet

/-- A block on the main queue keeps the trigger quiet, unless it leads to a drag that is refused. -/
theorem quiet_main_queue (hkept : ¬ DragRefused s .mainQueue) :
    (step (depth + 1) s .mainQueue).trigger.Quiet := by
  cases hqueue : s.mainQueue with
  | nil =>
      rw [step, RefreshClass.handle_main_queue_nil _ _ hqueue]
      exact h.quiet
  | cons block blocks =>
      cases block with
      | endRefreshing =>
          by_cases hidle : MJRefreshState.idle = s.view.state
          · have hsame : setState (refreshClass.notifyWithin (depth + 1)) .idle
                { s with mainQueue := blocks } = { s with mainQueue := blocks } :=
              set_state_self _ hidle
            rw [step, RefreshClass.handle_main_queue_cons _ _ hqueue]
            have htrigger := congrArg Sys.trigger hsame
            exact htrigger ▸ h.quiet
          · -- the end of a refresh forgets the drag, and may page into the next one
            rw [trigger_step_end_refreshing depth h.auto h.steady.inWindow hqueue hidle]
            split
            next hpages =>
              refine (Trigger.quiet_finish _).begun_flag rfl fun hdrag => hkept ?_
              exact ⟨by rw [hqueue]; rfl, hpages, hdrag⟩
            next => exact Trigger.quiet_finish _
      | refreshingCallback =>
          rw [step, RefreshClass.handle_main_queue_cons _ _ hqueue]
          exact h.quiet
      | headerRefreshing => exact absurd (hqueue ▸ List.mem_cons_self) h.steady.blocks

/-- The completion of an animation keeps the trigger quiet. -/
theorem quiet_completion (index : Nat) :
    (step (depth + 1) s (.completion index)).trigger.Quiet := by
  rw [step]
  cases hcompletion : s.completions[index]? with
  | none =>
      rw [RefreshClass.handle_completion_none _ _ hcompletion]
      exact h.quiet
  | some completion =>
      rw [RefreshClass.handle_completion_some _ _ hcompletion]
      cases completion with
      | executeRefreshingCallback | endRefreshing | endRefreshingPaging => exact h.quiet
      | animationDidStop key =>
          exact absurd (List.mem_of_getElem? hcompletion) (h.steady.completions key)

/-- The step lemma: unless it is a drag that is refused, an event leaves no drag noted without a
refresh. -/
theorem willing_step {event : Event} (hevent : event.KeepsPlace) (hkept : ¬ DragRefused s event) :
    (step (depth + 1) s event).Willing := by
  refine ⟨is_auto_handle (notify_within_nudges (depth + 1)) h.auto event,
    steady_handle (keeps_steady_notify_within (depth + 1)) h.auto h.steady hevent, ?_⟩
  cases event with
  | attach _ | detach | window _ | setState _ => exact hevent.elim
  | contentSize _ | reloadData _ | endRefreshing | layoutSubviews =>
      exact quiet_of_spares depth h trivial
  | contentOffset offset isDragging => exact quiet_content_offset depth h hkept
  | panState panState => exact quiet_pan_state depth h hkept
  | beginRefreshing => exact quiet_begin_refreshing depth h
  | setHidden hidden => exact quiet_set_hidden depth h hidden
  | drawRect => exact quiet_draw_rect depth h
  | mainQueue => exact quiet_main_queue depth h hkept
  | completion index => exact quiet_completion depth h index

/-- A drag that is refused leaves a footer that refuses. -/
theorem refuses_step {event : Event} (hrefused : DragRefused s event) :
    (step (depth + 1) s event).trigger.Refuses := by
  cases event with
  | contentOffset offset isDragging =>
      obtain ⟨hidle, hreach, hdragging, hexhausted⟩ := hrefused
      rw [trigger_step_content_offset depth h.auto h.steady.inWindow, if_pos ⟨hidle, hreach⟩,
        hdragging]
      exact Trigger.refuses_begun_flag hidle hexhausted
  | panState panState =>
      obtain ⟨hidle, hreach, hexhausted⟩ := hrefused
      rw [step, trigger_pan_ended _ h.auto h.steady.inWindow hidle hreach]
      exact Trigger.refuses_begun_flag hidle hexhausted
  | mainQueue =>
      obtain ⟨hhead, hpages, hdragging, hexhausted⟩ := hrefused
      obtain ⟨blocks, hqueue⟩ := List.head?_eq_some_iff.mp hhead
      have hnew : MJRefreshState.idle ≠ s.view.state := by simp [hpages.1]
      rw [trigger_step_end_refreshing depth h.auto h.steady.inWindow hqueue hnew, if_pos hpages,
        hdragging]
      exact Trigger.refuses_begun_flag rfl hexhausted
  | _ => exact hrefused.elim

omit h in
/-- A footer that refuses stays idle when the application calls `beginRefreshing`. -/
theorem state_of_refuses (hauto : s.trigger.IsAuto) (hwindow : s.view.inWindow = true)
    (hrefuses : s.trigger.Refuses) : (step (depth + 1) s .beginRefreshing).view.state = .idle := by
  have hbegun := trigger_begin_refreshing_idle
    (refreshClass.notifyWithin (depth + 1)) hauto hwindow hrefuses.idle
  rw [Trigger.begun_of_refused hrefuses.noted hrefuses.exhausted] at hbegun
  exact (congrArg Trigger.state hbegun).trans hrefuses.idle

/-- A footer that has noted no drag without a refresh does what the application asks for. -/
theorem state_of_willing (hidle : s.view.state = .idle) :
    (step (depth + 1) s .beginRefreshing).view.state = .refreshing := by
  have hbegun := trigger_begin_refreshing_idle
    (refreshClass.notifyWithin (depth + 1)) h.auto h.steady.inWindow hidle
  have hpermitted : ¬ (s.trigger.triggerByDrag = true ∧ s.trigger.Exhausted) := by
    rintro ⟨hdrag, _⟩
    rw [h.quiet hidle] at hdrag
    exact Bool.false_ne_true hdrag
  rw [Trigger.begun_of_permitted hpermitted] at hbegun
  exact congrArg Trigger.state hbegun

end Runs

end MJRefreshView

/-- For every run of an auto footer in a window that starts with nothing pending and no drag noted,
a call of `beginRefreshing` in any idle state reached makes it refresh exactly if no drag of the run
is refused for want of the drag budget. -/
theorem programmatic_refresh_iff (depth : Nat) (s : Sys Unit) (hmore : s.view.refreshMore = true)
    (hauto : s.view.refreshBack = false) (hwindow : s.view.inWindow = true)
    (hundragged : s.view.triggerByDrag = false) (hdrained : s.Drained) (events : List Event)
    (hevents : ∀ event ∈ events, event.KeepsPlace) :
    (∀ done rest, events = done ++ rest →
      let reached := run (MJRefreshView.step (depth + 1)) s done
      reached.view.state = .idle →
        (MJRefreshView.step (depth + 1) reached .beginRefreshing).view.state = .refreshing) ↔
    Admissible (MJRefreshView.step (depth + 1))
      (fun s event => ¬ MJRefreshView.DragRefused s event) s events := by
  have hstart : s.Willing := by
    refine ⟨⟨hmore, hauto⟩, ⟨hwindow, ?_, fun key => ?_⟩, fun _ => hundragged⟩
    · simp [hdrained.1]
    · simp [hdrained.2]
  -- the bad states are the idle ones in which a call of `beginRefreshing` is swallowed
  have hgood : ∀ s : Sys Unit, s.Willing → ¬ (s.view.state = .idle ∧
      (MJRefreshView.step (depth + 1) s .beginRefreshing).view.state ≠ .refreshing) := by
    rintro s hs ⟨hidle, hrefused⟩
    exact hrefused (MJRefreshView.state_of_willing depth hs hidle)
  have hbad : ∀ (s : Sys Unit) (event : Event), s.Willing → event.KeepsPlace →
      ¬ ¬ MJRefreshView.DragRefused s event →
      (MJRefreshView.step (depth + 1) s event).view.state = .idle ∧
        (MJRefreshView.step (depth + 1) (MJRefreshView.step (depth + 1) s event)
          .beginRefreshing).view.state ≠ .refreshing := by
    intro s event hs hevent hrefused
    have hrefuses := MJRefreshView.refuses_step depth hs (not_not.mp hrefused)
    have hsteady := MJRefreshView.steady_handle
      (MJRefreshView.keeps_steady_notify_within (depth + 1)) hs.auto hs.steady hevent
    have hstays := MJRefreshView.state_of_refuses depth
      (MJRefreshView.is_auto_handle (MJRefreshView.notify_within_nudges (depth + 1)) hs.auto event)
      hsteady.inWindow hrefuses
    refine ⟨hrefuses.idle, fun hrefreshing => ?_⟩
    exact absurd (hstays.symm.trans hrefreshing) (by simp)
  have hstep : ∀ (s : Sys Unit) (event : Event), s.Willing → event.KeepsPlace →
      ¬ MJRefreshView.DragRefused s event → (MJRefreshView.step (depth + 1) s event).Willing :=
    fun s event hs hevent hkept => MJRefreshView.willing_step depth hs hevent hkept
  have hiff := never_iff_admissible hgood hstep hbad hstart hevents
  rw [← hiff]
  refine forall_congr' fun done => forall_congr' fun rest => imp_congr_right fun _ => ?_
  simp only [not_and, ne_eq, not_not]

/-- The footer `sampleAutoFooter` in a window. -/
def sampleFooterInWindow : Sys Unit :=
  sampleAutoFooter.mapView fun view => { view with inWindow := true }

/-- Two drags, each in a pan gesture of its own, with a refresh after each of them. -/
theorem programmatic_refresh_after_two_gestures :
    let events : List Event := [sampleDrag, .endRefreshing, .mainQueue, .mainQueue,
      .panState .began, .contentOffset ⟨0, 0⟩ true, sampleDrag, .endRefreshing, .mainQueue,
      .mainQueue]
    (run (MJRefreshView.step 1) sampleFooterInWindow events).view.state = .idle ∧
      ∀ done rest, events = done ++ rest →
        (run (MJRefreshView.step 1) sampleFooterInWindow done).view.state = .idle →
          (MJRefreshView.step 1 (run (MJRefreshView.step 1) sampleFooterInWindow done)
            .beginRefreshing).view.state = .refreshing :=
  ⟨by decide +kernel,
    (programmatic_refresh_iff 0 sampleFooterInWindow (by decide +kernel) (by decide +kernel)
      (by decide +kernel) (by decide +kernel) ⟨by decide +kernel, by decide +kernel⟩ _
      (by decide)).mpr (by decide +kernel)⟩

/-- A second drag in the same pan gesture is refused. The call of the application that follows it
is, too. -/
theorem programmatic_refresh_swallowed :
    let reached := run (MJRefreshView.step 1) sampleFooterInWindow
      [sampleDrag, .endRefreshing, .mainQueue, .mainQueue, .contentOffset ⟨0, 0⟩ true, sampleDrag]
    reached.view.observing = true ∧ reached.view.inWindow = true ∧ reached.view.state = .idle ∧
      (MJRefreshView.step 1 reached .beginRefreshing).view.state = .idle := by
  decide +kernel

end Component.Refresh

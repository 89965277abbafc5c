import Component.Refresh.StateMachine

/-!
# What the user sees and can touch

Two properties of the runs of an `MJRefreshView`, proved move by move. A view that refreshes or is
about to refresh is fully visible, although its opacity follows the pulling percentage at other
times and late completions still reset the percentage (`fully_visible_run`). This takes that the
application does not assign a refreshing state itself. A header that animates the bounds of its
scroll view disables it while the animation runs, and never leaves it disabled for good
(`interaction_restored`). This takes that the view is not moved to another scroll view during the
animation: the end of it would enable the new scroll view, and the one left would stay disabled.
-/

namespace Component.Refresh

open Component.Lib.Run

variable {ρ : Type}

/-! ## Opacity -/

/-- `setAutomaticallyChangeAlpha:`. -/
def MJRefreshComponent.setAutomaticallyChangeAlpha (automaticallyChangeAlpha : Bool) (s : Sys ρ) :
    Sys ρ :=
  s.mapView fun view => { view with
    automaticallyChangeAlpha := automaticallyChangeAlpha
    alpha := if view.isRefreshing then view.alpha
      else if automaticallyChangeAlpha then view.pullingPercent else 1 }

/-- What can happen to a view whose opacity may be set to follow the pulling percentage. -/
inductive AlphaEvent where
  | view (event : Event)
  | setAutomaticallyChangeAlpha (automaticallyChangeAlpha : Bool)
  deriving DecidableEq, Repr

/-- One event of a view whose opacity may be set to follow the pulling percentage. -/
def alphaStep (depth : Nat) (s : Sys Unit) : AlphaEvent → Sys Unit
  | .view event => MJRefreshView.step depth s event
  | .setAutomaticallyChangeAlpha automaticallyChangeAlpha =>
      MJRefreshComponent.setAutomaticallyChangeAlpha automaticallyChangeAlpha s

/-- The application does not set a refreshing state itself. -/
def AlphaEvent.begins : AlphaEvent → Bool
  | .view (.setState .refreshing) | .view (.setState .willRefresh) => false
  | _ => true

/-- A view that refreshes is fully visible. -/
def Sys.FullyVisible (s : Sys ρ) : Prop := s.view.isRefreshing = true → s.view.alpha = 1

/-- A refresh starts in a view that is fully visible or in one that is about to refresh. -/
theorem Sys.Allows.fully_visible {start s : Sys ρ} {event : Event} {state : MJRefreshState}
    (h : start.Allows event s state) (hevent : (AlphaEvent.view event).begins = true)
    (hs : s.FullyVisible) (hstate : state = .refreshing ∨ state = .willRefresh) :
    s.view.alpha = 1 := by
  have hscroll : ScrollAllows s state → s.view.alpha = 1 := by
    rcases hstate with rfl | rfl <;> exact And.left
  cases event with
  | contentOffset _ _ | panState _ | completion _ => exact hscroll h
  | beginRefreshing => exact h.1
  | setState new =>
      rcases h with rfl | h
      · rcases hstate with rfl | rfl <;> cases hevent
      · exact hscroll h
  | setHidden hidden => rcases hstate with rfl | rfl <;> cases h.2
  | drawRect => exact hs (by simp [RefreshView.isRefreshing, h.1])
  | mainQueue =>
      rcases h with ⟨-, rfl⟩ | h
      · rcases hstate with h | h <;> cases h
      · exact hscroll h
  | attach _ | detach | contentSize _ | reloadData _ | window _ | endRefreshing
  | layoutSubviews => exact h.elim

/-- No move of an event that sets no refreshing state itself hides a view that refreshes. -/
theorem Move.fully_visible {start s s' : Sys ρ} {event : Event} {adopts : UIScrollView → Prop}
    (hevent : (AlphaEvent.view event).begins = true) (hs : s.FullyVisible)
    (h : Move (start.Allows event) adopts s s') : s'.FullyVisible := by
  cases h with
  | write hconduct _ =>
      intro hrefreshing
      have hstate := congrArg Conduct.state hconduct
      rw [show s'.view.alpha = s.view.alpha from congrArg Conduct.alpha hconduct]
      refine hs ?_
      rwa [RefreshView.isRefreshing, ← show s'.view.state = s.view.state from hstate]
  | adopt | dispatch | animate | announce => exact hs
  | appear => exact fun _ => rfl
  | percent percent =>
      intro hrefreshing
      have hbefore : s.view.isRefreshing = true := hrefreshing
      simp only [MJRefreshComponent.setPullingPercent, Sys.mapView, hbefore, if_true]
      exact hs hbefore
  | fade hrest =>
      intro hrefreshing
      cases hrest.symm.trans hrefreshing
  | change state hallows _ =>
      intro hrefreshing
      refine hallows.fully_visible hevent hs ?_
      simpa [RefreshView.isRefreshing] using hrefreshing
  | freeze | release => simpa [Sys.FullyVisible] using hs

/-- In every run in which the application sets no refreshing state itself, a view that refreshes or
is about to refresh is fully visible. -/
theorem fully_visible_run (depth : Nat) (s : Sys Unit) (hs : s.FullyVisible)
    (events : List AlphaEvent) (hevents : ∀ event ∈ events, event.begins = true) :
    (run (alphaStep depth) s events).FullyVisible := by
  have hstep : ∀ state event, state.FullyVisible → event.begins = true →
      (alphaStep depth state event).FullyVisible := by
    intro state event hstate hevent
    cases event with
    | view event =>
        refine (reaches_step depth state event).invariant (fun _ _ => Move.fully_visible hevent) ?_
        rwa [Sys.FullyVisible, (arrive_frame state event).1]
    | setAutomaticallyChangeAlpha automaticallyChangeAlpha =>
        intro hrefreshing
        have hbefore : state.view.isRefreshing = true := hrefreshing
        simp only [alphaStep, MJRefreshComponent.setAutomaticallyChangeAlpha, Sys.mapView,
          hbefore, if_true]
        exact hstate hbefore
  exact run_invariant hstep hs (admissible_of_forall (alphaStep depth) s hevents)

/-- A header is refreshed again before the animation that ends the first refresh is over. Its late
completion resets the percentage, and the view stays visible. -/
theorem fully_visible_run_header :
    let events : List AlphaEvent := [.view (.attach sampleScrollView), .view (.window true),
      .setAutomaticallyChangeAlpha true, .view .beginRefreshing, .view .mainQueue,
      .view .endRefreshing, .view .mainQueue, .view .beginRefreshing, .view (.completion 1)]
    let start := Sys.start (MJRefreshView.refreshView false false false) sampleScrollView ()
    let s := run (alphaStep 2) start events
    s.view.state = .refreshing ∧ s.view.pullingPercent = 0 ∧ s.FullyVisible :=
  ⟨by decide +kernel, by decide +kernel,
    fully_visible_run 2 _ (fun _ => rfl) _ (by decide +kernel)⟩

/-! ## Interaction -/

/-- A bounds animation of the header has not stopped yet. -/
def Sys.Animating (s : Sys ρ) : Prop := ∃ key, .animationDidStop key ∈ s.completions

/-- A disabled scroll view is one the view has, and is disabled for an animation that runs. -/
structure Sys.Responsive (s : Sys ρ) : Prop where
  linked : s.scrollView.userInteractionEnabled = false → s.view.linked = true
  animating : s.scrollView.userInteractionEnabled = false → s.Animating

/-- A disabled scroll view belongs to the view. -/
theorem Move.linked {allows : Sys ρ → MJRefreshState → Prop} {adopts : UIScrollView → Prop}
    (hadopts : ∀ scrollView, adopts scrollView → scrollView.userInteractionEnabled = true)
    {s s' : Sys ρ} (hs : s.scrollView.userInteractionEnabled = false → s.view.linked = true)
    (h : Move allows adopts s s') :
    s'.scrollView.userInteractionEnabled = false → s'.view.linked = true := by
  cases h with
  | write hconduct hlinked =>
      intro hdisabled
      exact hlinked (hs ((congrArg Conduct.interactive hconduct).symm.trans hdisabled))
  | adopt scrollView hadopt =>
      intro hdisabled
      cases (hadopts _ hadopt).symm.trans hdisabled
  | percent | appear | fade | change | dispatch | animate | announce => exact hs
  | freeze | release =>
      unfold Sys.updateScroll
      split
      next hlinked => exact fun _ => hlinked
      · exact hs

/-- A disabled scroll view is disabled for an animation that runs. -/
theorem Move.animating {allows : Sys ρ → MJRefreshState → Prop} {adopts : UIScrollView → Prop}
    (hadopts : ∀ scrollView, adopts scrollView → scrollView.userInteractionEnabled = true)
    {s s' : Sys ρ} (hs : s.scrollView.userInteractionEnabled = false → s.Animating)
    (h : Move allows adopts s s') :
    s'.scrollView.userInteractionEnabled = false → s'.Animating := by
  cases h with
  | write hconduct _ =>
      intro hdisabled
      obtain ⟨key, hkey⟩ := hs ((congrArg Conduct.interactive hconduct).symm.trans hdisabled)
      have hcompletions : s'.completions = s.completions :=
        congrArg Conduct.completions hconduct
      exact ⟨key, hcompletions ▸ hkey⟩
  | adopt scrollView hadopt =>
      intro hdisabled
      cases (hadopts _ hadopt).symm.trans hdisabled
  | percent | appear | fade | change | dispatch | announce => exact hs
  | animate completion =>
      intro hdisabled
      obtain ⟨key, hkey⟩ := hs hdisabled
      exact ⟨key, List.mem_append_left _ hkey⟩
  | freeze key => exact fun _ => ⟨key, List.mem_append_right _ (List.mem_singleton_self _)⟩
  | release =>
      unfold Sys.updateScroll
      split
      · intro hdisabled
        cases hdisabled
      · exact hs

/-- When an animation stops, the scroll view is enabled again after whatever else happens. -/
theorem animation_did_stop_releases {notify : Notify ρ} (hnotify : Scrolls notify)
    (key : AnimationKey) (s : Sys ρ) :
    ∃ s', Reaches ScrollAllows (fun _ => False) s s' ∧
      (MJRefreshView.animationDidStop notify key s).scrollView =
        (s'.updateScroll (UIScrollView.setUserInteractionEnabled true)).scrollView := by
  cases key with
  | refreshing2IdleBounds => exact ⟨_, (Move.percent s 0).reaches, rfl⟩
  | refreshingBounds =>
      refine ⟨_, ?_, rfl⟩
      split
      · refine Reaches.set_content_offset (Reaches.update_scroll .refl ?_) ?_ _
        · exact fun _ => rfl
        · exact fun old new s' _ _ => hnotify.reaches old new s'
      · exact .refl

/-- After an animation has stopped the scroll view is enabled. -/
theorem interactive_of_animation_did_stop {notify : Notify ρ} (hnotify : Scrolls notify)
    (key : AnimationKey) {s : Sys ρ}
    (hs : s.scrollView.userInteractionEnabled = false → s.view.linked = true) :
    (MJRefreshView.animationDidStop notify key s).scrollView.userInteractionEnabled = true := by
  obtain ⟨s', hreaches, hscroll⟩ := animation_did_stop_releases hnotify key s
  have hlinked := hreaches.invariant (fun _ _ => Move.linked (fun _ => False.elim)) hs
  rw [hscroll]
  unfold Sys.updateScroll
  split
  · rfl
  next hnone => exact Bool.not_eq_false _ ▸ fun hdisabled => hnone (hlinked hdisabled)

/-- The view is attached to scroll views only that are enabled. -/
def Event.attachesEnabled : Event → Bool
  | .attach scrollView => scrollView.userInteractionEnabled
  | _ => true

/-- No event that attaches the view to enabled scroll views only leaves a scroll view disabled. -/
theorem Sys.Responsive.step {s : Sys Unit} (hs : s.Responsive) (depth : Nat) {event : Event}
    (hevent : event.attachesEnabled = true) : (MJRefreshView.step depth s event).Responsive := by
  have hadopts : ∀ scrollView, event.Adopts scrollView →
      scrollView.userInteractionEnabled = true := by
    rintro scrollView rfl
    exact hevent
  have hlinked : (s.arrive event).scrollView.userInteractionEnabled = false →
      (s.arrive event).view.linked = true := by
    cases event <;> exact hs.linked
  refine ⟨(reaches_step depth s event).invariant (fun _ _ => Move.linked hadopts) hlinked, ?_⟩
  have hkeeps : ((s.arrive event).scrollView.userInteractionEnabled = false →
      (s.arrive event).Animating) →
      (MJRefreshView.step depth s event).scrollView.userInteractionEnabled = false →
      (MJRefreshView.step depth s event).Animating :=
    fun h => (reaches_step depth s event).invariant (fun _ _ => Move.animating hadopts) h
  cases event with
  | completion index =>
      -- the one event after which an animation may be missing that the scroll view is disabled for
      cases hindex : s.completions[index]? with
      | none =>
          rw [MJRefreshView.step, RefreshClass.handle_completion_none _ _ hindex]
          exact hs.animating
      | some completion =>
          cases completion with
          | animationDidStop key =>
              rw [MJRefreshView.step, RefreshClass.handle_completion_some _ _ hindex]
              intro hdisabled
              have henabled := interactive_of_animation_did_stop (scrolls_notify_within depth) key
                hlinked
              cases henabled.symm.trans hdisabled
          | executeRefreshingCallback | endRefreshing | endRefreshingPaging =>
              refine hkeeps fun hdisabled => ?_
              obtain ⟨key, hkey⟩ := hs.animating hdisabled
              obtain ⟨other, hother⟩ := List.mem_iff_getElem?.mp hkey
              refine ⟨key, List.mem_eraseIdx_iff_getElem?.mpr ⟨other, ?_, hother⟩⟩
              rintro rfl
              cases hindex.symm.trans hother
  | _ => exact hkeeps hs.animating

/-- A view with the scroll views that it has left, each as the view has left it. -/
structure Hosted where
  sys : Sys Unit
  left : List UIScrollView

/-- One event of a view that may be moved from one scroll view to another. -/
def Hosted.step (depth : Nat) (hosted : Hosted) (event : Event) : Hosted where
  sys := MJRefreshView.step depth hosted.sys event
  left := match event with
    | .attach _ =>
        if hosted.sys.view.linked then hosted.sys.scrollView :: hosted.left else hosted.left
    | _ => hosted.left

/-- The view is moved between scroll views only that are enabled at that moment. -/
def Hosted.movesEnabled (hosted : Hosted) : Event → Bool
  | .attach scrollView =>
      hosted.sys.scrollView.userInteractionEnabled && scrollView.userInteractionEnabled
  | _ => true

/-- The scroll views that the view has left are enabled, and the one that it has is responsive. -/
structure Hosted.Responsive (hosted : Hosted) : Prop where
  left : ∀ scrollView ∈ hosted.left, scrollView.userInteractionEnabled = true
  current : hosted.sys.Responsive

/-- Whatever happens to a view that is moved between enabled scroll views, none is left
disabled. -/
theorem Hosted.Responsive.step {hosted : Hosted} (h : hosted.Responsive) (depth : Nat)
    {event : Event} (hevent : hosted.movesEnabled event = true) :
    (hosted.step depth event).Responsive := by
  have hattaches : event.attachesEnabled = true := by
    cases event with
    | attach scrollView => exact (Bool.and_eq_true_iff.mp hevent).2
    | _ => rfl
  refine ⟨?_, h.current.step depth hattaches⟩
  cases event with
  | attach scrollView =>
      intro other hother
      dsimp only [Hosted.step] at hother
      split at hother
      · rcases List.mem_cons.mp hother with rfl | hother
        · exact (Bool.and_eq_true_iff.mp hevent).1
        · exact h.left other hother
      · exact h.left other hother
  | _ => exact h.left

/-- As long as the scroll view is disabled a bounds animation runs. When no completion is pending,
the scroll view can be used, and so can the scroll views that the view has left, provided that it
was moved while the scroll view it had was enabled. -/
theorem interaction_restored (depth : Nat) (view : RefreshView) (scrollView : UIScrollView)
    (henabled : scrollView.userInteractionEnabled = true) (events : List Event)
    (hevents : Admissible (Hosted.step depth) (fun hosted event => hosted.movesEnabled event = true)
      ⟨Sys.start view scrollView (), []⟩ events) :
    let hosted := run (Hosted.step depth) ⟨Sys.start view scrollView (), []⟩ events
    (∀ left ∈ hosted.left, left.userInteractionEnabled = true) ∧
      (hosted.sys.scrollView.userInteractionEnabled = false →
        hosted.sys.view.linked = true ∧ hosted.sys.Animating) := by
  intro hosted
  have hstart : (Sys.start view scrollView ()).Responsive := by
    constructor <;> intro h <;> cases henabled.symm.trans h
  have hinit : Hosted.Responsive ⟨Sys.start view scrollView (), []⟩ :=
    ⟨fun _ h => (nomatch h), hstart⟩
  have hrun : hosted.Responsive :=
    run_invariant (fun _ _ h hevent => h.step depth hevent) hinit hevents
  exact ⟨hrun.left, fun hdisabled =>
    ⟨hrun.current.linked hdisabled, hrun.current.animating hdisabled⟩⟩

/-- A header on a collection view animates the bounds of its scroll view when it starts to refresh.
After the animation it is moved to another collection view and starts to refresh again. -/
theorem interaction_restored_header :
    let view := { MJRefreshView.refreshView false false false with
      isCollectionViewAnimationBug := true }
    let events : List Event := [.attach sampleScrollView, .window true, .beginRefreshing,
      .completion 0, .endRefreshing, .mainQueue, .mainQueue, .completion 0,
      .attach sampleScrollView, .beginRefreshing]
    let hosted := run (Hosted.step 2) ⟨Sys.start view sampleScrollView (), []⟩ events
    hosted.left.length = 1 ∧ hosted.sys.scrollView.userInteractionEnabled = false ∧
      (∀ left ∈ hosted.left, left.userInteractionEnabled = true) ∧
      (hosted.sys.scrollView.userInteractionEnabled = false →
        hosted.sys.view.linked = true ∧ hosted.sys.Animating) :=
  ⟨by decide +kernel, by decide +kernel,
    interaction_restored 2 _ sampleScrollView rfl _ (by decide +kernel)⟩

end Component.Refresh

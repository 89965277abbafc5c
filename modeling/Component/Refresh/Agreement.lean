import Component.Refresh.Across
import Component.Refresh.Dedicated

/-!
# Classes that agree with `MJRefreshView`

A class agrees with `MJRefreshView` if views of both classes look alike after every event, once
everything pending is drained. It suffices that each event leads both views to the same state up to
the position across the axis (`Follows`).
-/

namespace Component.Refresh

open Component.Lib.Run

/-- Two views of different classes look alike to the application: what it can observe of them and
of their scroll views is the same, except for the position across the axis. -/
structure Sys.Agrees (s t : Sys Unit) : Prop where
  state : s.view.state = t.view.state
  pullingPercent : s.view.pullingPercent = t.view.pullingPercent
  insetTDelta : s.view.insetTDelta = t.view.insetTDelta
  lastBottomDelta : s.view.lastBottomDelta = t.view.lastBottomDelta
  triggerByDrag : s.view.triggerByDrag = t.view.triggerByDrag
  leftTriggerTimes : s.view.leftTriggerTimes = t.view.leftTriggerTimes
  scrollViewOriginalInset : s.view.scrollViewOriginalInset = t.view.scrollViewOriginalInset
  position : s.view.frame.y = t.view.frame.y
  inset : s.scrollView.mjInset = t.scrollView.mjInset
  contentOffset : s.scrollView.contentOffset = t.scrollView.contentOffset
  fired : s.fired = t.fired

/-- A system agrees with itself after the view has been moved across. -/
theorem Sys.agrees_place (x : CGFloat) (bounce : Bool) (s : Sys Unit) :
    s.Agrees (s.place x bounce) :=
  ⟨rfl, rfl, rfl, rfl, rfl, rfl, rfl, rfl, rfl, rfl, rfl⟩

/-- The dedicated classes attach a view as `MJRefreshView` does, up to the position across the
axis, wherever it was before. -/
theorem component_attach_place {s : Sys Unit} (hvertical : s.view.horizontalDirection = false)
    (x : CGFloat) (bounce : Bool) (scrollView : UIScrollView) :
    MJRefreshComponent.willMoveToSuperview (some scrollView) (s.place x bounce) =
      (MJRefreshView.componentWillMoveToSuperview (some scrollView) s).place
        (-scrollView.mjInset.left) scrollView.alwaysBounceHorizontal := by
  have hinset : ({ scrollView with alwaysBounceVertical := true } : UIScrollView).mjInset =
      scrollView.mjInset := rfl
  rw [MJRefreshView.component_attach hvertical]
  simp [MJRefreshComponent.willMoveToSuperview, MJRefreshComponent.rememberInset, Sys.sv,
    Sys.updateScroll, Sys.place, Sys.mapView, Sys.mapScroll, hinset]

section Follows

variable (d : RefreshClass Unit) (viewNotify notify : Notify Unit) (keeps : Sys Unit → Prop)
  (ok : Sys Unit → Event → Prop)

/-- Every event that meets the condition `ok` leads views of both classes to the same state up to
the position across the axis, and there is only one way to drain them. -/
def Follows : Prop :=
  ∀ s x bounce event, keeps s → s.Drained → ok s event → ∃ final x' bounce',
    MJRefreshView.refreshClass.DrainsTo viewNotify 3
      (MJRefreshView.refreshClass.handle viewNotify s event) final ∧
    d.DrainsTo notify 3 (d.handle notify (Sys.place x bounce s) event)
      (Sys.place x' bounce' final) ∧ keeps final

variable {d viewNotify notify keeps ok}

/-- Away from attaching it suffices to compare the two classes at the same position. -/
theorem DrainAlike.follow (hviewNotify : KeepsPlace viewNotify) {s : Sys Unit} {x : CGFloat}
    {bounce : Bool} {event : Event} (hvertical : s.view.horizontalDirection = false)
    (hattach : ∀ scrollView, event ≠ .attach scrollView) (hdetach : event ≠ .detach)
    (hhere : DrainAlike MJRefreshView.refreshClass d viewNotify notify keeps
      (MJRefreshView.refreshClass.handle viewNotify s event) (d.handle notify s event))
    (hthere : DrainAlike MJRefreshView.refreshClass d viewNotify notify keeps
      (MJRefreshView.refreshClass.handle viewNotify (s.place x bounce) event)
      (d.handle notify (s.place x bounce) event)) :
    ∃ final x' bounce', MJRefreshView.refreshClass.DrainsTo viewNotify 3
        (MJRefreshView.refreshClass.handle viewNotify s event) final ∧
      d.DrainsTo notify 3 (d.handle notify (s.place x bounce) event)
        (Sys.place x' bounce' final) ∧ keeps final := by
  obtain ⟨final, hview, _, hkeeps⟩ := hhere
  obtain ⟨final', hview', hother, _⟩ := hthere
  have hfinal : final' = final.place x bounce := by
    rw [← hview'.drain_eq, ← hview.drain_eq,
      MJRefreshView.place_handle x bounce hviewNotify hvertical hattach hdetach,
      MJRefreshView.place_drain x bounce hviewNotify]
  exact ⟨final, x, bounce, hview, hfinal ▸ hother, hkeeps⟩

/-- A class that follows `MJRefreshView` agrees with it after every run, and in both classes there
is only one way to drain what is pending after each event. What `keeps` says of the view holds
throughout. -/
theorem Follows.agree_run (hfollows : Follows d viewNotify notify keeps ok) {s : Sys Unit}
    (hkeeps : keeps s) (hdrained : s.Drained) (x : CGFloat) (bounce : Bool) {events : List Event}
    (hok : Admissible (MJRefreshView.refreshClass.drainedStep viewNotify) ok s events) :
    (∀ final, SettledRun (MJRefreshView.refreshClass.Internal viewNotify) Sys.Drained
        (MJRefreshView.refreshClass.handle viewNotify) s events final ↔
      final = run (MJRefreshView.refreshClass.drainedStep viewNotify) s events) ∧
    (∀ final, SettledRun (d.Internal notify) Sys.Drained (d.handle notify) (s.place x bounce)
        events final ↔ final = run (d.drainedStep notify) (s.place x bounce) events) ∧
    (run (MJRefreshView.refreshClass.drainedStep viewNotify) s events).Agrees
      (run (d.drainedStep notify) (s.place x bounce) events) ∧
    keeps (run (MJRefreshView.refreshClass.drainedStep viewNotify) s events) ∧
    (run (MJRefreshView.refreshClass.drainedStep viewNotify) s events).Drained := by
  induction events generalizing s x bounce with
  | nil =>
      exact ⟨fun _ => settled_run_nil, fun _ => settled_run_nil, Sys.agrees_place x bounce s,
        hkeeps, hdrained⟩
  | cons event events ih =>
      obtain ⟨final, x', bounce', hview, hother, hfinal⟩ :=
        hfollows s x bounce event hkeeps hdrained hok.1
      have hviewStep : MJRefreshView.refreshClass.drainedStep viewNotify s event = final :=
        hview.drain_eq
      have hotherStep : d.drainedStep notify (s.place x bounce) event =
          final.place x' bounce' := hother.drain_eq
      have hrest := hok.2
      rw [hviewStep] at hrest
      obtain ⟨hviewRun, hotherRun, hreached⟩ := ih hfinal hview.drained x' bounce' hrest
      refine ⟨fun last => ?_, fun last => ?_, ?_⟩
      · rw [settled_run_cons hview.settles_iff, hviewRun, run_cons, hviewStep]
      · rw [settled_run_cons hother.settles_iff, hotherRun, run_cons, hotherStep]
      · rw [run_cons, run_cons, hviewStep, hotherStep]
        exact hreached

end Follows

end Component.Refresh

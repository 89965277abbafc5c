import Component.Lib.Run
import Component.Refresh.System

/-!
# Draining what is pending

Blocks on the main queue run in order and completions in any order (`Internal`). When never more
than one of them is pending there is only one way to drain a view. `drain` computes where it leads,
and `DrainsTo` follows it step by step.
-/

namespace Component.Refresh

open Component.Lib.Run

variable {ρ : Type}

namespace RefreshClass

variable (c : RefreshClass ρ) (notify : Notify ρ)

/-- The block at the head of the main queue runs, or any of the completions. -/
inductive Internal : Sys ρ → Sys ρ → Prop where
  | mainQueue {s : Sys ρ} : s.mainQueue ≠ [] → Internal s (c.handle notify s .mainQueue)
  | completion {s : Sys ρ} {index : Nat} : index < s.completions.length →
      Internal s (c.handle notify s (.completion index))

/-- Drains the main queue and the completions, for at most `fuel` steps. -/
def drain : Nat → Sys ρ → Sys ρ
  | 0, s => s
  | fuel + 1, s =>
      if s.mainQueue ≠ [] then drain fuel (c.handle notify s .mainQueue)
      else if s.completions ≠ [] then drain fuel (c.handle notify s (.completion 0))
      else s

/-- An event, after which everything pending is drained. No event of a single view leaves more than
three steps to do. -/
def drainedStep (s : Sys ρ) (event : Event) : Sys ρ := c.drain notify 3 (c.handle notify s event)

/-- Draining takes at most the given number of steps, and there is never a choice. -/
inductive DrainsTo : Nat → Sys ρ → Sys ρ → Prop where
  | done {fuel : Nat} {s : Sys ρ} : s.Drained → DrainsTo fuel s s
  | block {fuel : Nat} {s t : Sys ρ} {block : Block} :
      s.mainQueue = [block] → s.completions = [] →
      DrainsTo fuel (c.runBlock notify block { s with mainQueue := [] }) t →
      DrainsTo (fuel + 1) s t
  | completion {fuel : Nat} {s t : Sys ρ} {completion : Completion} :
      s.mainQueue = [] → s.completions = [completion] →
      DrainsTo fuel (c.runCompletion notify completion { s with completions := [] }) t →
      DrainsTo (fuel + 1) s t

/-- The only pending completion leaves the list empty and runs. -/
theorem handle_only_completion {s : Sys ρ} {completion : Completion}
    (h : s.completions = [completion]) :
    c.handle notify s (.completion 0) =
      c.runCompletion notify completion { s with completions := [] } := by
  have hfirst : s.completions[0]? = some completion := by
    rw [h]
    rfl
  rw [c.handle_completion_some notify hfirst, h]
  rfl

end RefreshClass

namespace RefreshClass.DrainsTo

variable {c : RefreshClass ρ} {notify : Notify ρ} {fuel : Nat} {s t : Sys ρ}

/-- What a system drains to has nothing pending. -/
theorem drained (h : c.DrainsTo notify fuel s t) : t.Drained := by
  induction h with
  | done hdrained => exact hdrained
  | block _ _ _ ih => exact ih
  | completion _ _ _ ih => exact ih

/-- Draining gives the state that the system drains to. -/
theorem drain_eq (h : c.DrainsTo notify fuel s t) : c.drain notify fuel s = t := by
  induction h with
  | @done fuel s hdrained =>
      cases fuel with
      | zero => rfl
      | succ fuel => simp [drain, hdrained.1, hdrained.2]
  | block hqueue _ _ ih =>
      rw [drain, if_pos (by simp [hqueue]), c.handle_main_queue_cons notify hqueue]
      exact ih
  | completion hqueue hcompletions _ ih =>
      rw [drain, if_neg (by simp [hqueue]), if_pos (by simp [hcompletions]),
        c.handle_only_completion notify hcompletions]
      exact ih

/-- Everything pending can be drained, and there is only one result. -/
theorem settles_iff (h : c.DrainsTo notify fuel s t) (final : Sys ρ) :
    Settles (c.Internal notify) Sys.Drained s final ↔ final = t := by
  induction h with
  | @done fuel s hdrained =>
      refine settles_quiet hdrained (fun middle hstep => ?_)
      cases hstep with
      | mainQueue hqueue => exact hqueue hdrained.1
      | completion hindex => simp [hdrained.2] at hindex
  | @block fuel s t block hqueue hcompletions _ ih =>
      rw [← ih]
      refine settles_unique (fun hdrained => ?_) (fun middle => ⟨fun hstep => ?_, fun h => ?_⟩)
      · rw [Sys.Drained, hqueue] at hdrained
        cases hdrained.1
      · cases hstep with
        | mainQueue _ => exact c.handle_main_queue_cons notify hqueue
        | completion hindex => simp [hcompletions] at hindex
      · rw [h, ← c.handle_main_queue_cons notify hqueue]
        exact .mainQueue (by simp [hqueue])
  | @completion fuel s t completion hqueue hcompletions _ ih =>
      have hhandle := c.handle_only_completion notify hcompletions
      rw [← ih]
      refine settles_unique (fun hdrained => ?_) (fun middle => ⟨fun hstep => ?_, fun h => ?_⟩)
      · rw [Sys.Drained, hcompletions] at hdrained
        cases hdrained.2
      · cases hstep with
        | mainQueue hpending => exact absurd hqueue hpending
        | @completion index hindex =>
            have hzero : index = 0 := by
              rw [hcompletions, List.length_singleton] at hindex
              omega
            rw [hzero]
            exact hhandle
      · rw [h, ← hhandle]
        exact .completion (by simp [hcompletions])

end RefreshClass.DrainsTo

/-- Being drained depends on what is pending only. -/
theorem Sys.Drained.congr {s t : Sys ρ} (h : s.Drained) (hqueue : t.mainQueue = s.mainQueue)
    (hcompletions : t.completions = s.completions) : t.Drained :=
  ⟨hqueue.trans h.1, hcompletions.trans h.2⟩

/-- At most one thing is pending, and what it does is the same in every class. -/
inductive Sys.OnePending : Sys ρ → Prop where
  | none {s : Sys ρ} : s.Drained → OnePending s
  | block {s : Sys ρ} : s.mainQueue = [.refreshingCallback] → s.completions = [] → OnePending s
  | completion {s : Sys ρ} {completion : Completion} :
      s.mainQueue = [] → s.completions = [completion] →
      (∀ key, completion ≠ .animationDidStop key) → OnePending s

/-- Having one thing pending depends on what is pending only. -/
theorem Sys.OnePending.congr {s t : Sys ρ} (h : s.OnePending) (hqueue : t.mainQueue = s.mainQueue)
    (hcompletions : t.completions = s.completions) : t.OnePending := by
  cases h with
  | none hdrained => exact .none (hdrained.congr hqueue hcompletions)
  | block hblock hnone => exact .block (hqueue.trans hblock) (hcompletions.trans hnone)
  | completion hnone hcompletion hkey =>
      exact .completion (hqueue.trans hnone) (hcompletions.trans hcompletion) hkey

/-- A drained system that starts an animation has one thing pending. -/
theorem Sys.Drained.animate {s : Sys ρ} (h : s.Drained) {completion : Completion}
    (hkey : ∀ key, completion ≠ .animationDidStop key) : (s.animate completion).OnePending := by
  have hcompletions : (s.animate completion).completions = [completion] := by
    rw [Sys.animate_completions, h.2]
    rfl
  exact .completion h.1 hcompletions hkey

/-- What one pending block or completion leads to does not depend on the class, and at most the
pulling percentage of the view is reset. -/
theorem Sys.OnePending.drains {s : Sys ρ} (h : s.OnePending) :
    ∃ t : Sys ρ, (∀ (c : RefreshClass ρ) notify fuel, c.DrainsTo notify (fuel + 2) s t) ∧
      (t.view = s.view ∨ t.view = (MJRefreshComponent.setPullingPercent 0 s).view) := by
  cases h with
  | none hdrained => exact ⟨s, fun _ _ _ => .done hdrained, .inl rfl⟩
  | block hqueue hcompletions =>
      exact ⟨_, fun _ _ _ => .block hqueue hcompletions (.done ⟨rfl, hcompletions⟩), .inl rfl⟩
  | @completion completion hqueue hcompletions hkey =>
      cases completion with
      | executeRefreshingCallback =>
          have hcallback : (MJRefreshComponent.executeRefreshingCallback
              ({ s with completions := [] } : Sys ρ)).mainQueue = [.refreshingCallback] := by
            show s.mainQueue ++ [.refreshingCallback] = _
            rw [hqueue]
            rfl
          exact ⟨({ s with mainQueue := [], completions := [] } : Sys ρ).fire .refreshing,
            fun _ _ _ => .completion hqueue hcompletions (.block hcallback rfl (.done ⟨rfl, rfl⟩)),
            .inl rfl⟩
      | endRefreshing =>
          exact ⟨_, fun _ _ _ => .completion hqueue hcompletions (.done ⟨hqueue, rfl⟩), .inr rfl⟩
      | endRefreshingPaging =>
          exact ⟨_, fun _ _ _ => .completion hqueue hcompletions (.done ⟨hqueue, rfl⟩), .inl rfl⟩
      | animationDidStop key => exact absurd rfl (hkey key)

/-- Two views drain to the same state, which has the property `keeps`. -/
def DrainAlike (c d : RefreshClass ρ) (notify notify' : Notify ρ) (keeps : Sys ρ → Prop)
    (s t : Sys ρ) : Prop :=
  ∃ final, c.DrainsTo notify 3 s final ∧ d.DrainsTo notify' 3 t final ∧ keeps final

section Alike

variable {c d : RefreshClass ρ} {notify notify' : Notify ρ} {keeps : Sys ρ → Prop}

/-- The property survives a change of the pulling percentage. -/
def Stable (keeps : Sys ρ → Prop) : Prop :=
  ∀ s t : Sys ρ, keeps s →
    t.view = s.view ∨ t.view = (MJRefreshComponent.setPullingPercent 0 s).view → keeps t

/-- A property of views that says which values some of their fields have. -/
def Fixes {α : Type} (keeps : Sys ρ → Prop) (fields : RefreshView → α) (values : α) : Prop :=
  ∀ s, keeps s ↔ fields s.view = values

/-- Such a property carries over to every view with the same values. -/
theorem Fixes.congr {α : Type} {fields : RefreshView → α} {values : α}
    (h : Fixes keeps fields values) {s t : Sys ρ} (hs : keeps s)
    (hfields : fields t.view = fields s.view) : keeps t :=
  (h t).mpr (hfields.trans ((h s).mp hs))

/-- Such a property survives a change of the pulling percentage. -/
theorem Fixes.stable {α : Type} {fields : RefreshView → α} {values : α}
    (h : Fixes keeps fields values)
    (hpercent : ∀ s : Sys ρ,
      fields (MJRefreshComponent.setPullingPercent 0 s).view = fields s.view) : Stable keeps := by
  rintro s t hs (hview | hview)
  · exact h.congr hs (congrArg fields hview)
  · exact h.congr hs ((congrArg fields hview).trans (hpercent s))

/-- Views in the same state with at most one thing pending drain alike. -/
theorem drain_alike_of_pending (hstable : Stable keeps) {s t : Sys ρ} (hsame : t = s)
    (hpending : keeps s ∧ s.OnePending) : DrainAlike c d notify notify' keeps s t := by
  subst hsame
  obtain ⟨final, hdrains, hview⟩ := hpending.2.drains
  exact ⟨final, hdrains _ _ 1, hdrains _ _ 1, hstable t final hpending.1 hview⟩

/-- Views in the same state with nothing pending drain alike. -/
theorem drain_alike_of_drained (hstable : Stable keeps) (u : Sys ρ) {s t : Sys ρ} (hs : s = u)
    (ht : t = u) (hkeeps : keeps u) (hdrained : u.Drained) :
    DrainAlike c d notify notify' keeps s t := by
  subst hs
  exact drain_alike_of_pending hstable ht ⟨hkeeps, .none hdrained⟩

/-- The end of a refresh is drained alike if the state is set alike. -/
theorem drain_alike_end_refreshing (hstable : Stable keeps) {s : Sys ρ} (hdrained : s.Drained)
    (hset : d.setState notify' .idle s = c.setState notify .idle s)
    (hpending : keeps (c.setState notify .idle s) ∧ (c.setState notify .idle s).OnePending) :
    DrainAlike c d notify notify' keeps (MJRefreshComponent.endRefreshing s)
      (MJRefreshComponent.endRefreshing s) := by
  have hqueue : (MJRefreshComponent.endRefreshing s).mainQueue = [.endRefreshing] := by
    rw [MJRefreshComponent.endRefreshing, Sys.dispatchAsync_mainQueue, hdrained.1]
    rfl
  have hback : ({ MJRefreshComponent.endRefreshing s with mainQueue := [] } : Sys ρ) = s := by
    rw [← hdrained.1]
    rfl
  obtain ⟨final, hdrains, hview⟩ := hpending.2.drains
  refine ⟨final, .block hqueue hdrained.2 ?_, .block hqueue hdrained.2 ?_,
    hstable _ final hpending.1 hview⟩
  · rw [hback]
    exact hdrains _ _ 0
  · rw [hback]
    show RefreshClass.DrainsTo _ _ _ (d.setState notify' .idle s) final
    rw [hset]
    exact hdrains _ _ 0

/-- Drawing a view is drained alike if beginning a refresh is. -/
theorem drain_alike_draw_rect (hstable : Stable keeps) {s : Sys ρ} (hkeeps : keeps s)
    (hdrained : s.Drained)
    (hset : DrainAlike c d notify notify' keeps (c.setState notify .refreshing s)
      (d.setState notify' .refreshing s)) :
    DrainAlike c d notify notify' keeps (c.handle notify s .drawRect)
      (d.handle notify' s .drawRect) := by
  show DrainAlike _ _ _ _ _ (if s.view.state = .willRefresh then c.setState notify .refreshing s
    else s) (if s.view.state = .willRefresh then d.setState notify' .refreshing s else s)
  split
  · exact hset
  · exact drain_alike_of_drained hstable s rfl rfl hkeeps hdrained

end Alike

end Component.Refresh

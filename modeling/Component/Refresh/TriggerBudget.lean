import Component.Lib.Run
import Component.Refresh.Trigger

/-!
# The drag budget of an auto footer

`autoTriggerTimes` bounds how many refreshes drags may start between two beginnings of the pan
gesture. `trigger_budget_kept` proves the bound for runs in which neither it nor the state is set
from outside: every refresh started with `triggerByDrag` set spends one of the times that are left,
and a running one has its time still to spend (`Trigger.Within`).

The counter is decremented when a flagged refresh ends, and minus one means that there is no bound.
When the bound is changed during a refresh, or the state is set after a drag that was refused, the
counter may be zero by then. `unlimited_never_iff` says that this is the only way to minus one.
-/

namespace Component.Refresh

open Component.Lib.Run

variable {ρ : Type}

/-! ## Refreshes started by a drag -/

/-- The change of the state starts a refresh. -/
def isStart (transition : MJRefreshState × MJRefreshState) : Bool :=
  transition.1 = .idle && (transition.2 = .refreshing || transition.2 = .willRefresh)

/-- The refreshes started from one trigger to another with `triggerByDrag` set. The flag is neither
set nor cleared between the start of a refresh and the end of the event, so it is read there. -/
def Trigger.dragStarts (t t' : Trigger) : Nat :=
  if t'.triggerByDrag then (t'.transitions.drop t.transitions.length).countP isStart else 0

/-- The refreshes started in a run with `triggerByDrag` set. -/
def dragStarts (depth : Nat) : Sys Unit → List Event → Nat
  | _, [] => 0
  | s, event :: events =>
      let next := MJRefreshView.step depth s event
      s.trigger.dragStarts next.trigger + dragStarts depth next events

/-- The refreshes that drags may still start. A flagged refresh that is running has its time still
to spend. -/
def Trigger.budget (t : Trigger) : Int :=
  t.leftTriggerTimes - if t.triggerByDrag = true ∧ t.state ≠ .idle then 1 else 0

/-- The counter of a footer is within its bound, and a flagged refresh that is running has its time
still to spend. -/
structure Trigger.Within (times : Int) (t : Trigger) : Prop where
  auto : t.IsAuto
  times_eq : t.autoTriggerTimes = times
  nonneg : 0 ≤ t.leftTriggerTimes
  le : t.leftTriggerTimes ≤ times
  running : t.triggerByDrag = true → t.state ≠ .idle → 1 ≤ t.leftTriggerTimes

/-- The footer stays within its bound, and every refresh that a drag has started is paid for. -/
structure Trigger.Spent (times : Int) (t t' : Trigger) : Prop where
  within : t'.Within times
  appended : ∃ new, t'.transitions = t.transitions ++ new
  budget : t'.budget + t.dragStarts t' ≤ t.budget

namespace Trigger

variable {times : Int} {t t' : Trigger}

/-- The budget is never negative. -/
theorem Within.budget_nonneg (h : t.Within times) : 0 ≤ t.budget := by
  unfold budget
  split
  next hrunning =>
    have := h.running hrunning.1 hrunning.2
    omega
  next =>
    have := h.nonneg
    omega

/-- The budget is at most the number of drags that are left. -/
theorem budget_le (t : Trigger) : t.budget ≤ t.leftTriggerTimes := by
  unfold budget
  split <;> omega

/-- The refreshes started by a drag are counted in the changes of the state that have been added. -/
theorem drag_starts_of_append (t t' : Trigger) {new : List (MJRefreshState × MJRefreshState)}
    (h : t'.transitions = t.transitions ++ new) :
    t.dragStarts t' = if t'.triggerByDrag then new.countP isStart else 0 := by
  rw [dragStarts, h, List.drop_left]

/-- Without a change no refresh has been started. -/
theorem drag_starts_self (t : Trigger) : t.dragStarts t = 0 := by
  rw [drag_starts_of_append t t (List.append_nil _).symm]
  split <;> rfl

/-- Without a change nothing has been spent. -/
theorem Within.spent_refl (h : t.Within times) : Spent times t t :=
  ⟨h, ⟨[], (List.append_nil _).symm⟩, by rw [drag_starts_self]; omega⟩

/-- A change of the state that starts no refresh, before what follows. -/
theorem Spent.of_move {transition : MJRefreshState × MJRefreshState} {t'' : Trigger}
    (h : Spent times t' t'') (hmove : t'.transitions = t.transitions ++ [transition])
    (hstart : isStart transition = false) (hbudget : t'.budget ≤ t.budget) :
    Spent times t t'' := by
  obtain ⟨new, hnew⟩ := h.appended
  have happended : t''.transitions = t.transitions ++ transition :: new := by
    rw [hnew, hmove, List.append_assoc]
    rfl
  refine ⟨h.within, ⟨_, happended⟩, ?_⟩
  have hspent := h.budget
  rw [drag_starts_of_append t' t'' hnew] at hspent
  rw [drag_starts_of_append t t'' happended, List.countP_cons_of_neg (by simp [hstart])]
  omega

/-- A notification that starts a flagged refresh spends one of the times left. -/
theorem Within.spent_of_nudged (h : t.Within times) (hnudged : Nudged t t') :
    Spent times t t' := by
  cases hnudged with
  | none => exact h.spent_refl
  | flagged dragging hidle =>
      refine ⟨⟨h.auto, h.times_eq, h.nonneg, h.le, fun _ hnot => absurd hidle hnot⟩,
        ⟨[], (List.append_nil _).symm⟩, ?_⟩
      have hstarts : t.dragStarts (t.flag dragging) = 0 := by
        rw [drag_starts_of_append t (t.flag dragging) (List.append_nil _).symm]
        split <;> rfl
      have hbudget : (t.flag dragging).budget = t.budget := by
        simp [budget, flag, hidle]
      rw [hstarts, hbudget]
      omega
  | @started dragging state hidle hstate hpermits =>
      -- a flagged refresh is refused when no times are left
      have hleft : (t.flag dragging).triggerByDrag = true → 1 ≤ t.leftTriggerTimes := by
        intro hdrag
        by_contra hzero
        have hnonneg := h.nonneg
        refine hpermits ⟨hdrag, ?_, ?_⟩ <;> simp only [flag] <;> omega
      have hactive : state ≠ .idle := by
        rcases hstate with rfl | rfl <;> decide
      have hstart : isStart ((t.flag dragging).state, state) = true := by
        rw [show (t.flag dragging).state = .idle from hidle]
        rcases hstate with rfl | rfl <;> rfl
      refine ⟨⟨h.auto, h.times_eq, h.nonneg, h.le, fun hdrag _ => hleft hdrag⟩,
        ⟨[((t.flag dragging).state, state)], rfl⟩, ?_⟩
      have hstarts : t.dragStarts ((t.flag dragging).moveTo state) =
          if (t.flag dragging).triggerByDrag then 1 else 0 := by
        rw [drag_starts_of_append t ((t.flag dragging).moveTo state) rfl,
          List.countP_singleton, if_pos hstart]
        rfl
      have hbefore : t.budget = t.leftTriggerTimes := by
        simp [budget, hidle]
      have hafter : ((t.flag dragging).moveTo state).budget =
          t.leftTriggerTimes - if (t.flag dragging).triggerByDrag then 1 else 0 := by
        simp [budget, moveTo, hactive, flag]
      rw [hstarts, hbefore, hafter]
      split <;> simp

/-- Neither does a change of the state of a footer that is not idle start a refresh. -/
theorem Within.spent_of_moved (h : t.Within times) (hidle : t.state ≠ .idle)
    {state : MJRefreshState} (hstate : state ≠ .idle) : Spent times t (t.moveTo state) := by
  have hmoved : (t.moveTo state).Within times :=
    ⟨h.auto, h.times_eq, h.nonneg, h.le, fun hdrag _ => h.running hdrag hidle⟩
  refine hmoved.spent_refl.of_move rfl (by simp [isStart, hidle]) (le_of_eq ?_)
  simp [budget, moveTo, hidle, hstate]

/-- The end of a refresh spends the time that the refresh had still to spend. -/
theorem Within.spent_of_finish (h : t.Within times) (hidle : t.state ≠ .idle)
    {state : MJRefreshState} (hnudged : Nudged (t.finish state) t') : Spent times t t' := by
  have hleft : (t.finish state).leftTriggerTimes = t.budget := by
    have hnonneg := h.nonneg
    cases hdrag : t.triggerByDrag with
    | false => simp [finish, budget, hdrag]
    | true =>
        have hlimited : t.leftTriggerTimes ≠ -1 := by omega
        simp [finish, budget, hdrag, hidle, hlimited]
  have hfinished : (t.finish state).Within times := by
    refine ⟨h.auto, h.times_eq, ?_, ?_, fun hdrag => absurd hdrag (by simp [finish])⟩
    · rw [hleft]
      exact h.budget_nonneg
    · rw [hleft]
      exact (budget_le t).trans h.le
  refine (hfinished.spent_of_nudged hnudged).of_move rfl (by simp [isStart, hidle]) (le_of_eq ?_)
  rw [← hleft]
  simp [budget, finish]

end Trigger

/-! ## Runs in which the bound does not change -/

/-- The event does not set the state from outside. -/
def Event.LeavesState (event : Event) : Prop := ∀ state, event ≠ .setState state

/-- Only a view that is not idle ends a refresh. -/
theorem MJRefreshView.state_of_ends {s : Sys ρ} {event : Event} (hevent : event.LeavesState)
    (h : MJRefreshView.EndsTrigger s event) : s.view.state ≠ .idle := by
  cases event with
  | setState state => exact absurd rfl (hevent state)
  | setHidden hidden => exact h.2.2
  | mainQueue => exact h.2
  | _ => exact h.elim

/-- The step lemma: an event other than the beginning of the pan gesture pays for the refreshes it
starts. -/
theorem spent_step (depth : Nat) {times : Int} {s : Sys Unit} (h : s.trigger.Within times)
    {event : Event} (hevent : event.LeavesState) (hbegan : event ≠ .panState .began) :
    Trigger.Spent times s.trigger (MJRefreshView.step depth s event).trigger := by
  have hnotify := MJRefreshView.notify_within_nudges (ρ := Unit) depth
  by_cases hends : MJRefreshView.EndsTrigger s event
  · obtain ⟨state, _, _, hnudged⟩ := MJRefreshView.ended_of_ends hnotify h.auto hends
    exact h.spent_of_finish (MJRefreshView.state_of_ends hevent hends) hnudged
  · have hchanged := MJRefreshView.changed_of_not_ends hnotify h.auto hends
    rw [MJRefreshView.step]
    generalize (MJRefreshView.refreshClass.handle _ s event).trigger = after at hchanged ⊢
    cases hchanged with
    | nudged hnudged => exact h.spent_of_nudged hnudged
    | @moved state hcause hidle _ =>
        exact h.spent_of_moved (hcause.resolve_right (hevent state)) hidle
    | reset hreset _ => exact absurd hreset hbegan

/-- The beginning of the pan gesture keeps the counter within its bound. -/
theorem within_step_began (depth : Nat) {times : Int} {s : Sys Unit} (h : s.trigger.Within times) :
    (MJRefreshView.step depth s (.panState .began)).trigger.Within times := by
  have hnotify := MJRefreshView.notify_within_nudges (ρ := Unit) depth
  have hnot : ¬ MJRefreshView.EndsTrigger s (.panState .began) := id
  have hchanged := MJRefreshView.changed_of_not_ends hnotify h.auto hnot
  rw [MJRefreshView.step]
  generalize (MJRefreshView.refreshClass.handle _ s _).trigger = after at hchanged ⊢
  cases hchanged with
  | nudged hnudged => exact (h.spent_of_nudged hnudged).within
  | @moved state hcause hidle _ =>
      exact (h.spent_of_moved (hcause.resolve_right (by simp)) hidle).within
  | reset _ hidle =>
      refine ⟨h.auto, h.times_eq, ?_, h.times_eq.le, fun _ hnot => absurd hidle hnot⟩
      show 0 ≤ s.trigger.autoTriggerTimes
      rw [h.times_eq]
      exact h.nonneg.trans h.le

/-- The budget stays within its bounds in every run in which the application does not set the
state. -/
theorem within_run (depth : Nat) {times : Int} {s : Sys Unit} (h : s.trigger.Within times)
    {events : List Event} (hevents : ∀ event ∈ events, event.LeavesState) :
    (run (MJRefreshView.step depth) s events).trigger.Within times := by
  have hstep : ∀ (s : Sys Unit) (event : Event), s.trigger.Within times → event.LeavesState →
      (MJRefreshView.step depth s event).trigger.Within times := by
    intro s event hs hevent
    by_cases hbegan : event = .panState .began
    · rw [hbegan]
      exact within_step_began depth hs
    · exact (spent_step depth hs hevent hbegan).within
  exact run_invariant hstep h (admissible_of_forall _ s hevents)

/-- The run lemma: without the beginning of a pan gesture, drags start no more refreshes than the
budget allows. -/
theorem drag_starts_le_budget (depth : Nat) {times : Int} {s : Sys Unit}
    (h : s.trigger.Within times) {events : List Event}
    (hevents : ∀ event ∈ events, event.LeavesState ∧ event ≠ .panState .began) :
    (dragStarts depth s events : Int) ≤ s.trigger.budget := by
  induction events generalizing s with
  | nil => exact h.budget_nonneg
  | cons event events ih =>
      obtain ⟨hevent, hbegan⟩ := hevents event List.mem_cons_self
      have hspent := spent_step depth h hevent hbegan
      have hrest := ih hspent.within fun other hother =>
        hevents other (List.mem_cons_of_mem _ hother)
      have hbudget := hspent.budget
      rw [dragStarts]
      push_cast
      omega

/-- The drag budget of an auto footer with the bound `times`. In a run of any events that do not set
the state or the bound from outside, the counter stays between zero and the bound, and as long as no
pan gesture begins, at most that many refreshes are started with `triggerByDrag` set. -/
theorem trigger_budget_kept (depth : Nat) (times : Int) (htimes : 0 ≤ times) (s : Sys Unit)
    (hmore : s.view.refreshMore = true) (hauto : s.view.refreshBack = false)
    (hidle : s.view.state = .idle) (hbound : s.view.autoTriggerTimes = times)
    (hleft : s.view.leftTriggerTimes = times)
    (events : List Event) (hevents : ∀ event ∈ events, ∀ state, event ≠ .setState state) :
    let reached := run (MJRefreshView.step depth) s events
    0 ≤ reached.view.leftTriggerTimes ∧ reached.view.leftTriggerTimes ≤ times ∧
    ∀ between : List Event, (∀ event ∈ between, (∀ state, event ≠ .setState state) ∧
      event ≠ .panState .began) → (dragStarts depth reached between : Int) ≤ times := by
  intro reached
  have hstart : s.trigger.Within times := by
    refine ⟨⟨hmore, hauto⟩, hbound, ?_, hleft.le, fun _ hnot => absurd hidle hnot⟩
    show 0 ≤ s.view.leftTriggerTimes
    rw [hleft]
    exact htimes
  have hreached : reached.trigger.Within times := within_run depth hstart hevents
  refine ⟨hreached.nonneg, hreached.le, ?_⟩
  intro between hbetween
  exact (drag_starts_le_budget depth hreached hbetween).trans
    ((Trigger.budget_le _).trans hreached.le)

/-- A vertical auto footer below the table of `sampleScrollView`. -/
def sampleAutoFooter : Sys Unit :=
  MJRefreshView.refreshClass.attached (MJRefreshView.refreshView true false false) sampleScrollView

/-- A drag that scrolls the footer into view. -/
def sampleDrag : Event := .contentOffset ⟨0, 900⟩ true

/-- A drag starts a refresh, and a second drag in the same gesture is refused. -/
theorem trigger_budget_kept_sample :
    sampleAutoFooter.view.refreshMore = true ∧ sampleAutoFooter.view.refreshBack = false ∧
    sampleAutoFooter.view.state = .idle ∧ sampleAutoFooter.view.autoTriggerTimes = 1 ∧
    sampleAutoFooter.view.leftTriggerTimes = 1 ∧
    dragStarts 1 sampleAutoFooter [sampleDrag] = 1 ∧
    (dragStarts 1 sampleAutoFooter [sampleDrag, .endRefreshing, .mainQueue,
      .contentOffset ⟨0, 0⟩ true, sampleDrag] : Int) ≤ 1 := by
  have hmore : sampleAutoFooter.view.refreshMore = true := by decide +kernel
  have hauto : sampleAutoFooter.view.refreshBack = false := by decide +kernel
  have hidle : sampleAutoFooter.view.state = .idle := by decide +kernel
  have hbound : sampleAutoFooter.view.autoTriggerTimes = 1 := by decide +kernel
  have hleft : sampleAutoFooter.view.leftTriggerTimes = 1 := by decide +kernel
  refine ⟨hmore, hauto, hidle, hbound, hleft, by decide +kernel, ?_⟩
  exact (trigger_budget_kept 1 1 (by decide) sampleAutoFooter hmore hauto hidle hbound hleft []
    (by simp)).2.2 _ (by simp [sampleDrag])

/-! ## Runs in which the bound changes -/

/-- `setAutoTriggerTimes:`. -/
def MJRefreshView.setAutoTriggerTimes (times : Int) (s : Sys ρ) : Sys ρ :=
  s.mapView fun view => { view with autoTriggerTimes := times, leftTriggerTimes := times }

/-- What can happen to an auto footer whose bound is set to other values, none of them negative. -/
inductive TriggerEvent where
  | view (event : Event)
  | setAutoTriggerTimes (times : Nat)
  deriving DecidableEq, Repr

/-- One event of an auto footer whose bound may change. -/
def triggerStep (depth : Nat) (s : Sys Unit) : TriggerEvent → Sys Unit
  | .view event => MJRefreshView.step depth s event
  | .setAutoTriggerTimes times => MJRefreshView.setAutoTriggerTimes times s

/-- No state is set that ends a drag while the counter is at zero. -/
def EndsCounted (s : Sys Unit) : TriggerEvent → Prop
  | .view event => ¬ (s.view.triggerByDrag = true ∧ s.view.leftTriggerTimes = 0 ∧
      MJRefreshView.EndsTrigger s event)
  | .setAutoTriggerTimes _ => True

instance (s : Sys Unit) (event : TriggerEvent) : Decidable (EndsCounted s event) := by
  cases event <;> unfold EndsCounted <;> infer_instance

/-- The counter of an auto footer and its bound are not negative. -/
structure Trigger.Counts (t : Trigger) : Prop where
  auto : t.IsAuto
  bound : 0 ≤ t.autoTriggerTimes
  left : 0 ≤ t.leftTriggerTimes

/-- A notification changes neither the counter nor its bound. -/
theorem Nudged.times {t t' : Trigger} (h : Nudged t t') :
    t'.leftTriggerTimes = t.leftTriggerTimes ∧ t'.autoTriggerTimes = t.autoTriggerTimes ∧
      (t.IsAuto → t'.IsAuto) := by
  cases h with
  | none => exact ⟨rfl, rfl, id⟩
  | flagged dragging _ => exact ⟨rfl, rfl, id⟩
  | started dragging _ _ _ => exact ⟨rfl, rfl, id⟩

/-- Notifications keep the count of the drags. -/
theorem Trigger.Counts.of_nudged {t t' : Trigger} (h : t.Counts) (hnudged : Nudged t t') :
    t'.Counts := by
  obtain ⟨hleft, hbound, hauto⟩ := hnudged.times
  exact ⟨hauto h.auto, hbound ▸ h.bound, hleft ▸ h.left⟩

/-- The end of a refresh keeps the count of the drags, unless it would go below zero. -/
theorem Trigger.Counts.finish {t : Trigger} (h : t.Counts) (state : MJRefreshState)
    (hcounted : ¬ (t.triggerByDrag = true ∧ t.leftTriggerTimes = 0)) : (t.finish state).Counts := by
  refine ⟨h.auto, h.bound, ?_⟩
  have hleft := h.left
  unfold Trigger.finish
  dsimp only
  split
  next hdrag =>
    have hzero : t.leftTriggerTimes ≠ 0 := fun hzero => hcounted ⟨hdrag, hzero⟩
    split <;> omega
  next => exact hleft

/-- The counter does not become negative if it is not at zero when a drag ends. -/
theorem counts_step (depth : Nat) {s : Sys Unit} {event : TriggerEvent} (h : s.trigger.Counts)
    (hcounted : EndsCounted s event) : (triggerStep depth s event).trigger.Counts := by
  have hnotify := MJRefreshView.notify_within_nudges (ρ := Unit) depth
  cases event with
  | setAutoTriggerTimes times => exact ⟨h.auto, Int.natCast_nonneg times, Int.natCast_nonneg times⟩
  | view event =>
      rw [triggerStep, MJRefreshView.step]
      by_cases hends : MJRefreshView.EndsTrigger s event
      · obtain ⟨state, _, _, hnudged⟩ := MJRefreshView.ended_of_ends hnotify h.auto hends
        have hfinished := h.finish state fun hzero => hcounted ⟨hzero.1, hzero.2, hends⟩
        exact hfinished.of_nudged hnudged
      · have hchanged := MJRefreshView.changed_of_not_ends hnotify h.auto hends
        generalize (MJRefreshView.refreshClass.handle _ s event).trigger = after at hchanged ⊢
        cases hchanged with
        | nudged hnudged => exact h.of_nudged hnudged
        | moved _ _ _ => exact ⟨h.auto, h.bound, h.left⟩
        | reset _ _ => exact ⟨h.auto, h.bound, h.bound⟩

/-- If a drag ends while the counter is at zero, the counter becomes minus one. -/
theorem unlimited_step (depth : Nat) {s : Sys Unit} {event : TriggerEvent} (h : s.trigger.Counts)
    (hcounted : ¬ EndsCounted s event) :
    MJRefreshView.unlimitedTrigger (triggerStep depth s event) = true := by
  have hnotify := MJRefreshView.notify_within_nudges (ρ := Unit) depth
  cases event with
  | setAutoTriggerTimes times => exact absurd trivial hcounted
  | view event =>
      obtain ⟨hdrag, hzero, hends⟩ := not_not.mp hcounted
      obtain ⟨state, _, _, hnudged⟩ := MJRefreshView.ended_of_ends hnotify h.auto hends
      have hleft : (triggerStep depth s (.view event)).view.leftTriggerTimes = -1 := by
        refine hnudged.times.1.trans ?_
        simp [Trigger.finish, Sys.trigger, hdrag, hzero]
      rw [MJRefreshView.unlimitedTrigger, hleft]
      rfl

/-- In a run of an auto footer whose bound is only set to values that are not negative, the counter
never reads as unlimited exactly if no drag is ended while the counter is at zero. -/
theorem unlimited_never_iff (depth : Nat) (s : Sys Unit) (hmore : s.view.refreshMore = true)
    (hauto : s.view.refreshBack = false) (hbound : 0 ≤ s.view.autoTriggerTimes)
    (hleft : 0 ≤ s.view.leftTriggerTimes) (events : List TriggerEvent) :
    (∀ done rest, events = done ++ rest →
      ¬ MJRefreshView.unlimitedTrigger (run (triggerStep depth) s done) = true) ↔
    Admissible (triggerStep depth) EndsCounted s events := by
  have hstart : s.trigger.Counts := ⟨⟨hmore, hauto⟩, hbound, hleft⟩
  have hgood : ∀ s : Sys Unit, s.trigger.Counts → ¬ MJRefreshView.unlimitedTrigger s = true := by
    intro s hs hunlimited
    have hleft : 0 ≤ s.view.leftTriggerTimes := hs.left
    have : s.view.leftTriggerTimes = -1 := of_decide_eq_true hunlimited
    omega
  exact never_iff_admissible hgood (fun s event hs _ hok => counts_step depth hs hok)
    (fun s event hs _ hnot => unlimited_step depth hs hnot) hstart (fun _ _ => trivial)

/-- A drag starts a refresh, which ends before the bound is set to zero. -/
theorem unlimited_never_iff_sample :
    sampleAutoFooter.view.refreshMore = true ∧ sampleAutoFooter.view.refreshBack = false ∧
    0 ≤ sampleAutoFooter.view.autoTriggerTimes ∧ 0 ≤ sampleAutoFooter.view.leftTriggerTimes ∧
    ¬ MJRefreshView.unlimitedTrigger (run (triggerStep 1) sampleAutoFooter
      [.view sampleDrag, .view .endRefreshing, .view .mainQueue, .setAutoTriggerTimes 0]) =
        true := by
  have hmore : sampleAutoFooter.view.refreshMore = true := by decide +kernel
  have hauto : sampleAutoFooter.view.refreshBack = false := by decide +kernel
  have hbound : 0 ≤ sampleAutoFooter.view.autoTriggerTimes := by decide +kernel
  have hleft : 0 ≤ sampleAutoFooter.view.leftTriggerTimes := by decide +kernel
  exact ⟨hmore, hauto, hbound, hleft, (unlimited_never_iff 1 sampleAutoFooter hmore hauto hbound
    hleft _).mpr (by decide +kernel) _ [] (List.append_nil _).symm⟩

/-- Two ways to minus one. The bound is set to zero while a drag is refreshing, and the refresh
ends. Or a drag is refused because the bound is zero, and the state is set to no more data. -/
theorem unlimited_reached :
    MJRefreshView.unlimitedTrigger (run (triggerStep 1) sampleAutoFooter
      [.view (.window true), .view sampleDrag, .setAutoTriggerTimes 0, .view .endRefreshing,
        .view .mainQueue, .view .mainQueue]) = true ∧
    MJRefreshView.unlimitedTrigger (run (triggerStep 1) sampleAutoFooter
      [.setAutoTriggerTimes 0, .view sampleDrag, .view (.setState .noMoreData)]) = true := by
  decide +kernel

end Component.Refresh

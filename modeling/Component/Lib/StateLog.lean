import Component.Lib.Run

/-!
# State machines with a log

A system that records every change of its state as a pair of the old and the new one leaves a log.
`Walk` says that a log is a walk along the edges of a state machine, and `FollowsEvents` that it
splits into one walk for each event, along the edges that the event has. `follows_run` derives this
for whole runs from what one event appends to the log.
-/

namespace Component.Lib.StateLog

open Component.Lib.Run

variable {σ τ ε : Type}

/-- The log leads from the first state to the last one, by changes along the edges. -/
def Walk (edge : σ → σ → Prop) : σ → List (σ × σ) → σ → Prop
  | first, [], last => first = last
  | first, change :: log, last =>
      first = change.1 ∧ change.1 ≠ change.2 ∧ edge change.1 change.2 ∧ Walk edge change.2 log last

/-- A walk can be extended by an edge to another state. -/
theorem walk_concat {edge : σ → σ → Prop} {first middle last : σ} {log : List (σ × σ)}
    (h : Walk edge first log middle) (hnew : middle ≠ last) (hedge : edge middle last) :
    Walk edge first (log ++ [(middle, last)]) last := by
  induction log generalizing first with
  | nil =>
      obtain rfl : first = middle := h
      exact ⟨rfl, hnew, hedge, rfl⟩
  | cons change log ih =>
      obtain ⟨hfirst, hchange, hstep, hrest⟩ := h
      exact ⟨hfirst, hchange, hstep, ih hrest⟩

/-- The log splits into a walk for each event, along the edges of this event. -/
def FollowsEvents (edge : ε → σ → σ → Prop) : σ → List ε → List (σ × σ) → σ → Prop
  | first, [], log, last => log = [] ∧ first = last
  | first, event :: events, log, last =>
      ∃ taken middle rest, log = taken ++ rest ∧ Walk (edge event) first taken middle ∧
        FollowsEvents edge middle events rest last

/-- If every event of a system appends a walk to the log, then a run follows its events. -/
theorem follows_run {step : τ → ε → τ} (current : τ → σ) (log : τ → List (σ × σ))
    {edge : ε → σ → σ → Prop} {inv : τ → Prop}
    (hstep : ∀ state event, inv state → inv (step state event) ∧ ∃ taken,
      log (step state event) = log state ++ taken ∧
      Walk (edge event) (current state) taken (current (step state event)))
    (state : τ) (hinit : inv state) (events : List ε) :
    ∃ taken, log (run step state events) = log state ++ taken ∧
      FollowsEvents edge (current state) events taken (current (run step state events)) := by
  induction events generalizing state with
  | nil => exact ⟨[], by simp, rfl, rfl⟩
  | cons event events ih =>
      obtain ⟨hinv, taken, hlog, hwalk⟩ := hstep state event hinit
      obtain ⟨rest, hrest, hfollows⟩ := ih (step state event) hinv
      refine ⟨taken ++ rest, ?_, taken, _, rest, rfl, hwalk, hfollows⟩
      rw [run_cons, hrest, hlog, List.append_assoc]

end Component.Lib.StateLog

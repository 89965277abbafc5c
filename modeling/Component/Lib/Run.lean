import Mathlib

/-!
# Runs of event-driven systems

A system takes events one after another (`run`). Its results are usually stated for runs whose
events meet a condition in the state they are taken in (`Admissible`), and proved from what one
event preserves: `run_invariant` for one system and `run_simulation` for two. Where the condition is
exact, `steps_iff_admissible` gives both directions for what is asked of every step, and
`never_iff_admissible` for the states that are never reached.

A system may also have work of its own that is still pending after an event. `Settles` says that
a state can reach another one without pending work by internal steps, and `SettledRun` takes
every event in a state without pending work and lets the system settle before the next one.
Where each event leads to one result only, `settled_run_cons` reduces settled runs to plain ones.
-/

namespace Component.Lib.Run

variable {σ τ ε δ : Type}

/-- The state after a sequence of events. -/
def run (step : σ → ε → σ) (state : σ) (events : List ε) : σ := events.foldl step state

/-- Every event meets the condition in the state in which it is taken. -/
def Admissible (step : σ → ε → σ) (ok : σ → ε → Prop) : σ → List ε → Prop
  | _, [] => True
  | state, event :: events => ok state event ∧ Admissible step ok (step state event) events

instance Admissible.decidable (step : σ → ε → σ) (ok : σ → ε → Prop)
    [∀ state event, Decidable (ok state event)] :
    ∀ state events, Decidable (Admissible step ok state events)
  | _, [] => .isTrue trivial
  | state, event :: events =>
      haveI := Admissible.decidable step ok (step state event) events
      inferInstanceAs (Decidable (_ ∧ _))

/-- Without events nothing happens. -/
@[simp] theorem run_nil (step : σ → ε → σ) (state : σ) : run step state [] = state := rfl

/-- A run begins with its first event. -/
@[simp] theorem run_cons (step : σ → ε → σ) (state : σ) (event : ε) (events : List ε) :
    run step state (event :: events) = run step (step state event) events := rfl

/-- A run ends with its last event. -/
theorem run_concat (step : σ → ε → σ) (state : σ) (events : List ε) (event : ε) :
    run step state (events ++ [event]) = step (run step state events) event :=
  List.foldl_concat ..

/-- A condition on the events alone. -/
theorem admissible_of_forall (step : σ → ε → σ) {ok : ε → Prop} (state : σ) {events : List ε}
    (hok : ∀ event ∈ events, ok event) :
    Admissible step (fun _ event => ok event) state events := by
  induction events generalizing state with
  | nil => trivial
  | cons event events ih =>
      exact ⟨hok event List.mem_cons_self,
        ih _ (fun event h => hok event (List.mem_cons_of_mem _ h))⟩

/-- A condition on the events alone besides the one in the states. -/
theorem Admissible.and_forall {step : σ → ε → σ} {ok : σ → ε → Prop} {also : ε → Prop} {state : σ}
    {events : List ε} (h : Admissible step ok state events)
    (halso : ∀ event ∈ events, also event) :
    Admissible step (fun state event => ok state event ∧ also event) state events := by
  induction events generalizing state with
  | nil => trivial
  | cons event events ih =>
      exact ⟨⟨h.1, halso event List.mem_cons_self⟩,
        ih h.2 (fun event hevent => halso event (List.mem_cons_of_mem _ hevent))⟩

/-- An invariant that every admissible event preserves holds after every admissible run. -/
theorem run_invariant {step : σ → ε → σ} {ok : σ → ε → Prop} {inv : σ → Prop}
    (hstep : ∀ state event, inv state → ok state event → inv (step state event))
    {state : σ} (hinit : inv state) {events : List ε} (hok : Admissible step ok state events) :
    inv (run step state events) := by
  induction events generalizing state with
  | nil => exact hinit
  | cons event events ih => exact ih (hstep state event hinit hok.1) hok.2

/-- If admissible events keep an invariant under which what is asked of a step is the condition for
it to be admissible, then it is met by all steps of the admissible runs only. -/
theorem steps_iff_admissible {step : σ → ε → σ} {ok good : σ → ε → Prop} {inv : σ → Prop}
    {allowed : ε → Prop}
    (hgood : ∀ state event, inv state → allowed event → (good state event ↔ ok state event))
    (hstep : ∀ state event, inv state → allowed event → ok state event → inv (step state event))
    {state : σ} (hinit : inv state) {events : List ε} (hevents : ∀ event ∈ events, allowed event) :
    (∀ done event rest, events = done ++ event :: rest → good (run step state done) event) ↔
      Admissible step ok state events := by
  induction events generalizing state with
  | nil =>
      refine iff_of_true ?_ trivial
      intro done event rest hsplit
      exact absurd hsplit (by simp)
  | cons event events ih =>
      have hallowed := hevents event List.mem_cons_self
      have hrest : ∀ other ∈ events, allowed other :=
        fun other hother => hevents other (List.mem_cons_of_mem _ hother)
      constructor
      · intro hall
        have hok := (hgood state event hinit hallowed).mp (hall [] event events rfl)
        refine ⟨hok, (ih (hstep state event hinit hallowed hok) hrest).mp ?_⟩
        intro done other rest hsplit
        exact hall (event :: done) other rest (by rw [hsplit]; rfl)
      · rintro ⟨hok, hadmissible⟩ done other rest hsplit
        cases done with
        | nil =>
            obtain ⟨rfl, _⟩ := List.cons.inj hsplit
            exact (hgood state event hinit hallowed).mpr hok
        | cons first done =>
            obtain ⟨rfl, htail⟩ := List.cons.inj hsplit
            exact (ih (hstep state event hinit hallowed hok) hrest).mpr hadmissible done other rest
              htail

/-- If inadmissible events lead to a bad state, and admissible ones do not, then the runs that never
reach a bad state are the admissible ones. -/
theorem never_iff_admissible {step : σ → ε → σ} {ok : σ → ε → Prop} {inv bad : σ → Prop}
    {allowed : ε → Prop} (hgood : ∀ state, inv state → ¬ bad state)
    (hstep : ∀ state event, inv state → allowed event → ok state event → inv (step state event))
    (hbad : ∀ state event, inv state → allowed event → ¬ ok state event →
      bad (step state event))
    {state : σ} (hinit : inv state) {events : List ε} (hevents : ∀ event ∈ events, allowed event) :
    (∀ done rest, events = done ++ rest → ¬ bad (run step state done)) ↔
      Admissible step ok state events := by
  have hsteps : ∀ state event, inv state → allowed event →
      (¬ bad (step state event) ↔ ok state event) := by
    intro state event hstate hallowed
    constructor
    · intro hnot
      by_contra hbroken
      exact hnot (hbad state event hstate hallowed hbroken)
    · intro hok
      exact hgood _ (hstep state event hstate hallowed hok)
  rw [← steps_iff_admissible hsteps hstep hinit hevents]
  constructor
  · intro hnever done event rest hsplit
    rw [← run_concat step]
    exact hnever (done ++ [event]) rest (by rw [hsplit, List.append_assoc]; rfl)
  · intro hsteps done rest hsplit
    rcases List.eq_nil_or_concat done with rfl | ⟨before, event, rfl⟩
    · exact hgood state hinit
    · rw [List.concat_eq_append, run_concat]
      exact hsteps before event rest (by rw [hsplit, List.concat_eq_append, List.append_assoc]; rfl)

/-- Two systems stay related if every admissible event of the first is matched by an event of
the second. -/
theorem run_simulation {step : σ → ε → σ} {step' : τ → δ → τ} {ok : σ → ε → Prop}
    {related : σ → τ → Prop} (matching : ε → δ)
    (hstep : ∀ state state' event, related state state' → ok state event →
      related (step state event) (step' state' (matching event)))
    {state : σ} {state' : τ} (hinit : related state state') {events : List ε}
    (hok : Admissible step ok state events) :
    related (run step state events) (run step' state' (events.map matching)) := by
  induction events generalizing state state' with
  | nil => exact hinit
  | cons event events ih => exact ih (hstep state state' event hinit hok.1) hok.2

section Settled

variable (internal : σ → σ → Prop) (quiet : σ → Prop)

/-- Internal steps lead from the first state to the second, which has no pending work. -/
inductive Settles : σ → σ → Prop where
  | done {state : σ} : quiet state → Settles state state
  | step {state middle final : σ} :
      internal state middle → Settles middle final → Settles state final

/-- Every event is taken in a settled state, and the system settles after it. -/
inductive SettledRun (step : σ → ε → σ) : σ → List ε → σ → Prop where
  | nil {state : σ} : SettledRun step state [] state
  | cons {state middle final : σ} {event : ε} {events : List ε} :
      Settles internal quiet (step state event) middle →
      SettledRun step middle events final → SettledRun step state (event :: events) final

variable {internal quiet}

/-- A state without pending work settles to itself. -/
theorem settles_quiet {state final : σ} (hquiet : quiet state)
    (hnone : ∀ middle, ¬ internal state middle) :
    Settles internal quiet state final ↔ final = state := by
  constructor
  · intro h
    cases h with
    | done _ => rfl
    | step hstep _ => exact absurd hstep (hnone _)
  · intro h
    subst h
    exact .done hquiet

/-- A state with a single internal step settles as its successor does. -/
theorem settles_unique {state next final : σ} (hbusy : ¬ quiet state)
    (hnext : ∀ middle, internal state middle ↔ middle = next) :
    Settles internal quiet state final ↔ Settles internal quiet next final := by
  constructor
  · intro h
    cases h with
    | done hquiet => exact absurd hquiet hbusy
    | step hstep hrest => exact (hnext _).mp hstep ▸ hrest
  · intro h
    exact .step ((hnext next).mpr rfl) h

/-- A settled run without events stays where it is. -/
theorem settled_run_nil {step : σ → ε → σ} {state final : σ} :
    SettledRun internal quiet step state [] final ↔ final = state := by
  constructor
  · intro h
    cases h
    rfl
  · intro h
    subst h
    exact .nil

/-- An event that settles to one result only is a step to this result. -/
theorem settled_run_cons {step : σ → ε → σ} {state next final : σ} {event : ε} {events : List ε}
    (hnext : ∀ middle, Settles internal quiet (step state event) middle ↔ middle = next) :
    SettledRun internal quiet step state (event :: events) final ↔
      SettledRun internal quiet step next events final := by
  constructor
  · intro h
    cases h with
    | cons hfirst hrest => exact (hnext _).mp hfirst ▸ hrest
  · intro h
    exact .cons ((hnext next).mpr rfl) h

end Settled

end Component.Lib.Run

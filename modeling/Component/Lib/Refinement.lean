import Component.Lib.Run

/-!
# Clients of an object

An object answers requests, one at a time, and may fail (`Object`). A client turns events into
requests and goes on with the replies (`Client`); what it does between requests depends on its own
state and on the replies only. A specification is an object that never fails (`Spec`). If an object
refines a specification, that is, if it gives the same replies from related states, then no client
can tell them apart: in every run the object does not fail, and the client is in the state in which
it would be with the specification (`Refines.run`).
-/

namespace Component.Lib.Refinement

open Component.Lib.Run

variable {γ ε ι ο σ τ : Type}

/-- What a request does to the state of an object, and the reply. -/
abbrev Object (σ ι ο : Type) := σ → ι → Option (σ × ο)

/-- What a request is meant to do. -/
abbrev Spec (τ ι ο : Type) := τ → ι → τ × ο

/-- An event leads to one request or none, and the client goes on with the reply. -/
structure Client (γ ε ι ο : Type) where
  request : γ → ε → Option ι
  resume : γ → ε → Option ο → γ

/-- A client with an object, unless the object has failed. -/
structure System (γ σ : Type) where
  control : γ
  object : Option σ

/-- An event with an object. After a failure there are no events. -/
def step (client : Client γ ε ι ο) (object : Object σ ι ο) (system : System γ σ) (event : ε) :
    System γ σ :=
  match system.object with
  | none => system
  | some state =>
      match client.request system.control event with
      | none => { system with control := client.resume system.control event none }
      | some request =>
          match object state request with
          | none => { system with object := none }
          | some (after, reply) =>
              ⟨client.resume system.control event (some reply), some after⟩

/-- An event with a specification. -/
def specStep (client : Client γ ε ι ο) (spec : Spec τ ι ο) (system : γ × τ) (event : ε) : γ × τ :=
  match client.request system.1 event with
  | none => (client.resume system.1 event none, system.2)
  | some request =>
      let after := spec system.2 request
      (client.resume system.1 event (some after.2), after.1)

/-- From related states the object gives the reply of the specification, and the states stay
related. -/
def Refines (related : σ → τ → Prop) (object : Object σ ι ο) (spec : Spec τ ι ο) : Prop :=
  ∀ state abstract request, related state abstract →
    ∃ after, object state request = some (after, (spec abstract request).2) ∧
      related after (spec abstract request).1

/-- The client is in the same state, and the object is in a related one. -/
def Matches (related : σ → τ → Prop) (system : System γ σ) (abstract : γ × τ) : Prop :=
  system.control = abstract.1 ∧ ∃ state, system.object = some state ∧ related state abstract.2

variable {related : σ → τ → Prop} {object : Object σ ι ο} {spec : Spec τ ι ο}

/-- A step of a client keeps the object and its specification matched. -/
theorem Refines.step (h : Refines related object spec) (client : Client γ ε ι ο)
    {system : System γ σ} {abstract : γ × τ} (hsystem : Matches related system abstract)
    (event : ε) :
    Matches related (step client object system event) (specStep client spec abstract event) := by
  obtain ⟨control, state⟩ := system
  obtain ⟨rfl, state, rfl, hstate⟩ := hsystem
  unfold Refinement.step specStep
  cases hrequest : client.request abstract.1 event with
  | none => exact ⟨rfl, state, rfl, hstate⟩
  | some request =>
      obtain ⟨after, hafter, hrelated⟩ := h state abstract.2 request hstate
      simp only [hafter]
      exact ⟨rfl, after, rfl, hrelated⟩

/-- No run of a client tells the object from the specification. -/
theorem Refines.run (h : Refines related object spec) (client : Client γ ε ι ο) (control : γ)
    {state : σ} {abstract : τ} (hstate : related state abstract) (events : List ε) :
    Matches related (run (Refinement.step client object) ⟨control, some state⟩ events)
      (run (specStep client spec) (control, abstract) events) := by
  have hstep : ∀ (system : System γ σ) (abstract : γ × τ) (event : ε),
      Matches related system abstract → True →
      Matches related (Refinement.step client object system event)
        (specStep client spec abstract event) :=
    fun system abstract event hsystem _ => h.step client hsystem event
  have hinit : Matches related ⟨control, some state⟩ (control, abstract) :=
    ⟨rfl, state, rfl, hstate⟩
  have hrun : Matches related
      (Run.run (Refinement.step client object) ⟨control, some state⟩ events)
      (Run.run (specStep client spec) (control, abstract) (events.map id)) :=
    run_simulation id hstep hinit (admissible_of_forall _ _ (fun _ _ => trivial))
  rwa [List.map_id] at hrun

end Component.Lib.Refinement

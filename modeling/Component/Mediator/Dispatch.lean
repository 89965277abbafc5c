import Component.Lib.Run
import Component.Mediator.Model

/-!
# What calls of the mediator invoke

Whatever instances are kept, and in whatever order the sections of different calls come, a call
invokes the method that its own names ask for: the action if the class has it, otherwise
`notFound:`, otherwise `Action_response:` of `Target_NoTargetAction` (`Call.requests`). The calls
under way are those that the events have made, the methods that have been called are those of the
calls that have got so far, each once, and every call gets so far after four turns
(`invocations_run`).

A URL cannot reach the actions that are meant for the application alone: no method whose selector
begins with `Action_native` is called on behalf of a URL (`remote_run`).
-/

namespace Component.Mediator

open Component.Lib.Run Component.Lib.Threads

/-- A method called on behalf of a call, without the instance. -/
structure Request where
  call : Call
  className : NSString
  selector : NSString
  argument : Argument
  deriving DecidableEq

/-- What an invocation asks for, without which instance it was. -/
def Invocation.request (invocation : Invocation) : Request :=
  ⟨invocation.call, invocation.target.className, invocation.selector, invocation.argument⟩

/-- A class has a method for a selector. -/
def hasMethod (runtime : Runtime) (className selector : NSString) : Bool :=
  (methodFor runtime className selector).isSome

/-- What is called if neither the action nor `notFound:` exists. -/
def Call.noTargetRequests (runtime : Runtime) (call : Call) : List Request :=
  if hasMethod runtime noTargetAction actionResponse then
    [⟨call, noTargetAction, actionResponse,
      .noTarget call.params call.targetClassString call.actionString⟩]
  else []

/-- The method that a call is for, from the names in it alone. -/
def Call.requests (runtime : Runtime) (call : Call) : List Request :=
  if hasMethod runtime call.targetClassString call.actionString then
    [⟨call, call.targetClassString, call.actionString, .params call.params⟩]
  else if hasMethod runtime call.targetClassString notFound then
    [⟨call, call.targetClassString, notFound, .params call.params⟩]
  else call.noTargetRequests runtime

/-- The section that calls a method has been run. -/
def Phase.performed : Phase → Bool
  | .fetch | .generate _ | .store _ | .perform _ => false
  | .remove | .returned _ | .finished _ => true

/-- What a call has had called so far. -/
def Running.requests (runtime : Runtime) (running : Running) : List Request :=
  if running.phase.performed then running.call.requests runtime else []

/-! ## The sections of a call -/

variable {runtime : Runtime} {shared : Shared} {call : Call}

/-- What a section of a call does, case by case. -/
inductive Turn (runtime : Runtime) (call : Call) (shared : Shared) :
    Phase → Shared → Phase → Prop where
  | fetch :
      Turn runtime call shared .fetch shared
        (.generate (shared.cachedTarget call.targetClassString))
  | reuse (target : Target) :
      Turn runtime call shared (.generate (some target)) shared (.store target)
  | missing :
      runtime call.targetClassString = none →
      Turn runtime call shared (.generate none) (noTargetActionResponse runtime call shared)
        (.returned none)
  | make :
      (runtime call.targetClassString).isSome →
      Turn runtime call shared (.generate none)
        { shared with instances := shared.instances + 1 }
        (.store ⟨call.targetClassString, shared.instances⟩)
  | keep (target : Target) :
      call.shouldCacheTarget = true →
      Turn runtime call shared (.store target)
        (shared.safeSetCachedTarget target call.targetClassString) (.perform target)
  | pass (target : Target) :
      Turn runtime call shared (.store target) shared (.perform target)
  | action (target : Target) :
      hasMethod runtime target.className call.actionString = true →
      Turn runtime call shared (.perform target)
        (safePerformAction runtime call shared call.actionString target (.params call.params)).2
        (.returned
          (safePerformAction runtime call shared call.actionString target
            (.params call.params)).1)
  | notFound (target : Target) :
      ¬ hasMethod runtime target.className call.actionString = true →
      hasMethod runtime target.className notFound = true →
      Turn runtime call shared (.perform target)
        (safePerformAction runtime call shared notFound target (.params call.params)).2
        (.returned (safePerformAction runtime call shared notFound target (.params call.params)).1)
  | unanswered (target : Target) :
      ¬ hasMethod runtime target.className call.actionString = true →
      ¬ hasMethod runtime target.className notFound = true →
      Turn runtime call shared (.perform target) (noTargetActionResponse runtime call shared)
        .remove
  | remove :
      Turn runtime call shared .remove (shared.removeCachedTarget call.targetClassString)
        (.returned none)
  | complete (result : Option Value) :
      Turn runtime call shared (.returned result)
        { shared with completions := shared.completions ++ [result] } (.finished result)
  | silent (result : Option Value) :
      Turn runtime call shared (.returned result) shared (.finished result)
  | finished (result : Option Value) :
      Turn runtime call shared (.finished result) shared (.finished result)

/-- What the code does in a section is the turn of its phase. -/
theorem perform_target_turn (runtime : Runtime) (call : Call) (shared : Shared) (phase : Phase) :
    Turn runtime call shared phase (performTarget runtime call shared phase).1
      (performTarget runtime call shared phase).2 := by
  cases phase with
  | fetch => exact .fetch
  | generate cached =>
      cases cached with
      | some target => exact .reuse target
      | none =>
          cases hclass : runtime call.targetClassString with
          | none =>
              simp only [performTarget, Shared.alloc, hclass]
              exact .missing hclass
          | some methods =>
              simp only [performTarget, Shared.alloc, hclass]
              exact .make (by rw [hclass]; rfl)
  | store target =>
      by_cases hkeep : call.shouldCacheTarget
      · simp only [performTarget, if_pos hkeep]
        exact .keep target hkeep
      · simp only [performTarget, if_neg hkeep]
        exact .pass target
  | perform target =>
      by_cases haction : respondsToSelector runtime target call.actionString
      · simp only [performTarget, if_pos haction]
        exact .action target haction
      · by_cases hnotFound : respondsToSelector runtime target notFound
        · simp only [performTarget, if_neg haction, if_pos hnotFound]
          exact .notFound target haction hnotFound
        · simp only [performTarget, if_neg haction, if_neg hnotFound]
          exact .unanswered target haction hnotFound
  | remove => exact .remove
  | returned result =>
      by_cases hcompletion : call.completion
      · simp only [performTarget, if_pos hcompletion]
        exact .complete result
      · simp only [performTarget, if_neg hcompletion]
        exact .silent result
  | finished result => exact .finished result

/-! ## The events -/

/-- The call with the given arguments, unless the target or the action is `nil`. -/
def Call.ofNames (targetName actionName : Option NSString) (params : Params)
    (shouldCacheTarget remote completion : Bool) : Option Call :=
  match targetName, actionName with
  | some targetName, some actionName =>
      some ⟨targetName, actionName, params, shouldCacheTarget, remote, completion⟩
  | _, _ => none

/-- The call that an event makes. -/
def Event.started : Event → Option Call
  | .performActionWithUrl none _ => none
  | .performActionWithUrl (some url) completion =>
      if isNative url.actionName then none
      else Call.ofNames url.host url.actionName url.params false true completion
  | .performTarget targetName actionName params shouldCacheTarget =>
      Call.ofNames targetName actionName params shouldCacheTarget false false
  | .releaseCachedTarget _ | .turn _ => none

/-- What an event does, case by case. -/
inductive Effect (runtime : Runtime) (system : System) : Event → System → Prop where
  | call {event : Event} {call : Call} :
      event.started = some call → Effect runtime system event (system.spawn ⟨call, .fetch⟩)
  | ignored {event : Event} : event.started = none → Effect runtime system event system
  | completed {event : Event} :
      event.started = none → Effect runtime system event
        { system with
          shared := { system.shared with completions := system.shared.completions ++ [none] } }
  | release (name : NSString) :
      Effect runtime system (.releaseCachedTarget (some name))
        { system with shared := system.shared.removeCachedTarget name }
  | turn (position : Nat) :
      Effect runtime system (.turn position) (system.advance (Running.turn runtime) position)

/-- Starting a call adds the thread that the event stands for, or nothing. -/
theorem start_effect {system : System} {event : Event} {targetName actionName : Option NSString}
    {params : Params} {shouldCacheTarget remote completion : Bool}
    (hcall : event.started =
      Call.ofNames targetName actionName params shouldCacheTarget remote completion) :
    Effect runtime system event
      (system.start targetName actionName params shouldCacheTarget remote completion) := by
  unfold Call.ofNames at hcall
  unfold System.start
  split
  · exact .call hcall
  · next hnil =>
      have hnone : event.started = none := by
        rw [hcall]
        split
        · exact absurd rfl (hnil _ _ rfl)
        · rfl
      split
      · exact .completed hnone
      · exact .ignored hnone

/-- Every step has the effect that belongs to its event. -/
theorem step_effect (runtime : Runtime) (system : System) (event : Event) :
    Effect runtime system event (step runtime system event) := by
  cases event with
  | performActionWithUrl url completion =>
      cases url with
      | none => exact .ignored rfl
      | some url =>
          by_cases hnative : isNative url.actionName
          · simp only [step, System.performActionWithUrl, if_pos hnative]
            exact .ignored (if_pos hnative)
          · simp only [step, System.performActionWithUrl, if_neg hnative]
            exact start_effect (by simp only [Event.started, if_neg hnative])
  | performTarget targetName actionName params shouldCacheTarget => exact start_effect rfl
  | releaseCachedTarget fullTargetName =>
      cases fullTargetName with
      | none => exact .ignored rfl
      | some name => exact .release name
  | turn position => exact .turn position

/-- The rule for what holds in every order of sections: new calls meet the assertion, and a release
and every section of a call keep what holds. -/
theorem holds_step {inv : Shared → Prop} {assertion : Running → Prop} {system : System}
    {event : Event} (h : Holds inv assertion system)
    (hcall : ∀ call, event.started = some call → assertion ⟨call, .fetch⟩)
    (hcompletions : ∀ shared completions, inv shared →
      inv { shared with completions := completions })
    (hrelease : ∀ name, event = .releaseCachedTarget (some name) → inv system.shared →
      inv (system.shared.removeCachedTarget name))
    (hturn : ∀ {call shared phase after next}, Turn runtime call shared phase after next →
      inv shared → assertion ⟨call, phase⟩ → inv after ∧ assertion ⟨call, next⟩) :
    Holds inv assertion (step runtime system event) := by
  generalize hafter : step runtime system event = after
  have heffect := hafter ▸ step_effect runtime system event
  cases heffect with
  | call hevent => exact h.spawn (hcall _ hevent)
  | ignored _ => exact h
  | completed _ => exact ⟨hcompletions _ _ h.shared, h.threads⟩
  | release name => exact ⟨hrelease name rfl h.shared, h.threads⟩
  | turn position =>
      refine h.advance (fun _ _ hshared hrunning => ?_) position
      exact hturn (perform_target_turn ..) hshared hrunning

/-- Calling a method leaves the cache. -/
@[simp] theorem safe_perform_action_cached (action : NSString) (target : Option Target)
    (argument : Argument) :
    (safePerformAction runtime call shared action target argument).2.cachedTarget =
      shared.cachedTarget := by
  unfold safePerformAction
  split
  · rfl
  · split <;> rfl

/-- The answer for a missing target leaves the cache. -/
@[simp] theorem no_target_action_response_cached :
    (noTargetActionResponse runtime call shared).cachedTarget = shared.cachedTarget := by
  unfold noTargetActionResponse
  rw [safe_perform_action_cached]
  unfold Shared.alloc
  split <;> rfl

/-- A method that exists is called. -/
theorem safe_perform_action_invocations {action : NSString} {target : Target}
    (hmethod : hasMethod runtime target.className action) (argument : Argument) :
    (safePerformAction runtime call shared action target argument).2.invocations =
      shared.invocations ++ [⟨call, target, action, argument⟩] := by
  obtain ⟨method, hmethod⟩ := Option.isSome_iff_exists.mp hmethod
  simp only [safePerformAction, hmethod]

/-- The answer for a missing target makes the requests that belong to the call. -/
theorem no_target_action_response_requests :
    (noTargetActionResponse runtime call shared).invocations.map Invocation.request =
      shared.invocations.map Invocation.request ++ call.noTargetRequests runtime := by
  unfold noTargetActionResponse Call.noTargetRequests
  cases hclass : runtime noTargetAction with
  | none =>
      have hnone : ¬ hasMethod runtime noTargetAction actionResponse := by
        simp [hasMethod, methodFor, hclass]
      rw [if_neg hnone, List.append_nil]
      simp only [Shared.alloc, hclass, safePerformAction]
  | some methods =>
      simp only [Shared.alloc, hclass]
      by_cases hmethod : hasMethod runtime noTargetAction actionResponse
      · rw [if_pos hmethod, safe_perform_action_invocations hmethod, List.map_append]
        rfl
      · rw [if_neg hmethod, List.append_nil]
        have hnone : methodFor runtime noTargetAction actionResponse = none :=
          Option.not_isSome_iff_eq_none.mp hmethod
        simp only [safePerformAction, hnone]

/-! ## Targets are instances of the class that is asked for -/

/-- An instance of the class with the given name. -/
def Target.Fits (runtime : Runtime) (name : NSString) (target : Target) : Prop :=
  target.className = name ∧ (runtime name).isSome

/-- Instances are kept under the name of their class. -/
def Shared.Filed (runtime : Runtime) (shared : Shared) : Prop :=
  ∀ key target, shared.cachedTarget key = some target → target.Fits runtime key

/-- What a call knows about its target. -/
def Phase.Fits (runtime : Runtime) (name : NSString) : Phase → Prop
  | .generate cached => ∀ target, cached = some target → target.Fits runtime name
  | .store target | .perform target => target.Fits runtime name
  | _ => True

/-- What a running call holds belongs to its target's class. -/
def Running.Fits (runtime : Runtime) (running : Running) : Prop :=
  running.phase.Fits runtime running.call.targetClassString

/-- Caching a target under the name of its class keeps the cache in order. -/
theorem Shared.Filed.set (h : shared.Filed runtime) {name : NSString} {target : Target}
    (htarget : target.Fits runtime name) :
    (shared.safeSetCachedTarget target name).Filed runtime := by
  intro key other hother
  by_cases hkey : key = name
  · subst hkey
    simp only [Shared.safeSetCachedTarget, Function.update_self, Option.some.injEq] at hother
    exact hother ▸ htarget
  · simp only [Shared.safeSetCachedTarget, Function.update_of_ne hkey] at hother
    exact h key other hother

/-- Removing a target keeps the cache in order. -/
theorem Shared.Filed.remove (h : shared.Filed runtime) (name : NSString) :
    (shared.removeCachedTarget name).Filed runtime := by
  intro key other hother
  by_cases hkey : key = name
  · subst hkey
    simp [Shared.removeCachedTarget] at hother
  · simp only [Shared.removeCachedTarget, Function.update_of_ne hkey] at hother
    exact h key other hother

/-- Every turn keeps the cache and the call in order. -/
theorem Turn.filed {phase next : Phase} {after : Shared}
    (hturn : Turn runtime call shared phase after next) (hshared : shared.Filed runtime)
    (hphase : phase.Fits runtime call.targetClassString) :
    after.Filed runtime ∧ next.Fits runtime call.targetClassString := by
  cases hturn with
  | fetch => exact ⟨hshared, hshared _⟩
  | reuse target => exact ⟨hshared, hphase target rfl⟩
  | missing _ => exact ⟨by simpa only [Shared.Filed, no_target_action_response_cached], trivial⟩
  | make hclass => exact ⟨hshared, rfl, hclass⟩
  | keep target _ => exact ⟨hshared.set hphase, hphase⟩
  | pass target => exact ⟨hshared, hphase⟩
  | action target _ => exact ⟨by simpa only [Shared.Filed, safe_perform_action_cached], trivial⟩
  | notFound target _ _ =>
      exact ⟨by simpa only [Shared.Filed, safe_perform_action_cached], trivial⟩
  | unanswered target _ _ =>
      exact ⟨by simpa only [Shared.Filed, no_target_action_response_cached], trivial⟩
  | remove => exact ⟨hshared.remove _, trivial⟩
  | complete result => exact ⟨hshared, trivial⟩
  | silent result => exact ⟨hshared, trivial⟩
  | finished result => exact ⟨hshared, trivial⟩

/-! ## Every call invokes its own method, once -/

/-- What a section adds to the methods called is what its call is for. -/
theorem Turn.requests {phase next : Phase} {after : Shared}
    (hturn : Turn runtime call shared phase after next)
    (hphase : phase.Fits runtime call.targetClassString) :
    ∃ new, after.invocations.map Invocation.request =
        shared.invocations.map Invocation.request ++ new ∧
      Running.requests runtime ⟨call, next⟩ = Running.requests runtime ⟨call, phase⟩ ++ new := by
  have hnothing : ∀ requests : List Request, requests = requests ++ [] :=
    fun requests => (List.append_nil requests).symm
  cases hturn with
  | fetch => exact ⟨[], hnothing _, rfl⟩
  | reuse target => exact ⟨[], hnothing _, rfl⟩
  | missing hclass =>
      refine ⟨call.noTargetRequests runtime, no_target_action_response_requests, ?_⟩
      have hnone : ∀ selector, ¬ hasMethod runtime call.targetClassString selector := by
        intro selector
        simp [hasMethod, methodFor, hclass]
      simp [Running.requests, Phase.performed, Call.requests, hnone]
  | make hclass => exact ⟨[], hnothing _, rfl⟩
  | keep target _ => exact ⟨[], hnothing _, rfl⟩
  | pass target => exact ⟨[], hnothing _, rfl⟩
  | action target haction =>
      obtain ⟨hname, _⟩ := hphase
      rw [safe_perform_action_invocations haction, List.map_append]
      rw [hname] at haction
      refine ⟨_, rfl, ?_⟩
      simp [Running.requests, Phase.performed, Call.requests, haction, Invocation.request, hname]
  | notFound target haction hnotFound =>
      obtain ⟨hname, _⟩ := hphase
      rw [safe_perform_action_invocations hnotFound, List.map_append]
      rw [hname] at haction hnotFound
      refine ⟨_, rfl, ?_⟩
      simp [Running.requests, Phase.performed, Call.requests, haction, hnotFound,
        Invocation.request, hname]
  | unanswered target haction hnotFound =>
      obtain ⟨hname, _⟩ := hphase
      rw [hname] at haction hnotFound
      refine ⟨call.noTargetRequests runtime, no_target_action_response_requests, ?_⟩
      simp [Running.requests, Phase.performed, Call.requests, haction, hnotFound]
  | remove => exact ⟨[], hnothing _, hnothing _⟩
  | complete result => exact ⟨[], hnothing _, hnothing _⟩
  | silent result => exact ⟨[], hnothing _, hnothing _⟩
  | finished result => exact ⟨[], hnothing _, hnothing _⟩

/-- The methods that have been called. -/
def Shared.requests (shared : Shared) : List Request :=
  shared.invocations.map Invocation.request

/-- Instances are filed by class, and the methods called are those of the calls. -/
structure Accounted (runtime : Runtime) (system : System) : Prop where
  filed : Holds (Shared.Filed runtime) (Running.Fits runtime) system
  logged : Logged Shared.requests (Running.requests runtime) system

/-- Every step keeps the requests accounted for. -/
theorem Accounted.step {system : System} (h : Accounted runtime system) (event : Event) :
    Accounted runtime (step runtime system event) := by
  constructor
  · exact holds_step h.filed (fun _ _ => trivial) (fun _ _ hshared => hshared)
      (fun name _ hshared => hshared.remove name) Turn.filed
  · generalize hafter : Mediator.step runtime system event = after
    have heffect := hafter ▸ step_effect runtime system event
    cases heffect with
    | call _ => exact h.logged.spawn rfl
    | ignored _ => exact h.logged
    | completed _ => exact h.logged
    | release name => exact h.logged
    | turn position =>
        refine h.logged.advance h.filed (fun _ _ _ hrunning => ?_) position
        exact (perform_target_turn ..).requests hrunning

/-- In every run the requests are accounted for. -/
theorem accounted_run (runtime : Runtime) (events : List Event) :
    Accounted runtime (run (Mediator.step runtime) .initial events) := by
  have hinit : Accounted runtime .initial :=
    ⟨⟨fun _ _ h => (nomatch h), fun _ h => (nomatch h)⟩, List.Perm.refl _⟩
  have hstep : ∀ system event, Accounted runtime system → True →
      Accounted runtime (Mediator.step runtime system event) := fun _ event h _ => h.step event
  exact run_invariant hstep hinit (admissible_of_forall _ _ (fun _ _ => trivial))

/-! ## Every call that is made gets to its method -/

/-- An event that is no turn of a call adds the call that it makes, and leaves the others alone. -/
theorem threads_step {event : Event} (hevent : ∀ position, event ≠ .turn position)
    (runtime : Runtime) (system : System) :
    (step runtime system event).threads =
      system.threads ++ event.started.toList.map (fun call => ⟨call, .fetch⟩) := by
  generalize hafter : step runtime system event = after
  have heffect := hafter ▸ step_effect runtime system event
  cases heffect with
  | call hcall => simp [Pool.spawn, hcall]
  | ignored hnone => simp [hnone]
  | completed hnone => simp [hnone]
  | release name => simp [Event.started]
  | turn position => exact absurd rfl (hevent position)

/-- An event adds the call that it makes to the calls. -/
theorem calls_step (runtime : Runtime) (system : System) (event : Event) :
    (step runtime system event).threads.map Running.call =
      system.threads.map Running.call ++ event.started.toList := by
  by_cases hturn : ∃ position, event = .turn position
  · obtain ⟨position, rfl⟩ := hturn
    rw [Event.started, Option.toList_none, List.append_nil]
    exact map_advance (fun _ _ => rfl) position
  · rw [threads_step (not_exists.mp hturn), List.map_append, List.map_map]
    exact congrArg _ (List.map_id _)

/-- The calls after a run are those that its events have made. -/
theorem calls_run (runtime : Runtime) (system : System) (events : List Event) :
    (run (step runtime) system events).threads.map Running.call =
      system.threads.map Running.call ++ events.filterMap Event.started := by
  induction events generalizing system with
  | nil => simp
  | cons event events ih =>
      rw [run_cons, ih, calls_step, List.append_assoc]
      congr 1
      cases hstarted : event.started with
      | none => simp [hstarted]
      | some call => simp [hstarted]

/-- How many sections a call still has before it, at most, until its method has been called. -/
def Phase.remaining : Phase → Nat
  | .fetch => 4
  | .generate _ => 3
  | .store _ => 2
  | .perform _ => 1
  | .remove | .returned _ | .finished _ => 0

/-- A call with no section before it has had its method called. -/
theorem Phase.performed_of_remaining {phase : Phase} (h : phase.remaining = 0) :
    phase.performed = true := by
  cases phase with
  | fetch | generate _ | store _ | perform _ => cases h
  | remove | returned _ | finished _ => rfl

/-- Every section brings a call nearer to its method. -/
theorem Turn.remaining {phase next : Phase} {after : Shared}
    (hturn : Turn runtime call shared phase after next) :
    next.remaining ≤ phase.remaining - 1 := by
  cases hturn <;> simp [Phase.remaining]

/-- A call stays at its position, and goes on in its turns. -/
theorem remaining_step (runtime : Runtime) (system : System) (event : Event) {position : Nat}
    {running : Running} (hrunning : system.threads[position]? = some running) :
    ∃ next, (step runtime system event).threads[position]? = some next ∧
      next.call = running.call ∧
      next.phase.remaining ≤
        running.phase.remaining - (if event = .turn position then 1 else 0) := by
  by_cases hturn : ∃ other, event = .turn other
  · obtain ⟨other, rfl⟩ := hturn
    refine ⟨_, get_advance hrunning other, ?_, ?_⟩
    · split <;> rfl
    · by_cases hother : other = position
      · subst hother
        simp only [if_pos]
        exact (perform_target_turn ..).remaining
      · simp [hother]
  · have hlt := (List.getElem?_eq_some_iff.mp hrunning).1
    refine ⟨running, ?_, rfl, ?_⟩
    · rw [threads_step (not_exists.mp hturn), List.getElem?_append_left hlt, hrunning]
    · rw [if_neg (not_exists.mp hturn position)]
      exact le_rfl

/-- What is left of a call after a run, by its turns in it. -/
theorem remaining_run (runtime : Runtime) (system : System) (events : List Event) {position : Nat}
    {running : Running} (hrunning : system.threads[position]? = some running) :
    ∃ next, (run (step runtime) system events).threads[position]? = some next ∧
      next.call = running.call ∧
      next.phase.remaining ≤ running.phase.remaining - events.count (.turn position) := by
  induction events generalizing system running with
  | nil => exact ⟨running, hrunning, rfl, by simp⟩
  | cons event events ih =>
      obtain ⟨middle, hmiddle, hcall, hremaining⟩ := remaining_step runtime system event hrunning
      obtain ⟨next, hnext, hcall', hremaining'⟩ := ih _ hmiddle
      refine ⟨next, hnext, hcall'.trans hcall, ?_⟩
      rw [List.count_cons]
      simp only [beq_iff_eq]
      omega

/-- In every run, in whatever order the calls take turns and whatever instances are kept, the calls
are those that the events have made. The methods that have been called are those which the calls are
for, once for each call that has got so far, on instances of the classes that the calls name. And
four turns later every call has got so far. -/
theorem invocations_run (runtime : Runtime) (events : List Event) :
    let system := run (Mediator.step runtime) .initial events
    system.threads.map Running.call = events.filterMap Event.started ∧
      (system.shared.invocations.map Invocation.request).Perm
        (system.threads.flatMap (Running.requests runtime)) ∧
      ∀ position running, system.threads[position]? = some running →
        ∀ later, 4 ≤ later.count (.turn position) →
          ∃ final, (run (Mediator.step runtime) system later).threads[position]? = some final ∧
            final.call = running.call ∧ final.phase.performed = true := by
  intro system
  refine ⟨calls_run runtime .initial events, (accounted_run runtime events).logged, ?_⟩
  intro position running hrunning later hturns
  obtain ⟨final, hfinal, hcall, hremaining⟩ := remaining_run runtime system later hrunning
  refine ⟨final, hfinal, hcall, Phase.performed_of_remaining ?_⟩
  have hstart : running.phase.remaining ≤ 4 := by cases running.phase <;> simp [Phase.remaining]
  omega

/-! ## Calls from outside -/

/-- A call from outside is not for a native action. -/
def Running.Permitted (running : Running) : Prop :=
  running.call.remote = true → ¬ nativeStart <+: running.call.actionName

/-- Every call that an event starts is permitted. -/
theorem Event.started_permitted {event : Event} (h : event.started = some call) (phase : Phase) :
    Running.Permitted ⟨call, phase⟩ := by
  intro hremote hnative
  unfold Event.started Call.ofNames at h
  split at h
  · cases h
  · next url completion =>
      split at h
      · cases h
      · next hallowed =>
          split at h
          · next targetName actionName _ haction =>
              cases h
              -- the check has been made for this very name
              rw [haction, isNative] at hallowed
              exact hallowed (List.isPrefixOf_iff_prefix.mpr hnative)
          · cases h
  · split at h
    · cases h
      cases hremote
    · cases h
  · cases h
  · cases h

/-- Every step keeps the calls permitted. -/
theorem permitted_step {system : System} (h : Holds (fun _ => True) Running.Permitted system)
    (event : Event) : Holds (fun _ => True) Running.Permitted (step runtime system event) :=
  holds_step h (fun _ hcall => Event.started_permitted hcall _) (fun _ _ _ => trivial)
    (fun _ _ _ => trivial) (fun _ _ hrunning => ⟨trivial, hrunning⟩)

/-- In every run all calls are permitted. -/
theorem permitted_run (runtime : Runtime) (events : List Event) :
    Holds (fun _ => True) Running.Permitted (run (step runtime) System.initial events) := by
  have hinit : Holds (fun _ => True) Running.Permitted System.initial :=
    ⟨trivial, fun _ h => absurd h List.not_mem_nil⟩
  have hstep : ∀ system event, Holds (fun _ => True) Running.Permitted system → True →
      Holds (fun _ => True) Running.Permitted (step runtime system event) :=
    fun _ event h _ => permitted_step h event
  exact run_invariant hstep hinit (admissible_of_forall _ _ (fun _ _ => trivial))

/-- The beginning of the selectors of native actions. -/
def nativeSelector : NSString := "Action_".toList ++ nativeStart

/-- The colon at the end of a selector cannot complete the beginning of a native one. -/
theorem native_selector_prefix_iff (call : Call) :
    nativeSelector <+: call.actionString ↔ nativeStart <+: call.actionName := by
  change "Action_".toList ++ nativeStart <+: "Action_".toList ++ call.actionName ++ [':'] ↔ _
  rw [List.append_assoc, List.prefix_append_right_inj]
  constructor
  · intro h
    rcases List.prefix_concat_iff.mp h with heq | hname
    · have hcolon : ':' ∈ nativeStart := by
        rw [heq]
        simp
      exact absurd hcolon (by decide)
    · exact hname
  · exact fun h => h.trans (List.prefix_append ..)

/-- A call asks for its action, for `notFound:` or for the answer to a missing target. -/
theorem Call.requests_selector {request : Request} (h : request ∈ call.requests runtime) :
    request.call = call ∧ (request.selector = call.actionString ∨
      request.selector = notFound ∨ request.selector = actionResponse) := by
  unfold Call.requests Call.noTargetRequests at h
  split at h
  · rw [List.mem_singleton.mp h]
    exact ⟨rfl, .inl rfl⟩
  · split at h
    · rw [List.mem_singleton.mp h]
      exact ⟨rfl, .inr (.inl rfl)⟩
    · split at h
      · rw [List.mem_singleton.mp h]
        exact ⟨rfl, .inr (.inr rfl)⟩
      · cases h

/-- In every run, no method whose selector begins with `Action_native` is called on behalf of a
URL. -/
theorem remote_run (runtime : Runtime) (events : List Event) :
    ∀ invocation ∈ (run (Mediator.step runtime) .initial events).shared.invocations,
      invocation.call.remote = true → ¬ nativeSelector <+: invocation.selector := by
  intro invocation hinvocation hremote
  -- the method was called for one of the calls made so far
  have hrequest := (accounted_run runtime events).logged.mem_iff.mp
    (List.mem_map_of_mem (f := Invocation.request) hinvocation)
  obtain ⟨running, hrunning, hmem⟩ := List.mem_flatMap.mp hrequest
  unfold Running.requests at hmem
  split at hmem
  · obtain ⟨hcall, hselector⟩ := Call.requests_selector hmem
    change invocation.call = running.call at hcall
    change invocation.selector = _ ∨ invocation.selector = _ ∨ invocation.selector = _
      at hselector
    rcases hselector with haction | hnotFound | hresponse
    · rw [haction, native_selector_prefix_iff]
      exact (permitted_run runtime events).threads running hrunning (hcall ▸ hremote)
    · rw [hnotFound]
      decide
    · rw [hresponse]
      decide
  · cases hmem

/-- A class with one action. -/
def sampleRuntime : Runtime := fun name =>
  if name = "Target_A".toList then
    some (fun selector => if selector = "Action_show:".toList then some .void else none)
  else none

/-- A URL for the action. -/
def sampleUrl : NSURL := ⟨some "A".toList, some "/show".toList, []⟩

/-- The URL is opened and its call runs until it has called its method. -/
def sampleEvents : List Event :=
  [.performActionWithUrl (some sampleUrl) true, .turn 0, .turn 0, .turn 0, .turn 0]

/-- The method that is called then. -/
def sampleInvocation : Invocation :=
  { call := ⟨"A".toList, "show".toList, [], false, true, true⟩
    target := ⟨"Target_A".toList, 0⟩
    selector := "Action_show:".toList
    argument := .params [] }

/-- The URL of the sample reaches an action whose name does not start with `native`. -/
theorem remote_run_sample :
    sampleInvocation ∈ (run (step sampleRuntime) .initial sampleEvents).shared.invocations ∧
      ¬ nativeSelector <+: sampleInvocation.selector := by
  have hcalled : sampleInvocation ∈
      (run (step sampleRuntime) .initial sampleEvents).shared.invocations := by decide
  exact ⟨hcalled, remote_run sampleRuntime sampleEvents sampleInvocation hcalled rfl⟩

end Component.Mediator

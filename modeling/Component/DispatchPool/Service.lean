import Component.DispatchPool.Fairness

/-!
# What the queues are good for

A queue is asked for by a quality of service, either directly or from the pool that
`defaultPoolForQOS:` gives for it. For each of the four named qualities of service other than the
default it has the name and the service of this quality. The default and the values without a name
share one context, whose service is that of one of them, so the default itself may get the
unspecified class (`service_run`).
-/

namespace Component.DispatchPool

open Component.Lib.Run

/-! ## What is asked for -/

/-- The quality of service that a slot is named after. -/
def Slot.qos : Slot → NSQualityOfService
  | .userInteractive => .userInteractive
  | .userInitiated => .userInitiated
  | .utility => .utility
  | .background => .background
  | .default => .default

/-- Only the slot of the default is shared by several qualities of service. -/
theorem eq_slot_qos {qos : NSQualityOfService} (hnamed : qos.slot ≠ .default) :
    qos = qos.slot.qos := by
  cases qos with
  | default | other value => exact absurd rfl hnamed
  | userInteractive | userInitiated | utility | background => rfl

/-- What `defaultPoolForQOS:` passes on has the slot of what it was asked for. -/
theorem slot_pooled (qos : NSQualityOfService) : qos.pooled.slot = qos.slot := by
  cases qos <;> rfl

/-- A queue was asked for by a quality of service of the slot: directly, or from the pool that
`defaultPoolForQOS:` gives for it. -/
def System.AskedFor (system : System) (slot : Slot) : Asked → Prop
  | .qos qos => qos.slot = slot
  | .pool pool => system.defaultPools slot = some pool

/-- What is asked for leads to a context. -/
def System.Leads (system : System) (context : Nat) : Asked → Prop
  | .qos qos => system.slots qos.slot = some context
  | .pool pool => system.pools[pool]? = some context

/-- What leads to a context still does when there are more slots and pools. -/
theorem System.Leads.mono {system after : System} {context : Nat} {asked : Asked}
    (h : system.Leads context asked)
    (hslots : ∀ slot context, system.slots slot = some context → after.slots slot = some context)
    (hpools : ∀ pool context : Nat, system.pools[pool]? = some context →
      after.pools[pool]? = some context) : after.Leads context asked := by
  cases asked with
  | qos qos => exact hslots _ _ h
  | pool pool => exact hpools _ _ h

/-! ## The invariant -/

/-- All queues of a context have the name and the service for a quality of service. -/
def YYDispatchContext.Serves (atLeast8 : Bool) (qos : NSQualityOfService)
    (context : YYDispatchContext) : Prop :=
  ∀ queue ∈ context.queues, queue = ⟨some qos.slot.name, serviceFor atLeast8 qos⟩

/-- A new context for a quality of service serves it. -/
theorem serves_create (atLeast8 : Bool) (queueCount : UInt32) (qos : NSQualityOfService) :
    (yyDispatchContextCreate atLeast8 qos.slot.name queueCount qos).Serves atLeast8 qos :=
  fun _ hqueue => (List.mem_replicate.mp hqueue).2

/-- The context of a slot serves a quality of service of this slot, the pool that
`defaultPoolForQOS:` has made for a slot has the context of the slot, and the queues given out are
those of the contexts that what was asked for leads to. -/
structure Serviced (atLeast8 : Bool) (system : System) : Prop where
  slots : ∀ slot position, system.slots slot = some position →
    ∃ context qos, system.contexts[position]? = some context ∧ qos.slot = slot ∧
      context.Serves atLeast8 qos
  defaultPools : ∀ slot pool, system.defaultPools slot = some pool →
    ∃ context, system.pools[pool]? = some context ∧ system.slots slot = some context
  handed : ∀ one ∈ system.handed, system.Leads one.context one.asked

section Steps

variable {atLeast8 : Bool} {system : System}

/-- A queue that was asked for by a quality of service is one of the context of its slot. -/
theorem Serviced.asked_for (h : Serviced atLeast8 system) {one : Handed}
    (hone : one ∈ system.handed) {slot : Slot} (hasked : system.AskedFor slot one.asked) :
    system.slots slot = some one.context := by
  have hleads := h.handed one hone
  cases hwhat : one.asked with
  | qos qos =>
      rw [hwhat] at hasked hleads
      exact hasked ▸ hleads
  | pool pool =>
      rw [hwhat] at hasked hleads
      obtain ⟨context, hpool, hslot⟩ := h.defaultPools slot pool hasked
      rw [hslot, ← hpool]
      exact hleads

/-- Contexts that are created later do not change those of the slots. -/
theorem Serviced.create (h : Serviced atLeast8 system) (context : YYDispatchContext) :
    Serviced atLeast8 (system.create context) := by
  refine ⟨fun slot position hslot => ?_, h.defaultPools, fun one hone => ?_⟩
  · obtain ⟨found, qos, hfound, hqos, hserves⟩ := h.slots slot position hslot
    refine ⟨found, qos, ?_, hqos, hserves⟩
    have hlt := (List.getElem?_eq_some_iff.mp hfound).1
    rw [System.create, List.getElem?_append_left hlt]
    exact hfound
  · exact (h.handed one hone).mono (fun _ _ => id) (fun _ _ => id)

/-- The context for a quality of service is the one of its slot, and is created for it if there was
none. -/
theorem Serviced.context_get_for_qos (h : Serviced atLeast8 system) (qos : NSQualityOfService)
    (activeProcessorCount : Int) :
    Serviced atLeast8 (system.contextGetForQOS atLeast8 qos activeProcessorCount).2 ∧
      (system.contextGetForQOS atLeast8 qos activeProcessorCount).2.slots qos.slot =
        some (system.contextGetForQOS atLeast8 qos activeProcessorCount).1 := by
  unfold System.contextGetForQOS
  split
  · next position hslot => exact ⟨h, hslot⟩
  · next hslot =>
      -- the slot is set for the first time, so what was set stays as it is
      have hkeeps : ∀ slot position, system.slots slot = some position →
          Function.update system.slots qos.slot (some system.contexts.length) slot =
            some position := by
        intro slot position hposition
        rw [Function.update_of_ne, hposition]
        rintro rfl
        cases hslot.symm.trans hposition
      refine ⟨⟨fun slot position hposition => ?_, fun slot pool hpool => ?_, fun one hone => ?_⟩,
        Function.update_self ..⟩
      · by_cases hsame : slot = qos.slot
        · subst hsame
          simp only [Function.update_self, Option.some.injEq] at hposition
          subst hposition
          exact ⟨_, qos, List.getElem?_concat_length .., rfl, serves_create _ _ qos⟩
        · simp only [Function.update_of_ne hsame] at hposition
          exact (h.create _).slots slot position hposition
      · obtain ⟨context, hcontext, hbefore⟩ := h.defaultPools slot pool hpool
        exact ⟨context, hcontext, hkeeps slot context hbefore⟩
      · exact (h.handed one hone).mono hkeeps (fun _ _ => id)

/-- Giving out a queue of the context that was asked for. -/
theorem Serviced.get_queue (h : Serviced atLeast8 system) {position : Nat} {asked : Asked}
    (hleads : system.Leads position asked) :
    Serviced atLeast8 (system.getQueue position asked) := by
  unfold System.getQueue
  split
  · exact h
  · next context hcontext =>
      have hlt : position < system.contexts.length :=
        (List.getElem?_eq_some_iff.mp hcontext).1
      refine ⟨fun slot other hslot => ?_, h.defaultPools, fun one hone => ?_⟩
      · obtain ⟨found, served, hfound, hserved, hserves⟩ := h.slots slot other hslot
        by_cases hsame : other = position
        · subst hsame
          obtain rfl : context = found := Option.some.inj (hcontext.symm.trans hfound)
          exact ⟨_, served, List.getElem?_set_self hlt, hserved, hserves⟩
        · exact ⟨found, served, (List.getElem?_set_ne (Ne.symm hsame)).trans hfound, hserved,
            hserves⟩
      · rcases List.mem_append.mp hone with hbefore | hlast
        · exact (h.handed one hbefore).mono (fun _ _ => id) (fun _ _ => id)
        · obtain rfl := List.mem_singleton.mp hlast
          exact hleads.mono (fun _ _ => id) (fun _ _ => id)

/-- A new pool does not change the context of another one. -/
theorem pools_append {pools : List Nat} {pool context : Nat} (h : pools[pool]? = some context)
    (new : Nat) : (pools ++ [new])[pool]? = some context := by
  rw [List.getElem?_append_left (List.getElem?_eq_some_iff.mp h).1, h]

/-- Pools that are made later do not change those there are. -/
theorem Serviced.init_with_context (h : Serviced atLeast8 system) (context : Nat) :
    Serviced atLeast8 (system.initWithContext context) := by
  refine ⟨h.slots, fun slot pool hpool => ?_, fun one hone => ?_⟩
  · obtain ⟨found, hfound, hslot⟩ := h.defaultPools slot pool hpool
    exact ⟨found, pools_append hfound context, hslot⟩
  · exact (h.handed one hone).mono (fun _ _ => id) (fun _ _ hpool => pools_append hpool context)

/-- The pool for a quality of service has the context of its slot. -/
theorem Serviced.default_pool_for_qos (h : Serviced atLeast8 system) (qos : NSQualityOfService)
    (activeProcessorCount : Int) :
    Serviced atLeast8 (system.defaultPoolForQOS atLeast8 qos activeProcessorCount).2 := by
  unfold System.defaultPoolForQOS
  split
  · exact h
  · obtain ⟨hafter, hslot⟩ := h.context_get_for_qos qos.pooled activeProcessorCount
    have hpool := hafter.init_with_context
      (system.contextGetForQOS atLeast8 qos.pooled activeProcessorCount).1
    refine ⟨hpool.slots, fun slot pool hdefault => ?_, fun one hone => ?_⟩
    · by_cases hsame : slot = qos.slot
      · subst hsame
        simp only [Function.update_self, Option.some.injEq] at hdefault
        subst hdefault
        exact ⟨_, List.getElem?_concat_length .., slot_pooled qos ▸ hslot⟩
      · simp only [Function.update_of_ne hsame] at hdefault
        exact hpool.defaultPools slot pool hdefault
    · exact (hpool.handed one hone).mono (fun _ _ => id) (fun _ _ => id)

/-- Every event gives out queues of the contexts that were asked for. -/
theorem Serviced.step (h : Serviced atLeast8 system) (event : Event) :
    Serviced atLeast8 (step atLeast8 system event) := by
  cases event with
  | initWithName name queueCount qos =>
      unfold DispatchPool.step System.initWithName
      dsimp only
      split
      · exact h
      · exact (h.create _).init_with_context _
  | queue pool =>
      unfold DispatchPool.step System.queue
      dsimp only
      split
      · exact h
      · next context hpool => exact h.get_queue hpool
  | defaultPoolForQOS qos activeProcessorCount =>
      exact h.default_pool_for_qos qos activeProcessorCount
  | yyDispatchQueueGetForQOS qos activeProcessorCount =>
      obtain ⟨hafter, hslot⟩ := h.context_get_for_qos qos activeProcessorCount
      exact hafter.get_queue hslot

end Steps

/-- In every run the queues given out are those of the contexts that were asked for. -/
theorem serviced_run (atLeast8 : Bool) (events : List Event) :
    Serviced atLeast8 (run (DispatchPool.step atLeast8) System.initial events) := by
  have hinit : Serviced atLeast8 System.initial :=
    ⟨fun _ _ hslot => (nomatch hslot), fun _ _ hpool => (nomatch hpool),
      fun one hone => absurd hone List.not_mem_nil⟩
  have hstep : ∀ system event, Serviced atLeast8 system → True →
      Serviced atLeast8 (DispatchPool.step atLeast8 system event) := fun _ event h _ => h.step event
  exact run_invariant hstep hinit (admissible_of_forall _ _ (fun _ _ => trivial))

/-! ## The result -/

/-- A queue that was asked for by a quality of service has the name of its slot and the service that
the context of the slot has. -/
theorem Serviced.queue_eq {atLeast8 : Bool} {system : System} (h : Serviced atLeast8 system)
    (haccounted : Accounted system) {one : Handed} (hone : one ∈ system.handed) {slot : Slot}
    (hasked : system.AskedFor slot one.asked) {context : YYDispatchContext}
    {served : NSQualityOfService} {position : Nat} (hslot : system.slots slot = some position)
    (hcontext : system.contexts[position]? = some context) (hserved : served.slot = slot)
    (hserves : context.Serves atLeast8 served) :
    one.queue = some ⟨some slot.name, serviceFor atLeast8 served⟩ := by
  have hposition : one.context = position :=
    Option.some.inj ((h.asked_for hone hasked).symm.trans hslot)
  obtain ⟨hinside, heq⟩ :=
    (haccounted.tracked position context hcontext).inside one hone hposition
  rw [heq, List.getElem?_eq_getElem hinside, hserves _ (List.getElem_mem hinside), hserved]

/-- In every run, a queue that was asked for by a quality of service, directly or from the pool of
`defaultPoolForQOS:`, has the name for it. For one of the four named qualities of service other than
the default it has the service of this quality. The default and all values without a name get the
same service, which is that of one of them. -/
theorem service_run (atLeast8 : Bool) (events : List Event) :
    let system := run (DispatchPool.step atLeast8) System.initial events
    ∃ fallback : NSQualityOfService, fallback.slot = .default ∧
      ∀ one ∈ system.handed, ∀ slot, system.AskedFor slot one.asked →
        one.queue = some ⟨some slot.name,
          serviceFor atLeast8 (if slot = .default then fallback else slot.qos)⟩ := by
  intro system
  have hserviced : Serviced atLeast8 system := serviced_run atLeast8 events
  have haccounted : Accounted system := accounted_run atLeast8 events
  -- the context of a slot other than that of the default serves the quality the slot is named after
  have hnamed : ∀ one ∈ system.handed, ∀ slot, system.AskedFor slot one.asked → slot ≠ .default →
      one.queue = some ⟨some slot.name, serviceFor atLeast8 slot.qos⟩ := by
    intro one hone slot hasked hslot
    have hposition := hserviced.asked_for hone hasked
    obtain ⟨context, served, hcontext, rfl, hserves⟩ := hserviced.slots _ _ hposition
    rw [← eq_slot_qos hslot]
    exact hserviced.queue_eq haccounted hone hasked hposition hcontext rfl hserves
  cases hdefault : system.slots .default with
  | none =>
      refine ⟨.default, rfl, fun one hone slot hasked => ?_⟩
      have hslot : slot ≠ .default := by
        rintro rfl
        cases (hserviced.asked_for hone hasked).symm.trans hdefault
      rw [if_neg hslot]
      exact hnamed one hone slot hasked hslot
  | some position =>
      obtain ⟨found, fallback, hfound, hfallback, hserves⟩ := hserviced.slots _ _ hdefault
      refine ⟨fallback, hfallback, fun one hone slot hasked => ?_⟩
      by_cases hslot : slot = .default
      · subst hslot
        rw [if_pos rfl]
        exact hserviced.queue_eq haccounted hone hasked hdefault hfound hfallback hserves
      · rw [if_neg hslot]
        exact hnamed one hone slot hasked hslot

-- the default is asked for after a value without a name
example :
    (run (DispatchPool.step true) System.initial
        [.yyDispatchQueueGetForQOS (.other 3) 2, .defaultPoolForQOS .default 2,
          .queue 0]).handed.map (fun one => one.queue.map DispatchQueue.service) =
      [some (.qosClass .unspecified), some (.qosClass .unspecified)] := by decide

end Component.DispatchPool

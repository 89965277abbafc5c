import Component.DispatchPool.Model
import Component.Lib.RoundRobin
import Component.Lib.Run

/-!
# How the queues are given out

In every run, the queues of a context are given out evenly (`fair_run`). Among the first `2 ^ 32`
requests no queue is given out more than once more often than another one of its context. Each time
the counter wraps around, the lead of a queue may grow by one, unless the number of queues is a
power of two. An index never lies outside of the array.
-/

namespace Component.DispatchPool

open Component.Lib Component.Lib.Run

/-! ## The requests of one context -/

/-- The number of requests to a context. -/
def requests (position : Nat) (handed : List Handed) : Nat :=
  handed.countP fun one => decide (one.context = position)

/-- The number of times a queue of a context has been given out. -/
def given (position index : Nat) (handed : List Handed) : Nat :=
  handed.countP fun one => decide (one.context = position ∧ one.index = index)

/-- What holds of a context and the queues of it that have been given out. -/
structure Tracked (position : Nat) (handed : List Handed) (context : YYDispatchContext) :
    Prop where
  count : context.queueCount.toNat = context.queues.length
  pos : 0 < context.queues.length
  le : context.queues.length ≤ maxQueueCount
  counter : context.counter.toNat = requests position handed % 2 ^ 32
  given : ∀ index, given position index handed =
    RoundRobin.uses (2 ^ 32) context.queues.length index (requests position handed)
  inside : ∀ one ∈ handed, one.context = position →
    one.index < context.queues.length ∧ one.queue = context.queues[one.index]?

/-- A new context has given out no queue. -/
theorem tracked_create (atLeast8 : Bool) (name : Option CString) {queueCount : Nat}
    (qos : NSQualityOfService) (hpos : 0 < queueCount) (hle : queueCount ≤ maxQueueCount)
    {position : Nat} {handed : List Handed} (hnone : ∀ one ∈ handed, one.context ≠ position) :
    Tracked position handed
      (yyDispatchContextCreate atLeast8 name (UInt32.ofNat queueCount) qos) := by
  have hcount : (UInt32.ofNat queueCount).toNat = queueCount :=
    UInt32.toNat_ofNat_of_lt' (hle.trans_lt (by decide))
  have hlength : (yyDispatchContextCreate atLeast8 name (UInt32.ofNat queueCount)
      qos).queues.length = queueCount := by
    rw [yyDispatchContextCreate, List.length_replicate, hcount]
  have hrequests : requests position handed = 0 :=
    List.countP_eq_zero.mpr fun one hone => by simp [hnone one hone]
  refine ⟨by rw [hlength]; exact hcount, by rwa [hlength], by rwa [hlength], ?_, ?_, ?_⟩
  · rw [hrequests]
    rfl
  · intro index
    rw [hrequests]
    exact List.countP_eq_zero.mpr fun one hone => by simp [hnone one hone]
  · intro one hone hcontext
    exact absurd hcontext (hnone one hone)

/-- The index that a context gives out next. -/
theorem Tracked.index_eq {position : Nat} {handed : List Handed} {context : YYDispatchContext}
    (h : Tracked position handed context) :
    (yyDispatchContextGetQueue context).1 =
      (requests position handed + 1) % 2 ^ 32 % context.queues.length := by
  have hcounter : (context.counter + 1).toNat = (requests position handed + 1) % 2 ^ 32 := by
    rw [UInt32.toNat_add, h.counter]
    exact Nat.mod_add_mod ..
  rw [yyDispatchContextGetQueue, UInt32.toNat_mod, hcounter, h.count]

/-- A request is counted for its own context. -/
theorem Tracked.get {position : Nat} {handed : List Handed} {context : YYDispatchContext}
    (h : Tracked position handed context) (asked : Asked) :
    Tracked position
      (handed ++ [⟨position, (yyDispatchContextGetQueue context).1,
        (yyDispatchContextGetQueue context).2.1, asked⟩])
      (yyDispatchContextGetQueue context).2.2 := by
  have hrequests : requests position (handed ++ [⟨position, (yyDispatchContextGetQueue context).1,
      (yyDispatchContextGetQueue context).2.1, asked⟩]) = requests position handed + 1 := by
    simp [requests]
  refine ⟨h.count, h.pos, h.le, ?_, ?_, ?_⟩
  · rw [hrequests]
    change (context.counter + 1).toNat = _
    rw [UInt32.toNat_add, h.counter]
    exact Nat.mod_add_mod ..
  · intro index
    rw [hrequests]
    change _ = RoundRobin.uses (2 ^ 32) context.queues.length index _
    rw [RoundRobin.uses, ← h.given, DispatchPool.given, List.countP_append, ← h.index_eq]
    simp [List.countP_singleton, DispatchPool.given]
  · intro one hone hcontext
    change _ < context.queues.length ∧ _ = context.queues[_]?
    rcases List.mem_append.mp hone with hbefore | hlast
    · exact h.inside one hbefore hcontext
    · rw [List.mem_singleton.mp hlast]
      refine ⟨?_, rfl⟩
      rw [h.index_eq]
      exact Nat.mod_lt _ h.pos

/-- Requests to other contexts do not matter. -/
theorem Tracked.other {position : Nat} {handed : List Handed} {context : YYDispatchContext}
    (h : Tracked position handed context) {one : Handed} (hother : one.context ≠ position) :
    Tracked position (handed ++ [one]) context := by
  have hrequests : requests position (handed ++ [one]) = requests position handed := by
    simp [requests, hother]
  refine ⟨h.count, h.pos, h.le, by rw [hrequests]; exact h.counter, ?_, ?_⟩
  · intro index
    rw [hrequests, ← h.given, DispatchPool.given, List.countP_append]
    simp [DispatchPool.given, hother]
  · intro other hmem hcontext
    rcases List.mem_append.mp hmem with hbefore | hlast
    · exact h.inside other hbefore hcontext
    · exact absurd (List.mem_singleton.mp hlast ▸ hcontext) hother

/-! ## The whole system -/

/-- Every context is tracked, and only contexts that exist have been asked. -/
structure Accounted (system : System) : Prop where
  known : ∀ one ∈ system.handed, one.context < system.contexts.length
  tracked : ∀ position context, system.contexts[position]? = some context →
    Tracked position system.handed context

/-- A new context is tracked, and the others stay so. -/
theorem Accounted.create {system : System} (h : Accounted system) (atLeast8 : Bool)
    (name : Option CString) {queueCount : Nat} (qos : NSQualityOfService) (hpos : 0 < queueCount)
    (hle : queueCount ≤ maxQueueCount) :
    Accounted
      (system.create (yyDispatchContextCreate atLeast8 name (UInt32.ofNat queueCount) qos)) := by
  constructor
  · intro one hone
    have hknown := h.known one hone
    simp only [System.create, List.length_append, List.length_singleton]
    omega
  · intro position context hcontext
    simp only [System.create] at hcontext ⊢
    rcases Nat.lt_or_ge position system.contexts.length with hlt | hge
    · rw [List.getElem?_append_left hlt] at hcontext
      exact h.tracked position context hcontext
    · rw [List.getElem?_append_right hge, List.getElem?_singleton] at hcontext
      split at hcontext
      · cases hcontext
        refine tracked_create atLeast8 name qos hpos hle fun one hone => ?_
        have hknown := h.known one hone
        omega
      · cases hcontext

/-- There is at least one queue for the processors, and not too many. -/
theorem clamp_count_bounds (activeProcessorCount : Int) :
    0 < (clampCount activeProcessorCount).toNat ∧
      (clampCount activeProcessorCount).toNat ≤ maxQueueCount := by
  unfold clampCount maxQueueCount
  split
  · decide
  · split <;> omega

/-- Asking for the context of a quality of service keeps all contexts tracked. -/
theorem Accounted.context_get_for_qos {system : System} (h : Accounted system) (atLeast8 : Bool)
    (qos : NSQualityOfService) (activeProcessorCount : Int) :
    Accounted (system.contextGetForQOS atLeast8 qos activeProcessorCount).2 := by
  obtain ⟨hpos, hle⟩ := clamp_count_bounds activeProcessorCount
  unfold System.contextGetForQOS
  split
  · exact h
  · have hcreated := h.create atLeast8 qos.slot.name qos hpos hle
    exact ⟨hcreated.known, hcreated.tracked⟩

/-- Giving out a queue keeps all contexts tracked. -/
theorem Accounted.get_queue {system : System} (h : Accounted system) (position : Nat)
    (asked : Asked) : Accounted (system.getQueue position asked) := by
  unfold System.getQueue
  split
  · exact h
  · next context hcontext =>
      have hlt : position < system.contexts.length :=
        (List.getElem?_eq_some_iff.mp hcontext).1
      constructor
      · intro one hone
        rw [List.length_set]
        rcases List.mem_append.mp hone with hbefore | hlast
        · exact h.known one hbefore
        · rw [List.mem_singleton.mp hlast]
          exact hlt
      · intro other context' hcontext'
        by_cases hsame : other = position
        · subst hsame
          rw [List.getElem?_set_self hlt] at hcontext'
          cases hcontext'
          exact (h.tracked other context hcontext).get asked
        · rw [List.getElem?_set_ne (Ne.symm hsame)] at hcontext'
          exact (h.tracked other context' hcontext').other (Ne.symm hsame)

/-- Making a pool changes nothing about the contexts. -/
theorem Accounted.init_with_context {system : System} (h : Accounted system) (context : Nat) :
    Accounted (system.initWithContext context) := ⟨h.known, h.tracked⟩

/-- Every event keeps all contexts tracked. -/
theorem Accounted.step {system : System} (h : Accounted system) (atLeast8 : Bool)
    (event : Event) : Accounted (step atLeast8 system event) := by
  cases event with
  | initWithName name queueCount qos =>
      unfold DispatchPool.step System.initWithName
      dsimp only
      split
      · exact h
      · exact (h.create atLeast8 name qos (by omega) (by omega)).init_with_context _
  | queue pool =>
      unfold DispatchPool.step System.queue
      dsimp only
      split
      · exact h
      · exact h.get_queue _ _
  | defaultPoolForQOS qos activeProcessorCount =>
      unfold DispatchPool.step System.defaultPoolForQOS
      dsimp only
      split
      · exact h
      · have hcontext := h.context_get_for_qos atLeast8 qos.pooled activeProcessorCount
        exact ⟨hcontext.known, hcontext.tracked⟩
  | yyDispatchQueueGetForQOS qos activeProcessorCount =>
      exact (h.context_get_for_qos atLeast8 qos activeProcessorCount).get_queue _ _

/-- In every run all contexts are tracked. -/
theorem accounted_run (atLeast8 : Bool) (events : List Event) :
    Accounted (run (DispatchPool.step atLeast8) System.initial events) := by
  have hinit : Accounted System.initial :=
    ⟨fun one hone => absurd hone List.not_mem_nil, fun position context h => by
      simp [System.initial] at h⟩
  have hstep : ∀ system event, Accounted system → True →
      Accounted (DispatchPool.step atLeast8 system event) :=
    fun _ event h _ => h.step atLeast8 event
  exact run_invariant hstep hinit (admissible_of_forall _ _ (fun _ _ => trivial))

/-- In every run, whatever contexts are created and in whatever order they are asked: a context has
from one to 32 queues, the queues given out are those at an index inside of its array, and no queue
is ahead of another one by more than one for each time the counter has wrapped around, and one. If
the number of queues is a power of two, then it is never ahead by more than one. -/
theorem fair_run (atLeast8 : Bool) (events : List Event) (position : Nat)
    (context : YYDispatchContext)
    (hcontext : (run (DispatchPool.step atLeast8) System.initial events).contexts[position]? =
      some context) :
    let handed := (run (DispatchPool.step atLeast8) System.initial events).handed
    (1 ≤ context.queues.length ∧ context.queues.length ≤ 32) ∧
    (∀ one ∈ handed, one.context = position →
      one.index < context.queues.length ∧ one.queue = context.queues[one.index]?) ∧
    ∀ first < context.queues.length, ∀ second < context.queues.length,
      given position first handed ≤
        given position second handed + 1 + requests position handed / 2 ^ 32 ∧
      (context.queues.length ∣ 2 ^ 32 →
        given position first handed ≤ given position second handed + 1) := by
  intro handed
  have htracked := (accounted_run atLeast8 events).tracked position context hcontext
  refine ⟨⟨htracked.pos, htracked.le⟩, htracked.inside, fun first hfirst second hsecond => ?_⟩
  rw [htracked.given first, htracked.given second]
  exact ⟨RoundRobin.uses_le (by norm_num) hfirst hsecond _,
    fun hdvd => RoundRobin.uses_le_of_dvd (by norm_num) hfirst hsecond hdvd _⟩

/-- Three queues and five requests. -/
def sampleEvents : List Event :=
  [.initWithName none 3 .utility, .queue 0, .queue 0, .yyDispatchQueueGetForQOS .background 4,
    .queue 0, .queue 0, .queue 0]

/-- The second queue of the three has been given out twice, the first one once. -/
theorem fair_run_sample :
    given 0 1 (run (DispatchPool.step true) System.initial sampleEvents).handed = 2 ∧
    given 0 1 (run (DispatchPool.step true) System.initial sampleEvents).handed ≤
      given 0 0 (run (DispatchPool.step true) System.initial sampleEvents).handed + 1 +
        requests 0 (run (DispatchPool.step true) System.initial sampleEvents).handed / 2 ^ 32 :=
  ⟨by decide, ((fair_run true sampleEvents 0 _ rfl).2.2 1 (by decide) 0 (by decide)).1⟩

end Component.DispatchPool

import Mathlib

/-!
# The dispatch queue pool

A `YYDispatchQueuePool` keeps serial dispatch queues in a context, and gives the queues of its
context in turn. A program makes pools of its own, each with a new context. And there is one context
for each quality of service that is created when it is first asked for, with a queue for each
processor: a program asks for a queue of it, or for the pool that has it. A context counts the
requests with an atomic counter of 32 bits, so requests from different threads are taken as coming
one after another.

Allocation is taken to succeed, and contexts of pools are not released.
-/

namespace Component.DispatchPool

/-- A string without the zero at its end. -/
abbrev CString := List Char

/-- `NSQualityOfService`, with the values that have no name. -/
inductive NSQualityOfService where
  | userInteractive
  | userInitiated
  | utility
  | background
  | default
  | other (value : Int)
  deriving DecidableEq, Repr

/-- `qos_class_t`. -/
inductive QosClass where
  | userInteractive
  | userInitiated
  | utility
  | background
  | default
  | unspecified
  deriving DecidableEq, Repr

/-- `dispatch_queue_priority_t`. -/
inductive DispatchPriority where
  | high
  | default
  | low
  | background
  deriving DecidableEq, Repr

/-- `NSQualityOfServiceToDispatchPriority`. -/
def nsQualityOfServiceToDispatchPriority : NSQualityOfService → DispatchPriority
  | .userInteractive => .high
  | .userInitiated => .high
  | .utility => .low
  | .background => .background
  | .default => .default
  | .other _ => .default

/-- `NSQualityOfServiceToQOSClass`. -/
def nsQualityOfServiceToQOSClass : NSQualityOfService → QosClass
  | .userInteractive => .userInteractive
  | .userInitiated => .userInitiated
  | .utility => .utility
  | .background => .background
  | .default => .default
  | .other _ => .unspecified

/-- How a queue gets its service: by its class, or by the global queue it is targeted at. -/
inductive Service where
  | qosClass (qosClass : QosClass)
  | target (priority : DispatchPriority)
  deriving DecidableEq, Repr

/-- A serial queue. -/
structure DispatchQueue where
  label : Option CString
  service : Service
  deriving DecidableEq, Repr

/-- `YYDispatchContext`. The counter is read as `uint32_t`. -/
structure YYDispatchContext where
  name : Option CString
  queues : List DispatchQueue
  queueCount : UInt32
  counter : UInt32
  deriving DecidableEq, Repr

/-- `MAX_QUEUE_COUNT`. -/
def maxQueueCount : Nat := 32

/-- The service of the queues of a context, by the version of the system. -/
def serviceFor (atLeast8 : Bool) (qos : NSQualityOfService) : Service :=
  if atLeast8 then .qosClass (nsQualityOfServiceToQOSClass qos)
  else .target (nsQualityOfServiceToDispatchPriority qos)

/-- `YYDispatchContextCreate`. -/
def yyDispatchContextCreate (atLeast8 : Bool) (name : Option CString) (queueCount : UInt32)
    (qos : NSQualityOfService) : YYDispatchContext where
  name := name
  queues := List.replicate queueCount.toNat ⟨name, serviceFor atLeast8 qos⟩
  queueCount := queueCount
  counter := 0

/-- `YYDispatchContextGetQueue`: the index of the queue, the queue at this index, if there is one,
and the context with its counter increased. -/
def yyDispatchContextGetQueue (context : YYDispatchContext) :
    Nat × Option DispatchQueue × YYDispatchContext :=
  -- the counter is increased before it is used, and it wraps around
  let counter := context.counter + 1
  let index := (counter % context.queueCount).toNat
  (index, context.queues[index]?, { context with counter := counter })

/-- The positions of the array `context` in `YYDispatchContextGetForQOS`. -/
inductive Slot where
  | userInteractive
  | userInitiated
  | utility
  | background
  | default
  deriving DecidableEq, Repr

/-- The cases of the switches over a quality of service. -/
def NSQualityOfService.slot : NSQualityOfService → Slot
  | .userInteractive => .userInteractive
  | .userInitiated => .userInitiated
  | .utility => .utility
  | .background => .background
  | .default | .other _ => .default

/-- The names of the contexts for the qualities of service. -/
def Slot.name : Slot → CString
  | .userInteractive => "com.ibireme.yykit.user-interactive".toList
  | .userInitiated => "com.ibireme.yykit.user-initiated".toList
  | .utility => "com.ibireme.yykit.utility".toList
  | .background => "com.ibireme.yykit.background".toList
  | .default => "com.ibireme.yykit.default".toList

/-- `count` from `activeProcessorCount`. -/
def clampCount (activeProcessorCount : Int) : Int :=
  if activeProcessorCount < 1 then 1
  else if activeProcessorCount > maxQueueCount then maxQueueCount
  else activeProcessorCount

/-- What a queue is asked for: a quality of service, or a pool. -/
inductive Asked where
  | qos (qos : NSQualityOfService)
  | pool (pool : Nat)
  deriving DecidableEq, Repr

/-- A queue that has been given out: the context and index it is from, and what it was asked
for. -/
structure Handed where
  context : Nat
  index : Nat
  queue : Option DispatchQueue
  asked : Asked
  deriving DecidableEq, Repr

/-- All contexts by the order of their creation, those of the qualities of service, the contexts of
all pools by the order of their creation, the pools that `defaultPoolForQOS:` has made, and the
queues given out. -/
structure System where
  contexts : List YYDispatchContext
  slots : Slot → Option Nat
  pools : List Nat
  defaultPools : Slot → Option Nat
  handed : List Handed

/-- The system before any request. -/
def System.initial : System := ⟨[], fun _ => none, [], fun _ => none, []⟩

/-- A context is created. -/
def System.create (system : System) (context : YYDispatchContext) : System :=
  { system with contexts := system.contexts ++ [context] }

/-- `YYDispatchContextGetForQOS`: the context is created once. -/
def System.contextGetForQOS (atLeast8 : Bool) (system : System) (qos : NSQualityOfService)
    (activeProcessorCount : Int) : Nat × System :=
  match system.slots qos.slot with
  | some context => (context, system)
  | none =>
      -- a value without a name is passed on as it is, and decides the service of all of them
      let context := yyDispatchContextCreate atLeast8 qos.slot.name
        (UInt32.ofNat (clampCount activeProcessorCount).toNat) qos
      (system.contexts.length,
        { system.create context with
          slots := Function.update system.slots qos.slot (some system.contexts.length) })

/-- A queue of a context is given out. -/
def System.getQueue (system : System) (position : Nat) (asked : Asked) : System :=
  match system.contexts[position]? with
  | none => system
  | some context =>
      let (index, queue, after) := yyDispatchContextGetQueue context
      { system with
        contexts := system.contexts.set position after
        handed := system.handed ++ [⟨position, index, queue, asked⟩] }

/-- `initWithContext:`: a pool is made that has the context. -/
def System.initWithContext (system : System) (context : Nat) : System :=
  { system with pools := system.pools ++ [context] }

/-- `initWithName:queueCount:qos:`. -/
def System.initWithName (atLeast8 : Bool) (system : System) (name : Option CString)
    (queueCount : Nat) (qos : NSQualityOfService) : System :=
  if queueCount = 0 ∨ maxQueueCount < queueCount then system
  else
    let context := yyDispatchContextCreate atLeast8 name (UInt32.ofNat queueCount) qos
    (system.create context).initWithContext system.contexts.length

/-- `queue`: the pool gives out a queue of its context. -/
def System.queue (system : System) (pool : Nat) : System :=
  match system.pools[pool]? with
  | none => system
  | some context => system.getQueue context (.pool pool)

/-- `defaultPoolForQOS:` does not pass values without a name on. -/
def NSQualityOfService.pooled : NSQualityOfService → NSQualityOfService
  | .other _ => .default
  | qos => qos

/-- `defaultPoolForQOS:`: the pool is made once. -/
def System.defaultPoolForQOS (atLeast8 : Bool) (system : System) (qos : NSQualityOfService)
    (activeProcessorCount : Int) : Nat × System :=
  match system.defaultPools qos.slot with
  | some pool => (pool, system)
  | none =>
      let (context, after) := system.contextGetForQOS atLeast8 qos.pooled activeProcessorCount
      (after.pools.length,
        { after.initWithContext context with
          defaultPools := Function.update after.defaultPools qos.slot (some after.pools.length) })

/-- What a program asks for. -/
inductive Event where
  | initWithName (name : Option CString) (queueCount : Nat) (qos : NSQualityOfService)
  | queue (pool : Nat)
  | defaultPoolForQOS (qos : NSQualityOfService) (activeProcessorCount : Int)
  | yyDispatchQueueGetForQOS (qos : NSQualityOfService) (activeProcessorCount : Int)
  deriving DecidableEq, Repr

/-- An event changes the system. -/
def step (atLeast8 : Bool) (system : System) : Event → System
  | .initWithName name queueCount qos => system.initWithName atLeast8 name queueCount qos
  | .queue pool => system.queue pool
  | .defaultPoolForQOS qos activeProcessorCount =>
      (system.defaultPoolForQOS atLeast8 qos activeProcessorCount).2
  | .yyDispatchQueueGetForQOS qos activeProcessorCount =>
      let (context, after) := system.contextGetForQOS atLeast8 qos activeProcessorCount
      after.getQueue context (.qos qos)

end Component.DispatchPool

import Component.Lib.Refinement
import Mathlib.Data.List.AList

/-!
# The memory cache

A model of `YYMemoryCache`, which keeps objects by key and drops those that have not been used for
the longest time. The nodes of its `_YYLinkedMap` form a doubly linked list in the order of their
last use. The dictionary retains them; the pointers between them do not. So the model has a memory
of nodes that can be freed: an operation that follows `nil` or a pointer to a freed node fails,
which is what `none` stands for.

All methods work inside of a lock, but two things happen outside of it. `objectForKey:` reads the
value of the node it has found after it has unlocked, with a reference of its own to the node. And
`_trimToCost:`, `_trimToCount:` and `_trimToAge:` take the lock anew for every node they remove.
`Section` lists what happens inside of the lock at once, and the reads outside. What threads and
queues do between sections is in `Control`.

When a removed node is released is decided by other queues and by ARC. Here it may happen at any
time after the node has been removed, so `releaseOnMainThread` and `releaseAsynchronously` make no
difference. Only nodes have a lifetime. The values in them do not, so nothing is said here about a
value that is replaced while `objectForKey:` reads it. Blocks of the application for notifications
are not modelled, nor is `dealloc`.
-/

namespace Component.MemoryCache

open Component.Lib.Refinement

/-- The unsigned integers of the 64-bit platforms. -/
abbrev NSUInteger := UInt64

/-- Times are exact. -/
abbrev NSTimeInterval := ℚ

/-- Addresses of nodes. -/
abbrev Address := Nat

/-! ## Nodes -/

/-- What a node holds besides its pointers. -/
structure Entry (κ ν : Type) where
  key : κ
  value : ν
  cost : NSUInteger
  time : NSTimeInterval
  deriving DecidableEq

/-- `_YYLinkedMapNode`. -/
structure YYLinkedMapNode (κ ν : Type) extends Entry κ ν where
  prev : Option Address
  next : Option Address
  deriving DecidableEq

/-- The nodes that have not been freed. -/
abbrev Memory (κ ν : Type) := AList (fun _ : Address => YYLinkedMapNode κ ν)

variable {κ ν : Type}

/-- The node that a pointer points to. -/
def Memory.load (memory : Memory κ ν) (pointer : Option Address) :
    Option (YYLinkedMapNode κ ν) :=
  pointer.bind (fun address => memory.lookup address)

/-- Fields of the node that a pointer points to are written. -/
def Memory.store (memory : Memory κ ν) (pointer : Option Address)
    (change : YYLinkedMapNode κ ν → YYLinkedMapNode κ ν) : Option (Memory κ ν) :=
  pointer.bind (fun address => (memory.lookup address).map (fun node =>
    memory.insert address (change node)))

/-- The same if the pointer is not `nil`. -/
def Memory.storeUnlessNil (memory : Memory κ ν) (pointer : Option Address)
    (change : YYLinkedMapNode κ ν → YYLinkedMapNode κ ν) : Option (Memory κ ν) :=
  if pointer = none then some memory else memory.store pointer change

/-- A choice of addresses for new nodes; addresses of freed nodes may be used again. -/
structure Allocator (κ ν : Type) where
  new : Memory κ ν → Address
  fresh : ∀ memory, new memory ∉ memory

/-- New nodes are put behind all others. -/
instance : Inhabited (Allocator κ ν) where
  default :=
    { new := fun memory => memory.keys.toFinset.sup id + 1
      fresh := fun memory hmem => by
        have hle := Finset.le_sup (f := id) (List.mem_toFinset.mpr (AList.mem_keys.mp hmem))
        exact absurd hle (Nat.not_succ_le_self _) }

/-! ## The linked map -/

/-- `_YYLinkedMap`. -/
structure YYLinkedMap (κ : Type) where
  dic : AList (fun _ : κ => Address)
  totalCost : NSUInteger
  totalCount : NSUInteger
  head : Option Address
  tail : Option Address

namespace YYLinkedMap

/-- A new map. -/
def init : YYLinkedMap κ := ⟨∅, 0, 0, none, none⟩

variable [DecidableEq κ]

/-- `-insertNodeAtHead:`. The node enters the dictionary and the head of the list. -/
def insertNodeAtHead (map : YYLinkedMap κ) (memory : Memory κ ν) (node : Address) :
    Option (YYLinkedMap κ × Memory κ ν) := do
  let fields ← memory.load node
  let counted := { map with
    dic := map.dic.insert fields.key node
    totalCost := map.totalCost + fields.cost
    totalCount := map.totalCount + 1 }
  match map.head with
  | some head =>
      let memory ← memory.store node (fun fields => { fields with next := some head })
      let memory ← memory.store head (fun fields => { fields with prev := some node })
      pure ({ counted with head := some node }, memory)
  | none => pure ({ counted with head := some node, tail := some node }, memory)

/-- The first part of `bringNodeToHead:`, which takes the node out. The first result is the new
value of `_tail`. -/
def unlinkNode (map : YYLinkedMap κ) (memory : Memory κ ν) (node : Address) :
    Option (Option Address × Memory κ ν) := do
  let fields ← memory.load node
  if map.tail = some node then
    let memory ← memory.store fields.prev (fun other => { other with next := none })
    pure (fields.prev, memory)
  else
    let memory ← memory.store fields.next (fun other => { other with prev := fields.prev })
    let fields ← memory.load node
    let memory ← memory.store fields.prev (fun other => { other with next := fields.next })
    pure (map.tail, memory)

/-- `-bringNodeToHead:`. The node is unlinked and becomes the head of the list. -/
def bringNodeToHead (map : YYLinkedMap κ) (memory : Memory κ ν) (node : Address) :
    Option (YYLinkedMap κ × Memory κ ν) :=
  if map.head = some node then some (map, memory)
  else do
    let (tail, memory) ← map.unlinkNode memory node
    let memory ← memory.store node (fun fields => { fields with next := map.head })
    let memory ← memory.store node (fun fields => { fields with prev := none })
    let memory ← memory.store map.head (fun fields => { fields with prev := some node })
    pure ({ map with head := some node, tail := tail }, memory)

/-- `-removeNode:`. The node leaves the dictionary, its neighbours are linked to each other, and the
head and the tail move on if the node was there. -/
def removeNode (map : YYLinkedMap κ) (memory : Memory κ ν) (node : Address) :
    Option (YYLinkedMap κ × Memory κ ν) := do
  let fields ← memory.load node
  let counted := { map with
    dic := map.dic.erase fields.key
    totalCost := map.totalCost - fields.cost
    totalCount := map.totalCount - 1 }
  let memory ← memory.storeUnlessNil fields.next (fun other => { other with prev := fields.prev })
  let fields ← memory.load node
  let memory ← memory.storeUnlessNil fields.prev (fun other => { other with next := fields.next })
  let fields ← memory.load node
  pure ({ counted with
    head := if map.head = some node then fields.next else map.head
    tail := if map.tail = some node then fields.prev else map.tail }, memory)

/-- `-removeTailNode`. The tail leaves the dictionary and the list and is returned. -/
def removeTailNode (map : YYLinkedMap κ) (memory : Memory κ ν) :
    Option (Option Address × YYLinkedMap κ × Memory κ ν) :=
  match map.tail with
  | none => some (none, map, memory)
  | some tail => do
      let fields ← memory.load tail
      let counted := { map with
        dic := map.dic.erase fields.key
        totalCost := map.totalCost - fields.cost
        totalCount := map.totalCount - 1 }
      if map.head = some tail then
        pure (some tail, { counted with head := none, tail := none }, memory)
      else do
        let memory ← memory.store fields.prev (fun other => { other with next := none })
        pure (some tail, { counted with tail := fields.prev }, memory)

/-- `removeAll`. The second result are the nodes that the old dictionary has retained. -/
def removeAll (map : YYLinkedMap κ) : YYLinkedMap κ × List Address :=
  if 0 < map.dic.entries.length then (init, map.dic.entries.map (fun entry => entry.2))
  else ({ map with totalCost := 0, totalCount := 0, head := none, tail := none }, [])

end YYLinkedMap

/-! ## Sections -/

/-- The map, the nodes, the references to nodes that have been removed and not released yet, and
the references of the calls of `objectForKey:` which still have to read a value. -/
structure YYMemoryCache (κ ν : Type) where
  lru : YYLinkedMap κ
  memory : Memory κ ν
  held : List Address
  reads : List (Option Address)

/-- What `_trimToCost:`, `_trimToCount:` and `_trimToAge:` are called with. The age is measured at
the time when the call was made. -/
inductive Trim where
  | cost (costLimit : NSUInteger)
  | count (countLimit : NSUInteger)
  | age (ageLimit now : NSTimeInterval)
  deriving DecidableEq

/-- A limit that nothing meets. -/
def Trim.removesAll : Trim → Bool
  | .cost costLimit => costLimit = 0
  | .count countLimit => countLimit = 0
  | .age ageLimit _ => ageLimit ≤ 0

/-- What happens to a cache at once. -/
inductive Section (κ ν : Type) where
  | containsObjectForKey (key : κ)
  | objectForKey (key : κ) (now : NSTimeInterval)
  | value (read : Nat)
  | setObject (object : ν) (key : κ) (cost : NSUInteger) (now : NSTimeInterval)
      (costLimit countLimit : NSUInteger)
  | removeObjectForKey (key : κ)
  | removeAll
  | totalCount
  | totalCost
  /-- The first section of a trim. -/
  | enter (trim : Trim)
  /-- One turn of the loop of a trim. -/
  | evict (trim : Trim)
  /-- A reference to a removed node is released. -/
  | release (position : Nat)
  deriving DecidableEq

/-- What the code behind a section knows. -/
inductive Reply (ν : Type) where
  | done
  | contains (contains : Bool)
  | found (found : Bool)
  | object (object : ν)
  | total (total : NSUInteger)
  | stored (overCost : Bool)
  | finish (finish : Bool)
  deriving DecidableEq

namespace YYMemoryCache

/-- A new cache. -/
def init : YYMemoryCache κ ν := ⟨.init, ∅, [], []⟩

/-- A node without references is freed. -/
def releaseNode (cache : YYMemoryCache κ ν) (node : Address) : YYMemoryCache κ ν :=
  if node ∈ cache.lru.dic.entries.map (fun entry => entry.2) ∨ node ∈ cache.held ∨
      some node ∈ cache.reads then cache
  else { cache with memory := cache.memory.erase node }

/-- `-removeAllObjects`. The nodes leave the cache and are held until they are released. -/
def removeAllObjects (cache : YYMemoryCache κ ν) : YYMemoryCache κ ν :=
  let after := cache.lru.removeAll
  { cache with lru := after.1, held := cache.held ++ after.2 }

/-- The comparison in front of and inside of the loop of a trim. -/
def exceeds (cache : YYMemoryCache κ ν) : Trim → Option Bool
  | .cost costLimit => some (costLimit < cache.lru.totalCost)
  | .count countLimit => some (countLimit < cache.lru.totalCount)
  | .age ageLimit now =>
      match cache.lru.tail with
      | none => some false
      | some tail => do
          let fields ← cache.memory.load tail
          pure (ageLimit < now - fields.time)

variable [DecidableEq κ]

/-- The locked part of `objectForKey:`. -/
def objectForKey (cache : YYMemoryCache κ ν) (key : κ) (now : NSTimeInterval) :
    Option (YYMemoryCache κ ν × Reply ν) :=
  match cache.lru.dic.lookup key with
  | none => some (cache, .found false)
  | some node => do
      let memory ← cache.memory.store node (fun fields => { fields with time := now })
      let (lru, memory) ← cache.lru.bringNodeToHead memory node
      pure ({ cache with lru := lru, memory := memory, reads := cache.reads ++ [some node] },
        .found true)

/-- The end of `objectForKey:`, outside of the lock. The value is loaded from the node and retained
in one step, and the reference to the node goes as well. In the source another thread may replace
the value, and so release it, between the load and the retain; this is not modelled, since values
have no lifetime here. -/
def value (cache : YYMemoryCache κ ν) (read : Nat) : Option (YYMemoryCache κ ν × Reply ν) :=
  match cache.reads[read]? with
  | some (some node) => do
      let fields ← cache.memory.load node
      pure ({ cache with reads := cache.reads.set read none }.releaseNode node,
        .object fields.value)
  | _ => some (cache, .done)

/-- The last node is removed. -/
def removeTail (cache : YYMemoryCache κ ν) : Option (YYMemoryCache κ ν) := do
  let (node, lru, memory) ← cache.lru.removeTailNode cache.memory
  pure { cache with lru := lru, memory := memory, held := cache.held ++ node.toList }

/-- The part of `setObject:forKey:withCost:` in which the object gets its node. -/
def putObject (allocator : Allocator κ ν) (cache : YYMemoryCache κ ν) (object : ν) (key : κ)
    (cost : NSUInteger) (now : NSTimeInterval) : Option (YYMemoryCache κ ν) :=
  match cache.lru.dic.lookup key with
  | some node => do
      let fields ← cache.memory.load node
      let lru := { cache.lru with totalCost := cache.lru.totalCost - fields.cost + cost }
      let memory ← cache.memory.store node (fun fields =>
        { fields with cost := cost, time := now, value := object })
      let (lru, memory) ← lru.bringNodeToHead memory node
      pure { cache with lru := lru, memory := memory }
  | none => do
      let node := allocator.new cache.memory
      let memory := cache.memory.insert node ⟨⟨key, object, cost, now⟩, none, none⟩
      let (lru, memory) ← cache.lru.insertNodeAtHead memory node
      pure { cache with lru := lru, memory := memory }

/-- `-setObject:forKey:withCost:` for an object that is not `nil`. One call removes at most one node
for the number of nodes. -/
def setObject (allocator : Allocator κ ν) (cache : YYMemoryCache κ ν) (object : ν) (key : κ)
    (cost : NSUInteger) (now : NSTimeInterval) (costLimit countLimit : NSUInteger) :
    Option (YYMemoryCache κ ν × Reply ν) := do
  let cache ← cache.putObject allocator object key cost now
  -- the costs are compared before a node is removed for the number of nodes
  let overCost : Bool := costLimit < cache.lru.totalCost
  if countLimit < cache.lru.totalCount then
    let cache ← cache.removeTail
    pure (cache, .stored overCost)
  else pure (cache, .stored overCost)

/-- `-removeObjectForKey:`. The node is held by the block that releases it. -/
def removeObjectForKey (cache : YYMemoryCache κ ν) (key : κ) :
    Option (YYMemoryCache κ ν × Reply ν) :=
  match cache.lru.dic.lookup key with
  | none => some (cache, .done)
  | some node => do
      let (lru, memory) ← cache.lru.removeNode cache.memory node
      pure ({ cache with lru := lru, memory := memory, held := cache.held ++ [node] }, .done)

/-- The section in front of the loop of a trim. -/
def enter (cache : YYMemoryCache κ ν) (trim : Trim) : Option (YYMemoryCache κ ν × Reply ν) :=
  if trim.removesAll then some (cache.removeAllObjects, .finish true)
  else do
    let exceeds ← cache.exceeds trim
    pure (cache, .finish (!exceeds))

/-- One turn of the loop of a trim. -/
def evict (cache : YYMemoryCache κ ν) (trim : Trim) : Option (YYMemoryCache κ ν × Reply ν) := do
  if ← cache.exceeds trim then
    let cache ← cache.removeTail
    pure (cache, .finish false)
  else pure (cache, .finish true)

/-- A reference to a removed node is released. -/
def release (cache : YYMemoryCache κ ν) (position : Nat) : YYMemoryCache κ ν :=
  match cache.held[position]? with
  | none => cache
  | some node => { cache with held := cache.held.eraseIdx position }.releaseNode node

/-- A section of the cache. -/
def perform (allocator : Allocator κ ν) : Object (YYMemoryCache κ ν) (Section κ ν) (Reply ν)
  | cache, .containsObjectForKey key =>
      some (cache, .contains (cache.lru.dic.lookup key).isSome)
  | cache, .objectForKey key now => cache.objectForKey key now
  | cache, .value read => cache.value read
  | cache, .setObject object key cost now costLimit countLimit =>
      cache.setObject allocator object key cost now costLimit countLimit
  | cache, .removeObjectForKey key => cache.removeObjectForKey key
  | cache, .removeAll => some (cache.removeAllObjects, .done)
  | cache, .totalCount => some (cache, .total cache.lru.totalCount)
  | cache, .totalCost => some (cache, .total cache.lru.totalCost)
  | cache, .enter trim => cache.enter trim
  | cache, .evict trim => cache.evict trim
  | cache, .release position => some (cache.release position, .done)

end YYMemoryCache

/-! ## Threads and queues -/

/-- Where a thread is in its calls of the trimming methods. A call without a limit takes the one of
the cache when it is made. -/
inductive Stage where
  | trimToCost (costLimit : Option NSUInteger)
  | trimToCount (countLimit : Option NSUInteger)
  | trimToAge (ageLimit : Option NSTimeInterval)
  | enter (trim : Trim)
  | loop (trim : Trim)
  deriving DecidableEq

/-- What a thread or a block still has to do. -/
abbrev Program := List Stage

/-- The properties of the cache, the blocks in `_queue`, which run one after another, the threads
that have called a trimming method, and what has happened so far. -/
structure Control (κ ν : Type) where
  costLimit : NSUInteger
  countLimit : NSUInteger
  ageLimit : NSTimeInterval
  shouldRemoveAllObjectsOnMemoryWarning : Bool
  shouldRemoveAllObjectsWhenEnteringBackground : Bool
  queue : List Program
  callers : List Program
  log : List (Section κ ν × Reply ν)

/-- `DBL_MAX`. -/
def dblMax : NSTimeInterval := (2 ^ 53 - 1) * 2 ^ 971

/-- `init`. -/
def Control.init : Control κ ν where
  costLimit := .ofNat (2 ^ 64 - 1)
  countLimit := .ofNat (2 ^ 64 - 1)
  ageLimit := dblMax
  shouldRemoveAllObjectsOnMemoryWarning := true
  shouldRemoveAllObjectsWhenEnteringBackground := true
  queue := []
  callers := []
  log := []

/-- The block of `_trimInBackground`. -/
def trimInBackground : Program := [.trimToCost none, .trimToCount none, .trimToAge none]

/-- The next section of a program. -/
def Program.request : Program → Option (Section κ ν)
  | .enter trim :: _ => some (.enter trim)
  | .loop trim :: _ => some (.evict trim)
  | _ => none

/-- A program goes on: it makes its next call, or it looks at what its section has found. -/
def Program.resume (control : Control κ ν) (now : NSTimeInterval) (reply : Option (Reply ν)) :
    Program → Program
  | .trimToCost limit :: rest => .enter (.cost (limit.getD control.costLimit)) :: rest
  | .trimToCount limit :: rest => .enter (.count (limit.getD control.countLimit)) :: rest
  | .trimToAge limit :: rest => .enter (.age (limit.getD control.ageLimit) now) :: rest
  | .enter trim :: rest | .loop trim :: rest =>
      match reply with
      | some (.finish true) => rest
      | _ => .loop trim :: rest
  | [] => []

/-- What happens around the cache. Calls without a key return at once. -/
inductive Event (κ ν : Type) where
  | containsObjectForKey (key : Option κ)
  | objectForKey (key : Option κ) (now : NSTimeInterval)
  /-- A call of `objectForKey:` that has found a node reads its value. -/
  | value (read : Nat)
  | setObject (object : Option ν) (key : Option κ) (cost : NSUInteger) (now : NSTimeInterval)
  | removeObjectForKey (key : Option κ)
  | removeAllObjects
  | totalCount
  | totalCost
  | setCostLimit (costLimit : NSUInteger)
  | setCountLimit (countLimit : NSUInteger)
  | setAgeLimit (ageLimit : NSTimeInterval)
  | setShouldRemoveAllObjectsOnMemoryWarning (should : Bool)
  | setShouldRemoveAllObjectsWhenEnteringBackground (should : Bool)
  | appDidReceiveMemoryWarningNotification
  | appDidEnterBackgroundNotification
  | trimToCost (cost : NSUInteger)
  | trimToCount (count : NSUInteger)
  | trimToAge (age : NSTimeInterval)
  /-- The timer of `_trimRecursively` fires. -/
  | trimInBackground
  /-- A thread that has called a trimming method goes on. -/
  | callerTurn (position : Nat) (now : NSTimeInterval)
  /-- The first block of `_queue` goes on. -/
  | queueTurn (now : NSTimeInterval)
  | release (position : Nat)
  deriving DecidableEq

/-- The section that an event leads to. -/
def request (control : Control κ ν) : Event κ ν → Option (Section κ ν)
  | .containsObjectForKey key => key.map .containsObjectForKey
  | .objectForKey key now => key.map (fun key => .objectForKey key now)
  | .value read => some (.value read)
  | .setObject object key cost now =>
      match key, object with
      | none, _ => none
      | some key, none => some (.removeObjectForKey key)
      | some key, some object =>
          some (.setObject object key cost now control.costLimit control.countLimit)
  | .removeObjectForKey key => key.map .removeObjectForKey
  | .removeAllObjects => some .removeAll
  | .totalCount => some .totalCount
  | .totalCost => some .totalCost
  | .appDidReceiveMemoryWarningNotification =>
      if control.shouldRemoveAllObjectsOnMemoryWarning then some .removeAll else none
  | .appDidEnterBackgroundNotification =>
      if control.shouldRemoveAllObjectsWhenEnteringBackground then some .removeAll else none
  | .trimToCount count => if count = 0 then some .removeAll else none
  | .callerTurn position _ => control.callers[position]?.bind Program.request
  | .queueTurn _ => control.queue.head?.bind Program.request
  | .release position => some (.release position)
  | .setCostLimit _ | .setCountLimit _ | .setAgeLimit _
  | .setShouldRemoveAllObjectsOnMemoryWarning _
  | .setShouldRemoveAllObjectsWhenEnteringBackground _
  | .trimToCost _ | .trimToAge _ | .trimInBackground => none

/-- The first block of `_queue` has gone on; a block that has nothing left to do is gone. -/
def Control.queueTurn (control : Control κ ν) (now : NSTimeInterval) (reply : Option (Reply ν)) :
    List Program :=
  match control.queue with
  | [] => []
  | block :: rest =>
      match block.resume control now reply with
      | [] => rest
      | stage :: stages => (stage :: stages) :: rest

/-- What an event does besides its section. -/
def resume (control : Control κ ν) (event : Event κ ν) (reply : Option (Reply ν)) :
    Control κ ν :=
  match event with
  | .setObject _ _ _ _ =>
      match reply with
      | some (.stored true) => { control with queue := control.queue ++ [[.trimToCost none]] }
      | _ => control
  | .setCostLimit costLimit => { control with costLimit := costLimit }
  | .setCountLimit countLimit => { control with countLimit := countLimit }
  | .setAgeLimit ageLimit => { control with ageLimit := ageLimit }
  | .setShouldRemoveAllObjectsOnMemoryWarning should =>
      { control with shouldRemoveAllObjectsOnMemoryWarning := should }
  | .setShouldRemoveAllObjectsWhenEnteringBackground should =>
      { control with shouldRemoveAllObjectsWhenEnteringBackground := should }
  | .trimToCost cost => { control with callers := control.callers ++ [[.trimToCost (some cost)]] }
  | .trimToCount count =>
      if count = 0 then control
      else { control with callers := control.callers ++ [[.trimToCount (some count)]] }
  | .trimToAge age => { control with callers := control.callers ++ [[.trimToAge (some age)]] }
  | .trimInBackground => { control with queue := control.queue ++ [MemoryCache.trimInBackground] }
  | .callerTurn position now =>
      { control with
        callers := control.callers.modify position (Program.resume control now reply) }
  | .queueTurn now => { control with queue := control.queueTurn now reply }
  | .containsObjectForKey _ | .objectForKey _ _ | .value _ | .removeObjectForKey _
  | .removeAllObjects | .totalCount | .totalCost | .appDidReceiveMemoryWarningNotification
  | .appDidEnterBackgroundNotification | .release _ => control

/-- A section and its reply are recorded. -/
def Control.record (control : Control κ ν) (sec : Option (Section κ ν))
    (reply : Option (Reply ν)) : Control κ ν :=
  match sec, reply with
  | some sec, some reply => { control with log := control.log ++ [(sec, reply)] }
  | _, _ => control

/-- The threads and queues around a cache. -/
def client : Client (Control κ ν) (Event κ ν) (Section κ ν) (Reply ν) where
  request := request
  resume := fun control event reply =>
    (resume control event reply).record (request control event) reply

/-- A new cache after a sequence of events. -/
def cacheAfter [DecidableEq κ] (allocator : Allocator κ ν) (events : List (Event κ ν)) :
    System (Control κ ν) (YYMemoryCache κ ν) :=
  Lib.Run.run (step client (YYMemoryCache.perform allocator)) ⟨.init, some .init⟩ events

end Component.MemoryCache

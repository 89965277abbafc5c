import Component.MemoryCache.Model

/-!
# What the memory cache is for

The cache as a list of entries, the last used one first. A call of `objectForKey:` that has found
an entry and not read its value yet follows the entry: it sees the values that are set for the key
until the entry is removed, and keeps the last one then.
-/

namespace Component.MemoryCache

open Component.Lib.Refinement

variable {κ ν : Type}

/-- A call of `objectForKey:` that still has to read a value. -/
structure Read (κ ν : Type) where
  key : κ
  value : ν
  attached : Bool
  deriving DecidableEq

/-- The entries, the last used one first, and the calls that still have to read a value. -/
structure Recency (κ ν : Type) where
  entries : List (Entry κ ν)
  reads : List (Option (Read κ ν))
  deriving DecidableEq

/-- The sum of the costs, with the overflow of the source's counter. -/
def totalCost (entries : List (Entry κ ν)) : NSUInteger :=
  (entries.map (fun entry => entry.cost)).sum

/-- The number of entries as the source's counter has it. -/
def totalCount (entries : List (Entry κ ν)) : NSUInteger := .ofNat entries.length

/-- The entries are over the limit of a trim. Only the last entry is asked for its age. -/
def Trim.exceededBy (entries : List (Entry κ ν)) : Trim → Bool
  | .cost costLimit => costLimit < totalCost entries
  | .count countLimit => countLimit < totalCount entries
  | .age ageLimit now =>
      match entries.getLast? with
      | none => false
      | some entry => ageLimit < now - entry.time

variable [DecidableEq κ]

/-- The entry of a key. -/
def entryFor (entries : List (Entry κ ν)) (key : κ) : Option (Entry κ ν) :=
  entries.find? (fun entry => entry.key = key)

/-- The entries of the other keys, in the same order. -/
def without (entries : List (Entry κ ν)) (key : κ) : List (Entry κ ν) :=
  entries.filter (fun entry => entry.key ≠ key)

/-- A call follows its entry. -/
def Read.follow (entries : List (Entry κ ν)) (read : Read κ ν) : Read κ ν :=
  if read.attached then
    match entryFor entries read.key with
    | some entry => { read with value := entry.value }
    | none => { read with attached := false }
  else read

namespace Recency

/-- The entries change, and the calls follow them. -/
def update (recency : Recency κ ν) (entries : List (Entry κ ν)) : Recency κ ν :=
  { entries := entries, reads := recency.reads.map (Option.map (Read.follow entries)) }

/-- An entry has been used and is the first one now. -/
def use (recency : Recency κ ν) (entry : Entry κ ν) : Recency κ ν :=
  recency.update (entry :: without recency.entries entry.key)

/-- The last entry goes. -/
def dropLast (recency : Recency κ ν) : Recency κ ν := recency.update recency.entries.dropLast

/-- Look a key up. The entry that is found is used now, and its value is still to be read. -/
def objectForKey (recency : Recency κ ν) (key : κ) (now : NSTimeInterval) :
    Recency κ ν × Reply ν :=
  match entryFor recency.entries key with
  | none => (recency, .found false)
  | some entry =>
      let after := recency.use { entry with time := now }
      ({ after with reads := after.reads ++ [some ⟨key, entry.value, true⟩] }, .found true)

/-- The value of an entry that has been looked up is read and returned. -/
def value (recency : Recency κ ν) (read : Nat) : Recency κ ν × Reply ν :=
  match recency.reads[read]? with
  | some (some pending) =>
      ({ recency with reads := recency.reads.set read none }, .object pending.value)
  | _ => (recency, .done)

/-- Store a value under a key as the entry that was used last. If there are more entries than the
limit allows, the one that was used longest ago goes. -/
def setObject (recency : Recency κ ν) (object : ν) (key : κ) (cost : NSUInteger)
    (now : NSTimeInterval) (costLimit countLimit : NSUInteger) : Recency κ ν × Reply ν :=
  let after := recency.use ⟨key, object, cost, now⟩
  (if countLimit < totalCount after.entries then after.dropLast else after,
    .stored (costLimit < totalCost after.entries))

/-- Start to trim. A limit of zero removes everything at once. -/
def enter (recency : Recency κ ν) (trim : Trim) : Recency κ ν × Reply ν :=
  if trim.removesAll then (recency.update [], .finish true)
  else (recency, .finish (!trim.exceededBy recency.entries))

/-- One round of trimming: the entry that was used longest ago goes if the limit is exceeded. -/
def evict (recency : Recency κ ν) (trim : Trim) : Recency κ ν × Reply ν :=
  if trim.exceededBy recency.entries then (recency.dropLast, .finish false)
  else (recency, .finish true)

/-- What a section is meant to do. -/
def perform : Spec (Recency κ ν) (Section κ ν) (Reply ν)
  | recency, .containsObjectForKey key =>
      (recency, .contains (entryFor recency.entries key).isSome)
  | recency, .objectForKey key now => recency.objectForKey key now
  | recency, .value read => recency.value read
  | recency, .setObject object key cost now costLimit countLimit =>
      recency.setObject object key cost now costLimit countLimit
  | recency, .removeObjectForKey key => (recency.update (without recency.entries key), .done)
  | recency, .removeAll => (recency.update [], .done)
  | recency, .totalCount => (recency, .total (totalCount recency.entries))
  | recency, .totalCost => (recency, .total (totalCost recency.entries))
  | recency, .enter trim => recency.enter trim
  | recency, .evict trim => recency.evict trim
  | recency, .release _ => (recency, .done)

end Recency

/-- The list of entries after a sequence of events, with all that is around it. -/
def recencyAfter (events : List (Event κ ν)) : Control κ ν × Recency κ ν :=
  Lib.Run.run (specStep client Recency.perform) (.init, ⟨[], []⟩) events

end Component.MemoryCache

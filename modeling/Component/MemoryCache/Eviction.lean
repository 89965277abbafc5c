import Component.MemoryCache.Refinement

/-!
# What the memory cache keeps

`Change` lists what a section can do to the entries. From it follow two properties of whole runs.
The cache keeps what is used: an object is found again after any number of events if fewer other
keys have been used since than all limits for the number of objects allow, whatever the threads and
the background trims do meanwhile (`recently_used_run`). And it keeps no more than it may: once a
limit for the number of objects has been set, their number is never above it, or never above what it
was at that moment if that was more (`count_limit_run`). Only the trims bring it down to the limit.
-/

namespace Component.MemoryCache

open Component.Lib.Refinement Component.Lib.Run

variable {κ ν : Type} {entries entries' : List (Entry κ ν)} {key : κ} {value : ν}
  {used : Finset κ} {sec : Section κ ν}

/-! ## Conditions on the entries -/

/-- No two entries have the same key, and no entry is from before the start of the clock. -/
structure WellKept (entries : List (Entry κ ν)) : Prop where
  keys : (entries.map (fun entry => entry.key)).Nodup
  times : ∀ entry ∈ entries, 0 ≤ entry.time

/-- Dropping entries keeps a list well kept. -/
theorem WellKept.sublist (h : WellKept entries) (hsublist : entries'.Sublist entries) :
    WellKept entries' :=
  ⟨h.keys.sublist (hsublist.map _), fun entry hentry => h.times entry (hsublist.subset hentry)⟩

/-- The entry of a key, with its value, and only entries of certain keys before it. -/
def Recent (key : κ) (value : ν) (used : Finset κ) (entries : List (Entry κ ν)) : Prop :=
  ∃ front entry back, entries = front ++ entry :: back ∧ entry.key = key ∧ entry.value = value ∧
    ∀ other ∈ front, other.key ∈ used

/-- The entry at the front is recent. -/
theorem Recent.first {entry : Entry κ ν} (hkey : entry.key = key) (hvalue : entry.value = value)
    (rest : List (Entry κ ν)) : Recent key value used (entry :: rest) :=
  ⟨[], entry, rest, rfl, hkey, hvalue, by simp⟩

/-- An entry stays recent when one of the used keys comes to the front. -/
theorem Recent.cons (h : Recent key value used entries) {entry : Entry κ ν}
    (hentry : entry.key ∈ used) : Recent key value used (entry :: entries) := by
  obtain ⟨front, kept, back, rfl, hkey, hvalue, hfront⟩ := h
  exact ⟨entry :: front, kept, back, rfl, hkey, hvalue, List.forall_mem_cons.mpr ⟨hentry, hfront⟩⟩

/-! ## Trims that leave enough room -/

/-- A trim that leaves a number of entries alone. -/
def Trim.Allows (count : Nat) : Trim → Prop
  | .cost costLimit => costLimit = .ofNat (2 ^ 64 - 1)
  | .count countLimit => count ≤ countLimit.toNat
  | .age ageLimit now => ageLimit = dblMax ∧ now ≤ dblMax

instance (count : Nat) : ∀ trim : Trim, Decidable (trim.Allows count)
  | .cost _ => inferInstanceAs (Decidable (_ = _))
  | .count _ => inferInstanceAs (Decidable (_ ≤ _))
  | .age _ _ => inferInstanceAs (Decidable (_ ∧ _))

/-- A limit below the counter is below the number of entries. -/
theorem lt_length_of_lt_total_count {countLimit : NSUInteger}
    (h : countLimit < totalCount entries) : countLimit.toNat < entries.length := by
  rw [UInt64.lt_iff_toNat_lt, totalCount, UInt64.toNat_ofNat'] at h
  exact h.trans_le (Nat.mod_le ..)

/-- A trim that leaves a number of entries evicts only while there are more. -/
theorem Trim.Allows.lt_length {count : Nat} {trim : Trim} (h : trim.Allows count)
    (hwell : WellKept entries) (hexceeded : trim.exceededBy entries = true) :
    count < entries.length := by
  cases trim with
  | cost costLimit =>
      obtain rfl : costLimit = .ofNat (2 ^ 64 - 1) := h
      have hlt : UInt64.ofNat (2 ^ 64 - 1) < totalCost entries := by
        simpa [Trim.exceededBy] using hexceeded
      have hmax := (totalCost entries).toNat_lt
      rw [UInt64.lt_iff_toNat_lt] at hlt
      have hofNat : (UInt64.ofNat (2 ^ 64 - 1)).toNat = 2 ^ 64 - 1 := by decide
      omega
  | count countLimit =>
      have hlt : countLimit < totalCount entries := by
        simpa [Trim.exceededBy] using hexceeded
      exact lt_of_le_of_lt h (lt_length_of_lt_total_count hlt)
  | age ageLimit now =>
      obtain ⟨rfl, hnow⟩ := h
      cases hlast : entries.getLast? with
      | none => simp [Trim.exceededBy, hlast] at hexceeded
      | some entry =>
          have hlt : dblMax < now - entry.time := by
            simpa [Trim.exceededBy, hlast] using hexceeded
          have htime := hwell.times entry (List.mem_of_getLast? hlast)
          linarith

/-- A trim that leaves an entry does not remove everything at once. -/
theorem Trim.Allows.removes_all {count : Nat} {trim : Trim} (h : trim.Allows count)
    (hcount : 0 < count) : trim.removesAll = false := by
  cases trim with
  | cost costLimit =>
      obtain rfl : costLimit = .ofNat (2 ^ 64 - 1) := h
      decide
  | count countLimit =>
      have hne : countLimit ≠ 0 := by
        rintro rfl
        exact absurd hcount (Nat.not_lt.mpr h)
      simpa [Trim.removesAll] using hne
  | age ageLimit now =>
      obtain ⟨rfl, -⟩ := h
      have hpos : 0 < dblMax := by unfold dblMax; norm_num
      simpa [Trim.removesAll] using hpos

/-! ## Sections and events -/

/-- The time that a section has read from the clock. -/
def Section.clock : Section κ ν → Option NSTimeInterval
  | .objectForKey _ now | .setObject _ _ _ now _ _ => some now
  | _ => none

/-- A section that leaves a number of entries alone, and the key and its value as well. -/
def Section.Spares (count : Nat) (key : κ) : Section κ ν → Prop
  | .enter trim | .evict trim => trim.Allows count
  | .setObject _ other _ now _ countLimit => other ≠ key ∧ 0 ≤ now ∧ count ≤ countLimit.toNat
  | .objectForKey _ now => 0 ≤ now
  | .removeObjectForKey other => other ≠ key
  | .removeAll => False
  | .containsObjectForKey _ | .value _ | .totalCount | .totalCost | .release _ => True

/-- The key whose entry a section moves to the front. -/
def Section.usedKey : Section κ ν → Option κ
  | .objectForKey key _ | .setObject _ key _ _ _ _ => some key
  | _ => none

/-- The key whose entry an event may move to the front. -/
def Event.usedKey : Event κ ν → Option κ
  | .objectForKey key _ => key
  | .setObject (some _) key _ _ => key
  | _ => none

/-- An event that leaves the limits for costs and ages alone and lets the cache have a number of
objects. The clock starts at zero. -/
def Event.Allows (count : Nat) : Event κ ν → Prop
  | .setCostLimit _ | .setAgeLimit _ | .trimToCost _ | .trimToAge _ => False
  | .setCountLimit countLimit | .trimToCount countLimit => count ≤ countLimit.toNat
  | .objectForKey _ now | .setObject _ _ _ now | .callerTurn _ now | .queueTurn now =>
      0 ≤ now ∧ now ≤ dblMax
  | .containsObjectForKey _ | .value _ | .removeObjectForKey _ | .removeAllObjects | .totalCount
  | .totalCost | .setShouldRemoveAllObjectsOnMemoryWarning _
  | .setShouldRemoveAllObjectsWhenEnteringBackground _ | .appDidReceiveMemoryWarningNotification
  | .appDidEnterBackgroundNotification | .trimInBackground | .release _ => True

/-- An event that neither removes nor replaces the object of a key. -/
def Event.Keeps (key : κ) : Event κ ν → Prop
  | .setObject _ other _ _ | .removeObjectForKey other => other ≠ some key
  | .removeAllObjects | .appDidReceiveMemoryWarningNotification
  | .appDidEnterBackgroundNotification => False
  | _ => True

/-- Where a thread is in a trim that leaves a number of entries alone. -/
def Stage.Allows (count : Nat) : Stage → Prop
  | .trimToCost limit => limit = none
  | .trimToCount limit => ∀ countLimit ∈ limit, count ≤ countLimit.toNat
  | .trimToAge limit => limit = none
  | .enter trim | .loop trim => trim.Allows count

/-- All limits leave a number of entries alone, also those of the trims under way. -/
structure Control.Allows (count : Nat) (control : Control κ ν) : Prop where
  cost_eq : control.costLimit = .ofNat (2 ^ 64 - 1)
  count_le : count ≤ control.countLimit.toNat
  age_eq : control.ageLimit = dblMax
  queue : ∀ program ∈ control.queue, ∀ stage ∈ program, stage.Allows count
  callers : ∀ program ∈ control.callers, ∀ stage ∈ program, stage.Allows count

section Control

variable {count : Nat} {control : Control κ ν} {event : Event κ ν}

/-- The limits of a new cache leave any number of entries. -/
theorem Control.Allows.init (hcount : count < 2 ^ 64) :
    (Control.init : Control κ ν).Allows count where
  cost_eq := rfl
  count_le := by
    have hofNat : (UInt64.ofNat (2 ^ 64 - 1)).toNat = 2 ^ 64 - 1 := by decide
    change count ≤ (UInt64.ofNat (2 ^ 64 - 1)).toNat
    omega
  age_eq := rfl
  queue := by simp [Control.init]
  callers := by simp [Control.init]

/-- A program that goes on still leaves the entries. -/
theorem Control.Allows.program (h : control.Allows count) {now : NSTimeInterval}
    (hnow : now ≤ dblMax) (reply : Option (Reply ν)) {program : Program}
    (hprogram : ∀ stage ∈ program, stage.Allows count) :
    ∀ stage ∈ program.resume control now reply, stage.Allows count := by
  cases program with
  | nil => exact hprogram
  | cons first rest =>
      obtain ⟨hfirst, hrest⟩ := List.forall_mem_cons.mp hprogram
      cases first with
      | trimToCost limit =>
          obtain rfl : limit = none := hfirst
          exact List.forall_mem_cons.mpr ⟨h.cost_eq, hrest⟩
      | trimToCount limit =>
          refine List.forall_mem_cons.mpr ⟨?_, hrest⟩
          cases limit with
          | none => exact h.count_le
          | some countLimit => exact hfirst countLimit rfl
      | trimToAge limit =>
          obtain rfl : limit = none := hfirst
          exact List.forall_mem_cons.mpr ⟨⟨h.age_eq, hnow⟩, hrest⟩
      | enter trim =>
          simp only [Program.resume]
          split
          · exact hrest
          · exact List.forall_mem_cons.mpr ⟨hfirst, hrest⟩
      | loop trim =>
          simp only [Program.resume]
          split
          · exact hrest
          · exact List.forall_mem_cons.mpr ⟨hfirst, hrest⟩

/-- The log has nothing to do with the limits. -/
theorem Control.Allows.record (h : control.Allows count) (sec : Option (Section κ ν))
    (reply : Option (Reply ν)) : (control.record sec reply).Allows count := by
  unfold Control.record
  split
  · exact ⟨h.cost_eq, h.count_le, h.age_eq, h.queue, h.callers⟩
  · exact h

/-- A block is put into the queue. -/
theorem Control.Allows.enqueue (h : control.Allows count) {program : Program}
    (hprogram : ∀ stage ∈ program, stage.Allows count) :
    ({ control with queue := control.queue ++ [program] } : Control κ ν).Allows count := by
  have hqueue : ∀ other ∈ control.queue ++ [program], ∀ stage ∈ other, stage.Allows count :=
    List.forall_mem_append.mpr ⟨h.queue, List.forall_mem_singleton.mpr hprogram⟩
  exact { h with queue := hqueue }

/-- A thread calls a trimming method. -/
theorem Control.Allows.call (h : control.Allows count) {program : Program}
    (hprogram : ∀ stage ∈ program, stage.Allows count) :
    ({ control with callers := control.callers ++ [program] } : Control κ ν).Allows count := by
  have hcallers : ∀ other ∈ control.callers ++ [program], ∀ stage ∈ other, stage.Allows count :=
    List.forall_mem_append.mpr ⟨h.callers, List.forall_mem_singleton.mpr hprogram⟩
  exact { h with callers := hcallers }

/-- The turn of a calling thread still leaves the entries. -/
theorem Control.Allows.caller_turn (h : control.Allows count) {now : NSTimeInterval}
    (hnow : now ≤ dblMax) (reply : Option (Reply ν)) (position : Nat) :
    ∀ program ∈ control.callers.modify position (Program.resume control now reply),
      ∀ stage ∈ program, stage.Allows count := by
  intro program hprogram
  obtain ⟨other, hother⟩ := List.mem_iff_getElem?.mp hprogram
  rw [List.getElem?_modify] at hother
  obtain ⟨before, hbefore, rfl⟩ := Option.map_eq_some_iff.mp hother
  have hstages := h.callers before (List.mem_of_getElem? hbefore)
  split
  · exact h.program hnow reply hstages
  · exact hstages

/-- The turn of the queue still leaves the entries. -/
theorem Control.Allows.queue_turn (h : control.Allows count) {now : NSTimeInterval}
    (hnow : now ≤ dblMax) (reply : Option (Reply ν)) :
    ∀ program ∈ control.queueTurn now reply, ∀ stage ∈ program, stage.Allows count := by
  have hblocks := h.queue
  unfold Control.queueTurn
  split
  · exact nofun
  · next block rest hqueue =>
      rw [hqueue, List.forall_mem_cons] at hblocks
      have hstages := h.program hnow reply hblocks.1
      split
      · exact hblocks.2
      · next stage stages hresume =>
          rw [hresume] at hstages
          exact List.forall_mem_cons.mpr ⟨hstages, hblocks.2⟩

/-- An event that leaves the entries keeps the limits and programs that leave them. -/
theorem Control.Allows.resume (h : control.Allows count) (hevent : event.Allows count)
    (reply : Option (Reply ν)) : (client.resume control event reply).Allows count := by
  refine Control.Allows.record ?_ _ reply
  cases event with
  | setObject object key cost now =>
      simp only [MemoryCache.resume]
      split
      · exact h.enqueue (by simp [Stage.Allows])
      · exact h
  | setCountLimit countLimit => exact { h with count_le := hevent }
  | trimToCount countLimit =>
      simp only [MemoryCache.resume]
      split
      · exact h
      · have hle : count ≤ countLimit.toNat := hevent
        exact h.call (by simpa [Stage.Allows] using hle)
  | trimInBackground => exact h.enqueue (by simp [MemoryCache.trimInBackground, Stage.Allows])
  | callerTurn position now =>
      exact { h with callers := h.caller_turn hevent.2 reply position }
  | queueTurn now => exact { h with queue := h.queue_turn hevent.2 reply }
  | setShouldRemoveAllObjectsOnMemoryWarning should =>
      exact ⟨h.cost_eq, h.count_le, h.age_eq, h.queue, h.callers⟩
  | setShouldRemoveAllObjectsWhenEnteringBackground should =>
      exact ⟨h.cost_eq, h.count_le, h.age_eq, h.queue, h.callers⟩
  | setCostLimit _ | setAgeLimit _ | trimToCost _ | trimToAge _ => exact hevent.elim
  | _ => exact h

/-- A program that leaves the entries requests only trims that leave them. -/
theorem Program.request_allows {program : Program} {sec : Section κ ν}
    (h : ∀ stage ∈ program, stage.Allows count) (hrequest : program.request = some sec) :
    ∃ trim, trim.Allows count ∧ (sec = .enter trim ∨ sec = .evict trim) := by
  unfold Program.request at hrequest
  split at hrequest
  · cases hrequest
    exact ⟨_, h _ List.mem_cons_self, .inl rfl⟩
  · cases hrequest
    exact ⟨_, h _ List.mem_cons_self, .inr rfl⟩
  · cases hrequest

/-- What is known of the section that an event leads to. -/
structure Event.LeadsTo (count : Nat) (key : κ) (event : Event κ ν) (sec : Section κ ν) :
    Prop where
  clock : ∀ now ∈ sec.clock, 0 ≤ now
  spares : event.Keeps key → sec.Spares count key
  used : ∀ other ∈ sec.usedKey, event.usedKey = some other

/-- A program that leaves the entries leads to sections that spare them. -/
theorem Event.leads_to_trim {program : Option Program} {sec : Section κ ν}
    (h : ∀ some ∈ program, ∀ stage ∈ some, stage.Allows count)
    (hrequest : program.bind Program.request = some sec) (key : κ) :
    event.LeadsTo count key sec := by
  obtain ⟨stages, hstages, hsec⟩ := Option.bind_eq_some_iff.mp hrequest
  obtain ⟨trim, htrim, hsection⟩ := Program.request_allows (h stages hstages) hsec
  rcases hsection with rfl | rfl <;> exact ⟨nofun, fun _ => htrim, nofun⟩

/-- An event that leaves the entries leads to sections that spare them. -/
theorem Control.Allows.leads_to (h : control.Allows count) (hcount : 0 < count)
    (hevent : event.Allows count) {sec : Section κ ν}
    (hrequest : request control event = some sec) (key : κ) : event.LeadsTo count key sec := by
  cases event with
  | containsObjectForKey other =>
      obtain ⟨other, -, rfl⟩ := Option.map_eq_some_iff.mp hrequest
      exact ⟨nofun, fun _ => trivial, nofun⟩
  | objectForKey other now =>
      obtain ⟨other, rfl, rfl⟩ := Option.map_eq_some_iff.mp hrequest
      refine ⟨?_, fun _ => hevent.1, ?_⟩
      · rintro _ ⟨⟩
        exact hevent.1
      · rintro _ ⟨⟩
        rfl
  | value read | totalCount | totalCost | release position =>
      cases hrequest
      exact ⟨nofun, fun _ => trivial, nofun⟩
  | setObject object other cost now =>
      simp only [MemoryCache.request] at hrequest
      split at hrequest
      · cases hrequest
      · next other =>
          cases hrequest
          exact ⟨nofun, fun hkeeps heq => hkeeps (congrArg some heq), nofun⟩
      · next other object =>
          cases hrequest
          refine ⟨?_, fun hkeeps => ⟨fun heq => hkeeps (congrArg some heq), hevent.1, h.count_le⟩,
            ?_⟩
          · rintro _ ⟨⟩
            exact hevent.1
          · rintro _ ⟨⟩
            rfl
  | removeObjectForKey other =>
      obtain ⟨other, rfl, rfl⟩ := Option.map_eq_some_iff.mp hrequest
      exact ⟨nofun, fun hkeeps heq => hkeeps (congrArg some heq), nofun⟩
  | removeAllObjects =>
      cases hrequest
      exact ⟨nofun, False.elim, nofun⟩
  | appDidReceiveMemoryWarningNotification | appDidEnterBackgroundNotification =>
      simp only [MemoryCache.request] at hrequest
      split at hrequest
      · cases hrequest
        exact ⟨nofun, False.elim, nofun⟩
      · cases hrequest
  | trimToCount countLimit =>
      simp only [MemoryCache.request] at hrequest
      split at hrequest
      · next hzero =>
          subst hzero
          exact absurd hcount (Nat.not_lt.mpr hevent)
      · cases hrequest
  | callerTurn position now =>
      exact Event.leads_to_trim
        (fun program hprogram => h.callers program (List.mem_of_getElem? hprogram)) hrequest key
  | queueTurn now =>
      exact Event.leads_to_trim
        (fun program hprogram => h.queue program (List.mem_of_mem_head? hprogram)) hrequest key
  | setCostLimit _ | setCountLimit _ | setAgeLimit _ | trimToCost _ | trimToAge _
  | trimInBackground => cases hrequest
  | setShouldRemoveAllObjectsOnMemoryWarning _
  | setShouldRemoveAllObjectsWhenEnteringBackground _ => cases hrequest

/-- All limits leave a number of entries alone, and the entries are as they should be. -/
structure Roomy (count : Nat) (system : Control κ ν × Recency κ ν) : Prop where
  allows : system.1.Allows count
  well : WellKept system.2.entries

/-- A new cache has room. -/
theorem Roomy.init (hcount : count < 2 ^ 64) :
    Roomy count ((Control.init, ⟨[], []⟩) : Control κ ν × Recency κ ν) :=
  ⟨.init hcount, by simp, by simp⟩

/-- The limit for the number of objects and their number are bounded. -/
structure Limited (limit : NSUInteger) (bound : Nat) (system : Control κ ν × Recency κ ν) :
    Prop where
  limit_le : system.1.countLimit ≤ limit
  length_le : system.2.entries.length ≤ bound

/-- The limit stays below a bound if it is only set to values below it. -/
theorem resume_count_limit_le {limit : NSUInteger} (h : control.countLimit ≤ limit)
    (hevent : ∀ other, event = .setCountLimit other → other ≤ limit)
    (reply : Option (Reply ν)) : (client.resume control event reply).countLimit ≤ limit := by
  have hrecord : ∀ (control : Control κ ν) (sec : Option (Section κ ν)),
      (control.record sec reply).countLimit = control.countLimit := by
    intro control sec
    unfold Control.record
    split <;> rfl
  change ((MemoryCache.resume control event reply).record _ reply).countLimit ≤ limit
  rw [hrecord]
  cases event with
  | setCountLimit other => exact hevent other rfl
  | setObject _ _ _ _ | trimToCount _ =>
      simp only [MemoryCache.resume]
      split <;> exact h
  | _ => exact h

/-- A request to store an object has the limit of the cache. -/
theorem request_count_limit {object : ν} {cost costLimit countLimit : NSUInteger}
    {now : NSTimeInterval}
    (hrequest : request control event =
      some (.setObject object key cost now costLimit countLimit)) :
    countLimit = control.countLimit := by
  have htrim : ∀ program : Option Program, program.bind Program.request ≠
      some (.setObject object key cost now costLimit countLimit) := by
    intro program heq
    obtain ⟨stages, -, hsec⟩ := Option.bind_eq_some_iff.mp heq
    unfold Program.request at hsec
    split at hsec <;> cases hsec
  cases event with
  | containsObjectForKey _ | objectForKey _ _ | removeObjectForKey _ =>
      obtain ⟨_, -, heq⟩ := Option.map_eq_some_iff.mp hrequest
      cases heq
  | setObject _ _ _ _ =>
      simp only [MemoryCache.request] at hrequest
      split at hrequest <;> cases hrequest
      rfl
  | appDidReceiveMemoryWarningNotification | appDidEnterBackgroundNotification
  | trimToCount _ =>
      simp only [MemoryCache.request] at hrequest
      split at hrequest <;> cases hrequest
  | callerTurn position _ => exact absurd hrequest (htrim _)
  | queueTurn _ => exact absurd hrequest (htrim _)
  | _ => cases hrequest

end Control

variable [DecidableEq κ]

/-! ## What sections do to the entries -/

/-- The entries before and after a section. -/
inductive Change (entries : List (Entry κ ν)) : Section κ ν → List (Entry κ ν) → Prop where
  | same (sec : Section κ ν) : Change entries sec entries
  | touch {key : κ} {now : NSTimeInterval} {entry : Entry κ ν}
      (hentry : entryFor entries key = some entry) :
      Change entries (.objectForKey key now) ({ entry with time := now } :: without entries key)
  | put {object : ν} {key : κ} {cost costLimit countLimit : NSUInteger} {now : NSTimeInterval}
      (hcount : ¬ countLimit < totalCount (⟨key, object, cost, now⟩ :: without entries key)) :
      Change entries (.setObject object key cost now costLimit countLimit)
        (⟨key, object, cost, now⟩ :: without entries key)
  | replace {object : ν} {key : κ} {cost costLimit countLimit : NSUInteger}
      {now : NSTimeInterval}
      (hcount : countLimit < totalCount (⟨key, object, cost, now⟩ :: without entries key)) :
      Change entries (.setObject object key cost now costLimit countLimit)
        (⟨key, object, cost, now⟩ :: without entries key).dropLast
  | remove (key : κ) : Change entries (.removeObjectForKey key) (without entries key)
  | clear : Change entries .removeAll []
  | clearFor {trim : Trim} (htrim : trim.removesAll = true) : Change entries (.enter trim) []
  | evict {trim : Trim} (htrim : trim.exceededBy entries = true) :
      Change entries (.evict trim) entries.dropLast

/-- What a section does to the list is the change that belongs to it. -/
theorem perform_change (recency : Recency κ ν) (sec : Section κ ν) :
    Change recency.entries sec (Recency.perform recency sec).1.entries := by
  cases sec with
  | objectForKey key now =>
      simp only [Recency.perform, Recency.objectForKey]
      split
      · exact .same _
      · next entry hentry =>
          obtain rfl := key_of_entry_for hentry
          exact .touch hentry
  | value read =>
      simp only [Recency.perform, Recency.value]
      split <;> exact .same _
  | setObject object key cost now costLimit countLimit =>
      simp only [Recency.perform, Recency.setObject]
      split
      · next hcount => exact .replace hcount
      · next hcount => exact .put hcount
  | removeObjectForKey key => exact .remove key
  | removeAll => exact .clear
  | enter trim =>
      simp only [Recency.perform, Recency.enter]
      split
      · next htrim => exact .clearFor htrim
      · exact .same _
  | evict trim =>
      simp only [Recency.perform, Recency.evict]
      split
      · next htrim => exact .evict htrim
      · exact .same _
  | containsObjectForKey key => exact .same _
  | totalCount => exact .same _
  | totalCost => exact .same _
  | release position => exact .same _

/-- What holds of the entries and of what is around them is kept by an event if the sections keep
it. -/
theorem spec_step_cases (control : Control κ ν) (recency : Recency κ ν) (event : Event κ ν) :
    ∃ reply, (specStep client Recency.perform (control, recency) event).1 =
        client.resume control event reply ∧
      ((specStep client Recency.perform (control, recency) event).2 = recency ∨
        ∃ sec, request control event = some sec ∧
          Change recency.entries sec
            (specStep client Recency.perform (control, recency) event).2.entries) := by
  unfold specStep
  cases hrequest : client.request control event with
  | none => exact ⟨none, rfl, .inl rfl⟩
  | some sec => exact ⟨_, rfl, .inr ⟨sec, hrequest, perform_change recency sec⟩⟩

/-! ## Keys and times -/

/-- A key that has been taken out is not the key of any entry. -/
theorem key_ne_of_mem_without {entry : Entry κ ν} (h : entry ∈ without entries key) :
    entry.key ≠ key := by
  simpa using (List.mem_filter.mp h).2

/-- Taking a key out drops entries and keeps the order. -/
theorem without_sublist (entries : List (Entry κ ν)) (key : κ) :
    (without entries key).Sublist entries := List.filter_sublist

/-- Bringing an entry to the front keeps a list well kept. -/
theorem WellKept.use (h : WellKept entries) {entry : Entry κ ν} (htime : 0 ≤ entry.time) :
    WellKept (entry :: without entries entry.key) := by
  have hrest := h.sublist (without_sublist entries entry.key)
  refine ⟨List.nodup_cons.mpr ⟨fun hmem => ?_, hrest.keys⟩,
    List.forall_mem_cons.mpr ⟨htime, hrest.times⟩⟩
  obtain ⟨other, hother, heq⟩ := List.mem_map.mp hmem
  exact key_ne_of_mem_without hother heq

/-- Every section keeps the list well kept if its clock is not negative. -/
theorem Change.well_kept (hchange : Change entries sec entries') (h : WellKept entries)
    (hclock : ∀ now ∈ sec.clock, 0 ≤ now) : WellKept entries' := by
  cases hchange with
  | same => exact h
  | @touch key now entry hentry =>
      obtain rfl := key_of_entry_for hentry
      have huse : WellKept ({ entry with time := now } :: without entries entry.key) :=
        h.use (hclock now rfl)
      exact huse
  | put _ => exact h.use (hclock _ rfl)
  | replace _ => exact (h.use (hclock _ rfl)).sublist (List.dropLast_sublist _)
  | remove key => exact h.sublist (without_sublist entries key)
  | clear => exact h.sublist (List.nil_sublist _)
  | clearFor _ => exact h.sublist (List.nil_sublist _)
  | evict _ => exact h.sublist (List.dropLast_sublist _)

/-! ## An entry that stays -/

/-- An entry stays recent when another key is taken out. -/
theorem Recent.without (h : Recent key value used entries) {other : κ} (hother : other ≠ key) :
    Recent key value used (without entries other) := by
  obtain ⟨front, entry, back, rfl, hkey, hvalue, hfront⟩ := h
  refine ⟨MemoryCache.without front other, entry, MemoryCache.without back other, ?_, hkey, hvalue,
    fun entry hentry => hfront entry ((without_sublist ..).subset hentry)⟩
  have hentry : entry.key ≠ other := fun heq => hother (heq.symm.trans hkey)
  simp [MemoryCache.without, hentry]

/-- The entries in front have different keys, so the last entry is another one if there are more
entries than keys that have been used. -/
theorem Recent.drop_last (h : Recent key value used entries) (hwell : WellKept entries)
    (hlength : used.card + 1 < entries.length) : Recent key value used entries.dropLast := by
  obtain ⟨front, entry, back, rfl, hkey, hvalue, hfront⟩ := h
  have hnodup : (front.map (fun entry => entry.key)).Nodup :=
    hwell.keys.sublist ((List.sublist_append_left ..).map _)
  have hcard : front.length ≤ used.card := by
    rw [← List.length_map (fun entry => entry.key), ← List.toFinset_card_of_nodup hnodup]
    refine Finset.card_le_card (fun key hmem => ?_)
    obtain ⟨other, hother, rfl⟩ := List.mem_map.mp (List.mem_toFinset.mp hmem)
    exact hfront other hother
  have hback : back ≠ [] := by
    rintro rfl
    simp at hlength
    omega
  refine ⟨front, entry, back.dropLast, ?_, hkey, hvalue, hfront⟩
  rw [List.dropLast_append_of_ne_nil (by simp), List.dropLast_cons_of_ne_nil hback]

/-- A recent entry is found under its key with its value. -/
theorem Recent.entry_for (h : Recent key value used entries) (hwell : WellKept entries) :
    ∃ entry, entryFor entries key = some entry ∧ entry.value = value := by
  obtain ⟨front, entry, back, rfl, rfl, hvalue, -⟩ := h
  refine ⟨entry, ?_, hvalue⟩
  have hkeys := hwell.keys
  rw [List.map_append, List.map_cons, List.nodup_middle] at hkeys
  have hnone : front.find? (fun other => decide (other.key = entry.key)) = none := by
    rw [List.find?_eq_none]
    intro other hother heq
    refine (List.nodup_cons.mp hkeys).1 (List.mem_append_left _ ?_)
    exact List.mem_map.mpr ⟨other, hother, by simpa using heq⟩
  simp [entryFor, List.find?_append, hnone]

/-- An entry stays recent when an entry of a used key is brought to the front. -/
theorem Recent.use (h : Recent key value used entries) {entry : Entry κ ν}
    (hne : entry.key ≠ key) (hused : entry.key ∈ used) :
    Recent key value used (entry :: MemoryCache.without entries entry.key) :=
  (h.without hne).cons hused

/-- A section that spares the entry keeps it recent while fewer keys than the count have been
used. -/
theorem Change.recent {count : Nat} (hchange : Change entries sec entries')
    (h : Recent key value used entries) (hwell : WellKept entries) (hspares : sec.Spares count key)
    (hcount : used.card < count) (hused : ∀ other ∈ sec.usedKey, other = key ∨ other ∈ used) :
    Recent key value used entries' := by
  cases hchange with
  | same => exact h
  | @touch other now entry hentry =>
      obtain rfl := key_of_entry_for hentry
      by_cases hkey : entry.key = key
      · obtain ⟨kept, hkept, hvalue⟩ := h.entry_for hwell
        rw [hkey, hkept, Option.some_inj] at hentry
        subst hentry
        exact ⟨[], _, _, rfl, hkey, hvalue, by simp⟩
      · have hmem := (hused entry.key rfl).resolve_left hkey
        have huse : Recent key value used
            ({ entry with time := now } :: MemoryCache.without entries entry.key) :=
          h.use hkey hmem
        exact huse
  | @put object other cost _ _ now _ =>
      have huse : Recent key value used
          (⟨other, object, cost, now⟩ :: MemoryCache.without entries other) :=
        h.use hspares.1 ((hused other rfl).resolve_left hspares.1)
      exact huse
  | @replace object other cost _ countLimit now hover =>
      have huse : Recent key value used
          (⟨other, object, cost, now⟩ :: MemoryCache.without entries other) :=
        h.use hspares.1 ((hused other rfl).resolve_left hspares.1)
      have hlt := lt_length_of_lt_total_count hover
      have hle : count ≤ countLimit.toNat := hspares.2.2
      exact huse.drop_last (hwell.use hspares.2.1) (by omega)
  | remove other => exact h.without hspares
  | clear => exact hspares.elim
  | @clearFor trim htrim =>
      rw [hspares.removes_all (by omega)] at htrim
      cases htrim
  | @evict trim hexceeded =>
      have hlt := hspares.lt_length hwell hexceeded
      exact h.drop_last hwell (by omega)

/-! ## Runs -/

section Runs

variable {count : Nat} {system : Control κ ν × Recency κ ν} {event : Event κ ν}

/-- Every event that leaves the entries keeps the room. -/
theorem Roomy.step (h : Roomy count system) (hcount : 0 < count) (hevent : event.Allows count) :
    Roomy count (specStep client Recency.perform system event) := by
  obtain ⟨control, recency⟩ := system
  obtain ⟨reply, hcontrol, hrecency⟩ := spec_step_cases control recency event
  refine ⟨hcontrol ▸ h.allows.resume hevent reply, ?_⟩
  rcases hrecency with hsame | ⟨sec, hrequest, hchange⟩
  · rw [hsame]
    exact h.well
  · refine hchange.well_kept h.well (fun now hnow => ?_)
    -- only sections with a key read the clock
    cases sec with
    | objectForKey key _ => exact (h.allows.leads_to hcount hevent hrequest key).clock now hnow
    | setObject _ key _ _ _ _ =>
        exact (h.allows.leads_to hcount hevent hrequest key).clock now hnow
    | _ => cases hnow

/-- Every event that leaves the entries keeps an entry recent. -/
theorem Roomy.recent (h : Roomy count system) (hused : used.card < count)
    (hrecent : Recent key value used system.2.entries) (hevent : event.Allows count)
    (hkeeps : event.Keeps key) (hkey : ∀ other ∈ event.usedKey, other = key ∨ other ∈ used) :
    Recent key value used (specStep client Recency.perform system event).2.entries := by
  obtain ⟨control, recency⟩ := system
  obtain ⟨-, -, hrecency⟩ := spec_step_cases control recency event
  rcases hrecency with hsame | ⟨sec, hrequest, hchange⟩
  · rw [hsame]
    exact hrecent
  · have hleads := h.allows.leads_to (by omega) hevent hrequest key
    exact hchange.recent hrecent h.well (hleads.spares hkeeps) hused
      (fun other hother => hkey other (hleads.used other hother))

/-- An object that has just been set is the first one. -/
theorem Roomy.set (h : Roomy count system) (hused : used.card < count) (key : κ) (value : ν)
    (cost : NSUInteger) {now : NSTimeInterval} (hnow : 0 ≤ now) :
    Recent key value used
      (specStep client Recency.perform system
        (.setObject (some value) (some key) cost now)).2.entries := by
  obtain ⟨control, recency⟩ := system
  change Recent key value used (Recency.setObject recency value key cost now control.costLimit
    control.countLimit).1.entries
  have hfirst : Recent key value used
      (⟨key, value, cost, now⟩ :: MemoryCache.without recency.entries key) :=
    .first rfl rfl _
  simp only [Recency.setObject]
  split
  · next hcount =>
      have hlt := lt_length_of_lt_total_count hcount
      have hle : count ≤ control.countLimit.toNat := h.allows.count_le
      have hwell : WellKept (⟨key, value, cost, now⟩ :: MemoryCache.without recency.entries key) :=
        h.well.use hnow
      exact hfirst.drop_last hwell (lt_of_le_of_lt (hused.trans_le hle) hlt)
  · exact hfirst

/-- An object that has been set keeps its place before all entries but those used since. -/
theorem recent_after {done events : List (Event κ ν)} {cost : NSUInteger} {now : NSTimeInterval}
    (hlimit : count < 2 ^ 64)
    (hallows : ∀ event ∈ done ++ .setObject (some value) (some key) cost now :: events,
      event.Allows count)
    (hkeeps : ∀ event ∈ events, event.Keeps key) (hused : used.card < count)
    (hkeys : ∀ event ∈ events, ∀ other ∈ event.usedKey, other = key ∨ other ∈ used) :
    let after := recencyAfter (done ++ .setObject (some value) (some key) cost now :: events)
    WellKept after.2.entries ∧ Recent key value used after.2.entries := by
  rw [List.forall_mem_append, List.forall_mem_cons] at hallows
  obtain ⟨hdone, hset, hevents⟩ := hallows
  have hstep : ∀ (system : Control κ ν × Recency κ ν) (event : Event κ ν), Roomy count system →
      event.Allows count → Roomy count (specStep client Recency.perform system event) :=
    fun _ _ h hevent => h.step (by omega) hevent
  have hbefore : Roomy count (recencyAfter done) :=
    run_invariant hstep (.init hlimit) (admissible_of_forall _ _ hdone)
  -- from the event that sets the object on, it also is at its place
  have hrecent : ∀ (system : Control κ ν × Recency κ ν) (event : Event κ ν),
      Roomy count system ∧ Recent key value used system.2.entries →
      (event.Allows count ∧ event.Keeps key ∧
        ∀ other ∈ event.usedKey, other = key ∨ other ∈ used) →
      Roomy count (specStep client Recency.perform system event) ∧
        Recent key value used (specStep client Recency.perform system event).2.entries := by
    rintro system event ⟨hroomy, hplace⟩ ⟨hevent, hkeep, hkey⟩
    exact ⟨hstep system event hroomy hevent, hroomy.recent hused hplace hevent hkeep hkey⟩
  have hafter := run_invariant hrecent
    ⟨hstep _ _ hbefore hset, hbefore.set hused key value cost hset.1⟩
    (admissible_of_forall _ _
      (fun event hevent => ⟨hevents event hevent, hkeeps event hevent, hkeys event hevent⟩))
  simp only [recencyAfter, run, List.foldl_append, List.foldl_cons]
  exact ⟨hafter.1.well, hafter.2⟩

/-- As long as fewer other keys are used than all limits for the number of objects allow, an object
that has been set and neither removed nor replaced is found, whatever the threads and the background
trims do. -/
theorem recently_used_run (allocator : Allocator κ ν) (done events : List (Event κ ν)) (key : κ)
    (value : ν) (cost : NSUInteger) (now : NSTimeInterval) (count : Nat) (hlimit : count < 2 ^ 64)
    (hallows : ∀ event ∈ done ++ .setObject (some value) (some key) cost now :: events,
      event.Allows count)
    (hkeeps : ∀ event ∈ events, event.Keeps key)
    (hused : ((events.filterMap Event.usedKey).toFinset.erase key).card < count) :
    ∃ cache node entry,
      (cacheAfter allocator
        (done ++ .setObject (some value) (some key) cost now :: events)).object = some cache ∧
      cache.lru.dic.lookup key = some node ∧ cache.memory.entry node = some entry ∧
      entry.value = value := by
  have hkeys : ∀ event ∈ events, ∀ other ∈ event.usedKey,
      other = key ∨ other ∈ (events.filterMap Event.usedKey).toFinset.erase key := by
    intro event hevent other hother
    rw [Finset.mem_erase, List.mem_toFinset, List.mem_filterMap]
    by_cases hkey : other = key
    · exact .inl hkey
    · exact .inr ⟨hkey, event, hevent, hother⟩
  obtain ⟨hwell, hrecent⟩ := recent_after hlimit hallows hkeeps hused hkeys
  obtain ⟨entry, hentry, hvalue⟩ := hrecent.entry_for hwell
  obtain ⟨-, cache, hobject, cells, hstands⟩ := matches_recency allocator
    (done ++ .setObject (some value) (some key) cost now :: events)
  obtain ⟨node, hlookup, hnode⟩ := hstands.found hentry
  exact ⟨cache, node, entry, hobject, hlookup, hnode, hvalue⟩

/-- One other key is used where two objects are allowed, and a background trim runs meanwhile. -/
theorem recently_used_run_two :
    ∃ cache node entry,
      (cacheAfter (default : Allocator Nat Nat)
        ([.setCountLimit 2, .setObject (some 5) (some 0) 0 0] ++
          .setObject (some 10) (some 1) 0 1 ::
          [.setObject (some 20) (some 2) 0 2, .trimInBackground, .queueTurn 3, .queueTurn 3,
            .objectForKey (some 2) 4])).object = some cache ∧
      cache.lru.dic.lookup 1 = some node ∧ cache.memory.entry node = some entry ∧
      entry.value = 10 := by
  have hclock : 0 ≤ dblMax ∧ 1 ≤ dblMax ∧ 2 ≤ dblMax ∧ 3 ≤ dblMax ∧ 4 ≤ dblMax := by
    decide +kernel
  refine recently_used_run default _ _ 1 10 0 1 2 (by norm_num) ?_ ?_ (by decide)
  · simpa [Event.Allows] using hclock
  · simp [Event.Keeps]

/-! ## The number of objects -/

/-- No section raises the number of objects above a bound that is not below the limit. -/
theorem Change.length_le {limit : NSUInteger} {bound : Nat}
    (hchange : Change entries sec entries') (h : entries.length ≤ bound)
    (hlimit : limit.toNat ≤ bound) (hbound : bound < 2 ^ 64 - 1)
    (hsec : ∀ object key cost now costLimit countLimit,
      sec = .setObject object key cost now costLimit countLimit → countLimit ≤ limit) :
    entries'.length ≤ bound := by
  have hwithout : ∀ key, (without entries key).length ≤ entries.length :=
    fun key => (without_sublist entries key).length_le
  cases hchange with
  | same => exact h
  | @touch key now entry hentry =>
      have hlt : (without entries key).length < entries.length := by
        refine List.length_filter_lt_length_iff_exists.mpr
          ⟨entry, List.mem_of_find?_eq_some hentry, ?_⟩
        simp [key_of_entry_for hentry]
      exact Nat.le_trans hlt h
  | @put object key cost costLimit countLimit now hcount =>
      have hle := hsec object key cost now costLimit countLimit rfl
      have hrest := hwithout key
      rw [UInt64.le_iff_toNat_le] at hle
      rw [UInt64.lt_iff_toNat_lt, totalCount, UInt64.toNat_ofNat', List.length_cons,
        Nat.mod_eq_of_lt (by omega)] at hcount
      rw [List.length_cons]
      omega
  | @replace object key cost costLimit countLimit now hcount =>
      rw [List.length_dropLast, List.length_cons, Nat.add_sub_cancel]
      exact (hwithout key).trans h
  | remove key => exact (hwithout key).trans h
  | clear => exact Nat.zero_le _
  | clearFor _ => exact Nat.zero_le _
  | evict _ => exact (List.dropLast_sublist _).length_le.trans h

/-- No event raises the number of objects above a bound that is not below the limit. -/
theorem Limited.step {limit : NSUInteger} {bound : Nat} (h : Limited limit bound system)
    (hlimit : limit.toNat ≤ bound) (hbound : bound < 2 ^ 64 - 1)
    (hevent : ∀ other, event = .setCountLimit other → other ≤ limit) :
    Limited limit bound (specStep client Recency.perform system event) := by
  obtain ⟨control, recency⟩ := system
  obtain ⟨reply, hcontrol, hrecency⟩ := spec_step_cases control recency event
  refine ⟨hcontrol ▸ resume_count_limit_le h.limit_le hevent reply, ?_⟩
  rcases hrecency with hsame | ⟨sec, hrequest, hchange⟩
  · rw [hsame]
    exact h.length_le
  · refine hchange.length_le h.length_le hlimit hbound ?_
    rintro object key cost now costLimit countLimit rfl
    rw [request_count_limit hrequest]
    exact h.limit_le

/-- The cache has as many objects as there are entries. -/
theorem length_entries_eq (allocator : Allocator κ ν) (events : List (Event κ ν)) :
    ∃ cache, (cacheAfter allocator events).object = some cache ∧
      (recencyAfter events).2.entries.length = cache.lru.dic.keys.length ∧
      cache.lru.totalCount = .ofNat cache.lru.dic.keys.length := by
  obtain ⟨-, cache, hobject, cells, hstands⟩ := matches_recency allocator events
  have hindexed := hstands.represents.indexed
  refine ⟨cache, hobject, ?_, ?_⟩
  · rw [hstands.entries_eq, List.length_map, ← hindexed.length_keys]
  · rw [hindexed.count_eq, ← hindexed.length_keys]

/-- Once a limit for the number of objects has been set and as long as only lower ones are set, no
state of the cache has more objects than the limit and than there were at that moment, and
`totalCount` is their number. In particular a new cache never has more objects than the limit. -/
theorem count_limit_run (allocator : Allocator κ ν) (limit : NSUInteger)
    (done events : List (Event κ ν)) (before : YYMemoryCache κ ν)
    (hbefore : (cacheAfter allocator done).object = some before)
    (hbound : max limit.toNat before.lru.dic.keys.length < 2 ^ 64 - 1)
    (hevents : ∀ other, .setCountLimit other ∈ events → other ≤ limit) :
    ∃ cache, (cacheAfter allocator (done ++ .setCountLimit limit :: events)).object = some cache ∧
      cache.lru.dic.keys.length ≤ max limit.toNat before.lru.dic.keys.length ∧
      cache.lru.totalCount.toNat = cache.lru.dic.keys.length := by
  generalize hmax : max limit.toNat before.lru.dic.keys.length = bound at *
  have hlimit : limit.toNat ≤ bound := hmax ▸ le_max_left ..
  have hlength : before.lru.dic.keys.length ≤ bound := hmax ▸ le_max_right ..
  have hstep : ∀ (system : Control κ ν × Recency κ ν) (event : Event κ ν),
      Limited limit bound system → (∀ other, event = .setCountLimit other → other ≤ limit) →
      Limited limit bound (specStep client Recency.perform system event) :=
    fun _ _ h hevent => h.step hlimit hbound hevent
  -- setting the limit changes no entry
  have hset : Limited limit bound
      (specStep client Recency.perform (recencyAfter done) (.setCountLimit limit)) := by
    obtain ⟨found, hfound, hentries, -⟩ := length_entries_eq allocator done
    obtain rfl := Option.some.inj (hbefore.symm.trans hfound)
    exact ⟨UInt64.le_refl limit, hentries.trans_le hlength⟩
  have hrun := run_invariant hstep hset (admissible_of_forall _ _ (fun event hevent other heq =>
    hevents other (heq ▸ hevent)))
  have hafter : Limited limit bound (recencyAfter (done ++ .setCountLimit limit :: events)) := by
    simpa only [recencyAfter, run, List.foldl_append, List.foldl_cons] using hrun
  obtain ⟨cache, hobject, hentries, hcount⟩ :=
    length_entries_eq allocator (done ++ .setCountLimit limit :: events)
  have hkeys : cache.lru.dic.keys.length ≤ bound := hentries ▸ hafter.length_le
  refine ⟨cache, hobject, hkeys, ?_⟩
  rw [hcount, UInt64.toNat_ofNat', Nat.mod_eq_of_lt (by omega)]

/-- One object is allowed where there are two already. The third one replaces one of them. -/
theorem count_limit_run_one :
    let done : List (Event Nat Nat) :=
      [.setObject (some 10) (some 1) 0 1, .setObject (some 20) (some 2) 0 2]
    let events : List (Event Nat Nat) :=
      [.setObject (some 30) (some 3) 0 3, .setCountLimit 0, .trimInBackground, .queueTurn 4]
    ∃ before, (cacheAfter default done).object = some before ∧
      before.lru.dic.keys.length = 2 ∧
      ∃ cache, (cacheAfter default (done ++ .setCountLimit 1 :: events)).object = some cache ∧
        cache.lru.dic.keys.length ≤ max 1 before.lru.dic.keys.length ∧
        cache.lru.totalCount.toNat = cache.lru.dic.keys.length := by
  intro done events
  obtain ⟨before, hbefore, hentries, -⟩ := length_entries_eq default done
  have hkeys : before.lru.dic.keys.length = 2 := hentries.symm.trans (by decide +kernel)
  refine ⟨before, hbefore, hkeys, count_limit_run default 1 done events before hbefore ?_ ?_⟩
  · rw [hkeys]
    decide
  · simp [events]

end Runs

end Component.MemoryCache

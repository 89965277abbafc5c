import Component.Lib.Positions
import Component.MemoryCache.LinkedMap
import Component.MemoryCache.Recency

/-!
# The memory cache refines the list of entries

`Stands` relates a cache to a list of entries. The nodes that have not been freed are those of the
map and those that someone still holds a reference to, so nothing is freed too early and nothing
leaks. Every section of the cache works from such a state and gives the reply of the list
(`refines_recency`). It follows that in every run the cache never follows `nil` or a pointer to a
freed node, and that its replies are those of the list (`cache_run`). Both are about nodes: the
values that the nodes hold have no lifetime in the model.
-/

namespace Component.MemoryCache

open Component.Lib.LinkedList Component.Lib.Positions Component.Lib.Refinement Component.Lib.Run

variable {κ ν : Type} [DecidableEq κ]

/-- A reference to a node belongs to a call that still has to read a value. -/
inductive ReadMatches (memory : Memory κ ν) (cells : List (Cell κ ν)) :
    Option Address → Option (Read κ ν) → Prop where
  | finished : ReadMatches memory cells none none
  | pending {address : Address} {entry : Entry κ ν} {read : Read κ ν}
      (hentry : memory.entry address = some entry) (hkey : entry.key = read.key)
      (hvalue : entry.value = read.value)
      (hattached : read.attached = true ↔ address ∈ cells.map Prod.fst) :
      ReadMatches memory cells (some address) (some read)

/-- The cache stands for a list of entries. -/
structure Stands (cache : YYMemoryCache κ ν) (cells : List (Cell κ ν)) (recency : Recency κ ν) :
    Prop where
  represents : Represents cache.lru cache.memory cells
  entries_eq : recency.entries = cells.map Prod.snd
  owned : ∀ address, address ∈ cache.memory ↔
    address ∈ cells.map Prod.fst ∨ address ∈ cache.held ∨ some address ∈ cache.reads
  reads_match : List.Forall₂ (ReadMatches cache.memory cells) cache.reads recency.reads

/-! ## Entries by key -/

section Keys

variable {map : YYLinkedMap κ} {memory : Memory κ ν} {cells before after : List (Cell κ ν)}
  {node : Address} {entry : Entry κ ν} {key : κ}

/-- The entry that is found for a key has this key. -/
theorem key_of_entry_for {entries : List (Entry κ ν)} (h : entryFor entries key = some entry) :
    entry.key = key := by
  simpa using List.find?_some h

/-- No entry is found for a key that no cell has. -/
theorem entry_for_eq_none (h : ∀ cell ∈ cells, cell.2.key ≠ key) :
    entryFor (cells.map Prod.snd) key = none := by
  simpa [entryFor] using fun address entry hcell => h (address, entry) hcell

/-- The entry of a cell is the one that is found for its key. -/
theorem Represents.entry_for (h : Represents map memory cells) {cell : Cell κ ν}
    (hcell : cell ∈ cells) : entryFor (cells.map Prod.snd) cell.2.key = some cell.2 := by
  obtain ⟨before, after, rfl⟩ := List.append_of_mem hcell
  have hkeys := h.indexed.keys
  rw [List.map_append, List.map_cons, List.nodup_middle] at hkeys
  have hbefore : ∀ other ∈ before, other.2.key ≠ cell.2.key := fun other hother heq =>
    (List.nodup_cons.mp hkeys).1 (by simpa using .inl ⟨other.1, other.2, hother, heq⟩)
  unfold entryFor
  rw [List.map_append, List.map_cons, List.find?_append,
    show (before.map Prod.snd).find? _ = none from entry_for_eq_none hbefore]
  simp

/-- Taking out a key that no cell has changes nothing. -/
theorem without_eq_self (h : ∀ cell ∈ cells, cell.2.key ≠ key) :
    without (cells.map Prod.snd) key = cells.map Prod.snd := by
  unfold without
  simpa using fun entry address hcell => h (address, entry) hcell

/-- Taking out the key of a cell takes out just this cell. -/
theorem Represents.without_eq (h : Represents map memory (before ++ (node, entry) :: after)) :
    without ((before ++ (node, entry) :: after).map Prod.snd) entry.key =
      (before ++ after).map Prod.snd := by
  have hkeys := h.indexed.keys
  rw [List.map_append, List.map_cons, List.nodup_middle] at hkeys
  rw [← List.map_append, List.nodup_cons] at hkeys
  have hothers : ∀ cell ∈ before ++ after, cell.2.key ≠ entry.key :=
    fun cell hcell heq => hkeys.1 (List.mem_map.mpr ⟨cell, hcell, heq⟩)
  rw [← without_eq_self hothers]
  simp [without]

/-- Nodes are the same if their keys are. -/
theorem Represents.same_iff (h : Represents map memory cells) {cell other : Cell κ ν}
    (hcell : cell ∈ cells) (hother : other ∈ cells) :
    cell.1 = other.1 ↔ cell.2.key = other.2.key := by
  constructor
  · intro heq
    rw [List.inj_on_of_nodup_map h.linked.nodup hcell hother heq]
  · intro heq
    rw [List.inj_on_of_nodup_map h.indexed.keys hcell hother heq]

end Keys

/-! ## Calls follow their entries -/

/-- How the nodes change while calls hold references to them. -/
structure Evolves (memory memory' : Memory κ ν) (cells cells' : List (Cell κ ν)) : Prop where
  same_iff : ∀ cell ∈ cells, ∀ cell' ∈ cells', cell.1 = cell'.1 ↔ cell.2.key = cell'.2.key
  fresh : ∀ cell' ∈ cells', cell'.1 ∈ cells.map Prod.fst ∨ memory.entry cell'.1 = none
  kept : ∀ address, address ∉ cells'.map Prod.fst → memory'.entry address = memory.entry address

section Evolves

variable {map map' : YYLinkedMap κ} {memory memory' : Memory κ ν} {cells cells' : List (Cell κ ν)}

/-- Nodes are moved, removed, or given other values. -/
theorem Represents.evolves (h : Represents map memory cells)
    (hcells : ∀ cell' ∈ cells', ∃ cell ∈ cells, cell.1 = cell'.1 ∧ cell.2.key = cell'.2.key)
    (hkept : ∀ address, address ∉ cells'.map Prod.fst →
      memory'.entry address = memory.entry address) :
    Evolves memory memory' cells cells' where
  same_iff := by
    intro cell hcell cell' hcell'
    obtain ⟨origin, horigin, haddress, hkey⟩ := hcells cell' hcell'
    rw [← haddress, ← hkey]
    exact h.same_iff hcell horigin
  fresh := by
    intro cell' hcell'
    obtain ⟨origin, horigin, haddress, -⟩ := hcells cell' hcell'
    exact .inl (haddress ▸ List.mem_map_of_mem horigin)
  kept := hkept

/-- A read whose node has left the cache is not changed by what happens to the entries. -/
theorem Read.follow_detached {entries : List (Entry κ ν)} {read : Read κ ν}
    (h : read.attached = false) : read.follow entries = read := by
  simp [Read.follow, h]

/-- A read whose node is still in the cache sees the value of its entry. -/
theorem Read.follow_some {entries : List (Entry κ ν)} {read : Read κ ν} {entry : Entry κ ν}
    (h : read.attached = true) (hentry : entryFor entries read.key = some entry) :
    read.follow entries = { read with value := entry.value } := by
  simp [Read.follow, h, hentry]

/-- A read loses its entry when the entry goes, and keeps the value. -/
theorem Read.follow_none {entries : List (Entry κ ν)} {read : Read κ ν}
    (h : read.attached = true) (hentry : entryFor entries read.key = none) :
    read.follow entries = { read with attached := false } := by
  simp [Read.follow, h, hentry]

/-- When the memory and the list change together, the pending reads follow. -/
theorem ReadMatches.follow (hevolves : Evolves memory memory' cells cells')
    (h : Represents map memory cells) (h' : Represents map' memory' cells')
    {pointer : Option Address} {read : Option (Read κ ν)}
    (hread : ReadMatches memory cells pointer read) :
    ReadMatches memory' cells' pointer (read.map (Read.follow (cells'.map Prod.snd))) := by
  cases hread with
  | finished => exact .finished
  | @pending address entry read hentry hkey hvalue hattached =>
      rw [Option.map_some]
      cases hread : read.attached with
      | false =>
          -- the node has been removed before
          have hgone : address ∉ cells'.map Prod.fst := by
            intro hmem
            obtain ⟨cell', hcell', rfl⟩ := List.mem_map.mp hmem
            rcases hevolves.fresh cell' hcell' with hold | hnone
            · simp [hattached.mpr hold] at hread
            · cases hentry.symm.trans hnone
          rw [Read.follow_detached hread]
          refine .pending ((hevolves.kept address hgone).trans hentry) hkey hvalue ?_
          simp [hread, hgone]
      | true =>
          obtain ⟨cell, hcell, rfl⟩ := List.mem_map.mp (hattached.mp hread)
          obtain rfl : cell.2 = entry := Option.some.inj ((h.entry_eq cell hcell).symm.trans hentry)
          by_cases hstays : cell.1 ∈ cells'.map Prod.fst
          · obtain ⟨cell', hcell', haddress⟩ := List.mem_map.mp hstays
            have hsame := (hevolves.same_iff cell hcell cell' hcell').mp haddress.symm
            have hfind : entryFor (cells'.map Prod.snd) read.key = some cell'.2 := by
              rw [← hkey, hsame]
              exact h'.entry_for hcell'
            rw [Read.follow_some hread hfind]
            refine .pending (haddress ▸ h'.entry_eq cell' hcell') (hsame ▸ hkey) rfl ?_
            simp [hread, hstays]
          · have hfind : entryFor (cells'.map Prod.snd) read.key = none := by
              refine entry_for_eq_none (fun cell' hcell' heq => hstays ?_)
              rw [(hevolves.same_iff cell hcell cell' hcell').mpr (hkey.trans heq.symm)]
              exact List.mem_map_of_mem hcell'
            rw [Read.follow_none hread hfind]
            refine .pending ((hevolves.kept _ hstays).trans hentry) hkey hvalue ?_
            simp [hstays]

/-- The nodes change, and with them the entries and what the calls will read. -/
theorem Stands.update {cache : YYMemoryCache κ ν} {recency : Recency κ ν} {held : List Address}
    (h : Stands cache cells recency) (h' : Represents map' memory' cells')
    (hevolves : Evolves cache.memory memory' cells cells')
    (howned : ∀ address, address ∈ memory' ↔ address ∈ cells'.map Prod.fst ∨ address ∈ held ∨
      some address ∈ cache.reads) :
    Stands ⟨map', memory', held, cache.reads⟩ cells' (recency.update (cells'.map Prod.snd)) where
  represents := h'
  entries_eq := rfl
  owned := howned
  reads_match := by
    refine List.forall₂_map_right_iff.mpr (h.reads_match.imp ?_)
    exact fun pointer read => ReadMatches.follow hevolves h.represents h'

end Evolves

/-! ## Sections -/

section Sections

variable {cache : YYMemoryCache κ ν} {recency : Recency κ ν}
  {cells cells' before after : List (Cell κ ν)} {node : Address} {entry : Entry κ ν}
  {map' : YYLinkedMap κ} {memory' : Memory κ ν}

/-- Nodes are removed; someone else holds them now. -/
theorem Stands.remove (h : Stands cache cells recency) (h' : Represents map' memory' cells')
    (hentry : memory'.entry = cache.memory.entry) (hsubset : cells' ⊆ cells)
    {holder : List Address} (hholder : ∀ address, address ∈ cells.map Prod.fst ↔
      address ∈ cells'.map Prod.fst ∨ address ∈ holder) :
    Stands ⟨map', memory', cache.held ++ holder, cache.reads⟩ cells'
      (recency.update (cells'.map Prod.snd)) := by
  refine h.update h' (h.represents.evolves ?_ (fun _ _ => by rw [hentry])) (fun address => ?_)
  · exact fun cell hcell => ⟨cell, hsubset hcell, rfl, rfl⟩
  · rw [Memory.mem_iff_entry, hentry, ← Memory.mem_iff_entry, h.owned, hholder, List.mem_append]
    tauto

/-- Nothing changes. -/
theorem Stands.follow (h : Stands cache cells recency) :
    Stands cache cells (recency.update (cells.map Prod.snd)) := by
  refine h.update h.represents (h.represents.evolves ?_ (fun _ _ => rfl)) h.owned
  exact fun cell hcell => ⟨cell, hcell, rfl, rfl⟩

/-- Removing the tail drops the last entry. -/
theorem Stands.remove_tail (h : Stands cache cells recency) :
    ∃ after cells', cache.removeTail = some after ∧ Stands after cells' recency.dropLast := by
  unfold YYMemoryCache.removeTail Recency.dropLast
  rw [h.entries_eq]
  rcases List.eq_nil_or_concat cells with rfl | ⟨before, ⟨node, entry⟩, rfl⟩
  · rw [h.represents.remove_tail_node_nil]
    exact ⟨_, [], rfl, h.remove h.represents rfl (List.Subset.refl _) (by simp)⟩
  · rw [List.concat_eq_append] at h ⊢
    obtain ⟨map', memory', hremove, h', hentry⟩ := h.represents.remove_tail_node
    rw [hremove, List.map_append, List.map_cons, List.map_nil, List.dropLast_concat]
    exact ⟨_, before, rfl, h.remove h' hentry (List.subset_append_left ..) (by simp)⟩

/-- Removing all objects leaves no entry. -/
theorem Stands.remove_all_objects (h : Stands cache cells recency) :
    Stands cache.removeAllObjects [] (recency.update []) := by
  have hvalues : ∀ address, address ∈ cells.map Prod.fst ↔
      address ∈ ([] : List (Cell κ ν)).map Prod.fst ∨
        address ∈ cache.lru.dic.entries.map (fun entry => entry.2) := by
    intro address
    rw [h.represents.indexed.mem_values_iff]
    simp
  unfold YYMemoryCache.removeAllObjects
  rw [YYLinkedMap.remove_all_eq]
  exact h.remove (.nil _) rfl (List.nil_subset _) hvalues

/-- A node of the map is found by its key. -/
theorem Stands.split (h : Stands cache cells recency) {key : κ}
    (hnode : cache.lru.dic.lookup key = some node) :
    ∃ before entry after, cells = before ++ (node, entry) :: after ∧ entry.key = key := by
  obtain ⟨⟨address, entry⟩, hcell, rfl, rfl⟩ := (h.represents.indexed.dic_eq key node).mp hnode
  obtain ⟨before, after, hsplit⟩ := List.append_of_mem hcell
  exact ⟨before, entry, after, hsplit, rfl⟩

/-- A key that is not in the dictionary has no entry. -/
theorem Stands.lookup_eq_none (h : Stands cache cells recency) {key : κ}
    (hnone : cache.lru.dic.lookup key = none) :
    entryFor recency.entries key = none ∧ without recency.entries key = recency.entries := by
  have hkey := h.represents.indexed.lookup_eq_none_iff.mp hnone
  rw [h.entries_eq]
  exact ⟨entry_for_eq_none hkey, without_eq_self hkey⟩

/-- The entry of a node is the one that is found for its key. -/
theorem Stands.entry_for (h : Stands cache (before ++ (node, entry) :: after) recency) :
    entryFor recency.entries entry.key = some entry := by
  have hcell : (node, entry) ∈ before ++ (node, entry) :: after := by simp
  rw [h.entries_eq]
  exact h.represents.entry_for hcell

/-- The dictionary has the keys of the entries. -/
theorem Stands.is_some_lookup (h : Stands cache cells recency) (key : κ) :
    (cache.lru.dic.lookup key).isSome = (entryFor recency.entries key).isSome := by
  cases hlookup : cache.lru.dic.lookup key with
  | none => rw [(h.lookup_eq_none hlookup).1]; rfl
  | some node =>
      obtain ⟨before, entry, after, rfl, rfl⟩ := h.split hlookup
      rw [h.entry_for]
      rfl

/-- An entry of the list is found by its key. -/
theorem Stands.found (h : Stands cache cells recency) {key : κ}
    (hentry : entryFor recency.entries key = some entry) :
    ∃ node, cache.lru.dic.lookup key = some node ∧ cache.memory.entry node = some entry := by
  have hkey := key_of_entry_for hentry
  have hmem := List.mem_of_find?_eq_some hentry
  rw [h.entries_eq] at hmem
  obtain ⟨cell, hcell, rfl⟩ := List.mem_map.mp hmem
  exact ⟨cell.1, hkey ▸ h.represents.indexed.lookup hcell, h.represents.entry_eq cell hcell⟩

/-- A node gets a new entry with the same key and becomes the first one. -/
theorem Stands.use (h : Stands cache (before ++ (node, entry) :: after) recency)
    {new : Entry κ ν} (hkey : new.key = entry.key) {memory : Memory κ ν}
    (hprev : memory.prev = cache.memory.prev) (hnext : memory.next = cache.memory.next)
    (hentry : memory.entry = Function.update cache.memory.entry node (some new)) :
    ∃ lru memory', { cache.lru with
        totalCost := cache.lru.totalCost - entry.cost + new.cost }.bringNodeToHead memory node =
        some (lru, memory') ∧
      Stands { cache with lru := lru, memory := memory' } ((node, new) :: (before ++ after))
        (recency.use new) := by
  have hreplace := h.represents.replace hkey hprev hnext hentry
  obtain ⟨lru, memory', hbring, h', hentries⟩ := hreplace.bring_node_to_head
  refine ⟨lru, memory', hbring, ?_⟩
  have hlive : cache.memory.entry node = some entry :=
    h.represents.entry_eq (node, entry) (by simp)
  have huse : recency.use new =
      recency.update (((node, new) :: (before ++ after)).map Prod.snd) := by
    rw [Recency.use, hkey, h.entries_eq, h.represents.without_eq]
    rfl
  rw [huse]
  refine h.update h' (h.represents.evolves (fun cell hcell => ?_) (fun address haddress => ?_))
    (fun address => ?_)
  · rcases List.mem_cons.mp hcell with rfl | hmem
    · exact ⟨(node, entry), by simp, rfl, hkey.symm⟩
    · exact ⟨cell, List.perm_middle.mem_iff.mpr (List.mem_cons_of_mem _ hmem), rfl, rfl⟩
  · have hne : address ≠ node := fun heq => haddress (by simp [heq])
    rw [hentries, hentry, Function.update_of_ne hne]
  · have hmem : address ∈ memory' ↔ address ∈ cache.memory := by
      rw [Memory.mem_iff_entry, Memory.mem_iff_entry, hentries, hentry, Function.update_apply]
      split
      · next heq => simp [heq, hlive]
      · rfl
    rw [hmem, h.owned, (List.perm_middle.map Prod.fst).mem_iff]
    rfl

/-- A section of the cache has the reply of the list, and leaves the cache in a state that stands
for the list. -/
def Answers (result : Option (YYMemoryCache κ ν × Reply ν)) (spec : Recency κ ν × Reply ν) :
    Prop :=
  ∃ after cells, result = some (after, spec.2) ∧ Stands after cells spec.1

/-- A call of `objectForKey:` gets a reference to a node of the map. -/
theorem Stands.retain (h : Stands cache cells recency) (hcell : (node, entry) ∈ cells) :
    Stands { cache with reads := cache.reads ++ [some node] } cells
      { recency with reads := recency.reads ++ [some ⟨entry.key, entry.value, true⟩] } where
  represents := h.represents
  entries_eq := h.entries_eq
  owned := by
    intro address
    have hnode : node ∈ cells.map Prod.fst := List.mem_map_of_mem hcell
    simp only [h.owned, List.mem_append, List.mem_singleton, Option.some_inj]
    constructor
    · tauto
    · rintro (hmem | hheld | hread | rfl)
      · exact .inl hmem
      · exact .inr (.inl hheld)
      · exact .inr (.inr hread)
      · exact .inl hnode
  reads_match := by
    refine List.rel_append h.reads_match (.cons ?_ .nil)
    exact .pending (h.represents.entry_eq _ hcell) rfl rfl
      (iff_of_true rfl (List.mem_map_of_mem hcell))

/-- Looking a key up gives the reply of the list. -/
theorem Stands.object_for_key (h : Stands cache cells recency) (key : κ) (now : NSTimeInterval) :
    Answers (cache.objectForKey key now) (recency.objectForKey key now) := by
  unfold YYMemoryCache.objectForKey Recency.objectForKey
  cases hlookup : cache.lru.dic.lookup key with
  | none =>
      rw [(h.lookup_eq_none hlookup).1]
      exact ⟨cache, cells, rfl, h⟩
  | some node =>
      obtain ⟨before, entry, after, rfl, rfl⟩ := h.split hlookup
      have hentry : cache.memory.entry node = some entry :=
        h.represents.entry_eq (node, entry) (by simp)
      obtain ⟨memory, hstore, hprev, hnext, hentries⟩ :=
        Memory.store_entry hentry (fun fields => { fields with time := now })
          (fun _ => rfl) (fun _ => rfl)
      have hkey : ({ entry with time := now } : Entry κ ν).key = entry.key := rfl
      obtain ⟨lru, memory', hbring, h'⟩ := h.use hkey hprev hnext hentries
      rw [sub_add_cancel] at hbring
      simp only [hstore, h.entry_for, Option.bind_eq_bind, Option.bind_some]
      rw [hbring]
      have hcell : (node, ({ entry with time := now } : Entry κ ν)) ∈
          (node, { entry with time := now }) :: (before ++ after) := List.mem_cons_self
      have hretain := h'.retain hcell
      exact ⟨_, _, rfl, hretain⟩

/-- Removing a key takes its entry out. -/
theorem Stands.remove_object_for_key (h : Stands cache cells recency) (key : κ) :
    Answers (cache.removeObjectForKey key)
      (recency.update (without recency.entries key), .done) := by
  unfold YYMemoryCache.removeObjectForKey
  cases hlookup : cache.lru.dic.lookup key with
  | none =>
      rw [(h.lookup_eq_none hlookup).2, h.entries_eq]
      exact ⟨cache, cells, rfl, h.follow⟩
  | some node =>
      obtain ⟨before, entry, after, rfl, rfl⟩ := h.split hlookup
      obtain ⟨lru, memory', hremove, h', hentry⟩ := h.represents.remove_node
      simp only [hremove, Option.bind_eq_bind, Option.bind_some]
      rw [h.entries_eq, h.represents.without_eq]
      refine ⟨_, _, rfl, h.remove h' hentry (fun cell hcell => ?_) (fun address => ?_)⟩
      · exact List.perm_middle.mem_iff.mpr (List.mem_cons_of_mem _ hcell)
      · rw [(List.perm_middle.map Prod.fst).mem_iff, List.map_cons, List.mem_cons,
          List.mem_singleton, or_comm]

/-- A new node is put in front. -/
theorem Stands.insert (allocator : Allocator κ ν) (h : Stands cache cells recency)
    {new : Entry κ ν} (hkey : cache.lru.dic.lookup new.key = none) :
    let node := allocator.new cache.memory
    ∃ lru memory', cache.lru.insertNodeAtHead (cache.memory.insert node ⟨new, none, none⟩) node =
        some (lru, memory') ∧
      Stands { cache with lru := lru, memory := memory' } ((node, new) :: cells)
        (recency.use new) := by
  intro node
  have hfresh : node ∉ cache.memory := allocator.fresh cache.memory
  have hnode : node ∉ cells.map Prod.fst := fun hmem => hfresh ((h.owned node).mpr (.inl hmem))
  have hnone : cache.memory.entry node = none := by
    rw [Memory.entry, AList.lookup_eq_none.mpr hfresh]
    rfl
  have hkeys := h.represents.indexed.lookup_eq_none_iff.mp hkey
  have hrepresents : Represents cache.lru (cache.memory.insert node ⟨new, none, none⟩) cells := by
    refine h.represents.congr (fun address haddress => ?_)
    exact AList.lookup_insert_ne (ne_of_mem_of_not_mem haddress hnode)
  have hentry := Memory.entry_insert cache.memory node ⟨new, none, none⟩
  obtain ⟨lru, memory', hinsert, h', hentries⟩ := hrepresents.insert_node_at_head
    (by rw [hentry, Function.update_self])
    (by rw [Memory.prev, Memory.read_insert, Function.update_self])
    (by rw [Memory.next, Memory.read_insert, Function.update_self]) hnode hkeys
  rw [hentry] at hentries
  refine ⟨lru, memory', hinsert, ?_⟩
  have huse : recency.use new = recency.update (((node, new) :: cells).map Prod.snd) := by
    rw [Recency.use, (h.lookup_eq_none hkey).2, h.entries_eq]
    rfl
  rw [huse]
  refine h.update h' ⟨fun cell hcell cell' hcell' => ?_, fun cell' hcell' => ?_, ?_⟩ ?_
  · rcases List.mem_cons.mp hcell' with rfl | hmem
    · exact iff_of_false (ne_of_mem_of_not_mem (List.mem_map_of_mem hcell) hnode)
        (hkeys cell hcell)
    · exact h.represents.same_iff hcell hmem
  · rcases List.mem_cons.mp hcell' with rfl | hmem
    · exact .inr hnone
    · exact .inl (List.mem_map_of_mem hmem)
  · intro address haddress
    have hne : address ≠ node := fun heq => haddress (by simp [heq])
    rw [hentries, Function.update_of_ne hne]
  · intro address
    rw [Memory.mem_iff_entry, hentries, List.map_cons, List.mem_cons, or_assoc, ← h.owned,
      Memory.mem_iff_entry, Function.update_apply]
    split
    · next heq => simp [heq]
    · next hne => simp [hne]

/-- Storing an object uses its entry now, whether the key has a node already or gets a new one. -/
theorem Stands.put_object (allocator : Allocator κ ν) (h : Stands cache cells recency) (object : ν)
    (key : κ) (cost : NSUInteger) (now : NSTimeInterval) :
    ∃ after cells', cache.putObject allocator object key cost now = some after ∧
      Stands after cells' (recency.use ⟨key, object, cost, now⟩) := by
  unfold YYMemoryCache.putObject
  cases hlookup : cache.lru.dic.lookup key with
  | none =>
      have hnew : cache.lru.dic.lookup (⟨key, object, cost, now⟩ : Entry κ ν).key = none := hlookup
      obtain ⟨lru, memory', hinsert, h'⟩ := h.insert allocator hnew
      simp only [hinsert, Option.bind_eq_bind, Option.bind_some]
      exact ⟨_, _, rfl, h'⟩
  | some node =>
      obtain ⟨before, entry, after, rfl, rfl⟩ := h.split hlookup
      have hentry : cache.memory.entry node = some entry :=
        h.represents.entry_eq (node, entry) (by simp)
      obtain ⟨memory, hstore, hprev, hnext, hentries⟩ :=
        Memory.store_entry hentry
          (fun fields => { fields with cost := cost, time := now, value := object })
          (fun _ => rfl) (fun _ => rfl)
      have hkey : (⟨entry.key, object, cost, now⟩ : Entry κ ν).key = entry.key := rfl
      obtain ⟨lru, memory', hbring, h'⟩ := h.use hkey hprev hnext hentries
      simp only [Memory.load_eq hentry, hstore, hbring, Option.bind_eq_bind, Option.bind_some]
      exact ⟨_, _, rfl, h'⟩

/-- The counter of the costs is the sum of the costs of the entries. -/
theorem Stands.total_cost (h : Stands cache cells recency) :
    cache.lru.totalCost = totalCost recency.entries := by
  rw [h.represents.indexed.cost_eq, h.entries_eq, totalCost, List.map_map]
  rfl

/-- The counter of the nodes is the number of the entries. -/
theorem Stands.total_count (h : Stands cache cells recency) :
    cache.lru.totalCount = totalCount recency.entries := by
  rw [h.represents.indexed.count_eq, h.entries_eq, totalCount, List.length_map]

/-- Storing an object under any limits gives the reply of the list. -/
theorem Stands.set_object (allocator : Allocator κ ν) (h : Stands cache cells recency) (object : ν)
    (key : κ) (cost : NSUInteger) (now : NSTimeInterval) (costLimit countLimit : NSUInteger) :
    Answers (cache.setObject allocator object key cost now costLimit countLimit)
      (recency.setObject object key cost now costLimit countLimit) := by
  obtain ⟨stored, cells', hput, h'⟩ := h.put_object allocator object key cost now
  unfold YYMemoryCache.setObject Recency.setObject
  simp only [hput, Option.bind_eq_bind, Option.bind_some, h'.total_cost, h'.total_count]
  split
  · obtain ⟨after, cells'', hremove, h''⟩ := h'.remove_tail
    rw [hremove]
    exact ⟨_, _, rfl, h''⟩
  · exact ⟨_, _, rfl, h'⟩

/-- The map exceeds a limit just when the list does. -/
theorem Stands.exceeds (h : Stands cache cells recency) (trim : Trim) :
    cache.exceeds trim = some (trim.exceededBy recency.entries) := by
  cases trim with
  | cost costLimit => rw [YYMemoryCache.exceeds, h.total_cost]; rfl
  | count countLimit => rw [YYMemoryCache.exceeds, h.total_count]; rfl
  | age ageLimit now =>
      unfold YYMemoryCache.exceeds Trim.exceededBy
      rw [h.represents.linked.tail_eq, h.entries_eq, List.getLast?_map, List.getLast?_map]
      cases hlast : cells.getLast? with
      | none => rfl
      | some cell =>
          have hentry := h.represents.entry_eq cell (List.mem_of_getLast? hlast)
          simp [Memory.load_eq hentry]

/-- The first section of a trim gives the reply of the list. -/
theorem Stands.enter (h : Stands cache cells recency) (trim : Trim) :
    Answers (cache.enter trim) (recency.enter trim) := by
  unfold YYMemoryCache.enter Recency.enter
  split
  · exact ⟨_, _, rfl, h.remove_all_objects⟩
  · rw [h.exceeds]
    exact ⟨_, _, rfl, h⟩

/-- One turn of the loop of a trim gives the reply of the list. -/
theorem Stands.evict (h : Stands cache cells recency) (trim : Trim) :
    Answers (cache.evict trim) (recency.evict trim) := by
  unfold YYMemoryCache.evict Recency.evict
  simp only [h.exceeds, Option.bind_eq_bind, Option.bind_some]
  split
  · obtain ⟨after, cells', hremove, h'⟩ := h.remove_tail
    rw [hremove]
    exact ⟨_, _, rfl, h'⟩
  · exact ⟨_, _, rfl, h⟩

/-- A node that nobody holds a reference to any more is freed. -/
theorem Stands.release_node (h : Represents cache.lru cache.memory cells)
    (hentries : recency.entries = cells.map Prod.snd)
    (hreads : List.Forall₂ (ReadMatches cache.memory cells) cache.reads recency.reads)
    (howned : ∀ address, address ∈ cache.memory ↔ address = node ∨
      address ∈ cells.map Prod.fst ∨ address ∈ cache.held ∨ some address ∈ cache.reads) :
    Stands (cache.releaseNode node) cells recency := by
  unfold YYMemoryCache.releaseNode
  simp only [h.indexed.mem_values_iff]
  split
  · next hretained =>
      refine ⟨h, hentries, fun address => ?_, hreads⟩
      rw [howned]
      constructor
      · rintro (rfl | hmem)
        · exact hretained
        · exact hmem
      · exact .inr
  · next hreleased =>
      rw [not_or, not_or] at hreleased
      obtain ⟨hcells, hheld, hread⟩ := hreleased
      refine ⟨h.congr (fun address haddress => ?_), hentries, fun address => ?_, ?_⟩
      · exact AList.lookup_erase_ne (ne_of_mem_of_not_mem haddress hcells)
      · rw [AList.mem_erase, howned]
        constructor
        · rintro ⟨hne, rfl | hmem⟩
          · exact absurd rfl hne
          · exact hmem
        · intro hmem
          refine ⟨?_, .inr hmem⟩
          rintro rfl
          rcases hmem with hmem | hmem | hmem
          exacts [hcells hmem, hheld hmem, hread hmem]
      · have hothers : ∀ pointer ∈ cache.reads, pointer ≠ some node :=
          fun pointer hpointer heq => hread (heq ▸ hpointer)
        refine ((List.forall₂_and_left _ _).mpr ⟨hothers, hreads⟩).imp ?_
        rintro _ _ ⟨hne, hmatch⟩
        cases hmatch with
        | finished => exact .finished
        | pending hentry hkey hvalue hattached =>
            refine .pending ?_ hkey hvalue hattached
            rw [Memory.entry, AList.lookup_erase_ne (fun heq => hne (congrArg some heq))]
            exact hentry

/-- The value that is read is the one that the list has for the read. -/
theorem Stands.value (h : Stands cache cells recency) (read : Nat) :
    Answers (cache.value read) (recency.value read) := by
  have hread := forall₂_get_elem h.reads_match read
  unfold YYMemoryCache.value Recency.value
  generalize hpointer : cache.reads[read]? = pointer at hread ⊢
  generalize hpending : recency.reads[read]? = pending at hread ⊢
  cases hread with
  | none => exact ⟨_, _, rfl, h⟩
  | some hmatch =>
      cases hmatch with
      | finished => exact ⟨_, _, rfl, h⟩
      | @pending node entry read' hentry hkey hvalue hattached =>
          simp only [Memory.load_eq hentry, Option.bind_eq_bind, Option.bind_some, hvalue]
          refine ⟨_, cells, rfl, Stands.release_node h.represents h.entries_eq
            (forall₂_set h.reads_match read .finished) (fun address => ?_)⟩
          rw [h.owned, mem_set_of_get_elem hpointer (Option.some_ne_none address), Option.some_inj]
          tauto

/-- Releasing a reference to a removed node changes nothing for the list. -/
theorem Stands.release (h : Stands cache cells recency) (position : Nat) :
    Stands (cache.release position) cells recency := by
  unfold YYMemoryCache.release
  split
  · exact h
  · next node hnode =>
      refine Stands.release_node h.represents h.entries_eq h.reads_match (fun address => ?_)
      rw [h.owned, mem_erase_idx_of_get_elem hnode]
      tauto

end Sections

/-- The cache refines the list of entries. -/
theorem refines_recency (allocator : Allocator κ ν) :
    Refines (fun cache recency => ∃ cells, Stands cache cells recency)
      (YYMemoryCache.perform allocator) Recency.perform := by
  rintro cache recency sec ⟨cells, h⟩
  have of_answers : ∀ {result : Option (YYMemoryCache κ ν × Reply ν)}
      {spec : Recency κ ν × Reply ν}, Answers result spec →
      ∃ after, result = some (after, spec.2) ∧ ∃ cells, Stands after cells spec.1 := by
    rintro result spec ⟨after, cells, hresult, h⟩
    exact ⟨after, hresult, cells, h⟩
  cases sec with
  | containsObjectForKey key =>
      refine ⟨cache, ?_, cells, h⟩
      rw [YYMemoryCache.perform, h.is_some_lookup]
      rfl
  | objectForKey key now => exact of_answers (h.object_for_key key now)
  | value read => exact of_answers (h.value read)
  | setObject object key cost now costLimit countLimit =>
      exact of_answers (h.set_object allocator object key cost now costLimit countLimit)
  | removeObjectForKey key => exact of_answers (h.remove_object_for_key key)
  | removeAll => exact ⟨_, rfl, [], h.remove_all_objects⟩
  | totalCount => exact ⟨cache, by rw [YYMemoryCache.perform, h.total_count]; rfl, cells, h⟩
  | totalCost => exact ⟨cache, by rw [YYMemoryCache.perform, h.total_cost]; rfl, cells, h⟩
  | enter trim => exact of_answers (h.enter trim)
  | evict trim => exact of_answers (h.evict trim)
  | release position => exact ⟨_, rfl, cells, h.release position⟩

/-- A new cache stands for the empty list. -/
theorem Stands.init : Stands (YYMemoryCache.init : YYMemoryCache κ ν) [] ⟨[], []⟩ where
  represents := .nil _
  entries_eq := rfl
  owned := by simp [YYMemoryCache.init]
  reads_match := .nil

/-- After every run the cache and the list of entries match. -/
theorem matches_recency (allocator : Allocator κ ν) (events : List (Event κ ν)) :
    Matches (fun cache recency => ∃ cells, Stands cache cells recency)
      (cacheAfter allocator events) (recencyAfter events) :=
  (refines_recency allocator).run client .init ⟨[], Stands.init⟩ events

/-- In every run, whatever the threads and queues do and wherever new nodes are put, the cache never
follows `nil` or a pointer to a freed node, and all its sections have had the replies of the list of
entries. The map stands for the list, and the nodes that have not been freed are those of the map
and those that someone still holds a reference to. -/
theorem cache_run (allocator : Allocator κ ν) (events : List (Event κ ν)) :
    (cacheAfter allocator events).control = (recencyAfter events).1 ∧
      ∃ cache cells, (cacheAfter allocator events).object = some cache ∧
        Stands cache cells (recencyAfter events).2 := by
  obtain ⟨hcontrol, cache, hobject, cells, h⟩ := matches_recency allocator events
  exact ⟨hcontrol, cache, cells, hobject, h⟩

end Component.MemoryCache

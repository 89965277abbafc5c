import Component.Lib.LinkedList
import Component.MemoryCache.Model

/-!
# The linked map of the memory cache

`Represents` says what a `_YYLinkedMap` stands for: a list of nodes with their entries, the last
used one first. The dictionary finds each node by the key of its entry, and the totals are those of
the list. Each method of the map works on every map that stands for a list, which includes that it
never follows a bad pointer, and changes the list as its name says.
-/

namespace Component.MemoryCache

open Component.Lib.LinkedList

variable {κ ν : Type}

/-! ## Memory -/

namespace Memory

/-- A pointer of the node at an address. -/
def read (field : YYLinkedMapNode κ ν → Option Address) (memory : Memory κ ν)
    (address : Address) : Option Address :=
  (memory.lookup address).bind field

/-- The pointer in a node to the one before it. -/
def prev (memory : Memory κ ν) : Address → Option Address := memory.read (fun node => node.prev)

/-- The pointer in a node to the one after it. -/
def next (memory : Memory κ ν) : Address → Option Address := memory.read (fun node => node.next)

/-- What a node holds. -/
def entry (memory : Memory κ ν) (address : Address) : Option (Entry κ ν) :=
  (memory.lookup address).map (fun node => node.toEntry)

variable {memory : Memory κ ν} {address : Address}

/-- An address is in use if its node holds something. -/
theorem mem_iff_entry : address ∈ memory ↔ ∃ entry, memory.entry address = some entry := by
  rw [← AList.lookup_isSome, Option.isSome_iff_exists]
  unfold entry
  simp

/-- A node that holds something can be read. -/
theorem load_eq {entry : Entry κ ν} (h : memory.entry address = some entry) :
    memory.load (some address) = some ⟨entry, memory.prev address, memory.next address⟩ := by
  obtain ⟨node, hnode, rfl⟩ := Option.map_eq_some_iff.mp h
  simp [load, prev, next, read, hnode]

/-- A node that is put at an address changes the pointers of this address only. -/
theorem read_insert (field : YYLinkedMapNode κ ν → Option Address) (memory : Memory κ ν)
    (address : Address) (node : YYLinkedMapNode κ ν) :
    read field (memory.insert address node) =
      Function.update (read field memory) address (field node) := by
  funext other
  by_cases h : other = address
  · subst h
    simp [read]
  · simp [read, h]

/-- A node that is put at an address changes the entry of this address only. -/
theorem entry_insert (memory : Memory κ ν) (address : Address) (node : YYLinkedMapNode κ ν) :
    (entry (memory.insert address node)) =
      Function.update memory.entry address (some node.toEntry) := by
  funext other
  by_cases h : other = address
  · subst h
    simp [entry]
  · simp [entry, h]

/-- A node that is written keeps what is not written, and so do the other nodes. -/
theorem store_eq {entry : Entry κ ν} (h : memory.entry address = some entry)
    (change : YYLinkedMapNode κ ν → YYLinkedMapNode κ ν) :
    let node := change ⟨entry, memory.prev address, memory.next address⟩
    ∃ after, memory.store (some address) change = some after ∧
      after.prev = Function.update memory.prev address node.prev ∧
      after.next = Function.update memory.next address node.next ∧
      after.entry = Function.update memory.entry address (some node.toEntry) := by
  obtain ⟨found, hfound, rfl⟩ := Option.map_eq_some_iff.mp h
  refine ⟨_, ?_, read_insert .., read_insert .., entry_insert ..⟩
  simp [store, prev, next, read, hfound]

/-- The pointer to the next node is written. -/
theorem store_next {entry : Entry κ ν} (h : memory.entry address = some entry)
    (pointer : Option Address) :
    ∃ after, memory.store (some address) (fun fields => { fields with next := pointer }) =
        some after ∧ after.prev = memory.prev ∧
      after.next = Function.update memory.next address pointer ∧ after.entry = memory.entry := by
  simpa [← h] using store_eq h (fun fields => { fields with next := pointer })

/-- The pointer to the node before it is written. -/
theorem store_prev {entry : Entry κ ν} (h : memory.entry address = some entry)
    (pointer : Option Address) :
    ∃ after, memory.store (some address) (fun fields => { fields with prev := pointer }) =
        some after ∧ after.prev = Function.update memory.prev address pointer ∧
      after.next = memory.next ∧ after.entry = memory.entry := by
  simpa [← h] using store_eq h (fun fields => { fields with prev := pointer })

/-- Fields besides the pointers are written. -/
theorem store_entry {entry : Entry κ ν} (h : memory.entry address = some entry)
    (change : YYLinkedMapNode κ ν → YYLinkedMapNode κ ν)
    (hprev : ∀ node, (change node).prev = node.prev)
    (hnext : ∀ node, (change node).next = node.next) :
    ∃ after, memory.store (some address) change = some after ∧ after.prev = memory.prev ∧
      after.next = memory.next ∧ after.entry = Function.update memory.entry address
        (some (change ⟨entry, memory.prev address, memory.next address⟩).toEntry) := by
  simpa [hprev, hnext] using store_eq h change

/-- A node is written if the pointer to it is not `nil`. -/
theorem store_unless_nil {pointer : Option Address}
    (h : ∀ address, pointer = some address → ∃ entry, memory.entry address = some entry)
    {change : YYLinkedMapNode κ ν → YYLinkedMapNode κ ν} {post : Memory κ ν → Prop}
    (hnil : pointer = none → post memory)
    (hstore : ∀ address entry, pointer = some address → memory.entry address = some entry →
      ∃ after, memory.store (some address) change = some after ∧ post after) :
    ∃ after, memory.storeUnlessNil pointer change = some after ∧ post after := by
  cases pointer with
  | none => exact ⟨memory, rfl, hnil rfl⟩
  | some address =>
      obtain ⟨entry, hentry⟩ := h address rfl
      exact hstore address entry rfl hentry

end Memory

/-! ## Dictionary and totals -/

/-- A node with its entry. -/
abbrev Cell (κ ν : Type) := Address × Entry κ ν

/-- The dictionary is only replaced if it is not empty, which makes no difference. -/
theorem YYLinkedMap.remove_all_eq (map : YYLinkedMap κ) :
    map.removeAll = (init, map.dic.entries.map (fun entry => entry.2)) := by
  unfold removeAll
  split
  · rfl
  · next hlength =>
      have hentries : map.dic.entries = [] := by simpa using hlength
      have hdic : map.dic = ∅ := AList.ext hentries
      rw [hdic]
      rfl

variable [DecidableEq κ]

/-- The dictionary and the totals are those of a list. -/
structure Indexed (dic : AList (fun _ : κ => Address)) (totalCost totalCount : NSUInteger)
    (cells : List (Cell κ ν)) : Prop where
  keys : (cells.map (fun cell => cell.2.key)).Nodup
  dic_eq : ∀ key address, dic.lookup key = some address ↔
    ∃ cell ∈ cells, cell.1 = address ∧ cell.2.key = key
  cost_eq : totalCost = (cells.map (fun cell => cell.2.cost)).sum
  count_eq : totalCount = UInt64.ofNat cells.length

section Indexed

variable {dic : AList (fun _ : κ => Address)} {totalCost totalCount : NSUInteger}
  {cells other : List (Cell κ ν)} {node : Address} {entry : Entry κ ν}

/-- The empty dictionary has no cells. -/
theorem Indexed.nil : Indexed ∅ 0 0 ([] : List (Cell κ ν)) where
  keys := List.nodup_nil
  dic_eq := by simp
  cost_eq := rfl
  count_eq := rfl

/-- The order does not matter. -/
theorem Indexed.perm (h : Indexed dic totalCost totalCount cells) (hperm : cells.Perm other) :
    Indexed dic totalCost totalCount other where
  keys := (hperm.map _).nodup_iff.mp h.keys
  dic_eq := by simpa only [hperm.mem_iff] using h.dic_eq
  cost_eq := h.cost_eq.trans (hperm.map _).sum_eq
  count_eq := hperm.length_eq ▸ h.count_eq

/-- A cell with a new key may be added. -/
theorem Indexed.insert (h : Indexed dic totalCost totalCount cells)
    (hkey : ∀ cell ∈ cells, cell.2.key ≠ entry.key) :
    Indexed (dic.insert entry.key node) (totalCost + entry.cost) (totalCount + 1)
      ((node, entry) :: cells) where
  keys := by
    refine List.nodup_cons.mpr ⟨fun hmem => ?_, h.keys⟩
    obtain ⟨cell, hcell, heq⟩ := List.mem_map.mp hmem
    exact hkey cell hcell heq
  dic_eq := by
    intro key address
    by_cases hsame : key = entry.key
    · subst hsame
      rw [AList.lookup_insert, Option.some_inj]
      constructor
      · rintro rfl
        exact ⟨(node, entry), List.mem_cons_self, rfl, rfl⟩
      · rintro ⟨cell, hcell, rfl, heq⟩
        rcases List.mem_cons.mp hcell with rfl | hcell
        · rfl
        · exact absurd heq (hkey cell hcell)
    · rw [AList.lookup_insert_ne hsame, h.dic_eq]
      simp [Ne.symm hsame]
  cost_eq := by
    rw [h.cost_eq, List.map_cons, List.sum_cons]
    exact add_comm ..
  count_eq := by
    rw [h.count_eq, List.length_cons, UInt64.ofNat_add]
    rfl

/-- A cell may be removed together with its key and its cost. -/
theorem Indexed.erase (h : Indexed dic totalCost totalCount ((node, entry) :: cells)) :
    Indexed (dic.erase entry.key) (totalCost - entry.cost) (totalCount - 1) cells where
  keys := (List.nodup_cons.mp h.keys).2
  dic_eq := by
    intro key address
    have hkey : ∀ cell ∈ cells, cell.2.key ≠ entry.key := fun cell hcell heq =>
      (List.nodup_cons.mp h.keys).1 (List.mem_map.mpr ⟨cell, hcell, heq⟩)
    by_cases hsame : key = entry.key
    · subst hsame
      rw [AList.lookup_erase]
      simpa using fun cell hcell => hkey (address, cell) hcell
    · rw [AList.lookup_erase_ne hsame, h.dic_eq]
      simp [Ne.symm hsame]
  cost_eq := by
    rw [h.cost_eq, List.map_cons, List.sum_cons]
    exact add_sub_cancel_left ..
  count_eq := by
    rw [h.count_eq, List.length_cons, UInt64.ofNat_add]
    exact add_sub_cancel_right ..

/-- An entry is replaced by one with the same key. -/
theorem Indexed.replace (h : Indexed dic totalCost totalCount ((node, entry) :: cells))
    {new : Entry κ ν} (hkey : new.key = entry.key) :
    Indexed dic (totalCost - entry.cost + new.cost) totalCount ((node, new) :: cells) where
  keys := by simpa [hkey] using h.keys
  dic_eq := by simpa [hkey] using h.dic_eq
  cost_eq := by
    rw [h.erase.cost_eq, List.map_cons, List.sum_cons]
    exact add_comm ..
  count_eq := h.count_eq

/-- The dictionary finds a node by the key of its entry. -/
theorem Indexed.lookup (h : Indexed dic totalCost totalCount cells) {cell : Cell κ ν}
    (hcell : cell ∈ cells) : dic.lookup cell.2.key = some cell.1 :=
  (h.dic_eq _ _).mpr ⟨cell, hcell, rfl, rfl⟩

/-- A key is missing just when no cell has it. -/
theorem Indexed.lookup_eq_none_iff (h : Indexed dic totalCost totalCount cells) {key : κ} :
    dic.lookup key = none ↔ ∀ cell ∈ cells, cell.2.key ≠ key := by
  rw [Option.eq_none_iff_forall_ne_some]
  simp only [Ne, h.dic_eq]
  constructor
  · exact fun hnone cell hcell hkey => hnone cell.1 ⟨cell, hcell, rfl, hkey⟩
  · rintro hnone address ⟨cell, hcell, -, hkey⟩
    exact hnone cell hcell hkey

/-- The dictionary retains the nodes of the list. -/
theorem Indexed.mem_values_iff (h : Indexed dic totalCost totalCount cells) {address : Address} :
    address ∈ dic.entries.map (fun entry => entry.2) ↔ address ∈ cells.map Prod.fst := by
  simp only [List.mem_map]
  constructor
  · rintro ⟨⟨key, address⟩, hentry, rfl⟩
    obtain ⟨cell, hcell, haddress, -⟩ :=
      (h.dic_eq key address).mp (AList.mem_lookup_iff.mpr hentry)
    exact ⟨cell, hcell, haddress⟩
  · rintro ⟨cell, hcell, rfl⟩
    exact ⟨⟨cell.2.key, cell.1⟩, AList.mem_lookup_iff.mp (h.lookup hcell), rfl⟩

/-- The dictionary has as many keys as the list. -/
theorem Indexed.length_keys (h : Indexed dic totalCost totalCount cells) :
    dic.keys.length = cells.length := by
  have hperm : dic.keys.Perm (cells.map (fun cell => cell.2.key)) := by
    refine (List.perm_ext_iff_of_nodup dic.keys_nodup h.keys).mpr (fun key => ?_)
    rw [← AList.mem_keys, ← AList.lookup_isSome, Option.isSome_iff_exists]
    simp only [h.dic_eq, List.mem_map]
    constructor
    · rintro ⟨_, cell, hcell, _, hkey⟩
      exact ⟨cell, hcell, hkey⟩
    · rintro ⟨cell, hcell, hkey⟩
      exact ⟨cell.1, cell, hcell, rfl, hkey⟩
  rw [hperm.length_eq, List.length_map]

end Indexed

/-! ## The map -/

/-- A map stands for a list of nodes with their entries, the last used one first. -/
structure Represents (map : YYLinkedMap κ) (memory : Memory κ ν) (cells : List (Cell κ ν)) :
    Prop where
  linked : Linked memory.prev memory.next map.head map.tail (cells.map Prod.fst)
  entry_eq : ∀ cell ∈ cells, memory.entry cell.1 = some cell.2
  indexed : Indexed map.dic map.totalCost map.totalCount cells

section Represents

variable {map : YYLinkedMap κ} {memory : Memory κ ν} {cells before after : List (Cell κ ν)}
  {node : Address} {entry : Entry κ ν}

/-- The nodes of a map can be written and read. -/
theorem Represents.live (h : Represents map memory cells) {address : Address}
    (haddress : address ∈ cells.map Prod.fst) :
    ∃ entry, memory.entry address = some entry := by
  obtain ⟨cell, hcell, rfl⟩ := List.mem_map.mp haddress
  exact ⟨cell.2, h.entry_eq cell hcell⟩

/-- Nodes outside of the map do not matter. -/
theorem Represents.congr (h : Represents map memory cells) {memory' : Memory κ ν}
    (hsame : ∀ address ∈ cells.map Prod.fst, memory'.lookup address = memory.lookup address) :
    Represents map memory' cells where
  linked := h.linked.congr
    (fun address haddress => by rw [Memory.prev, Memory.read, hsame address haddress]; rfl)
    (fun address haddress => by rw [Memory.next, Memory.read, hsame address haddress]; rfl)
  entry_eq := by
    intro cell hcell
    rw [Memory.entry, hsame cell.1 (List.mem_map_of_mem hcell)]
    exact h.entry_eq cell hcell
  indexed := h.indexed

/-- A new map has no cells. -/
theorem Represents.nil (memory : Memory κ ν) : Represents YYLinkedMap.init memory [] where
  linked := .nil ..
  entry_eq := by simp
  indexed := .nil

/-- Inserting a node puts its cell in front. -/
theorem Represents.insert_node_at_head (h : Represents map memory cells)
    (hentry : memory.entry node = some entry) (hprev : memory.prev node = none)
    (hnext : memory.next node = none) (hnode : node ∉ cells.map Prod.fst)
    (hkey : ∀ cell ∈ cells, cell.2.key ≠ entry.key) :
    ∃ map' memory', map.insertNodeAtHead memory node = some (map', memory') ∧
      Represents map' memory' ((node, entry) :: cells) ∧ memory'.entry = memory.entry := by
  have hcells : ∀ cell ∈ (node, entry) :: cells, memory.entry cell.1 = some cell.2 :=
    List.forall_mem_cons.mpr ⟨hentry, h.entry_eq⟩
  have hindexed : Indexed (map.dic.insert entry.key node) (map.totalCost + entry.cost)
      (map.totalCount + 1) ((node, entry) :: cells) := h.indexed.insert hkey
  unfold YYLinkedMap.insertNodeAtHead
  simp only [Memory.load_eq hentry, Option.bind_eq_bind, Option.bind_some]
  split
  · next head hhead =>
      have hheadmem := h.linked.head_mem hhead
      obtain ⟨first, hfirst⟩ := h.live hheadmem
      obtain ⟨memory₁, hstore₁, hprev₁, hnext₁, hentry₁⟩ := Memory.store_next hentry (some head)
      rw [← hentry₁] at hfirst
      obtain ⟨memory₂, hstore₂, hprev₂, hnext₂, hentry₂⟩ := Memory.store_prev hfirst (some node)
      rw [hprev₁] at hprev₂
      rw [hnext₁] at hnext₂
      rw [hentry₁] at hentry₂
      simp only [hstore₁, hstore₂, Option.bind_some]
      refine ⟨_, _, rfl, ⟨?_, by rwa [hentry₂], hindexed⟩, hentry₂⟩
      have hne : node ≠ head := fun heq => hnode (heq ▸ hheadmem)
      rw [hprev₂, hnext₂, ← h.linked.tail_or hhead (some node)]
      refine h.linked.push hnode (fun other hother => ?_) (fun other hother => ?_) ?_ ?_
      · rw [hhead, redirect_some]
      · exact Function.update_of_ne (ne_of_mem_of_not_mem hother hnode) ..
      · rw [Function.update_of_ne hne, hprev]
      · rw [Function.update_self, hhead]
  · next hhead =>
      refine ⟨_, _, rfl, ⟨?_, hcells, hindexed⟩, rfl⟩
      have hempty : cells.map Prod.fst = [] :=
        List.head?_eq_none_iff.mp (h.linked.head_eq ▸ hhead)
      have htail : map.tail = none := by rw [h.linked.tail_eq, hempty]; rfl
      have hpush : Linked memory.prev memory.next (some node) (map.tail.or (some node))
          (node :: cells.map Prod.fst) :=
        h.linked.push hnode (by simp [hempty]) (fun _ _ => rfl) hprev (hnext.trans hhead.symm)
      rwa [htail] at hpush

/-- A node of the map is not among the other ones. -/
theorem Represents.not_mem_others (h : Represents map memory (before ++ (node, entry) :: after)) :
    node ∉ (before ++ after).map Prod.fst := by
  have hnodup := h.linked.nodup
  rw [List.map_append, List.map_cons, List.nodup_middle, ← List.map_append] at hnodup
  exact (List.nodup_cons.mp hnodup).1

/-- The neighbours of a node are other nodes, and they can be written and read. -/
theorem Represents.neighbour (h : Represents map memory (before ++ (node, entry) :: after))
    {other : Address} (hother : memory.prev node = some other ∨ memory.next node = some other) :
    other ≠ node ∧ ∃ entry, memory.entry other = some entry := by
  have hlinked := h.linked
  rw [List.map_append, List.map_cons] at hlinked
  have hmem := hlinked.neighbours hother
  rw [← List.map_append] at hmem
  refine ⟨ne_of_mem_of_not_mem hmem h.not_mem_others, h.live (List.map_subset _ ?_ hmem)⟩
  simp

/-- The list without a node. -/
theorem Represents.unlinked (h : Represents map memory (before ++ (node, entry) :: after)) :
    Linked (redirect memory.prev (memory.next node) (memory.prev node))
      (redirect memory.next (memory.prev node) (memory.next node))
      (if map.head = some node then memory.next node else map.head)
      (if map.tail = some node then memory.prev node else map.tail)
      ((before ++ after).map Prod.fst) := by
  have hlinked := h.linked
  rw [List.map_append, List.map_cons] at hlinked
  rw [List.map_append]
  exact hlinked.unlink

/-- Unlinking a node that is not the head links its neighbours to each other. -/
theorem Represents.unlink_node (h : Represents map memory (before ++ (node, entry) :: after))
    (hhead : map.head ≠ some node) :
    ∃ tail memory', map.unlinkNode memory node = some (tail, memory') ∧
      Linked memory'.prev memory'.next map.head tail ((before ++ after).map Prod.fst) ∧
      memory'.entry = memory.entry := by
  have hunlinked := h.unlinked
  have hentry : memory.entry node = some entry := h.entry_eq (node, entry) (by simp)
  have hlinked := h.linked
  rw [List.map_append, List.map_cons] at hlinked
  rw [if_neg hhead] at hunlinked
  obtain ⟨prev, hprev⟩ := Option.ne_none_iff_exists'.mp (mt hlinked.prev_eq_none_iff.mp hhead)
  obtain ⟨-, prevEntry, hprevEntry⟩ := h.neighbour (.inl hprev)
  unfold YYLinkedMap.unlinkNode
  simp only [Memory.load_eq hentry, Option.bind_eq_bind, Option.bind_some]
  split
  · next htail =>
      have hnext := hlinked.next_eq_none_iff.mpr htail
      obtain ⟨memory₁, hstore₁, hprev₁, hnext₁, hentry₁⟩ := Memory.store_next hprevEntry none
      rw [hprev, hstore₁]
      refine ⟨_, _, rfl, ?_, hentry₁⟩
      rw [if_pos htail, hnext, hprev, redirect_none, redirect_some] at hunlinked
      rwa [hprev₁, hnext₁]
  · next htail =>
      obtain ⟨next, hnext⟩ := Option.ne_none_iff_exists'.mp (mt hlinked.next_eq_none_iff.mp htail)
      obtain ⟨hne, nextEntry, hnextEntry⟩ := h.neighbour (.inr hnext)
      obtain ⟨memory₁, hstore₁, hprev₁, hnext₁, hentry₁⟩ :=
        Memory.store_prev hnextEntry (memory.prev node)
      rw [← hentry₁] at hentry hprevEntry
      have hnode : memory₁.prev node = some prev := by
        rw [hprev₁, Function.update_of_ne hne.symm, hprev]
      obtain ⟨memory₂, hstore₂, hprev₂, hnext₂, hentry₂⟩ :=
        Memory.store_next hprevEntry (memory₁.next node)
      simp only [hnext, hstore₁, Memory.load_eq hentry, Option.bind_some, hnode, hstore₂]
      refine ⟨_, _, rfl, ?_, hentry₂.trans hentry₁⟩
      rw [if_neg htail] at hunlinked
      rw [hprev₂, hnext₂, hnext₁, hprev₁, ← redirect_some, ← redirect_some, ← hnext, ← hprev]
      exact hunlinked

/-- Bringing a node to the head moves its cell to the front. -/
theorem Represents.bring_node_to_head
    (h : Represents map memory (before ++ (node, entry) :: after)) :
    ∃ map' memory', map.bringNodeToHead memory node = some (map', memory') ∧
      Represents map' memory' ((node, entry) :: (before ++ after)) ∧
      memory'.entry = memory.entry := by
  have hnode := h.not_mem_others
  have hentry : memory.entry node = some entry := h.entry_eq (node, entry) (by simp)
  have hcells : ∀ cell ∈ (node, entry) :: (before ++ after), memory.entry cell.1 = some cell.2 :=
    fun cell hcell => h.entry_eq cell (List.perm_middle.mem_iff.mpr hcell)
  have hindexed := h.indexed.perm List.perm_middle
  unfold YYLinkedMap.bringNodeToHead
  split
  · next hhead =>
      -- the node is the first one already
      have hbefore : before = [] := by
        have hlinked := h.linked
        rw [List.map_append, List.map_cons] at hlinked
        have hnone := hlinked.prev_eq_none_iff.mpr hhead
        rw [(hlinked.links _ _ _ rfl).1] at hnone
        simpa using hnone
      subst hbefore
      exact ⟨map, memory, rfl, h, rfl⟩
  · next hhead =>
      obtain ⟨tail, memory₁, hunlink, hlinked₁, hentry₁⟩ := h.unlink_node hhead
      obtain ⟨first, hfirst⟩ : ∃ first, map.head = some first := by
        cases hmap : map.head with
        | none =>
            have hempty := h.linked.head_eq.symm.trans hmap
            simp at hempty
        | some first => exact ⟨first, rfl⟩
      have hfirstmem := hlinked₁.head_mem hfirst
      have hne : first ≠ node := ne_of_mem_of_not_mem hfirstmem hnode
      obtain ⟨firstEntry, hfirstEntry⟩ : ∃ entry, memory.entry first = some entry :=
        h.live (List.map_subset _ (by simp) hfirstmem)
      rw [← hentry₁] at hentry hfirstEntry
      obtain ⟨memory₂, hstore₂, hprev₂, hnext₂, hentry₂⟩ := Memory.store_next hentry (some first)
      rw [← hentry₂] at hentry hfirstEntry
      obtain ⟨memory₃, hstore₃, hprev₃, hnext₃, hentry₃⟩ := Memory.store_prev hentry none
      rw [← hentry₃] at hfirstEntry
      obtain ⟨memory₄, hstore₄, hprev₄, hnext₄, hentry₄⟩ :=
        Memory.store_prev hfirstEntry (some node)
      have hentries : memory₄.entry = memory.entry := by rw [hentry₄, hentry₃, hentry₂, hentry₁]
      simp only [hunlink, hfirst, Option.bind_eq_bind, Option.bind_some, hstore₂, hstore₃, hstore₄]
      refine ⟨_, _, rfl, ⟨?_, by rwa [hentries], hindexed⟩, hentries⟩
      rw [← hlinked₁.tail_or hfirst (some node), hprev₄, hnext₄, hprev₃, hnext₃, hprev₂, hnext₂]
      refine hlinked₁.push hnode (fun other hother => ?_) (fun other hother => ?_) ?_ ?_
      · have hother' : other ≠ node := ne_of_mem_of_not_mem hother hnode
        rw [hfirst, redirect_some]
        simp [Function.update_apply, hother']
      · exact Function.update_of_ne (ne_of_mem_of_not_mem hother hnode) ..
      · rw [Function.update_of_ne hne.symm, Function.update_self]
      · rw [Function.update_self, hfirst]

/-- Removing a node takes its cell out. -/
theorem Represents.remove_node (h : Represents map memory (before ++ (node, entry) :: after)) :
    ∃ map' memory', map.removeNode memory node = some (map', memory') ∧
      Represents map' memory' (before ++ after) ∧ memory'.entry = memory.entry := by
  have hentry : memory.entry node = some entry := h.entry_eq (node, entry) (by simp)
  have hindexed := (h.indexed.perm List.perm_middle).erase
  have hnextlive : ∀ other, memory.next node = some other →
      other ≠ node ∧ ∃ entry, memory.entry other = some entry :=
    fun other hother => h.neighbour (.inr hother)
  have hprevlive : ∀ other, memory.prev node = some other →
      other ≠ node ∧ ∃ entry, memory.entry other = some entry :=
    fun other hother => h.neighbour (.inl hother)
  -- the pointer in the node after it is written, and then the one in the node before it
  obtain ⟨memory₁, hstore₁, hprev₁, hnext₁, hentry₁⟩ : ∃ after,
      memory.storeUnlessNil (memory.next node)
        (fun fields => { fields with prev := memory.prev node }) = some after ∧
      after.prev = redirect memory.prev (memory.next node) (memory.prev node) ∧
      after.next = memory.next ∧ after.entry = memory.entry := by
    refine Memory.store_unless_nil (fun other hother => (hnextlive other hother).2) ?_ ?_
    · intro hnil
      rw [hnil, redirect_none]
      exact ⟨rfl, rfl, rfl⟩
    · intro other entry hother hentry
      rw [hother, redirect_some]
      exact Memory.store_prev hentry _
  have hnodeprev : memory₁.prev node = memory.prev node := by
    rw [hprev₁]
    exact if_neg (fun hother => (hnextlive node hother).1 rfl)
  rw [← hentry₁] at hprevlive
  obtain ⟨memory₂, hstore₂, hprev₂, hnext₂, hentry₂⟩ : ∃ after,
      memory₁.storeUnlessNil (memory.prev node)
        (fun fields => { fields with next := memory.next node }) = some after ∧
      after.prev = memory₁.prev ∧
      after.next = redirect memory₁.next (memory.prev node) (memory.next node) ∧
      after.entry = memory₁.entry := by
    refine Memory.store_unless_nil (fun other hother => (hprevlive other hother).2) ?_ ?_
    · intro hnil
      rw [hnil, redirect_none]
      exact ⟨rfl, rfl, rfl⟩
    · intro other entry hother hentry
      rw [hother, redirect_some]
      exact Memory.store_next hentry _
  have hentries : memory₂.entry = memory.entry := hentry₂.trans hentry₁
  have hnodenext : memory₂.next node = memory.next node := by
    rw [hnext₂, hnext₁]
    exact if_neg (fun hother => (hprevlive node hother).1 rfl)
  have hload₁ : memory₁.load (some node) =
      some ⟨entry, memory.prev node, memory.next node⟩ := by
    rw [Memory.load_eq (hentry₁ ▸ hentry), hnodeprev, hnext₁]
  have hload₂ : memory₂.load (some node) =
      some ⟨entry, memory.prev node, memory.next node⟩ := by
    rw [Memory.load_eq (hentries ▸ hentry), hprev₂, hnodeprev, hnodenext]
  unfold YYLinkedMap.removeNode
  simp only [Memory.load_eq hentry, Option.bind_eq_bind, Option.bind_some, hstore₁, hload₁,
    hstore₂, hload₂]
  refine ⟨_, _, rfl, ⟨?_, fun cell hcell => ?_, hindexed⟩, hentries⟩
  · rw [hprev₂, hprev₁, hnext₂, hnext₁]
    exact h.unlinked
  · rw [hentries]
    exact h.entry_eq cell (List.perm_middle.mem_iff.mpr (List.mem_cons_of_mem _ hcell))

/-- An empty map has no tail to remove. -/
theorem Represents.remove_tail_node_nil (h : Represents map memory []) :
    map.removeTailNode memory = some (none, map, memory) := by
  have htail : map.tail = none := h.linked.tail_eq
  simp only [YYLinkedMap.removeTailNode, htail]

/-- Removing the tail takes the last cell out. -/
theorem Represents.remove_tail_node (h : Represents map memory (before ++ [(node, entry)])) :
    ∃ map' memory', map.removeTailNode memory = some (some node, map', memory') ∧
      Represents map' memory' before ∧ memory'.entry = memory.entry := by
  have hentry : memory.entry node = some entry := h.entry_eq (node, entry) (by simp)
  have hindexed := (h.indexed.perm List.perm_middle).erase
  rw [List.append_nil] at hindexed
  have hcells : ∀ cell ∈ before, memory.entry cell.1 = some cell.2 :=
    fun cell hcell => h.entry_eq cell (List.mem_append_left _ hcell)
  have hlinked := h.linked
  rw [List.map_append, List.map_cons] at hlinked
  have hunlinked := h.unlinked
  rw [List.append_nil] at hunlinked
  have htail : map.tail = some node := by rw [hlinked.tail_eq]; simp
  have hnext := hlinked.next_eq_none_iff.mpr htail
  rw [if_pos htail, hnext, redirect_none] at hunlinked
  unfold YYLinkedMap.removeTailNode
  simp only [htail, Memory.load_eq hentry, Option.bind_eq_bind, Option.bind_some]
  split
  · next hhead =>
      have hprev := hlinked.prev_eq_none_iff.mpr hhead
      rw [if_pos hhead, hprev, redirect_none] at hunlinked
      exact ⟨_, _, rfl, ⟨hunlinked, hcells, hindexed⟩, rfl⟩
  · next hhead =>
      obtain ⟨prev, hprev⟩ := Option.ne_none_iff_exists'.mp (mt hlinked.prev_eq_none_iff.mp hhead)
      obtain ⟨-, prevEntry, hprevEntry⟩ := h.neighbour (.inl hprev)
      obtain ⟨memory₁, hstore₁, hprev₁, hnext₁, hentry₁⟩ := Memory.store_next hprevEntry none
      simp only [hprev, hstore₁, Option.bind_some]
      refine ⟨_, _, rfl, ⟨?_, by rwa [hentry₁], hindexed⟩, hentry₁⟩
      rw [if_neg hhead, hprev, redirect_some] at hunlinked
      rwa [hprev₁, hnext₁]

/-- The entry of a node is written, with the same key. -/
theorem Represents.replace (h : Represents map memory (before ++ (node, entry) :: after))
    {new : Entry κ ν} (hkey : new.key = entry.key) {memory' : Memory κ ν}
    (hprev : memory'.prev = memory.prev) (hnext : memory'.next = memory.next)
    (hentry : memory'.entry = Function.update memory.entry node (some new)) :
    Represents { map with totalCost := map.totalCost - entry.cost + new.cost } memory'
      (before ++ (node, new) :: after) where
  linked := by
    rw [hprev, hnext, List.map_append, List.map_cons]
    have hlinked := h.linked
    rwa [List.map_append, List.map_cons] at hlinked
  entry_eq := by
    intro cell hcell
    rw [hentry]
    rcases List.mem_cons.mp (List.perm_middle.mem_iff.mp hcell) with rfl | hmem
    · exact Function.update_self ..
    · rw [Function.update_of_ne
        (ne_of_mem_of_not_mem (List.mem_map_of_mem hmem) h.not_mem_others)]
      exact h.entry_eq cell (List.perm_middle.mem_iff.mpr (List.mem_cons_of_mem _ hmem))
  indexed := ((h.indexed.perm List.perm_middle).replace hkey).perm List.perm_middle.symm

end Represents

end Component.MemoryCache

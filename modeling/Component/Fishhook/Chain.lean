import Component.Fishhook.Rebinding

/-!
# What a replacement finds in its variable

A replacement calls the function that it has replaced through the variable of its rebinding. For
this to end, the variables must not lead round in a circle. `replaced_chain` says that a variable
that has been written holds a pointer as the linker had bound it or a replacement that has been
registered by an earlier call, and never the replacement that it belongs to. It is assumed that no
two rebindings share a variable, that the variables hold zero before the call, and that
`rebind_symbols_image` is not called. An image that is loaded later makes the variable of the newest
replacement point past the replacements between.
-/

namespace Component.Fishhook

open Component.Lib.Cells Component.Lib.Run

section Chain

variable (linkEdit : LinkEdit) (images : List (Image × List (Address × Address)))

/-- What the variable of a rebinding may hold, where `older` has been registered before it: zero if
it has not been written, and otherwise something else than the replacement of the rebinding, namely
what the linker had bound a pointer for the symbol to or an older replacement for the symbol. -/
def Linked (older : RebindingsEntry) (rebinding : Rebinding) (pointer : Address) : Prop :=
  pointer = 0 ∨ pointer ≠ rebinding.replacement ∧
    ((∃ loaded ∈ images, ∃ slot ∈ loaded.1.slots linkEdit,
      rebinding.matchesSymbol slot.symbolName = true ∧
        pointer = originalBinding loaded.2 slot.address) ∨
    ∃ earlier ∈ older.flatten, earlier.name = rebinding.name ∧ pointer = earlier.replacement)

/-- Every variable leads to older replacements or out of the list. -/
def Chained (memory : Memory) : RebindingsEntry → Prop
  | [] => True
  | entry :: older =>
      (∀ rebinding ∈ entry, ∀ replaced ∈ rebinding.replaced,
        Linked linkEdit images older rebinding (memory replaced)) ∧ Chained memory older

variable {linkEdit images}

/-- A chain stays linked when more images are loaded. -/
theorem Linked.mono {images' : List (Image × List (Address × Address))}
    (himages : ∀ loaded ∈ images, loaded ∈ images') {older : RebindingsEntry}
    {rebinding : Rebinding} {pointer : Address}
    (h : Linked linkEdit images older rebinding pointer) :
    Linked linkEdit images' older rebinding pointer := by
  rcases h with h | ⟨hother, ⟨loaded, hloaded, h⟩ | h⟩
  · exact .inl h
  · exact .inr ⟨hother, .inl ⟨loaded, himages loaded hloaded, h⟩⟩
  · exact .inr ⟨hother, .inr h⟩

/-- The chain depends on the variables only. -/
theorem Chained.congr {memory memory' : Memory}
    {images' : List (Image × List (Address × Address))}
    (himages : ∀ loaded ∈ images, loaded ∈ images') {rebindings : RebindingsEntry}
    (hmemory : ∀ address ∈ replacedVariables rebindings, memory' address = memory address)
    (h : Chained linkEdit images memory rebindings) :
    Chained linkEdit images' memory' rebindings := by
  induction rebindings with
  | nil => trivial
  | cons entry older ih =>
      rw [replaced_variables_cons] at hmemory
      refine ⟨fun rebinding hmem replaced hreplaced => ?_,
        ih (fun address haddress => hmemory address (List.mem_append_right _ haddress)) h.2⟩
      have hvariable : replaced ∈ replacedVariables [entry] :=
        List.mem_filterMap.mpr ⟨rebinding, by simpa using hmem, hreplaced⟩
      rw [hmemory replaced (List.mem_append_left _ hvariable)]
      exact (h.1 rebinding hmem replaced hreplaced).mono himages

/-- Two rebindings that match a symbol have the same name. -/
theorem name_eq_of_matches {symbolName : CString} {rebinding other : Rebinding}
    (h : rebinding.matchesSymbol symbolName = true)
    (hother : other.matchesSymbol symbolName = true) : rebinding.name = other.name := by
  unfold Rebinding.matchesSymbol at h hother
  split at h
  next second rest =>
    exact (beq_iff_eq.mp h).symm.trans (beq_iff_eq.mp hother)
  · cases h

/-- Only one rebinding has a given variable. -/
theorem eq_of_same_variable {rebindings : List Rebinding}
    (hdistinct : (rebindings.filterMap Rebinding.replaced).Nodup) {rebinding other : Rebinding}
    (h : rebinding ∈ rebindings) (hother : other ∈ rebindings) {replaced : Address}
    (hreplaced : rebinding.replaced = some replaced)
    (hreplaced' : other.replaced = some replaced) : rebinding = other := by
  by_contra hne
  rw [List.Nodup, List.pairwise_filterMap] at hdistinct
  have hsymm : Std.Symm fun first second : Rebinding => ∀ address, first.replaced = some address →
      ∀ address', second.replaced = some address' → address ≠ address' :=
    ⟨fun _ _ hpair address haddress address' haddress' =>
      (hpair address' haddress' address haddress).symm⟩
  exact hdistinct.forall h hother hne replaced hreplaced replaced hreplaced' rfl

/-! ## One slot -/

/-- The step for a slot writes a variable just if the slot is bound to something else than the
replacement that is found for it. -/
theorem rebind_slot_variable {rebindings : RebindingsEntry} {memory : Memory} {slot : Slot}
    {address : Address} (hslot : address ≠ slot.address) :
    rebindSlot rebindings memory slot address = memory address ∨
      ∃ rebinding, findRebinding rebindings slot.symbolName = some rebinding ∧
        rebinding.replaced = some address ∧ memory slot.address ≠ rebinding.replacement ∧
        rebindSlot rebindings memory slot address = memory slot.address := by
  unfold rebindSlot rebindPointer
  cases hfind : findRebinding rebindings slot.symbolName with
  | none => exact .inl rfl
  | some rebinding =>
      dsimp only
      rw [Function.update_of_ne hslot]
      cases hreplaced : rebinding.replaced with
      | none => exact .inl rfl
      | some replaced =>
          dsimp only
          split
          next hother =>
            by_cases haddress : address = replaced
            · subst haddress
              exact .inr ⟨rebinding, rfl, hreplaced, hother, Function.update_self ..⟩
            · exact .inl (Function.update_of_ne haddress ..)
          · exact .inl rfl

/-- Variables may be overwritten with pointers that any rebinding may hold. -/
theorem Chained.write {memory memory' : Memory} {rebindings : RebindingsEntry}
    (hmemory : ∀ rebinding ∈ rebindings.flatten, ∀ replaced ∈ rebinding.replaced,
      memory' replaced = memory replaced ∨
        ∀ older, Linked linkEdit images older rebinding (memory' replaced))
    (h : Chained linkEdit images memory rebindings) :
    Chained linkEdit images memory' rebindings := by
  induction rebindings with
  | nil => trivial
  | cons entry older ih =>
      rw [List.flatten_cons] at hmemory
      refine ⟨fun rebinding hmem replaced hreplaced => ?_,
        ih (fun rebinding hmem => hmemory rebinding (List.mem_append_right _ hmem)) h.2⟩
      rcases hmemory rebinding (List.mem_append_left _ hmem) replaced hreplaced with heq | hlinked
      · rw [heq]
        exact h.1 rebinding hmem replaced hreplaced
      · exact hlinked older

/-! ## One call -/

variable {process : Process}

/-- The variables of the rebindings are different from each other. -/
def DistinctVariables (rebindings : RebindingsEntry) : Prop := (replacedVariables rebindings).Nodup

/-- The variable for the replaced function is one of those of the rebindings. -/
theorem mem_replaced_variables {rebindings : RebindingsEntry} {rebinding : Rebinding}
    (hmem : rebinding ∈ rebindings.flatten) {replaced : Address}
    (hreplaced : rebinding.replaced = some replaced) : replaced ∈ replacedVariables rebindings :=
  List.mem_filterMap.mpr ⟨rebinding, hmem, hreplaced⟩

/-- The step for a slot leaves the variable of a rebinding, unless it is the one that is found for
the slot and the slot is bound to something else than its replacement. -/
theorem rebind_slot_of_mem {rebindings : RebindingsEntry}
    (hdistinct : DistinctVariables rebindings) {slot : Slot}
    (hslot : slot.address ∉ replacedVariables rebindings) {rebinding : Rebinding}
    (hmem : rebinding ∈ rebindings.flatten) {replaced : Address}
    (hreplaced : rebinding.replaced = some replaced) (memory : Memory) :
    rebindSlot rebindings memory slot replaced = memory replaced ∨
      findRebinding rebindings slot.symbolName = some rebinding ∧
        memory slot.address ≠ rebinding.replacement ∧
        rebindSlot rebindings memory slot replaced = memory slot.address := by
  have hne : replaced ≠ slot.address := by
    rintro rfl
    exact hslot (mem_replaced_variables hmem hreplaced)
  rcases rebind_slot_variable hne with hsame | ⟨found, hfind, hfound, hother, hwritten⟩
  · exact .inl hsame
  · obtain rfl := eq_of_same_variable hdistinct hmem (find_rebinding_mem hfind).1 hreplaced hfound
    exact .inr ⟨hfind, hother, hwritten⟩

/-- When a new image is gone through, the variable of a replacement gets what the linker had bound
a pointer to. -/
theorem Chained.load {memory : Memory} {rebindings : RebindingsEntry}
    {loaded : Image × List (Address × Address)} (hloaded : loaded ∈ images)
    (hdistinct : DistinctVariables rebindings)
    (hslots : ((loaded.1.slots linkEdit).map Slot.address).Nodup)
    (hapart : ∀ slot ∈ loaded.1.slots linkEdit, slot.address ∉ replacedVariables rebindings)
    (hmemory : ∀ slot ∈ loaded.1.slots linkEdit,
      memory slot.address = originalBinding loaded.2 slot.address)
    (h : Chained linkEdit images memory rebindings) :
    Chained linkEdit images ((loaded.1.slots linkEdit).foldl (rebindSlot rebindings) memory)
      rebindings := by
  refine (writes_rebind_slot rebindings).foldl_invariant
    (fun current => Chained linkEdit images current rebindings) hslots hapart ?_ h
  intro slot hslot current hcurrent hchained
  refine hchained.write fun rebinding hmem replaced hreplaced => ?_
  rcases rebind_slot_of_mem hdistinct (hapart slot hslot) hmem hreplaced current with
    hsame | ⟨hfind, hother, hwritten⟩
  · exact .inl hsame
  · right
    intro older
    rw [hwritten]
    refine .inr ⟨hother, .inl ⟨loaded, hloaded, slot, hslot, (find_rebinding_mem hfind).2, ?_⟩⟩
    rw [hcurrent, hmemory slot hslot]

/-- A rebinding that is found for a slot and would change it is one of the newest call, since the
older ones have been applied to the slot already. -/
theorem mem_of_find_rebinding {entry : List Rebinding} {older : RebindingsEntry}
    {symbolName : CString} {rebinding : Rebinding}
    (hfind : findRebinding (entry :: older) symbolName = some rebinding) {original : Address}
    (hother : bound older symbolName original ≠ rebinding.replacement) : rebinding ∈ entry := by
  cases hentry : entry.find? (Rebinding.matchesSymbol symbolName) with
  | some newest =>
      rw [find_rebinding_cons_some hentry] at hfind
      exact Option.some.inj hfind ▸ List.mem_of_find?_eq_some hentry
  | none =>
      rw [find_rebinding_cons_none hentry] at hfind
      rw [bound, hfind] at hother
      exact absurd rfl hother

/-- What a slot is bound to by the older rebindings is what the variable of a new one may hold. -/
theorem linked_bound {loaded : Image × List (Address × Address)} (hloaded : loaded ∈ images)
    {slot : Slot} (hslot : slot ∈ loaded.1.slots linkEdit) {rebinding : Rebinding}
    (hmatches : rebinding.matchesSymbol slot.symbolName = true) {older : RebindingsEntry}
    (hother : bound older slot.symbolName (originalBinding loaded.2 slot.address) ≠
      rebinding.replacement) :
    Linked linkEdit images older rebinding
      (bound older slot.symbolName (originalBinding loaded.2 slot.address)) := by
  refine .inr ⟨hother, ?_⟩
  rw [bound]
  cases hfind : findRebinding older slot.symbolName with
  | none => exact .inl ⟨loaded, hloaded, slot, hslot, hmatches, rfl⟩
  | some earlier =>
      obtain ⟨hearlier, hmatches'⟩ := find_rebinding_mem hfind
      exact .inr ⟨earlier, hearlier, name_eq_of_matches hmatches' hmatches, rfl⟩

/-- When symbols are rebound, the variable of a new replacement gets what a pointer was bound to,
and the variables of the older ones are left alone. -/
theorem Chained.rebind (hseparate : process.Separate linkEdit) (hnewest : process.Newest linkEdit)
    {rebindings : List Rebinding}
    (hfits : ∀ slot ∈ process.slots linkEdit, slot.address ∉ replacedVariables [rebindings])
    (hdistinct : DistinctVariables (rebindings :: process.rebindingsHead))
    (hzero : ∀ address ∈ replacedVariables [rebindings], process.memory address = 0)
    (h : Chained linkEdit process.images process.memory process.rebindingsHead) :
    Chained linkEdit process.images
      (rebindImages linkEdit (rebindings :: process.rebindingsHead) process.images process.memory)
      (rebindings :: process.rebindingsHead) := by
  have hapart : ∀ slot ∈ process.slots linkEdit,
      slot.address ∉ replacedVariables (rebindings :: process.rebindingsHead) := by
    intro slot hslot
    rw [replaced_variables_cons, List.mem_append, not_or]
    exact ⟨hfits slot hslot, hseparate.apart slot hslot⟩
  have hinit : Chained linkEdit process.images process.memory
      (rebindings :: process.rebindingsHead) := by
    refine ⟨fun rebinding hmem replaced hreplaced => .inl (hzero replaced ?_), h⟩
    exact mem_replaced_variables (by simpa using hmem) hreplaced
  rw [rebind_images_eq]
  refine (writes_rebind_slot _).foldl_invariant (fun current => Chained linkEdit process.images
    current (rebindings :: process.rebindingsHead)) hseparate.distinct hapart ?_ hinit
  intro slot hslot current hcurrent hchained
  obtain ⟨loaded, hloaded, hslot'⟩ := List.mem_flatMap.mp hslot
  -- the slot is still bound to the newest of the older replacements
  have hpointer : current slot.address = bound process.rebindingsHead slot.symbolName
      (originalBinding loaded.2 slot.address) :=
    hcurrent.trans (hnewest loaded hloaded slot hslot')
  constructor
  · intro rebinding hmem replaced hreplaced
    rcases rebind_slot_of_mem hdistinct (hapart slot hslot) (List.mem_append_left _ hmem) hreplaced
      current with hsame | ⟨hfind, hother, hwritten⟩
    · rw [hsame]
      exact hchained.1 rebinding hmem replaced hreplaced
    · rw [hwritten, hpointer]
      exact linked_bound hloaded hslot' (find_rebinding_mem hfind).2 (hpointer ▸ hother)
  · refine hchained.2.write fun rebinding hmem replaced hreplaced => .inl ?_
    rcases rebind_slot_of_mem hdistinct (hapart slot hslot) (List.mem_append_right _ hmem) hreplaced
      current with hsame | ⟨hfind, hother, -⟩
    · exact hsame
    · -- no variable belongs to a new and to an older rebinding
      have hnew : rebinding ∈ rebindings := mem_of_find_rebinding hfind (hpointer ▸ hother)
      rw [DistinctVariables, replaced_variables_cons, List.nodup_append] at hdistinct
      exact absurd rfl (hdistinct.2.2 replaced
        (mem_replaced_variables (by simpa using hnew) hreplaced) replaced
        (mem_replaced_variables hmem hreplaced))

/-! ## Runs -/

variable (linkEdit) in
/-- What is expected of an event besides `Fits`: the linker does not bind the variables of
rebindings, and a call brings variables of its own, which hold nothing yet. -/
def FitsChain (process : Process) (event : Event) : Prop :=
  Fits linkEdit process event ∧
    match event with
    | .loadImage _ bindings =>
        ∀ address ∈ replacedVariables process.rebindingsHead, address ∉ bindings.map Prod.fst
    | .rebindSymbols rebindings allocated => allocated = true →
        DistinctVariables (rebindings :: process.rebindingsHead) ∧
          ∀ address ∈ replacedVariables [rebindings], process.memory address = 0
    | .rebindSymbolsImage _ _ _ => False

variable (linkEdit) in
/-- The state of a process in which the variables lead to older replacements. -/
structure Process.ChainedUp (process : Process) : Prop where
  separate : process.Separate linkEdit
  newest : process.Newest linkEdit
  distinct : DistinctVariables process.rebindingsHead
  chained : Chained linkEdit process.images process.memory process.rebindingsHead

/-- Every event that fits keeps the chains. -/
theorem Process.ChainedUp.keep (h : process.ChainedUp linkEdit) {event : Event}
    (hfits : FitsChain linkEdit process event) :
    (step linkEdit process event).ChainedUp linkEdit := by
  obtain ⟨hfits, hchain⟩ := hfits
  cases event with
  | loadImage image bindings =>
      refine ⟨h.separate.keep hfits, h.newest.keep h.separate hfits rfl, h.distinct, ?_⟩
      have hloaded : (image, bindings) ∈ process.images ++ [(image, bindings)] := by simp
      have hbound : Chained linkEdit (process.images ++ [(image, bindings)])
          (bindAll bindings process.memory) process.rebindingsHead := by
        refine h.chained.congr (fun loaded hmem => List.mem_append_left _ hmem) ?_
        exact fun address haddress => bind_all_of_not_mem (hchain address haddress) _
      have hdistinct := hfits.1
      rw [List.map_append, List.nodup_append] at hdistinct
      have hload := hbound.load hloaded h.distinct hdistinct.2.1
        (fun slot hslot => (hfits.2.1 slot hslot).2)
        (fun slot hslot => bind_all_of_mem (hfits.2.1 slot hslot).1 _)
      rw [← load_image_memory] at hload
      exact hload
  | rebindSymbols rebindings allocated =>
      cases allocated with
      | false => exact h
      | true =>
          obtain ⟨hdistinct, hzero⟩ := hchain rfl
          exact ⟨h.separate.keep hfits, h.newest.keep h.separate hfits rfl, hdistinct,
            Chained.rebind h.separate h.newest hfits hdistinct hzero h.chained⟩
  | rebindSymbolsImage index rebindings allocated => exact hchain.elim

/-- Each rebinding of a chained list is linked to what the older entries lead to. -/
theorem Chained.at_entry {memory : Memory} {newer older : RebindingsEntry} {entry : List Rebinding}
    (h : Chained linkEdit images memory (newer ++ entry :: older)) {rebinding : Rebinding}
    (hmem : rebinding ∈ entry) {replaced : Address}
    (hreplaced : rebinding.replaced = some replaced) :
    Linked linkEdit images older rebinding (memory replaced) := by
  induction newer with
  | nil => exact h.1 rebinding hmem replaced hreplaced
  | cons first newer ih => exact ih h.2

/-- The variable of a replacement is never written, or holds what the linker had bound a pointer for
its symbol to, or a replacement for the same symbol that an earlier call has registered. It never
holds the replacement itself. -/
theorem replaced_chain (linkEdit : LinkEdit) (memory : Memory) (events : List Event)
    (hfits : Admissible (step linkEdit) (FitsChain linkEdit) (Process.start memory) events)
    (newer older : RebindingsEntry) (entry : List Rebinding)
    (hregistered : registered events = newer ++ entry :: older) (rebinding : Rebinding)
    (hmem : rebinding ∈ entry) (replaced : Address)
    (hreplaced : rebinding.replaced = some replaced) :
    Linked linkEdit (loadedImages events) older rebinding
      ((run (step linkEdit) (Process.start memory) events).memory replaced) := by
  have hstart : (Process.start memory).ChainedUp linkEdit :=
    ⟨separate_start memory, newest_start memory, List.nodup_nil, trivial⟩
  have hstep : ∀ process event, process.ChainedUp linkEdit → FitsChain linkEdit process event →
      (step linkEdit process event).ChainedUp linkEdit := fun _ _ h hevent => h.keep hevent
  have hrun := run_invariant hstep hstart hfits
  obtain ⟨hhead, himages⟩ := run_state linkEdit memory events
  have hchained := hrun.chained
  rw [hhead, himages, hregistered] at hchained
  exact hchained.at_entry hmem hreplaced

instance (process : Process) (event : Event) : Decidable (FitsChain linkEdit process event) :=
  match event with
  | .loadImage image bindings =>
      haveI : Decidable (∀ address ∈ replacedVariables process.rebindingsHead,
        address ∉ bindings.map Prod.fst) := List.decidableBAll ..
      inferInstanceAs (Decidable (Fits linkEdit process (.loadImage image bindings) ∧ _))
  | .rebindSymbols rebindings allocated =>
      haveI : Decidable (∀ address ∈ replacedVariables [rebindings],
        process.memory address = 0) := List.decidableBAll ..
      haveI : Decidable (DistinctVariables (rebindings :: process.rebindingsHead)) :=
        List.nodupDecidable _
      inferInstanceAs (Decidable (Fits linkEdit process (.rebindSymbols rebindings allocated) ∧
        (_ → DistinctVariables (rebindings :: process.rebindingsHead) ∧ _)))
  | .rebindSymbolsImage _ _ _ => .isFalse And.right

/-- The second replacement of `open` has found the first one in the first image, and then the
original function in the second image. -/
theorem replaced_chain_sample :
    let process := run (step sampleLinkEdit) (Process.start fun _ => 0) sampleEvents
    process.memory 300 = 11 ∧ process.memory 301 = 11 ∧
      (run (step sampleLinkEdit) (Process.start fun _ => 0) (sampleEvents.take 3)).memory 301 =
        71 ∧
      Linked sampleLinkEdit (loadedImages sampleEvents)
        [[⟨['o', 'p', 'e', 'n'], 71, some 300⟩]] ⟨['o', 'p', 'e', 'n'], 72, some 301⟩
        (process.memory 301) :=
  ⟨by decide +kernel, by decide +kernel, by decide +kernel,
    replaced_chain sampleLinkEdit _ sampleEvents (by decide +kernel) [] _
      [⟨['c', 'l', 'o', 's', 'e'], 81, none⟩, ⟨['o', 'p', 'e', 'n'], 72, some 301⟩] rfl _
      (by decide +kernel) 301 rfl⟩

end Chain

end Component.Fishhook

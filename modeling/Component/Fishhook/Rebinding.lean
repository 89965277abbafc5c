import Component.Lib.Cells
import Component.Lib.Positions
import Component.Lib.Run
import Component.Fishhook.Model

/-!
# Which replacement a pointer is bound to

`Image.slots` lists the pointers of an image that can be rebound with the symbols they are for:
those in the sections of symbol pointers of the data segments (`mem_slots_iff`). Going through an
image is going through this list (`rebind_symbols_for_image_eq`), so what is written to one pointer
does not depend on the others. `bindings_run` says that a process with its sections and symbol
tables behaves as a table of slots in which every call of `rebind_symbols` and
`rebind_symbols_image` looks up the symbols. `newest_rebinding_wins` is the contract of
`rebind_symbols` for every order of calls and of loading images: the last call that names a symbol
counts, and in this call the first rebinding that does (`LastNamed`).
-/

namespace Component.Fishhook

open Component.Lib.Cells Component.Lib.Positions Component.Lib.Run

/-! ## Looking up a symbol -/

/-- What a pointer for a symbol is bound to after it has been rebound. -/
def bound (rebindings : RebindingsEntry) (symbolName : CString) (pointer : Address) : Address :=
  match findRebinding rebindings symbolName with
  | some rebinding => rebinding.replacement
  | none => pointer

/-- The variables in which replaced pointers are stored. -/
def replacedVariables (rebindings : RebindingsEntry) : List Address :=
  rebindings.flatten.filterMap Rebinding.replaced

/-- The rebinding that is found is in the list and names the symbol. -/
theorem find_rebinding_mem {rebindings : RebindingsEntry} {symbolName : CString}
    {rebinding : Rebinding} (h : findRebinding rebindings symbolName = some rebinding) :
    rebinding ∈ rebindings.flatten ∧ rebinding.matchesSymbol symbolName = true := by
  induction rebindings with
  | nil => cases h
  | cons entry next ih =>
      rw [List.flatten_cons, List.mem_append]
      unfold findRebinding at h
      split at h
      next found hfound =>
        obtain rfl : found = rebinding := Option.some.inj h
        exact ⟨.inl (List.mem_of_find?_eq_some hfound), List.find?_some hfound⟩
      · exact ⟨.inr (ih h).1, (ih h).2⟩

/-- An entry that does not name the symbol is passed over. -/
theorem find_rebinding_cons_none {entry : List Rebinding} {symbolName : CString}
    (h : entry.find? (Rebinding.matchesSymbol symbolName) = none) (next : RebindingsEntry) :
    findRebinding (entry :: next) symbolName = findRebinding next symbolName := by
  simp only [findRebinding, h]

/-- An entry that names the symbol hides the older ones. -/
theorem find_rebinding_cons_some {entry : List Rebinding} {symbolName : CString}
    {rebinding : Rebinding}
    (h : entry.find? (Rebinding.matchesSymbol symbolName) = some rebinding)
    (next : RebindingsEntry) :
    findRebinding (entry :: next) symbolName = some rebinding := by
  simp only [findRebinding, h]

/-- Without rebindings a pointer stays as it is. -/
@[simp] theorem bound_nil (symbolName : CString) (pointer : Address) :
    bound [] symbolName pointer = pointer := rfl

/-- A later call overrides what earlier ones have bound a pointer to. -/
theorem bound_cons_bound (entry : List Rebinding) (next : RebindingsEntry) (symbolName : CString)
    (pointer : Address) :
    bound (entry :: next) symbolName (bound next symbolName pointer) =
      bound (entry :: next) symbolName pointer := by
  unfold bound
  cases hentry : entry.find? (Rebinding.matchesSymbol symbolName) with
  | some rebinding => rw [find_rebinding_cons_some hentry]
  | none =>
      rw [find_rebinding_cons_none hentry]
      cases findRebinding next symbolName with
      | some rebinding => rfl
      | none => rfl

/-! ## The slots of an image -/

/-- A pointer that can be rebound. -/
structure Slot where
  address : Address
  symbolName : CString
  deriving DecidableEq, Repr

/-- The step for one slot. -/
def rebindSlot (rebindings : RebindingsEntry) (memory : Memory) (slot : Slot) : Memory :=
  rebindPointer rebindings memory slot.address slot.symbolName

section Slots

variable (linkEdit : LinkEdit)

/-- The slots of a section of symbol pointers. -/
def sectionSlots (slide : UInt64) (tables : SymbolTables) (sect : Section) : List Slot :=
  (List.range (sect.size.toNat / 8)).filterMap fun i =>
    let index := symtabIndex linkEdit tables sect i
    if withoutSymbol index then none
    else some ⟨pointerAddress slide sect i, symbolName linkEdit tables index⟩

/-- The slots of the sections of a data segment. -/
def commandSlots (slide : UInt64) (tables : SymbolTables) : LoadCommand → List Slot
  | .segment segname _ _ sections =>
      if segname ≠ segData ∧ segname ≠ segDataConst then []
      else sections.flatMap fun sect =>
        if sect.hasSymbolPointers then sectionSlots linkEdit slide tables sect else []
  | _ => []

/-- The slots of an image. -/
def Image.slots (image : Image) : List Slot :=
  if !image.dladdr then []
  else
    match image.tables with
    | none => []
    | some tables => image.commands.flatMap (commandSlots linkEdit image.slide tables)

/-- An image has a pointer for a symbol: in a section of lazy or of non-lazy symbol pointers of a
data segment, if the linker knows the image and it has symbol tables. -/
def Image.HasPointer (image : Image) (address : Address) (name : CString) : Prop :=
  image.dladdr = true ∧ ∃ tables, image.tables = some tables ∧
    ∃ segname vmaddr fileoff sections,
      .segment segname vmaddr fileoff sections ∈ image.commands ∧
      (segname = segData ∨ segname = segDataConst) ∧
      ∃ sect ∈ sections,
        (sect.flags &&& sectionType = sLazySymbolPointers ∨
          sect.flags &&& sectionType = sNonLazySymbolPointers) ∧
        ∃ i < sect.size.toNat / 8, withoutSymbol (symtabIndex linkEdit tables sect i) = false ∧
          address = pointerAddress image.slide sect i ∧
          name = symbolName linkEdit tables (symtabIndex linkEdit tables sect i)

/-- The slots of a section are its pointers that have a symbol. -/
theorem mem_section_slots_iff {slide : UInt64} {tables : SymbolTables} {sect : Section}
    {slot : Slot} :
    slot ∈ sectionSlots linkEdit slide tables sect ↔
      ∃ i < sect.size.toNat / 8, withoutSymbol (symtabIndex linkEdit tables sect i) = false ∧
        slot.address = pointerAddress slide sect i ∧
        slot.symbolName = symbolName linkEdit tables (symtabIndex linkEdit tables sect i) := by
  unfold sectionSlots
  simp only [List.mem_filterMap, List.mem_range]
  refine exists_congr fun i => and_congr_right fun _ => ?_
  cases hsymbol : withoutSymbol (symtabIndex linkEdit tables sect i) with
  | true => simp
  | false =>
      simp only [Bool.false_eq_true, if_false, Option.some.injEq, true_and]
      constructor
      · rintro rfl
        exact ⟨rfl, rfl⟩
      · rintro ⟨haddress, hname⟩
        rw [← haddress, ← hname]

/-- The slots of a load command are those of the sections of symbol pointers in a data segment. -/
theorem mem_command_slots_iff {slide : UInt64} {tables : SymbolTables} {command : LoadCommand}
    {slot : Slot} :
    slot ∈ commandSlots linkEdit slide tables command ↔
      ∃ segname vmaddr fileoff sections, command = .segment segname vmaddr fileoff sections ∧
        (segname = segData ∨ segname = segDataConst) ∧
        ∃ sect ∈ sections,
          (sect.flags &&& sectionType = sLazySymbolPointers ∨
            sect.flags &&& sectionType = sNonLazySymbolPointers) ∧
          slot ∈ sectionSlots linkEdit slide tables sect := by
  have hpointers : ∀ sect : Section, sect.hasSymbolPointers = true ↔
      (sect.flags &&& sectionType = sLazySymbolPointers ∨
        sect.flags &&& sectionType = sNonLazySymbolPointers) := by
    intro sect
    simp [Section.hasSymbolPointers]
  cases command with
  | segment segname vmaddr fileoff sections =>
      have hsections : slot ∈ sections.flatMap (fun sect =>
            if sect.hasSymbolPointers then sectionSlots linkEdit slide tables sect else []) ↔
          ∃ sect ∈ sections,
            (sect.flags &&& sectionType = sLazySymbolPointers ∨
              sect.flags &&& sectionType = sNonLazySymbolPointers) ∧
            slot ∈ sectionSlots linkEdit slide tables sect := by
        rw [List.mem_flatMap]
        refine exists_congr fun sect => and_congr_right fun _ => ?_
        rw [← hpointers, List.mem_ite_nil_right]
      by_cases hdata : segname ≠ segData ∧ segname ≠ segDataConst
      · rw [commandSlots, if_pos hdata]
        refine iff_of_false List.not_mem_nil ?_
        rintro ⟨_, _, _, _, ⟨⟩, hsegment, -⟩
        exact hsegment.elim hdata.1 hdata.2
      · rw [commandSlots, if_neg hdata, hsections]
        constructor
        · intro h
          exact ⟨segname, vmaddr, fileoff, sections, rfl, by tauto, h⟩
        · rintro ⟨_, _, _, _, ⟨⟩, -, h⟩
          exact h
  | symtab _ _ | dysymtab _ _ | other => simp [commandSlots]

/-- The slots of an image are its pointers for symbols. -/
theorem mem_slots_iff {image : Image} {slot : Slot} :
    slot ∈ image.slots linkEdit ↔ image.HasPointer linkEdit slot.address slot.symbolName := by
  unfold Image.slots Image.HasPointer
  cases image.dladdr with
  | false => simp
  | true =>
      cases image.tables with
      | none => simp
      | some tables =>
          simp only [Bool.not_true, Bool.false_eq_true, if_false, List.mem_flatMap, true_and,
            Option.some.injEq, exists_eq_left', mem_command_slots_iff, mem_section_slots_iff]
          constructor
          · rintro ⟨_, hcommand, segname, vmaddr, fileoff, sections, rfl, h⟩
            exact ⟨segname, vmaddr, fileoff, sections, hcommand, h⟩
          · rintro ⟨segname, vmaddr, fileoff, sections, hcommand, h⟩
            exact ⟨_, hcommand, segname, vmaddr, fileoff, sections, rfl, h⟩

variable (rebindings : RebindingsEntry)

/-- Rebinding a section rebinds its slots one after another. -/
theorem perform_rebinding_with_section_eq (sect : Section) (slide : UInt64)
    (tables : SymbolTables) (memory : Memory) :
    performRebindingWithSection linkEdit rebindings sect slide tables memory =
      (sectionSlots linkEdit slide tables sect).foldl (rebindSlot rebindings) memory := by
  unfold performRebindingWithSection sectionSlots
  rw [List.foldl_filterMap]
  congr 1
  funext memory i
  unfold rebindIndex
  dsimp only
  split
  · rfl
  · rfl

/-- Rebinding a load command rebinds the slots of its sections one after another. -/
theorem rebind_command_eq (slide : UInt64) (tables : SymbolTables) (memory : Memory)
    (command : LoadCommand) :
    rebindCommand linkEdit rebindings slide tables memory command =
      (commandSlots linkEdit slide tables command).foldl (rebindSlot rebindings) memory := by
  cases command with
  | segment segname vmaddr fileoff sections =>
      unfold rebindCommand commandSlots
      dsimp only
      split
      · rfl
      · rw [List.foldl_flatMap]
        congr 1
        funext memory sect
        split
        · exact perform_rebinding_with_section_eq ..
        · rfl
  | symtab _ _ | dysymtab _ _ | other => rfl

/-- Going through an image is going through its slots. -/
theorem rebind_symbols_for_image_eq (image : Image) (memory : Memory) :
    rebindSymbolsForImage linkEdit rebindings image memory =
      (image.slots linkEdit).foldl (rebindSlot rebindings) memory := by
  unfold rebindSymbolsForImage Image.slots
  split
  · rfl
  · cases image.tables with
    | none => rfl
    | some tables =>
        dsimp only
        rw [List.foldl_flatMap]
        congr 1
        funext memory command
        exact rebind_command_eq ..

/-- Going through the images is going through all their slots. -/
theorem rebind_images_eq (images : List (Image × List (Address × Address))) (memory : Memory) :
    rebindImages linkEdit rebindings images memory =
      (images.flatMap fun loaded => loaded.1.slots linkEdit).foldl (rebindSlot rebindings)
        memory := by
  unfold rebindImages
  rw [List.foldl_flatMap]
  congr 1
  funext memory loaded
  exact rebind_symbols_for_image_eq ..

/-- The step for a slot writes its pointer and the variable of a rebinding. -/
theorem writes_rebind_slot :
    Writes Slot.address {address | address ∈ replacedVariables rebindings}
      (fun slot => bound rebindings slot.symbolName) (rebindSlot rebindings) := by
  constructor
  · intro memory slot
    unfold rebindSlot rebindPointer bound
    cases findRebinding rebindings slot.symbolName with
    | none => rfl
    | some rebinding => exact Function.update_self ..
  · intro memory slot address haddress hvariable
    unfold rebindSlot rebindPointer
    cases hfind : findRebinding rebindings slot.symbolName with
    | none => rfl
    | some rebinding =>
        dsimp only
        rw [Function.update_of_ne haddress]
        cases hreplaced : rebinding.replaced with
        | none => rfl
        | some replaced =>
            have hne : address ≠ replaced := by
              rintro rfl
              exact hvariable (List.mem_filterMap.mpr
                ⟨rebinding, (find_rebinding_mem hfind).1, hreplaced⟩)
            dsimp only
            split
            · exact Function.update_of_ne hne ..
            · rfl

end Slots

/-! ## Loading -/

/-- What the linker has bound the pointer at an address to. -/
def originalBinding (bindings : List (Address × Address)) (address : Address) : Address :=
  bindings.foldl (fun pointer binding => if binding.1 = address then binding.2 else pointer) 0

/-- Loading an image leaves addresses that it does not bind. -/
theorem bind_all_of_not_mem {bindings : List (Address × Address)} {address : Address}
    (h : address ∉ bindings.map Prod.fst) (memory : Memory) :
    bindAll bindings memory address = memory address := by
  induction bindings generalizing memory with
  | nil => rfl
  | cons binding bindings ih =>
      rw [List.map_cons, List.mem_cons, not_or] at h
      exact (ih h.2 _).trans (Function.update_of_ne h.1 ..)

/-- Loading an image binds its addresses. -/
theorem bind_all_of_mem {bindings : List (Address × Address)} {address : Address}
    (h : address ∈ bindings.map Prod.fst) (memory : Memory) :
    bindAll bindings memory address = originalBinding bindings address := by
  -- the last binding of the address counts on both sides, whatever was there before
  suffices ∀ (memory : Memory) (pointer : Address),
      address ∈ bindings.map Prod.fst ∨ memory address = pointer →
      bindAll bindings memory address = bindings.foldl (fun pointer binding =>
        if binding.1 = address then binding.2 else pointer) pointer from this memory 0 (.inl h)
  clear h memory
  induction bindings with
  | nil =>
      rintro memory pointer (h | h)
      · cases h
      · exact h
  | cons binding bindings ih =>
      intro memory pointer h
      refine ih _ _ ?_
      by_cases haddress : binding.1 = address
      · right
        simp [haddress]
      · rw [List.map_cons, List.mem_cons] at h
        rcases h with (h | h) | h
        · exact absurd h.symm haddress
        · exact .inl h
        · right
          dsimp only
          rw [if_neg haddress, Function.update_of_ne (Ne.symm haddress), h]

/-! ## The table of slots -/

section Process

variable (linkEdit : LinkEdit)

/-- The slots of all images. -/
def Process.slots (process : Process) : List Slot :=
  process.images.flatMap fun loaded => loaded.1.slots linkEdit

/-- The pointers are different from each other and from the variables of the rebindings. -/
structure Process.Separate (process : Process) : Prop where
  distinct : ((process.slots linkEdit).map Slot.address).Nodup
  apart : ∀ slot ∈ process.slots linkEdit,
    slot.address ∉ replacedVariables process.rebindingsHead

/-- What is expected of an event: a new image has memory of its own, in which the linker binds all
its pointers, and the variables of a rebinding are no pointers of an image. -/
def Fits (process : Process) : Event → Prop
  | .loadImage image bindings =>
      ((process.slots linkEdit ++ image.slots linkEdit).map Slot.address).Nodup ∧
        (∀ slot ∈ image.slots linkEdit, slot.address ∈ bindings.map Prod.fst ∧
          slot.address ∉ replacedVariables process.rebindingsHead) ∧
        ∀ slot ∈ process.slots linkEdit, slot.address ∉ bindings.map Prod.fst
  | .rebindSymbols rebindings _ | .rebindSymbolsImage _ rebindings _ =>
      ∀ slot ∈ process.slots linkEdit, slot.address ∉ replacedVariables [rebindings]

instance (process : Process) (event : Event) : Decidable (Fits linkEdit process event) :=
  match event with
  | .loadImage _ _ => inferInstanceAs (Decidable (_ ∧ _ ∧ _))
  | .rebindSymbols _ _ => List.decidableBAll ..
  | .rebindSymbolsImage _ _ _ => List.decidableBAll ..

/-- A table of the slots of each image with what they are bound to, and the list of rebindings. -/
@[ext] structure Bindings where
  images : List (List (Slot × Address))
  rebindingsHead : RebindingsEntry

/-- A slot is rebound in the table. -/
def rebindBinding (rebindings : RebindingsEntry) (binding : Slot × Address) : Slot × Address :=
  (binding.1, bound rebindings binding.1.symbolName binding.2)

/-- What an event does to the table. -/
def Bindings.step (table : Bindings) : Event → Bindings
  | .loadImage image bindings => { table with
      images := table.images ++ [(image.slots linkEdit).map fun slot =>
        rebindBinding table.rebindingsHead (slot, originalBinding bindings slot.address)] }
  | .rebindSymbols rebindings true =>
      let rebindingsHead := rebindings :: table.rebindingsHead
      ⟨table.images.map (List.map (rebindBinding rebindingsHead)), rebindingsHead⟩
  | .rebindSymbolsImage index rebindings true => { table with
      images := table.images.modify index (List.map (rebindBinding [rebindings])) }
  | .rebindSymbols _ false | .rebindSymbolsImage _ _ false => table

/-- The slots of one image with what they are bound to. -/
def imageBindings (memory : Memory) (loaded : Image × List (Address × Address)) :
    List (Slot × Address) :=
  (loaded.1.slots linkEdit).map fun slot => (slot, memory slot.address)

/-- The table of a process. -/
def Process.bindings (process : Process) : Bindings :=
  ⟨process.images.map (imageBindings linkEdit process.memory), process.rebindingsHead⟩

variable {linkEdit}

/-- The variables of a list are those of its newest entry and those of the others. -/
theorem replaced_variables_cons (entry : List Rebinding) (next : RebindingsEntry) :
    replacedVariables (entry :: next) = replacedVariables [entry] ++ replacedVariables next := by
  simp [replacedVariables]

/-- Without rebindings no slot changes. -/
theorem foldl_rebind_slot_nil (slots : List Slot) (memory : Memory) :
    slots.foldl (rebindSlot []) memory = memory := by
  induction slots with
  | nil => rfl
  | cons slot slots ih => exact ih

/-- Only the table of an image is touched where the memory of its slots is. -/
theorem image_bindings_congr {memory memory' : Memory} {loaded : Image × List (Address × Address)}
    (h : ∀ slot ∈ loaded.1.slots linkEdit, memory' slot.address = memory slot.address) :
    imageBindings linkEdit memory' loaded = imageBindings linkEdit memory loaded := by
  refine List.map_congr_left fun slot hslot => ?_
  rw [h slot hslot]

/-- If every slot of an image is rebound, so are its bindings. -/
theorem image_bindings_rebind {memory memory' : Memory} {rebindings : RebindingsEntry}
    {loaded : Image × List (Address × Address)}
    (h : ∀ slot ∈ loaded.1.slots linkEdit,
      memory' slot.address = bound rebindings slot.symbolName (memory slot.address)) :
    imageBindings linkEdit memory' loaded =
      (imageBindings linkEdit memory loaded).map (rebindBinding rebindings) := by
  unfold imageBindings
  rw [List.map_map]
  refine List.map_congr_left fun slot hslot => ?_
  rw [h slot hslot]
  rfl

variable {process : Process}

/-- The slots of an image are slots of the process. -/
theorem mem_slots {loaded : Image × List (Address × Address)} (hloaded : loaded ∈ process.images)
    {slot : Slot} (hslot : slot ∈ loaded.1.slots linkEdit) : slot ∈ process.slots linkEdit :=
  List.mem_flatMap.mpr ⟨loaded, hloaded, hslot⟩

/-- All images are gone through: every slot is looked up. -/
theorem Process.Separate.rebind_images (h : process.Separate linkEdit)
    {rebindings : List Rebinding}
    (hfits : ∀ slot ∈ process.slots linkEdit, slot.address ∉ replacedVariables [rebindings])
    {slot : Slot} (hslot : slot ∈ process.slots linkEdit) :
    rebindImages linkEdit (rebindings :: process.rebindingsHead) process.images process.memory
        slot.address =
      bound (rebindings :: process.rebindingsHead) slot.symbolName
        (process.memory slot.address) := by
  rw [rebind_images_eq]
  refine (writes_rebind_slot _).foldl_cell h.distinct (fun slot hslot => ?_) hslot process.memory
  show slot.address ∉ replacedVariables (rebindings :: process.rebindingsHead)
  rw [replaced_variables_cons, List.mem_append, not_or]
  exact ⟨hfits slot hslot, h.apart slot hslot⟩

/-- One image is gone through: the slots of the others are left alone. -/
theorem Process.Separate.rebind_image (h : process.Separate linkEdit)
    {before after : List (Image × List (Address × Address))}
    {loaded : Image × List (Address × Address)}
    (himages : process.images = before ++ loaded :: after)
    {rebindings : List Rebinding}
    (hfits : ∀ slot ∈ process.slots linkEdit, slot.address ∉ replacedVariables [rebindings]) :
    (∀ slot ∈ loaded.1.slots linkEdit,
      rebindSymbolsForImage linkEdit [rebindings] loaded.1 process.memory slot.address =
        bound [rebindings] slot.symbolName (process.memory slot.address)) ∧
    ∀ other, other ∈ before ∨ other ∈ after → ∀ slot ∈ other.1.slots linkEdit,
      rebindSymbolsForImage linkEdit [rebindings] loaded.1 process.memory slot.address =
        process.memory slot.address := by
  have hslots : process.slots linkEdit = (before.flatMap fun loaded => loaded.1.slots linkEdit) ++
      (loaded.1.slots linkEdit ++ after.flatMap fun loaded => loaded.1.slots linkEdit) := by
    rw [Process.slots, himages, List.flatMap_append, List.flatMap_cons]
  have hdistinct := h.distinct
  rw [hslots, List.map_append, List.map_append, List.nodup_append, List.nodup_append] at hdistinct
  obtain ⟨-, ⟨himage, -, hafter⟩, hbefore⟩ := hdistinct
  rw [rebind_symbols_for_image_eq]
  constructor
  · intro slot hslot
    refine (writes_rebind_slot _).foldl_cell himage (fun slot hslot => ?_) hslot process.memory
    exact hfits slot (by rw [hslots]; simp [hslot])
  · intro other hother slot hslot
    refine (writes_rebind_slot _).foldl_frame (fun key hkey => ?_) ?_ process.memory
    · rcases hother with hother | hother
      · refine hbefore _ (List.mem_map_of_mem (List.mem_flatMap.mpr ⟨other, hother, hslot⟩)) _ ?_
        exact List.mem_append_left _ (List.mem_map_of_mem hkey)
      · exact (hafter _ (List.mem_map_of_mem hkey) _
          (List.mem_map_of_mem (List.mem_flatMap.mpr ⟨other, hother, hslot⟩))).symm
    · refine hfits slot (List.mem_flatMap.mpr ⟨other, ?_, hslot⟩)
      rw [himages]
      rcases hother with hother | hother <;> simp [hother]

/-- Loading an image binds its slots and then rebinds them. -/
theorem load_image_memory (image : Image) (bindings : List (Address × Address)) :
    (loadImage linkEdit image bindings process).memory =
      (image.slots linkEdit).foldl (rebindSlot process.rebindingsHead)
        (bindAll bindings process.memory) := by
  unfold loadImage
  cases hhead : process.rebindingsHead with
  | nil => exact (foldl_rebind_slot_nil _ _).symm
  | cons entry next => exact rebind_symbols_for_image_eq ..

/-- An image is loaded: its slots are looked up, those of the others are left alone. -/
theorem Process.Separate.load_image (h : process.Separate linkEdit) {image : Image}
    {bindings : List (Address × Address)}
    (hfits : Fits linkEdit process (.loadImage image bindings)) :
    (∀ slot ∈ image.slots linkEdit,
      (loadImage linkEdit image bindings process).memory slot.address =
        bound process.rebindingsHead slot.symbolName (originalBinding bindings slot.address)) ∧
    ∀ slot ∈ process.slots linkEdit,
      (loadImage linkEdit image bindings process).memory slot.address =
        process.memory slot.address := by
  obtain ⟨hdistinct, hnew, hold⟩ := hfits
  rw [List.map_append, List.nodup_append] at hdistinct
  obtain ⟨-, himage, hdisjoint⟩ := hdistinct
  rw [load_image_memory]
  constructor
  · intro slot hslot
    rw [← bind_all_of_mem (hnew slot hslot).1 process.memory]
    exact (writes_rebind_slot _).foldl_cell himage (fun slot hslot => (hnew slot hslot).2) hslot _
  · intro slot hslot
    rw [← bind_all_of_not_mem (hold slot hslot) process.memory]
    refine (writes_rebind_slot _).foldl_frame (fun key hkey => ?_) (h.apart slot hslot) _
    exact hdisjoint _ (List.mem_map_of_mem hslot) _ (List.mem_map_of_mem hkey)

/-! ## Runs -/

/-- Loading an image adds its slots. -/
theorem slots_load_image (image : Image) (bindings : List (Address × Address)) :
    (loadImage linkEdit image bindings process).slots linkEdit =
      process.slots linkEdit ++ image.slots linkEdit := by
  simp [Process.slots, loadImage]

/-- The pointers and the variables stay apart. -/
theorem Process.Separate.keep (h : process.Separate linkEdit) {event : Event}
    (hfits : Fits linkEdit process event) : (step linkEdit process event).Separate linkEdit := by
  cases event with
  | loadImage image bindings =>
      refine ⟨?_, ?_⟩
      · show ((Process.slots _ (loadImage ..)).map Slot.address).Nodup
        rw [slots_load_image]
        exact hfits.1
      · intro slot hslot
        have hmem : slot ∈ process.slots linkEdit ++ image.slots linkEdit := by
          rw [← slots_load_image]
          exact hslot
        rcases List.mem_append.mp hmem with hold | hnew
        · exact h.apart slot hold
        · exact (hfits.2.1 slot hnew).2
  | rebindSymbols rebindings allocated =>
      cases allocated with
      | false => exact h
      | true =>
          refine ⟨h.distinct, fun slot hslot => ?_⟩
          show slot.address ∉ replacedVariables (rebindings :: process.rebindingsHead)
          rw [replaced_variables_cons, List.mem_append, not_or]
          exact ⟨hfits slot hslot, h.apart slot hslot⟩
  | rebindSymbolsImage index rebindings allocated =>
      simp only [step, rebindSymbolsImage]
      split
      · exact h
      · exact ⟨h.distinct, h.apart⟩

/-- Rebinding one image changes the row of this image in the table. -/
theorem Process.Separate.bindings_rebind_image (h : process.Separate linkEdit) (index : Nat)
    {rebindings : List Rebinding}
    (hfits : ∀ slot ∈ process.slots linkEdit, slot.address ∉ replacedVariables [rebindings])
    (allocated : Bool) :
    (step linkEdit process (.rebindSymbolsImage index rebindings allocated)).bindings linkEdit =
      (process.bindings linkEdit).step linkEdit
        (.rebindSymbolsImage index rebindings allocated) := by
  cases hindex : process.images[index]? with
  | none =>
      have hlong : (process.images.map (imageBindings linkEdit process.memory)).length ≤
          index := by
        rw [List.length_map]
        exact List.getElem?_eq_none_iff.mp hindex
      simp only [step, rebindSymbolsImage, hindex]
      cases allocated with
      | false => rfl
      | true => exact Bindings.ext (List.modify_eq_self hlong).symm rfl
  | some loaded =>
      simp only [step, rebindSymbolsImage, hindex]
      cases allocated with
      | false =>
          have hmemory : rebindSymbolsForImage linkEdit [] loaded.1 process.memory =
              process.memory :=
            (rebind_symbols_for_image_eq ..).trans (foldl_rebind_slot_nil _ _)
          simp only [prependRebindings, Bool.false_eq_true, if_false, hmemory]
          rfl
      | true =>
          obtain ⟨before, after, himages, hlength⟩ := split_at_index hindex
          obtain ⟨himage, hothers⟩ := h.rebind_image himages hfits
          refine Bindings.ext ?_ rfl
          show process.images.map (imageBindings linkEdit (rebindSymbolsForImage linkEdit
            [rebindings] loaded.1 process.memory)) = (process.images.map _).modify index _
          rw [himages, List.map_append, List.map_append, List.map_cons, List.map_cons,
            modify_at_length (by rw [List.length_map, hlength]), image_bindings_rebind himage]
          congr 1
          · refine List.map_congr_left fun other hother =>
              image_bindings_congr (hothers other (.inl hother))
          · congr 1
            refine List.map_congr_left fun other hother =>
              image_bindings_congr (hothers other (.inr hother))

/-- Every event does to the table of a process what it is meant to do. -/
theorem Process.Separate.bindings_eq (h : process.Separate linkEdit) {event : Event}
    (hfits : Fits linkEdit process event) :
    (step linkEdit process event).bindings linkEdit =
      (process.bindings linkEdit).step linkEdit event := by
  cases event with
  | loadImage image bindings =>
      obtain ⟨hnew, hold⟩ := h.load_image hfits
      refine Bindings.ext ?_ rfl
      show (process.images ++ [(image, bindings)]).map _ = process.images.map _ ++ [_]
      rw [List.map_append, List.map_singleton]
      congr 1
      · refine List.map_congr_left fun loaded hloaded => image_bindings_congr fun slot hslot => ?_
        exact hold slot (mem_slots hloaded hslot)
      · congr 1
        refine List.map_congr_left fun slot hslot => ?_
        exact congrArg (Prod.mk slot) (hnew slot hslot)
  | rebindSymbols rebindings allocated =>
      cases allocated with
      | false => rfl
      | true =>
          refine Bindings.ext ?_ rfl
          show process.images.map _ = (process.images.map _).map _
          rw [List.map_map]
          refine List.map_congr_left fun loaded hloaded =>
            image_bindings_rebind fun slot hslot => ?_
          exact h.rebind_images hfits (mem_slots hloaded hslot)
  | rebindSymbolsImage index rebindings allocated =>
      exact h.bindings_rebind_image index hfits allocated

/-- A new process has no slots that could overlap. -/
theorem separate_start (memory : Memory) : (Process.start memory).Separate linkEdit :=
  ⟨List.nodup_nil, fun _ h => by cases h⟩

/-- A process behaves as the table of its slots. -/
theorem bindings_run (memory : Memory) (events : List Event)
    (hfits : Admissible (step linkEdit) (Fits linkEdit) (Process.start memory) events) :
    (run (step linkEdit) (Process.start memory) events).bindings linkEdit =
      run (Bindings.step linkEdit) ⟨[], []⟩ events := by
  have hstep : ∀ process table event,
      (process.Separate linkEdit ∧ process.bindings linkEdit = table) →
      Fits linkEdit process event → (step linkEdit process event).Separate linkEdit ∧
        (step linkEdit process event).bindings linkEdit = table.step linkEdit (id event) := by
    rintro process _ event ⟨hseparate, rfl⟩ hevent
    exact ⟨hseparate.keep hevent, hseparate.bindings_eq hevent⟩
  have hinit : (Process.start memory).Separate linkEdit ∧
      (Process.start memory).bindings linkEdit = ⟨[], []⟩ := ⟨separate_start memory, rfl⟩
  have hrun := (run_simulation id hstep hinit hfits).2
  rwa [List.map_id] at hrun

/-- Tables with the symbols `_open` and `_close`. -/
def sampleLinkEdit : LinkEdit where
  uint32At address := if address = 1904 then 1 else if address = 1016 then 10 else 0
  stringAt address :=
    if address = 1500 then ['_', 'o', 'p', 'e', 'n']
    else if address = 1510 then ['_', 'c', 'l', 'o', 's', 'e'] else []

/-- An image with lazy pointers for the two symbols. -/
def sampleImage (addr : UInt64) : Image where
  commands := [.segment segLinkedit 1000 0 [], .symtab 0 500, .dysymtab 900 2,
    .segment segData 0 0 [⟨addr, 16, 7, 0⟩]]
  slide := 0
  dladdr := true

/-- `open` is rebound twice and `close` once, before the second image is loaded. -/
def sampleEvents : List Event :=
  [.loadImage (sampleImage 100) [(100, 11), (108, 12)],
    .rebindSymbols [⟨['o', 'p', 'e', 'n'], 71, some 300⟩] true,
    .rebindSymbols [⟨['c', 'l', 'o', 's', 'e'], 81, none⟩, ⟨['o', 'p', 'e', 'n'], 72, some 301⟩]
      true,
    .loadImage (sampleImage 200) [(200, 11), (208, 12)]]

/-- The process with two images is the table of its four slots. -/
theorem bindings_run_sample :
    (run (Bindings.step sampleLinkEdit) ⟨[], []⟩ sampleEvents).images.map (List.map Prod.snd) =
        [[72, 81], [72, 81]] ∧
      (run (step sampleLinkEdit) (Process.start fun _ => 0) sampleEvents).bindings sampleLinkEdit =
        run (Bindings.step sampleLinkEdit) ⟨[], []⟩ sampleEvents :=
  ⟨by decide +kernel, bindings_run _ _ (by decide +kernel)⟩

/-- The arrays of rebindings of the calls of `rebind_symbols` that succeeded, the last call
first. -/
def registered (events : List Event) : RebindingsEntry :=
  (events.filterMap fun
    | .rebindSymbols rebindings true => some rebindings
    | _ => none).reverse

/-- The images that have been loaded. -/
def loadedImages (events : List Event) : List (Image × List (Address × Address)) :=
  events.filterMap fun
    | .loadImage image bindings => some (image, bindings)
    | _ => none

/-- The event concerns all images. -/
def Event.isGlobal : Event → Bool
  | .rebindSymbolsImage _ _ _ => false
  | _ => true

/-- Every pointer is bound to the newest replacement for its symbol. -/
def Process.Newest (linkEdit : LinkEdit) (process : Process) : Prop :=
  ∀ loaded ∈ process.images, ∀ slot ∈ loaded.1.slots linkEdit,
    process.memory slot.address =
      bound process.rebindingsHead slot.symbolName (originalBinding loaded.2 slot.address)

/-- A new process has no slots and no rebindings. -/
theorem newest_start (memory : Memory) : (Process.start memory).Newest linkEdit :=
  fun _ hloaded => by cases hloaded

/-- Every event that fits and is about all images leaves each slot with its newest rebinding. -/
theorem Process.Newest.keep (hnewest : process.Newest linkEdit) (h : process.Separate linkEdit)
    {event : Event} (hfits : Fits linkEdit process event) (hglobal : event.isGlobal = true) :
    (step linkEdit process event).Newest linkEdit := by
  cases event with
  | loadImage image bindings =>
      obtain ⟨hnew, hold⟩ := h.load_image hfits
      intro loaded hloaded slot hslot
      rcases List.mem_append.mp hloaded with hmem | hmem
      · exact (hold slot (mem_slots hmem hslot)).trans (hnewest loaded hmem slot hslot)
      · obtain rfl := List.mem_singleton.mp hmem
        exact hnew slot hslot
  | rebindSymbols rebindings allocated =>
      cases allocated with
      | false => exact hnewest
      | true =>
          intro loaded hloaded slot hslot
          refine (h.rebind_images hfits (mem_slots hloaded hslot)).trans ?_
          rw [hnewest loaded hloaded slot hslot]
          exact bound_cons_bound ..
  | rebindSymbolsImage index rebindings allocated => cases hglobal

/-- The rebindings of the last call are the newest ones. -/
theorem registered_concat (events : List Event) (event : Event) :
    registered (events ++ [event]) = registered [event] ++ registered events := by
  simp [registered]

/-- The image that was loaded last comes last. -/
theorem loaded_images_concat (events : List Event) (event : Event) :
    loadedImages (events ++ [event]) = loadedImages events ++ loadedImages [event] := by
  simp [loadedImages]

/-- What the list of rebindings and the images are after a run. -/
theorem run_state (linkEdit : LinkEdit) (memory : Memory) (events : List Event) :
    (run (step linkEdit) (Process.start memory) events).rebindingsHead = registered events ∧
      (run (step linkEdit) (Process.start memory) events).images = loadedImages events := by
  induction events using List.reverseRecOn with
  | nil => exact ⟨rfl, rfl⟩
  | append_singleton events event ih =>
      have himages := ih.2.trans (List.append_nil _).symm
      rw [run_concat, registered_concat, loaded_images_concat]
      cases event with
      | loadImage image bindings => exact ⟨ih.1, congrArg (· ++ [(image, bindings)]) ih.2⟩
      | rebindSymbols rebindings allocated =>
          cases allocated with
          | false => exact ⟨ih.1, himages⟩
          | true => exact ⟨congrArg (rebindings :: ·) ih.1, himages⟩
      | rebindSymbolsImage index rebindings allocated =>
          simp only [step, rebindSymbolsImage]
          split
          · exact ⟨ih.1, himages⟩
          · exact ⟨ih.1, himages⟩

/-! ## The last call for a symbol -/

/-- A rebinding is for a symbol: its name is that of the symbol without the first character, and is
not empty. -/
def Rebinding.Names (rebinding : Rebinding) (symbolName : CString) : Prop :=
  rebinding.name ≠ [] ∧ ∃ first, symbolName = first :: rebinding.name

/-- No call of `rebind_symbols` that succeeded names the symbol. -/
def Unnamed (events : List Event) (symbolName : CString) : Prop :=
  ∀ rebindings, .rebindSymbols rebindings true ∈ events →
    ∀ rebinding ∈ rebindings, ¬ rebinding.Names symbolName

/-- The rebinding is the first one for the symbol in its call, and no later call names the
symbol. -/
def LastNamed (events : List Event) (symbolName : CString) (rebinding : Rebinding) : Prop :=
  ∃ before front back after,
    events = before ++ .rebindSymbols (front ++ rebinding :: back) true :: after ∧
    rebinding.Names symbolName ∧ (∀ other ∈ front, ¬ other.Names symbolName) ∧
    Unnamed after symbolName

/-- The comparison of `perform_rebinding_with_section` finds the rebindings for a symbol. -/
theorem matches_symbol_iff {rebinding : Rebinding} {symbolName : CString} :
    rebinding.matchesSymbol symbolName = true ↔ rebinding.Names symbolName := by
  unfold Rebinding.matchesSymbol Rebinding.Names
  split
  next first second rest =>
    constructor
    · intro h
      have hname : second :: rest = rebinding.name := beq_iff_eq.mp h
      exact ⟨by simp [← hname], first, by rw [hname]⟩
    · rintro ⟨-, other, h⟩
      exact beq_iff_eq.mpr (List.cons.inj h).2
  next hshort =>
    refine iff_of_false (by simp) ?_
    rintro ⟨hname, first, rfl⟩
    obtain ⟨second, rest, hrest⟩ := List.exists_cons_of_ne_nil hname
    exact hshort first second rest (by rw [hrest])

/-- An event that is no call for the symbol leaves the symbol without one. -/
theorem Unnamed.concat {events : List Event} {symbolName : CString} (h : Unnamed events symbolName)
    {event : Event} (hevent : Unnamed [event] symbolName) :
    Unnamed (events ++ [event]) symbolName := by
  intro rebindings hcall
  rcases List.mem_append.mp hcall with hmem | hlast
  · exact h rebindings hmem
  · exact hevent rebindings hlast

/-- An event that is no call for the symbol leaves the last call as it is. -/
theorem LastNamed.concat {events : List Event} {symbolName : CString} {rebinding : Rebinding}
    (h : LastNamed events symbolName rebinding) {event : Event}
    (hevent : Unnamed [event] symbolName) :
    LastNamed (events ++ [event]) symbolName rebinding := by
  obtain ⟨before, front, back, after, rfl, hnames, hfront, hafter⟩ := h
  refine ⟨before, front, back, after ++ [event], ?_, hnames, hfront, hafter.concat hevent⟩
  rw [List.append_assoc, List.cons_append]

/-- What is registered for a symbol is the rebinding of the last call that names it. -/
theorem find_rebinding_registered (events : List Event) (symbolName : CString) :
    (∃ rebinding, findRebinding (registered events) symbolName = some rebinding ∧
      LastNamed events symbolName rebinding) ∨
    findRebinding (registered events) symbolName = none ∧ Unnamed events symbolName := by
  induction events using List.reverseRecOn with
  | nil => exact .inr ⟨rfl, fun _ h => by cases h⟩
  | append_singleton events event ih =>
      -- an event that registers nothing for the symbol leaves everything as it was
      have hkeep : findRebinding (registered (events ++ [event])) symbolName =
          findRebinding (registered events) symbolName → Unnamed [event] symbolName →
          (∃ rebinding, findRebinding (registered (events ++ [event])) symbolName =
              some rebinding ∧ LastNamed (events ++ [event]) symbolName rebinding) ∨
            findRebinding (registered (events ++ [event])) symbolName = none ∧
              Unnamed (events ++ [event]) symbolName := by
        intro hsame hevent
        rw [hsame]
        rcases ih with ⟨rebinding, hfind, hlast⟩ | ⟨hfind, hunnamed⟩
        · exact .inl ⟨rebinding, hfind, hlast.concat hevent⟩
        · exact .inr ⟨hfind, hunnamed.concat hevent⟩
      rw [registered_concat] at hkeep ⊢
      cases event with
      | loadImage image bindings => exact hkeep rfl (fun _ h => by simp at h)
      | rebindSymbolsImage index rebindings allocated => exact hkeep rfl (fun _ h => by simp at h)
      | rebindSymbols rebindings allocated =>
          cases allocated with
          | false => exact hkeep rfl (fun _ h => by simp at h)
          | true =>
              cases hentry : rebindings.find? (Rebinding.matchesSymbol symbolName) with
              | none =>
                  refine hkeep (find_rebinding_cons_none hentry _) ?_
                  rintro other hother rebinding hmem
                  obtain rfl : other = rebindings := by simpa using hother
                  rw [← matches_symbol_iff]
                  exact List.find?_eq_none.mp hentry rebinding hmem
              | some rebinding =>
                  refine .inl ⟨rebinding, find_rebinding_cons_some hentry _, ?_⟩
                  obtain ⟨hmatches, front, back, rfl, hfront⟩ :=
                    List.find?_eq_some_iff_append.mp hentry
                  refine ⟨events, front, back, [], rfl, matches_symbol_iff.mp hmatches, ?_,
                    fun _ h => by cases h⟩
                  intro other hother
                  rw [← matches_symbol_iff]
                  simpa using hfront other hother

/-- In whatever order images are loaded and symbols are rebound, every pointer for a symbol in a
data segment of an image is bound to the replacement of the last call that names the symbol, and to
where the linker had bound it if there is none. -/
theorem newest_rebinding_wins (linkEdit : LinkEdit) (memory : Memory) (events : List Event)
    (hfits : Admissible (step linkEdit) (Fits linkEdit) (Process.start memory) events)
    (hglobal : ∀ event ∈ events, event.isGlobal = true) :
    ∀ loaded ∈ loadedImages events, ∀ address symbolName,
      loaded.1.HasPointer linkEdit address symbolName →
      (∃ rebinding, LastNamed events symbolName rebinding ∧
        (run (step linkEdit) (Process.start memory) events).memory address =
          rebinding.replacement) ∨
      Unnamed events symbolName ∧
        (run (step linkEdit) (Process.start memory) events).memory address =
          originalBinding loaded.2 address := by
  have hstep : ∀ process event, (process.Separate linkEdit ∧ process.Newest linkEdit) →
      (Fits linkEdit process event ∧ event.isGlobal = true) →
      (step linkEdit process event).Separate linkEdit ∧
        (step linkEdit process event).Newest linkEdit := by
    rintro process event ⟨hseparate, hnewest⟩ ⟨hevent, hglobal⟩
    exact ⟨hseparate.keep hevent, hnewest.keep hseparate hevent hglobal⟩
  have hstart : (Process.start memory).Separate linkEdit ∧
      (Process.start memory).Newest linkEdit := ⟨separate_start memory, newest_start memory⟩
  have hrun := (run_invariant hstep hstart (hfits.and_forall hglobal)).2
  obtain ⟨hhead, himages⟩ := run_state linkEdit memory events
  intro loaded hloaded address symbolName hpointer
  have hbound := hrun loaded (himages ▸ hloaded) ⟨address, symbolName⟩
    ((mem_slots_iff linkEdit).mpr hpointer)
  rw [hhead, bound] at hbound
  rcases find_rebinding_registered events symbolName with ⟨rebinding, hfind, hlast⟩ | ⟨hfind, hnone⟩
  · rw [hfind] at hbound
    exact .inl ⟨rebinding, hlast, hbound⟩
  · rw [hfind] at hbound
    exact .inr ⟨hnone, hbound⟩

/-- The second pointer of the second image is bound by the call that was made before the image was
loaded. -/
theorem newest_rebinding_wins_sample :
    let process := run (step sampleLinkEdit) (Process.start fun _ => 0) sampleEvents
    (process.memory 100 = 72 ∧ process.memory 208 = 81) ∧
      ((∃ rebinding, LastNamed sampleEvents ['_', 'o', 'p', 'e', 'n'] rebinding ∧
          process.memory 200 = rebinding.replacement) ∨
        Unnamed sampleEvents ['_', 'o', 'p', 'e', 'n'] ∧
          process.memory 200 = originalBinding [(200, 11), (208, 12)] 200) :=
  ⟨⟨by decide +kernel, by decide +kernel⟩,
    newest_rebinding_wins sampleLinkEdit _ sampleEvents (by decide +kernel) (by decide +kernel)
      (sampleImage 200, [(200, 11), (208, 12)]) (by decide +kernel) 200 ['_', 'o', 'p', 'e', 'n']
      ((mem_slots_iff _).mp (by decide +kernel : (⟨200, ['_', 'o', 'p', 'e', 'n']⟩ : Slot) ∈
        (sampleImage 200).slots sampleLinkEdit))⟩

end Process

end Component.Fishhook

import Mathlib

/-!
# Rebinding symbols

`fishhook.c` changes the pointers through which the images of a process call functions of other
images. An image lists in its sections of symbol pointers, one after another, pointers that the
dynamic linker has bound; the indirect symbol table and the symbol table tell which symbol a pointer
is for. `rebind_symbols` puts replacements for some symbols at the head of a list of rebindings and
goes through all images, those loaded already and those loaded later, to write the replacements over
the pointers. Where the pointer was bound to before is stored for the replacement to call.

Addresses and pointers are machine words. The memory holds pointers; the tables that the linker only
reads are apart from it in `LinkEdit`. Changes of the protection of pages are not modelled.
-/

namespace Component.Fishhook

/-- An address, also that of a function. -/
abbrev Address := UInt64

/-- A string without the zero at its end. -/
abbrev CString := List Char

/-- The pointers in memory. -/
abbrev Memory := Address → Address

/-- What the linker has left for reading: numbers and strings by their addresses. -/
structure LinkEdit where
  uint32At : Address → UInt32
  stringAt : Address → CString

/-- `struct rebinding`. -/
structure Rebinding where
  name : CString
  replacement : Address
  replaced : Option Address
  deriving DecidableEq, Repr

/-- `struct rebindings_entry` with all that follow it. -/
abbrev RebindingsEntry := List (List Rebinding)

/-- `section_t`. -/
structure Section where
  addr : UInt64
  size : UInt64
  flags : UInt32
  reserved1 : UInt32
  deriving DecidableEq, Repr

/-- The load commands that are looked at. -/
inductive LoadCommand where
  | segment (segname : CString) (vmaddr fileoff : UInt64) (sections : List Section)
  | symtab (symoff stroff : UInt32)
  | dysymtab (indirectsymoff nindirectsyms : UInt32)
  | other
  deriving DecidableEq, Repr

/-- An image: its load commands, where it has been moved to and whether `dladdr` finds it. -/
structure Image where
  commands : List LoadCommand
  slide : UInt64
  dladdr : Bool
  deriving DecidableEq, Repr

/-! ## Constants -/

/-- `SEG_LINKEDIT`. -/
def segLinkedit : CString := ['_', '_', 'L', 'I', 'N', 'K', 'E', 'D', 'I', 'T']

/-- `SEG_DATA`. -/
def segData : CString := ['_', '_', 'D', 'A', 'T', 'A']

/-- `SEG_DATA_CONST`. -/
def segDataConst : CString := ['_', '_', 'D', 'A', 'T', 'A', '_', 'C', 'O', 'N', 'S', 'T']

/-- `INDIRECT_SYMBOL_LOCAL`. -/
def indirectSymbolLocal : UInt32 := 0x80000000

/-- `INDIRECT_SYMBOL_ABS`. -/
def indirectSymbolAbs : UInt32 := 0x40000000

/-- `SECTION_TYPE`. -/
def sectionType : UInt32 := 0x000000ff

/-- `S_NON_LAZY_SYMBOL_POINTERS`. -/
def sNonLazySymbolPointers : UInt32 := 0x6

/-- `S_LAZY_SYMBOL_POINTERS`. -/
def sLazySymbolPointers : UInt32 := 0x7

/-! ## The list of rebindings -/

/-- `prepend_rebindings`, where `allocated` says that memory could be allocated. -/
def prependRebindings (rebindingsHead : RebindingsEntry) (rebindings : List Rebinding)
    (allocated : Bool) : Int × RebindingsEntry :=
  if allocated then (0, rebindings :: rebindingsHead) else (-1, rebindingsHead)

/-- The name of a symbol without its first character is the name of the rebinding. A symbol name of
one character matches nothing. -/
def Rebinding.matchesSymbol (symbolName : CString) (rebinding : Rebinding) : Bool :=
  match symbolName with
  | _ :: second :: rest => second :: rest == rebinding.name
  | _ => false

/-- The two loops over the list of arrays of rebindings, which stop at the first that matches. -/
def findRebinding : RebindingsEntry → CString → Option Rebinding
  | [], _ => none
  | rebindings :: next, symbolName =>
      -- every call puts its array in front, so the newest one is searched first
      match rebindings.find? (Rebinding.matchesSymbol symbolName) with
      | some rebinding => some rebinding
      | none => findRebinding next symbolName

/-! ## The pointers of an image -/

/-- A pointer to a symbol is bound to the replacement of the first rebinding that matches. What it
was bound to is stored for the replacement, unless it is the replacement. -/
def rebindPointer (rebindings : RebindingsEntry) (memory : Memory) (pointer : Address)
    (symbolName : CString) : Memory :=
  match findRebinding rebindings symbolName with
  | none => memory
  | some rebinding =>
      let memory :=
        match rebinding.replaced with
        | none => memory
        | some replaced =>
            -- a pointer that is gone through again must not make the replacement call itself
            if memory pointer ≠ rebinding.replacement then
              Function.update memory replaced (memory pointer)
            else memory
      Function.update memory pointer rebinding.replacement

/-- The addresses of the tables of an image. -/
structure SymbolTables where
  symtab : Address
  strtab : Address
  indirectSymtab : Address
  deriving DecidableEq, Repr

section Tables

variable (linkEdit : LinkEdit)

/-- The entry of the indirect symbol table for a pointer of a section. -/
def symtabIndex (tables : SymbolTables) (sect : Section) (i : Nat) : UInt32 :=
  linkEdit.uint32At (tables.indirectSymtab + 4 * (sect.reserved1.toUInt64 + .ofNat i))

/-- The name of a symbol of the symbol table. -/
def symbolName (tables : SymbolTables) (symtabIndex : UInt32) : CString :=
  let strtabOffset := linkEdit.uint32At (tables.symtab + 16 * symtabIndex.toUInt64)
  linkEdit.stringAt (tables.strtab + strtabOffset.toUInt64)

/-- The pointer has no symbol. -/
def withoutSymbol (symtabIndex : UInt32) : Bool :=
  symtabIndex == indirectSymbolAbs || symtabIndex == indirectSymbolLocal ||
    symtabIndex == (indirectSymbolLocal ||| indirectSymbolAbs)

/-- `indirect_symbol_bindings + i`. -/
def pointerAddress (slide : UInt64) (sect : Section) (i : Nat) : Address :=
  slide + sect.addr + 8 * .ofNat i

/-- One turn of the loop in `perform_rebinding_with_section`. -/
def rebindIndex (rebindings : RebindingsEntry) (sect : Section) (slide : UInt64)
    (tables : SymbolTables) (memory : Memory) (i : Nat) : Memory :=
  let index := symtabIndex linkEdit tables sect i
  if withoutSymbol index then memory
  else rebindPointer rebindings memory (pointerAddress slide sect i)
    (symbolName linkEdit tables index)

/-- `perform_rebinding_with_section`. -/
def performRebindingWithSection (rebindings : RebindingsEntry) (sect : Section) (slide : UInt64)
    (tables : SymbolTables) (memory : Memory) : Memory :=
  (List.range (sect.size.toNat / 8)).foldl
    (rebindIndex linkEdit rebindings sect slide tables) memory

/-! ## Images -/

/-- What the first loop over the load commands finds. -/
structure FoundCommands where
  linkeditSegment : Option (UInt64 × UInt64)
  symtabCmd : Option (UInt32 × UInt32)
  dysymtabCmd : Option (UInt32 × UInt32)
  deriving DecidableEq, Repr

/-- One turn of the first loop over the load commands. -/
def findCommand (found : FoundCommands) : LoadCommand → FoundCommands
  | .segment segname vmaddr fileoff _ =>
      if segname = segLinkedit then { found with linkeditSegment := some (vmaddr, fileoff) }
      else found
  | .symtab symoff stroff => { found with symtabCmd := some (symoff, stroff) }
  | .dysymtab indirectsymoff nindirectsyms =>
      { found with dysymtabCmd := some (indirectsymoff, nindirectsyms) }
  | .other => found

/-- The tables of an image, if it has what is needed for them. -/
def Image.tables (image : Image) : Option SymbolTables :=
  match image.commands.foldl findCommand ⟨none, none, none⟩ with
  | ⟨some (vmaddr, fileoff), some (symoff, stroff), some (indirectsymoff, nindirectsyms)⟩ =>
      if nindirectsyms = 0 then none
      else
        -- the tables are given by their offsets in the file, not in memory
        let linkeditBase := image.slide + vmaddr - fileoff
        some ⟨linkeditBase + symoff.toUInt64, linkeditBase + stroff.toUInt64,
          linkeditBase + indirectsymoff.toUInt64⟩
  | _ => none

/-- The section is one of lazy or of non-lazy symbol pointers. -/
def Section.hasSymbolPointers (sect : Section) : Bool :=
  sect.flags &&& sectionType == sLazySymbolPointers ||
    sect.flags &&& sectionType == sNonLazySymbolPointers

/-- One turn of the second loop over the load commands. -/
def rebindCommand (rebindings : RebindingsEntry) (slide : UInt64) (tables : SymbolTables)
    (memory : Memory) : LoadCommand → Memory
  | .segment segname _ _ sections =>
      if segname ≠ segData ∧ segname ≠ segDataConst then memory
      else
        sections.foldl (fun memory sect =>
          if sect.hasSymbolPointers then
            performRebindingWithSection linkEdit rebindings sect slide tables memory
          else memory) memory
  | _ => memory

/-- `rebind_symbols_for_image`. -/
def rebindSymbolsForImage (rebindings : RebindingsEntry) (image : Image) (memory : Memory) :
    Memory :=
  if !image.dladdr then memory
  else
    match image.tables with
    | none => memory
    | some tables =>
        image.commands.foldl (rebindCommand linkEdit rebindings image.slide tables) memory

end Tables

/-! ## The process -/

/-- A process: the pointers in memory, the images that are loaded and the list of rebindings. With
each image stands what the linker bound its pointers to. -/
structure Process where
  memory : Memory
  images : List (Image × List (Address × Address))
  rebindingsHead : RebindingsEntry

/-- What happens in a process. The functions may run out of memory. -/
inductive Event where
  | loadImage (image : Image) (bindings : List (Address × Address))
  | rebindSymbols (rebindings : List Rebinding) (allocated : Bool)
  | rebindSymbolsImage (index : Nat) (rebindings : List Rebinding) (allocated : Bool)
  deriving DecidableEq, Repr

section Process

variable (linkEdit : LinkEdit)

/-- The images are gone through one after another. -/
def rebindImages (rebindings : RebindingsEntry) (images : List (Image × List (Address × Address)))
    (memory : Memory) : Memory :=
  images.foldl (fun memory loaded => rebindSymbolsForImage linkEdit rebindings loaded.1 memory)
    memory

/-- `rebind_symbols`. The first call registers a callback for images that are added, which the
linker also calls for the images there are; later calls go through these images themselves. -/
def rebindSymbols (rebindings : List Rebinding) (allocated : Bool) (process : Process) :
    Int × Process :=
  let (retval, rebindingsHead) := prependRebindings process.rebindingsHead rebindings allocated
  if retval < 0 then (retval, process)
  else
    (retval, { process with
      rebindingsHead := rebindingsHead
      memory := rebindImages linkEdit rebindingsHead process.images process.memory })

/-- `rebind_symbols_image` for an image that is loaded. Without memory it goes through the image
with an empty list. -/
def rebindSymbolsImage (index : Nat) (rebindings : List Rebinding) (allocated : Bool)
    (process : Process) : Int × Process :=
  let (retval, rebindingsHead) := prependRebindings [] rebindings allocated
  match process.images[index]? with
  | none => (retval, process)
  | some loaded =>
      (retval, { process with
        memory := rebindSymbolsForImage linkEdit rebindingsHead loaded.1 process.memory })

/-- The linker binds pointers. -/
def bindAll (bindings : List (Address × Address)) (memory : Memory) : Memory :=
  bindings.foldl (fun memory binding => Function.update memory binding.1 binding.2) memory

/-- The linker loads an image: it binds the pointers, and calls the callback if `rebind_symbols` has
registered one. -/
def loadImage (image : Image) (bindings : List (Address × Address)) (process : Process) : Process :=
  let memory := bindAll bindings process.memory
  { process with
    images := process.images ++ [(image, bindings)]
    memory :=
      -- the callback is registered by the first call that succeeds
      if process.rebindingsHead.isEmpty then memory
      else rebindSymbolsForImage linkEdit process.rebindingsHead image memory }

/-- One event in a process. -/
def step (process : Process) : Event → Process
  | .loadImage image bindings => loadImage linkEdit image bindings process
  | .rebindSymbols rebindings allocated => (rebindSymbols linkEdit rebindings allocated process).2
  | .rebindSymbolsImage index rebindings allocated =>
      (rebindSymbolsImage linkEdit index rebindings allocated process).2

/-- A process before anything is loaded. -/
def Process.start (memory : Memory) : Process := ⟨memory, [], []⟩

end Process

end Component.Fishhook

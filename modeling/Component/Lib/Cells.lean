import Mathlib

/-!
# Loops over independent cells of a memory

A loop visits keys one after another and writes the cell of each key. It may use other addresses of
the memory as scratch space. If the cells are different and none of them is scratch, then each cell
ends up with the value that its own turn computes from what it held before the loop
(`Writes.foldl_cell`), and the rest of the memory is as before (`Writes.foldl_frame`). What every
turn preserves that finds its cell as it was before the loop holds after the loop
(`Writes.foldl_invariant`).
-/

namespace Component.Lib.Cells

variable {α β κ : Type} {cell : κ → α} {scratch : Set α} {value : κ → β → β}
  {write : (α → β) → κ → α → β}

/-- A turn of the loop: the cell of the key gets a value that depends on the one it held, and
otherwise scratch space only is written. -/
structure Writes (cell : κ → α) (scratch : Set α) (value : κ → β → β)
    (write : (α → β) → κ → α → β) : Prop where
  turn : ∀ memory key, write memory key (cell key) = value key (memory (cell key))
  frame : ∀ memory key address, address ≠ cell key → address ∉ scratch →
    write memory key address = memory address

/-- Addresses that are neither cells nor scratch are left alone. -/
theorem Writes.foldl_frame (h : Writes cell scratch value write) {keys : List κ} {address : α}
    (hcells : ∀ key ∈ keys, address ≠ cell key) (hscratch : address ∉ scratch)
    (memory : α → β) : keys.foldl write memory address = memory address := by
  induction keys generalizing memory with
  | nil => rfl
  | cons key keys ih =>
      rw [List.foldl_cons, ih (fun key hkey => hcells key (List.mem_cons_of_mem _ hkey))]
      exact h.frame memory key address (hcells key List.mem_cons_self) hscratch

/-- Each cell is written in its own turn only. -/
theorem Writes.foldl_cell (h : Writes cell scratch value write) {keys : List κ}
    (hdistinct : (keys.map cell).Nodup) (hscratch : ∀ key ∈ keys, cell key ∉ scratch) {key : κ}
    (hkey : key ∈ keys) (memory : α → β) :
    keys.foldl write memory (cell key) = value key (memory (cell key)) := by
  induction keys generalizing memory with
  | nil => cases hkey
  | cons first keys ih =>
      rw [List.map_cons, List.nodup_cons] at hdistinct
      obtain ⟨hfirst, hdistinct⟩ := hdistinct
      have hlater : ∀ other ∈ keys, cell first ≠ cell other := by
        intro other hother heq
        exact hfirst (heq ▸ List.mem_map_of_mem hother)
      have hrest : ∀ other ∈ keys, cell other ∉ scratch :=
        fun other hother => hscratch other (List.mem_cons_of_mem _ hother)
      rw [List.foldl_cons]
      rcases List.mem_cons.mp hkey with rfl | hmem
      · rw [h.foldl_frame hlater (hscratch key List.mem_cons_self), h.turn]
      · rw [ih hdistinct hrest hmem,
          h.frame memory first (cell key) (hlater key hmem).symm (hrest key hmem)]

/-- What every turn preserves that finds its cell as it was before the loop holds after the loop. -/
theorem Writes.foldl_invariant (h : Writes cell scratch value write) (inv : (α → β) → Prop)
    {keys : List κ} (hdistinct : (keys.map cell).Nodup)
    (hscratch : ∀ key ∈ keys, cell key ∉ scratch) {memory : α → β}
    (hturn : ∀ key ∈ keys, ∀ current : α → β, current (cell key) = memory (cell key) →
      inv current → inv (write current key)) (hinit : inv memory) :
    inv (keys.foldl write memory) := by
  -- the cells that have not had their turn are as they were
  suffices ∀ current : α → β, (∀ key ∈ keys, current (cell key) = memory (cell key)) →
      inv current → inv (keys.foldl write current) from this memory (fun _ _ => rfl) hinit
  clear hinit
  induction keys with
  | nil => exact fun _ _ hcurrent => hcurrent
  | cons key keys ih =>
      intro current hcells hcurrent
      rw [List.map_cons, List.nodup_cons] at hdistinct
      obtain ⟨hkey, hdistinct⟩ := hdistinct
      have hrest : ∀ other ∈ keys, cell other ∉ scratch :=
        fun other hother => hscratch other (List.mem_cons_of_mem _ hother)
      refine ih hdistinct hrest (fun other hother => hturn other (List.mem_cons_of_mem _ hother))
        (write current key) (fun other hother => ?_) ?_
      · rw [h.frame current key (cell other) ?_ (hrest other hother)]
        · exact hcells other (List.mem_cons_of_mem _ hother)
        · exact fun heq => hkey (heq ▸ List.mem_map_of_mem hother)
      · exact hturn key List.mem_cons_self current (hcells key List.mem_cons_self) hcurrent

end Component.Lib.Cells

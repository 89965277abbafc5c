import Mathlib

/-!
# Selecting an extreme element by a linear scan

`scan better best candidates` walks through `candidates` once, keeping the best element met so
far and replacing it only by a strictly better one. It is the loop behind every minimum or
maximum search over an unordered collection. `scan_mem` and `scan_not_better` are its
specification for a strict weak order, and `scan_min` and `scan_max` read it for a key into a
linear order. `scan_stable` says when the scan leaves its start alone.
-/

namespace Component.Lib.Selection

variable {α β : Type*}

/-- Keep `best` until a strictly better candidate is met, then keep that one. -/
def scan (better : α → α → Prop) [DecidableRel better] (best : α) (candidates : List α) : α :=
  candidates.foldl (fun kept candidate => if better candidate kept then candidate else kept) best

variable {better : α → α → Prop} [DecidableRel better]

/-- Without candidates the best one stays. -/
@[simp] theorem scan_nil (best : α) : scan better best [] = best := rfl

/-- A better candidate takes the place of the best one. -/
@[simp] theorem scan_cons (best candidate : α) (rest : List α) :
    scan better best (candidate :: rest) =
      scan better (if better candidate best then candidate else best) rest := rfl

/-- The scan returns its start or one of the candidates. -/
theorem scan_mem (better : α → α → Prop) [DecidableRel better] (best : α)
    (candidates : List α) : scan better best candidates ∈ best :: candidates := by
  induction candidates generalizing best with
  | nil => simp
  | cons candidate rest ih =>
      rw [scan_cons]
      split
      · exact List.mem_cons_of_mem _ (ih candidate)
      · rcases List.mem_cons.mp (ih best) with h | h
        · rw [h]
          exact List.mem_cons_self
        · exact List.mem_cons_of_mem _ (List.mem_cons_of_mem _ h)

/-- A scan whose candidates never improve on the start returns the start. -/
theorem scan_stable {best : α} {candidates : List α}
    (h : ∀ candidate ∈ candidates, ¬ better candidate best) :
    scan better best candidates = best := by
  induction candidates with
  | nil => rfl
  | cons candidate rest ih =>
      rw [scan_cons, if_neg (h candidate List.mem_cons_self)]
      exact ih (fun other hother => h other (List.mem_cons_of_mem _ hother))

/-- For a strict weak order, nothing the scan has met is better than its result. -/
theorem scan_not_better (better : α → α → Prop) [DecidableRel better]
    (hasymm : ∀ a b, better a b → ¬ better b a)
    (htrans : ∀ a b c, ¬ better a b → ¬ better b c → ¬ better a c)
    (best : α) (candidates : List α) {met : α} (hmet : met ∈ best :: candidates) :
    ¬ better met (scan better best candidates) := by
  induction candidates generalizing best met with
  | nil =>
      obtain rfl := List.mem_singleton.mp hmet
      exact fun h => hasymm _ _ h h
  | cons candidate rest ih =>
      rw [scan_cons]
      -- whichever of the two survives this step, the other is no better than it
      split
      next hbetter =>
        rcases List.mem_cons.mp hmet with rfl | hmet
        · exact htrans _ _ _ (hasymm _ _ hbetter) (ih candidate List.mem_cons_self)
        · exact ih candidate hmet
      next hbetter =>
        rcases List.mem_cons.mp hmet with rfl | hmet
        · exact ih met List.mem_cons_self
        · rcases List.mem_cons.mp hmet with rfl | hmet
          · exact htrans _ _ _ hbetter (ih best List.mem_cons_self)
          · exact ih best (List.mem_cons_of_mem _ hmet)

/-- A scan for a strictly smaller key ends on a least key. -/
theorem scan_min [LinearOrder β] (key : α → β) (best : α) (candidates : List α) {met : α}
    (hmet : met ∈ best :: candidates) :
    key (scan (fun a b => key a < key b) best candidates) ≤ key met :=
  not_lt.mp (scan_not_better (fun a b => key a < key b) (fun _ _ h => not_lt.mpr h.le)
    (fun _ _ _ hab hbc => not_lt.mpr ((not_lt.mp hbc).trans (not_lt.mp hab)))
    best candidates hmet)

/-- A scan for a strictly larger key ends on a greatest key. -/
theorem scan_max [LinearOrder β] (key : α → β) (best : α) (candidates : List α) {met : α}
    (hmet : met ∈ best :: candidates) :
    key met ≤ key (scan (fun a b => key b < key a) best candidates) :=
  not_lt.mp (scan_not_better (fun a b => key b < key a) (fun _ _ h => not_lt.mpr h.le)
    (fun _ _ _ hab hbc => not_lt.mpr ((not_lt.mp hab).trans (not_lt.mp hbc)))
    best candidates hmet)

end Component.Lib.Selection

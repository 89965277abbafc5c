import Mathlib

/-!
# Breaking a sequence into lines

Items of given widths are set in lines of a given limit, from the left and with a fixed space
between neighbours. A way of breaking the first `count` items into consecutive lines is the function
`line` from items to line numbers, and `IsBreaking` says that every line fits. `firstFit` puts every
item on the current line if it fits there and on a new line otherwise. It stays ahead of every
other breaking (`first_fit_stays_ahead`): it is on an earlier line, or on the same line and no
further to the right. So it uses the fewest lines (`first_fit_is_least`).
-/

namespace Component.Lib.LineBreaking

variable {K : Type*} [AddCommGroup K] [LinearOrder K]

/-- The right edge of an item when every line is set from the left. -/
def rightEdge (space : K) (width : Nat → K) (line : Nat → Nat) : Nat → K
  | 0 => width 0
  | item + 1 =>
      if line (item + 1) = line item then
        rightEdge space width line item + space + width (item + 1)
      else width (item + 1)

/-- The line numbers break the first `count` items into consecutive lines that fit. -/
structure IsBreaking (limit space : K) (width : Nat → K) (count : Nat) (line : Nat → Nat) :
    Prop where
  first : line 0 = 0
  next : ∀ item, item + 1 < count → line (item + 1) = line item ∨ line (item + 1) = line item + 1
  fits : ∀ item < count, rightEdge space width line item ≤ limit

/-- The right edge and the line of an item under first fit. -/
def firstFit (limit space : K) (width : Nat → K) : Nat → K × Nat
  | 0 => (width 0, 0)
  | item + 1 =>
      let (edge, line) := firstFit limit space width item
      if limit < edge + space + width (item + 1) then (width (item + 1), line + 1)
      else (edge + space + width (item + 1), line)

/-- The line of an item under first fit. -/
def firstFitLine (limit space : K) (width : Nat → K) (item : Nat) : Nat :=
  (firstFit limit space width item).2

/-- The right edge of an item under first fit. -/
def firstFitEdge (limit space : K) (width : Nat → K) (item : Nat) : K :=
  (firstFit limit space width item).1

variable {limit space : K} {width : Nat → K}

/-- An item that fits continues the line. -/
theorem first_fit_of_fits {item : Nat}
    (h : firstFitEdge limit space width item + space + width (item + 1) ≤ limit) :
    firstFitLine limit space width (item + 1) = firstFitLine limit space width item ∧
      firstFitEdge limit space width (item + 1) =
        firstFitEdge limit space width item + space + width (item + 1) := by
  unfold firstFitEdge at h
  simp only [firstFitLine, firstFitEdge, firstFit, if_neg (not_lt.mpr h), and_self]

/-- An item that does not fit starts a line. -/
theorem first_fit_of_overflow {item : Nat}
    (h : limit < firstFitEdge limit space width item + space + width (item + 1)) :
    firstFitLine limit space width (item + 1) = firstFitLine limit space width item + 1 ∧
      firstFitEdge limit space width (item + 1) = width (item + 1) := by
  unfold firstFitEdge at h
  simp only [firstFitLine, firstFitEdge, firstFit, if_pos h, and_self]

/-- First fit puts the next item on the same line or on the next one. -/
theorem first_fit_line_succ (limit space : K) (width : Nat → K) (item : Nat) :
    firstFitLine limit space width (item + 1) = firstFitLine limit space width item ∨
      firstFitLine limit space width (item + 1) = firstFitLine limit space width item + 1 := by
  rcases le_or_gt (firstFitEdge limit space width item + space + width (item + 1)) limit with h | h
  · exact .inl (first_fit_of_fits h).1
  · exact .inr (first_fit_of_overflow h).1

/-- The lines of first fit do not decrease. -/
theorem first_fit_line_mono (limit space : K) (width : Nat → K) :
    Monotone (firstFitLine limit space width) := by
  refine monotone_nat_of_le_succ ?_
  intro item
  have := first_fit_line_succ limit space width item
  omega

/-- There are at most as many lines as items. -/
theorem first_fit_line_le (limit space : K) (width : Nat → K) (item : Nat) :
    firstFitLine limit space width item ≤ item := by
  induction item with
  | zero => exact le_rfl
  | succ item ih =>
      have := first_fit_line_succ limit space width item
      omega

/-- First fit sets its lines from the left. -/
theorem right_edge_first_fit (limit space : K) (width : Nat → K) (item : Nat) :
    rightEdge space width (firstFitLine limit space width) item =
      firstFitEdge limit space width item := by
  induction item with
  | zero => rfl
  | succ item ih =>
      rw [rightEdge, ih]
      rcases le_or_gt (firstFitEdge limit space width item + space + width (item + 1)) limit
        with h | h
      · rw [if_pos (first_fit_of_fits h).1, (first_fit_of_fits h).2]
      · rw [if_neg, (first_fit_of_overflow h).2]
        rw [(first_fit_of_overflow h).1]
        omega

/-- First fit breaks items that fit one by one. -/
theorem first_fit_is_breaking {count : Nat} (hwidth : ∀ item < count, width item ≤ limit) :
    IsBreaking limit space width count (firstFitLine limit space width) where
  first := rfl
  next item _ := first_fit_line_succ limit space width item
  fits item hitem := by
    rw [right_edge_first_fit]
    cases item with
    | zero => exact hwidth 0 hitem
    | succ item =>
        rcases le_or_gt (firstFitEdge limit space width item + space + width (item + 1)) limit
          with h | h
        · exact (first_fit_of_fits h).2.trans_le h
        · exact (first_fit_of_overflow h).2.trans_le (hwidth (item + 1) hitem)

section Nonneg

variable [IsOrderedAddMonoid K] {count : Nat} (hspace : 0 ≤ space)
  (hwidth : ∀ item < count, 0 ≤ width item)
include hspace hwidth

/-- An item ends at least its own width from the left edge. -/
theorem width_le_right_edge (line : Nat → Nat) {item : Nat} (hitem : item < count) :
    width item ≤ rightEdge space width line item := by
  induction item with
  | zero => exact le_rfl
  | succ item ih =>
      rw [rightEdge]
      split
      · have hbefore := (hwidth item (by omega)).trans (ih (by omega))
        exact le_add_of_nonneg_left (add_nonneg hbefore hspace)
      · exact le_rfl

/-- At every item first fit is on an earlier line than any other breaking, or on the same line
and no further to the right. -/
theorem first_fit_stays_ahead {line : Nat → Nat} (h : IsBreaking limit space width count line)
    {item : Nat} (hitem : item < count) :
    firstFitLine limit space width item < line item ∨
      firstFitLine limit space width item = line item ∧
        firstFitEdge limit space width item ≤ rightEdge space width line item := by
  induction item with
  | zero => exact .inr ⟨h.first.symm, le_rfl⟩
  | succ item ih =>
      have hnext := h.next item hitem
      have hfits := h.fits (item + 1) hitem
      rcases le_or_gt (firstFitEdge limit space width item + space + width (item + 1)) limit
        with hstay | hbreak
      · -- first fit stays on its line, and the other breaking never goes back to an earlier one
        rw [(first_fit_of_fits hstay).1, (first_fit_of_fits hstay).2]
        rcases ih (by omega) with hahead | ⟨hsame, hedge⟩
        · exact .inl (by omega)
        · rcases hnext with hcontinue | hcontinue
          · refine .inr ⟨by omega, ?_⟩
            rw [rightEdge, if_pos hcontinue]
            gcongr
          · exact .inl (by omega)
      · -- first fit starts a line, where no breaking can be further to the left
        rw [(first_fit_of_overflow hbreak).1, (first_fit_of_overflow hbreak).2]
        have hedge := width_le_right_edge hspace hwidth line hitem
        rcases ih (by omega) with hahead | ⟨hsame, hle⟩
        · rcases Nat.lt_or_ge (firstFitLine limit space width item + 1) (line (item + 1))
            with hlt | hge
          · exact .inl hlt
          · exact .inr ⟨by omega, hedge⟩
        · rcases hnext with hcontinue | hcontinue
          · -- the other breaking has no more room on its line than first fit has
            rw [rightEdge, if_pos hcontinue] at hfits
            have hroom : firstFitEdge limit space width item + space + width (item + 1) ≤
              rightEdge space width line item + space + width (item + 1) := by gcongr
            exact absurd (hroom.trans hfits) (not_le.mpr hbreak)
          · exact .inr ⟨by omega, hedge⟩

/-- First fit uses the fewest lines of all breakings. -/
theorem first_fit_is_least (hlimit : ∀ item < count, width item ≤ limit) (hcount : 0 < count) :
    IsLeast {lines | ∃ line, IsBreaking limit space width count line ∧
      lines = line (count - 1) + 1} (firstFitLine limit space width (count - 1) + 1) := by
  constructor
  · exact ⟨_, first_fit_is_breaking hlimit, rfl⟩
  · rintro lines ⟨line, hline, rfl⟩
    have hahead := first_fit_stays_ahead hspace hwidth hline (show count - 1 < count by omega)
    omega

end Nonneg

end Component.Lib.LineBreaking

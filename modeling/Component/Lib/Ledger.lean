import Mathlib

/-!
# Totals that are made of shares

Several holders each add a share to a common total (`Balanced`). A holder that changes its share
has to change the total by the same amount, and holders come and go together with their shares.
-/

namespace Component.Lib.Ledger

variable {κ α : Type} [AddCommGroup α]

/-- The total is the base and the shares of the holders. -/
def Balanced (base total : α) (holders : Finset κ) (share : κ → α) : Prop :=
  total = base + ∑ holder ∈ holders, share holder

variable {base base' total total' : α} {holders : Finset κ} {share share' : κ → α} {a : κ}

/-- Without members the total is the base. -/
theorem balanced_empty : Balanced base total (∅ : Finset κ) share ↔ total = base := by
  unfold Balanced
  rw [Finset.sum_empty, add_zero]

/-- With one member the total is the base and its share. -/
theorem balanced_singleton : Balanced base total {a} share ↔ total = base + share a := by
  unfold Balanced
  rw [Finset.sum_singleton]

/-- A share of somebody who is not a holder does not count. -/
theorem Balanced.outside (h : Balanced base total holders share) (ha : a ∉ holders)
    (hothers : ∀ b, b ≠ a → share' b = share b) (htotal : total' - base' = total - base) :
    Balanced base' total' holders share' := by
  have hshares : ∑ b ∈ holders, share' b = ∑ b ∈ holders, share b :=
    Finset.sum_congr rfl fun b hb => hothers b fun heq => ha (heq ▸ hb)
  unfold Balanced at h ⊢
  rw [hshares, ← sub_eq_iff_eq_add', htotal, h, add_sub_cancel_left]

variable [DecidableEq κ]

/-- The share of one holder changes, and the total and the base make up for it. -/
theorem Balanced.change (h : Balanced base total holders share) (ha : a ∈ holders)
    (hothers : ∀ b, b ≠ a → share' b = share b)
    (hchange : total' - base' - share' a = total - base - share a) :
    Balanced base' total' holders share' := by
  unfold Balanced at h ⊢
  have hrest : ∑ b ∈ holders.erase a, share' b = ∑ b ∈ holders.erase a, share b :=
    Finset.sum_congr rfl fun b hb => hothers b (Finset.ne_of_mem_erase hb)
  rw [← Finset.add_sum_erase _ _ ha] at h
  rw [← Finset.add_sum_erase _ _ ha, hrest]
  have hsum : total - base - share a = ∑ b ∈ holders.erase a, share b := by
    rw [h]
    abel
  rw [← hsum, ← hchange]
  abel

/-- A new holder brings its share. -/
theorem Balanced.join (h : Balanced base total holders share) (ha : a ∉ holders)
    (hothers : ∀ b, b ≠ a → share' b = share b) (htotal : total' = total + share' a) :
    Balanced base total' (insert a holders) share' := by
  have hrest := h.outside ha hothers rfl
  unfold Balanced at hrest ⊢
  rw [Finset.sum_insert ha, htotal, hrest]
  abel

/-- A holder leaves with its share. -/
theorem Balanced.leave (h : Balanced base total holders share) (ha : a ∈ holders)
    (hothers : ∀ b, b ≠ a → share' b = share b) (htotal : total' = total - share a) :
    Balanced base total' (holders.erase a) share' := by
  have hrest : ∑ b ∈ holders.erase a, share' b = ∑ b ∈ holders.erase a, share b :=
    Finset.sum_congr rfl fun b hb => hothers b (Finset.ne_of_mem_erase hb)
  unfold Balanced at h ⊢
  rw [← Finset.add_sum_erase _ _ ha] at h
  rw [htotal, h, hrest]
  abel

end Component.Lib.Ledger

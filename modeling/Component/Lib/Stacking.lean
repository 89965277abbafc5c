import Mathlib

/-!
# Stacking items in columns

Items of given heights are stacked in a number of columns, with a fixed space between neighbours in
a column. `stackHeight` is the height of one such column. However the items are distributed, the
columns together hold all heights and at least the spaces of the items that cannot be the first of
their column (`le_sum_stack_height`).

Columns whose heights lie close together are not much higher than on average (`Close.card_mul_le`).
So a distribution that keeps the columns close is not much higher than any other one
(`level_le_of_close`).
-/

namespace Component.Lib.Stacking

variable {K : Type*} [Field K] [LinearOrder K] [IsStrictOrderedRing K]

/-- The height of a column with the given items. -/
def stackHeight (space : K) (height : Nat → K) (items : Finset Nat) : K :=
  ∑ item ∈ items, height item + ((items.card - 1 : Nat) : K) * space

/-- The items that are put in a column. -/
def columnItems (column : Nat → Nat) (count position : Nat) : Finset Nat :=
  (Finset.range count).filter (fun item => column item = position)

section Distribution

variable {space : K} {height : Nat → K} {column : Nat → Nat} {count columns : Nat}

/-- A column is at least as high as each of its items. -/
theorem le_stack_height (hspace : 0 ≤ space) {items : Finset Nat}
    (hheight : ∀ item ∈ items, 0 ≤ height item) {item : Nat} (hitem : item ∈ items) :
    height item ≤ stackHeight space height items := by
  have hsingle := Finset.single_le_sum hheight hitem
  have hspaces : 0 ≤ ((items.card - 1 : Nat) : K) * space :=
    mul_nonneg (Nat.cast_nonneg _) hspace
  unfold stackHeight
  linarith

/-- All but one item of every column are below another one. -/
theorem sub_le_sum_card_sub (hcolumn : ∀ item < count, column item < columns) :
    count - columns ≤
      ∑ position ∈ Finset.range columns, ((columnItems column count position).card - 1) := by
  have hcard : count =
      ∑ position ∈ Finset.range columns, (columnItems column count position).card := by
    have hmaps : ∀ item ∈ Finset.range count, column item ∈ Finset.range columns := by
      intro item hitem
      exact Finset.mem_range.mpr (hcolumn item (Finset.mem_range.mp hitem))
    simpa [columnItems] using Finset.card_eq_sum_card_fiberwise hmaps
  have hsum : ∑ position ∈ Finset.range columns, (columnItems column count position).card ≤
      ∑ position ∈ Finset.range columns,
        (((columnItems column count position).card - 1) + 1) :=
    Finset.sum_le_sum fun position _ => by omega
  rw [Finset.sum_add_distrib, Finset.sum_const, Finset.card_range, smul_eq_mul, mul_one] at hsum
  omega

/-- The columns together hold all heights and the spaces that cannot be saved. -/
theorem le_sum_stack_height (hspace : 0 ≤ space)
    (hcolumn : ∀ item < count, column item < columns) :
    ∑ item ∈ Finset.range count, height item + ((count - columns : Nat) : K) * space ≤
      ∑ position ∈ Finset.range columns,
        stackHeight space height (columnItems column count position) := by
  have hmaps : ∀ item ∈ Finset.range count, column item ∈ Finset.range columns := by
    intro item hitem
    exact Finset.mem_range.mpr (hcolumn item (Finset.mem_range.mp hitem))
  have hspaces : ((count - columns : Nat) : K) ≤
      ∑ position ∈ Finset.range columns,
        (((columnItems column count position).card - 1 : Nat) : K) := by
    exact_mod_cast sub_le_sum_card_sub hcolumn
  simp only [stackHeight]
  rw [Finset.sum_add_distrib, ← Finset.sum_mul]
  unfold columnItems at hspaces ⊢
  rw [Finset.sum_fiberwise_of_maps_to hmaps]
  gcongr

end Distribution

/-- No two of the heights are further apart than the bound. -/
def Close (columns : Nat) (bound : K) (level : Nat → K) : Prop :=
  ∀ tall < columns, ∀ short < columns, level tall ≤ level short + bound

variable {columns : Nat} {bound : K} {level : Nat → K}

/-- Every one of the heights is within the bound of their average, less its own share of it. -/
theorem Close.card_mul_le (h : Close columns bound level) {tall : Nat} (htall : tall < columns) :
    (columns : K) * level tall ≤
      ∑ position ∈ Finset.range columns, level position + ((columns : K) - 1) * bound := by
  have hmem : tall ∈ Finset.range columns := Finset.mem_range.mpr htall
  have hothers : ∑ position ∈ (Finset.range columns).erase tall, level tall ≤
      ∑ position ∈ (Finset.range columns).erase tall, (level position + bound) := by
    refine Finset.sum_le_sum fun position hposition => ?_
    exact h tall htall position (Finset.mem_range.mp (Finset.mem_of_mem_erase hposition))
  have hcard : (((Finset.range columns).erase tall).card : K) = columns - 1 := by
    rw [Finset.card_erase_of_mem hmem, Finset.card_range, Nat.cast_sub (by omega), Nat.cast_one]
  rw [Finset.sum_add_distrib, Finset.sum_const, Finset.sum_const, nsmul_eq_mul, nsmul_eq_mul,
    hcard] at hothers
  have hsplit := Finset.add_sum_erase (Finset.range columns) level hmem
  linarith

/-- Columns that hold all items with no more spaces than necessary, and lie no further apart than
the height of another distribution and a space, are less than twice as high as this one, but for a
space. -/
theorem level_le_of_close {space limit : K} {height : Nat → K} {column : Nat → Nat}
    {count : Nat} (hspace : 0 ≤ space) (hclose : Close columns (limit + space) level)
    (htotal : ∑ position ∈ Finset.range columns, level position =
      ∑ item ∈ Finset.range count, height item + ((count - columns : Nat) : K) * space)
    (hcolumn : ∀ item < count, column item < columns)
    (hlimit : ∀ position < columns,
      stackHeight space height (columnItems column count position) ≤ limit)
    {tall : Nat} (htall : tall < columns) :
    level tall ≤ (2 - 1 / (columns : K)) * limit + (1 - 1 / (columns : K)) * space := by
  have haverage := hclose.card_mul_le htall
  have hlimits : ∑ position ∈ Finset.range columns,
      stackHeight space height (columnItems column count position) ≤ columns * limit := by
    refine (Finset.sum_le_card_nsmul _ _ limit fun position hposition => ?_).trans ?_
    · exact hlimit position (Finset.mem_range.mp hposition)
    · rw [Finset.card_range, nsmul_eq_mul]
  have hothers := (le_sum_stack_height hspace hcolumn).trans hlimits
  rw [htotal] at haverage
  have hpos : (0 : K) < columns := Nat.cast_pos.mpr (by omega)
  have hshare : (2 - 1 / (columns : K)) * limit + (1 - 1 / (columns : K)) * space =
      ((2 * columns - 1) * limit + (columns - 1) * space) / columns := by
    field_simp
  rw [hshare, le_div_iff₀' hpos]
  linarith

end Component.Lib.Stacking

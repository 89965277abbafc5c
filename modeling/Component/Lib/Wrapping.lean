import Mathlib

/-!
# Sums of wrapping counters

Counters that only grow are read modulo some number, for a set of them at a time, and the residues
are added up. The difference of two such sums is again known modulo this number only. What it stands
for depends on the counters that were read only once: those that are new count in full (`gained`),
and those that are missing are taken away in full (`lost`).

`sum_seen_sub_mod_eq` says that the difference of the sums is the gain less the loss, and
`sub_emod_le_iff` when its residue stays below a bound of the gain.
-/

namespace Component.Lib.Wrapping

/-- The residue of a negative number. -/
theorem neg_emod_of_pos {modulus short : Nat} (hmodulus : 0 < modulus)
    (hpos : 0 < short % modulus) :
    (-(short : Int)) % modulus = (modulus - short % modulus : Nat) := by
  have hlt := Nat.mod_lt short hmodulus
  -- the whole multiples of the modulus drop out
  have hsplit : -(short : Int) =
      -((short % modulus : Nat) : Int) + modulus * -((short / modulus : Nat) : Int) := by
    rw [mul_neg, ← neg_add]
    exact_mod_cast congrArg Neg.neg (congrArg Nat.cast (Nat.mod_add_div short modulus).symm)
  rw [hsplit, Int.add_mul_emod_self_left, ← Int.add_emod_right,
    Int.emod_eq_of_lt (by omega) (by omega)]
  omega

/-- The residue of a difference stays within a bound of the minuend as long as nothing has to be
borrowed, or what remains after borrowing is not too much. -/
theorem sub_emod_le_iff {modulus : Nat} (hmodulus : 0 < modulus) {gained lost bound : Nat}
    (hgained : gained ≤ bound) :
    ((gained : Int) - lost) % modulus ≤ bound ↔
      lost ≤ gained ∨ (lost - gained) % modulus = 0 ∨
        modulus ≤ bound + (lost - gained) % modulus := by
  rcases Nat.lt_or_ge gained lost with hlt | hle
  · have hdiff : (gained : Int) - lost = -((lost - gained : Nat) : Int) := by omega
    have hshort := Nat.mod_lt (lost - gained) hmodulus
    rw [hdiff]
    rcases Nat.eq_zero_or_pos ((lost - gained) % modulus) with hzero | hpos
    · refine iff_of_true ?_ (.inr (.inl hzero))
      rw [Int.emod_eq_zero_of_dvd ((Int.dvd_neg).mpr
        (Int.natCast_dvd_natCast.mpr (Nat.dvd_of_mod_eq_zero hzero)))]
      exact Int.natCast_nonneg bound
    · rw [neg_emod_of_pos hmodulus hpos]
      omega
  · have hdiff : (gained : Int) - lost = ((gained - lost : Nat) : Int) := by omega
    have hmod := Nat.mod_le (gained - lost) modulus
    refine iff_of_true ?_ (.inl hle)
    rw [hdiff]
    exact_mod_cast (by omega : (gained - lost) % modulus ≤ bound)

section Counters

variable {ι : Type} [DecidableEq ι] (modulus : Nat) (before after : ι → Nat) (s t : Finset ι)

/-- The sum of the counters of a set, as they are seen. -/
def sumSeen (count : ι → Nat) (s : Finset ι) : Nat := ∑ i ∈ s, count i % modulus

/-- What the counters read twice have grown by, and the new ones as they are seen. -/
def gained : Nat := ∑ i ∈ t ∩ s, (after i - before i) + sumSeen modulus after (t \ s)

/-- The counters that are missing, as they were seen. -/
def lost : Nat := sumSeen modulus before (s \ t)

/-- The sum over a set is the sum over two parts of it. -/
theorem sum_seen_split (count : ι → Nat) :
    sumSeen modulus count s = sumSeen modulus count (s ∩ t) + sumSeen modulus count (s \ t) :=
  (Finset.sum_inter_add_sum_sdiff s t _).symm

omit [DecidableEq ι] in
/-- The sum of the counters is right modulo the range of a counter. -/
theorem sum_seen_mod_eq (count : ι → Nat) :
    (sumSeen modulus count s : Int) ≡ ∑ i ∈ s, (count i : Int) [ZMOD modulus] := by
  rw [sumSeen, Nat.cast_sum]
  refine Int.ModEq.sum fun i _ => ?_
  rw [Int.natCast_mod]
  exact Int.mod_modEq ..

variable {before after}

/-- The difference of the sums is the gain less the loss. -/
theorem sum_seen_sub_mod_eq (hgrow : ∀ i, before i ≤ after i) :
    (sumSeen modulus after t : Int) - sumSeen modulus before s ≡
      gained modulus before after s t - lost modulus before s t [ZMOD modulus] := by
  have hgrown : ((∑ i ∈ t ∩ s, (after i - before i) : Nat) : Int) =
      ∑ i ∈ t ∩ s, (after i : Int) - ∑ i ∈ t ∩ s, (before i : Int) := by
    rw [Nat.cast_sum, ← Finset.sum_sub_distrib]
    exact Finset.sum_congr rfl fun i _ => Nat.cast_sub (hgrow i)
  -- what is read twice grows by its true difference, up to the modulus
  have hstay : (sumSeen modulus after (t ∩ s) : Int) - sumSeen modulus before (t ∩ s) ≡
      (∑ i ∈ t ∩ s, (after i - before i) : Nat) [ZMOD modulus] := by
    rw [hgrown]
    exact (sum_seen_mod_eq ..).sub (sum_seen_mod_eq ..)
  have hsplit : (sumSeen modulus after t : Int) - sumSeen modulus before s =
      (sumSeen modulus after (t ∩ s) : Int) - sumSeen modulus before (t ∩ s) +
        (sumSeen modulus after (t \ s) - lost modulus before s t) := by
    rw [sum_seen_split modulus t s after, sum_seen_split modulus s t before, lost,
      Finset.inter_comm s t]
    push_cast
    ring
  have hgained : (gained modulus before after s t : Int) - lost modulus before s t =
      (∑ i ∈ t ∩ s, (after i - before i) : Nat) +
        (sumSeen modulus after (t \ s) - lost modulus before s t) := by
    rw [gained, Nat.cast_add, add_sub_assoc]
  rw [hsplit, hgained]
  exact hstay.add_right _

end Counters

/-! ## Words of 32 bits -/

/-- The difference of two counters is the difference of their values modulo the range. -/
theorem to_nat_sub_eq_emod (a b : UInt32) :
    ((a - b).toNat : Int) = ((a.toNat : Int) - b.toNat) % (2 ^ 32 : Nat) := by
  have ha := a.toNat_lt
  have hb := b.toNat_lt
  rw [UInt32.toNat_sub]
  omega

/-- A loop that adds up words computes the sum of their values modulo the word size. -/
theorem to_nat_foldl_add {α : Type} (word : α → UInt32) (xs : List α) (start : UInt32) :
    (xs.foldl (fun total x => total + word x) start).toNat =
      (start.toNat + (xs.map fun x => (word x).toNat).sum) % 2 ^ 32 := by
  induction xs generalizing start with
  | nil => exact (Nat.mod_eq_of_lt start.toNat_lt).symm
  | cons x xs ih =>
      rw [List.foldl_cons, ih, UInt32.toNat_add, List.map_cons, List.sum_cons]
      omega

end Component.Lib.Wrapping

import Mathlib

/-!
# Taking turns by a counter that wraps around

Requests are numbered by a counter that wraps around at `modulus`, and a request is given the place
that is the residue of its number. As long as the counter does not wrap around, the places take
turns. Each time it does, the order starts again from the beginning before all places have had their
turn, unless the number of places divides the modulus. So no place is used more than once more often
than another one for each time the counter has wrapped around, and once more (`uses_le`), and only
once more if the number of places divides the modulus (`uses_le_of_dvd`).
-/

namespace Component.Lib.RoundRobin

/-- How often a place is given by the first requests. The counter is increased before it is read. -/
def uses (modulus places place : Nat) : Nat → Nat
  | 0 => 0
  | requests + 1 =>
      uses modulus places place requests +
        if (requests + 1) % modulus % places = place then 1 else 0

/-- How many numbers below a bound have the residue. -/
def residues (places place bound : Nat) : Nat := Nat.count (fun k => k % places = place) bound

/-- The next number counts if it is at the place. -/
theorem residues_succ (places place bound : Nat) :
    residues places place (bound + 1) =
      residues places place bound + if bound % places = place then 1 else 0 :=
  Nat.count_succ ..

section Residues

variable {places first second : Nat} (hfirst : first < places) (hsecond : second < places)

include hfirst in
/-- Every place has had the full rounds, and the first places one turn more. -/
theorem residues_eq (bound : Nat) :
    residues places first bound = bound / places + if first < bound % places then 1 else 0 := by
  have hcount := Nat.count_modEq_card bound (show 0 < places by omega) first
  rw [Nat.mod_eq_of_lt hfirst] at hcount
  rw [← hcount, residues]
  simp only [Nat.ModEq, Nat.mod_eq_of_lt hfirst]

include hfirst hsecond

/-- No place is ahead of another one by more than one turn. -/
theorem residues_le (bound : Nat) :
    residues places first bound ≤ residues places second bound + 1 := by
  rw [residues_eq hfirst, residues_eq hsecond]
  split <;> split <;> omega

/-- A later place is not ahead of an earlier one. -/
theorem residues_le_of_le (hle : second ≤ first) (bound : Nat) :
    residues places first bound ≤ residues places second bound := by
  rw [residues_eq hfirst, residues_eq hsecond]
  split <;> split <;> omega

/-- After full rounds all places have had as many turns. -/
theorem residues_eq_of_dvd {bound : Nat} (hdvd : places ∣ bound) :
    residues places first bound = residues places second bound := by
  rw [residues_eq hfirst, residues_eq hsecond, Nat.mod_eq_zero_of_dvd hdvd]
  simp

/-- What two places have had in a turn of the counter in which zero is not given. -/
theorem residues_part_le (bound : Nat) :
    residues places first bound + (if second = 0 then 1 else 0) ≤
      residues places second bound + 1 + (if first = 0 then 1 else 0) := by
  by_cases hzero : second = 0
  · have hle := residues_le_of_le hfirst hsecond (by omega) bound
    rw [if_pos hzero]
    omega
  · have hle := residues_le hfirst hsecond bound
    rw [if_neg hzero]
    omega

end Residues

variable {modulus : Nat}

/-- The requests so far make up full turns of the counter and a part of one. The number zero is not
given in the first turn. -/
theorem uses_add (hmodulus : 0 < modulus) (places place requests : Nat) :
    uses modulus places place requests + (if place = 0 then 1 else 0) =
      requests / modulus * residues places place modulus +
        residues places place (requests % modulus + 1) := by
  induction requests with
  | zero =>
      have hzero : (0 = place) = (place = 0) := propext eq_comm
      rw [uses, Nat.zero_div, Nat.zero_mod, residues_succ, Nat.zero_mod]
      simp only [hzero, residues, Nat.count_zero]
      omega
  | succ requests ih =>
      have hlt := Nat.mod_lt requests hmodulus
      rw [uses]
      have hsplit := Nat.mod_add_div requests modulus
      rcases Nat.lt_or_ge (requests % modulus + 1) modulus with hnext | hwrap
      · obtain ⟨hdiv, hmod⟩ : (requests + 1) / modulus = requests / modulus ∧
            (requests + 1) % modulus = requests % modulus + 1 :=
          (Nat.div_mod_unique hmodulus).mpr ⟨by omega, hnext⟩
        rw [hmod, hdiv, residues_succ places place (requests % modulus + 1)]
        omega
      · -- the counter starts again from zero
        have hfull : requests % modulus + 1 = modulus := by omega
        obtain ⟨hdiv, hmod⟩ : (requests + 1) / modulus = requests / modulus + 1 ∧
            (requests + 1) % modulus = 0 :=
          (Nat.div_mod_unique hmodulus).mpr ⟨by rw [Nat.mul_add]; omega, hmodulus⟩
        rw [hfull] at ih
        rw [hmod, hdiv, residues_succ, Nat.add_mul, Nat.one_mul, Nat.zero_mod]
        simp only [residues, Nat.count_zero] at ih ⊢
        omega

section Uses

variable {places first second : Nat} (hmodulus : 0 < modulus) (hfirst : first < places)
  (hsecond : second < places)
include hmodulus hfirst hsecond

/-- No place is ahead of another one by more than the times the counter has wrapped around, and
one. -/
theorem uses_le (requests : Nat) :
    uses modulus places first requests ≤
      uses modulus places second requests + 1 + requests / modulus := by
  have hpart := residues_part_le hfirst hsecond (requests % modulus + 1)
  have hfull : requests / modulus * residues places first modulus ≤
      requests / modulus * residues places second modulus + requests / modulus := by
    rw [← Nat.mul_succ]
    exact Nat.mul_le_mul_left _ (residues_le hfirst hsecond modulus)
  have hone := uses_add hmodulus places first requests
  have hother := uses_add hmodulus places second requests
  omega

/-- The order goes on without a gap if the number of places divides the modulus. -/
theorem uses_le_of_dvd (hdvd : places ∣ modulus) (requests : Nat) :
    uses modulus places first requests ≤ uses modulus places second requests + 1 := by
  have hpart := residues_part_le hfirst hsecond (requests % modulus + 1)
  have hfull := residues_eq_of_dvd hfirst hsecond hdvd
  have hone := uses_add hmodulus places first requests
  have hother := uses_add hmodulus places second requests
  rw [hfull] at hone
  omega

end Uses

end Component.Lib.RoundRobin

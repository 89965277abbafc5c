import Mathlib

/-!
# Rounding natural numbers

`nearest n d` is the natural number nearest to `n / d`, and the even one of two that are equally
near. `roundTo p n` is `n` rounded in this way to `p` significant binary digits, which is what a
conversion to a floating-point number does. Numbers with at most `p` digits are not changed
(`round_to_of_lt`), no power of two is crossed downwards (`two_pow_le_round_to`), and the relative
error is at most `2 ^ -p` (`round_to_error`).
-/

namespace Component.Lib.Rounding

/-- The natural number nearest to a quotient, the even one if there are two. -/
def nearest (n d : Nat) : Nat :=
  if 2 * (n % d) < d then n / d
  else if d < 2 * (n % d) then n / d + 1
  else if n / d % 2 = 0 then n / d
  else n / d + 1

/-- A quotient is rounded down below a half and up above it. -/
theorem nearest_cases (n d : Nat) :
    nearest n d = n / d ∧ 2 * (n % d) ≤ d ∨ nearest n d = n / d + 1 ∧ d ≤ 2 * (n % d) := by
  unfold nearest
  split
  · exact .inl ⟨rfl, by omega⟩
  · split
    · exact .inr ⟨rfl, by omega⟩
    · split
      · exact .inl ⟨rfl, by omega⟩
      · exact .inr ⟨rfl, by omega⟩

/-- Rounding does not go below the quotient rounded down. -/
theorem div_le_nearest (n d : Nat) : n / d ≤ nearest n d := by
  rcases nearest_cases n d with ⟨h, _⟩ | ⟨h, _⟩ <;> omega

/-- Whole numbers are not rounded. -/
@[simp] theorem nearest_one (n : Nat) : nearest n 1 = n := by
  have hmod := Nat.mod_one n
  simp [nearest, hmod]

/-- The error is at most a half. -/
theorem nearest_error (n : Nat) {d : Nat} (hd : 0 < d) :
    2 * n ≤ 2 * (nearest n d * d) + d ∧ 2 * (nearest n d * d) ≤ 2 * n + d := by
  have hsplit := Nat.div_add_mod n d
  rcases nearest_cases n d with ⟨h, hrest⟩ | ⟨h, hrest⟩
  · rw [h, Nat.mul_comm (n / d) d]
    omega
  · have hlt := Nat.mod_lt n hd
    rw [h, Nat.add_mul, Nat.one_mul, Nat.mul_comm (n / d) d]
    omega

/-- The place value of the last digit that is kept. -/
def lastPlace (digits n : Nat) : Nat := 2 ^ (n.size - digits)

/-- The last place has a positive value. -/
theorem last_place_pos (digits n : Nat) : 0 < lastPlace digits n := Nat.two_pow_pos _

/-- A number rounded to a number of binary digits. -/
def roundTo (digits n : Nat) : Nat := nearest n (lastPlace digits n) * lastPlace digits n

/-- Numbers with few enough digits are not rounded. -/
theorem round_to_of_lt {digits n : Nat} (h : n < 2 ^ digits) : roundTo digits n = n := by
  have hsize : n.size - digits = 0 := Nat.sub_eq_zero_of_le (Nat.size_le.mpr h)
  simp [roundTo, lastPlace, hsize]

/-- The digits that are kept make up the whole number but for the last place. -/
theorem two_pow_mul_last_place_le {digits n : Nat} (h : 2 ^ digits ≤ n) :
    2 ^ digits * lastPlace digits n ≤ 2 * n := by
  have hsize : digits < n.size := Nat.lt_size.mpr h
  have hlow : 2 ^ (n.size - 1) ≤ n := Nat.lt_size.mp (by omega)
  calc 2 ^ digits * lastPlace digits n = 2 ^ n.size := by
        rw [lastPlace, ← pow_add, Nat.add_sub_cancel' hsize.le]
    _ = 2 * 2 ^ (n.size - 1) := by
        rw [← pow_succ', Nat.sub_add_cancel (by omega)]
    _ ≤ 2 * n := Nat.mul_le_mul_left 2 hlow

/-- The relative error is at most `2 ^ -digits`. -/
theorem round_to_error (digits n : Nat) :
    2 ^ digits * n ≤ 2 ^ digits * roundTo digits n + n ∧
      2 ^ digits * roundTo digits n ≤ 2 ^ digits * n + n := by
  rcases Nat.lt_or_ge n (2 ^ digits) with hlt | hge
  · rw [round_to_of_lt hlt]
    exact ⟨Nat.le_add_right _ _, Nat.le_add_right _ _⟩
  · have hplace := two_pow_mul_last_place_le hge
    obtain ⟨hlow, hhigh⟩ := nearest_error n (last_place_pos digits n)
    have hlow' := Nat.mul_le_mul_left (2 ^ digits) hlow
    have hhigh' := Nat.mul_le_mul_left (2 ^ digits) hhigh
    rw [Nat.mul_add, Nat.mul_left_comm _ 2, Nat.mul_left_comm _ 2] at hlow' hhigh'
    unfold roundTo
    omega

/-- Rounding does not cross a power of two downwards. -/
theorem two_pow_le_round_to {digits k n : Nat} (hdigits : 0 < digits) (h : 2 ^ k ≤ n) :
    2 ^ k ≤ roundTo digits n := by
  rcases Nat.lt_or_ge n (2 ^ digits) with hlt | hge
  · rwa [round_to_of_lt hlt]
  · have hsize : digits < n.size := Nat.lt_size.mpr hge
    have hk : k < n.size := Nat.lt_size.mpr h
    have hlow : 2 ^ (n.size - 1) ≤ n := Nat.lt_size.mp (by omega)
    have hplace : 2 ^ (n.size - 1) = 2 ^ (digits - 1) * lastPlace digits n := by
      rw [lastPlace, ← pow_add]
      congr 1
      omega
    have hquotient : 2 ^ (digits - 1) ≤ n / lastPlace digits n := by
      rw [Nat.le_div_iff_mul_le (last_place_pos digits n), ← hplace]
      exact hlow
    calc 2 ^ k ≤ 2 ^ (n.size - 1) := Nat.pow_le_pow_right (by norm_num) (by omega)
      _ = 2 ^ (digits - 1) * lastPlace digits n := hplace
      _ ≤ roundTo digits n :=
          Nat.mul_le_mul_right _ (hquotient.trans (div_le_nearest n _))

end Component.Lib.Rounding

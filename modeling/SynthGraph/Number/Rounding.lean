/-!
# Rounding a quotient

This file gives the one rounding rule of the library: the integer nearest to a quotient of natural
numbers, a half going to the even neighbour.  The lemmas say that the result is never further than a
half from the quotient and that whole quotients stay as they are.
-/

namespace SynthGraph

/-- The integer nearest to `n / d` for a positive `d`; a half goes to the even neighbour. -/
def roundDiv (n d : Nat) : Nat :=
  if 2 * (n % d) < d then n / d
  else if d < 2 * (n % d) then n / d + 1
  else n / d + n / d % 2

/-! ### Distance from the quotient -/

/-- Rounding never goes up by more than a half. -/
theorem two_mul_roundDiv_le (n : Nat) {d : Nat} (hd : 0 < d) :
    2 * (d * roundDiv n d) ≤ 2 * n + d := by
  have hsplit : d * (n / d) + n % d = n := Nat.div_add_mod n d
  have hlt : n % d < d := Nat.mod_lt n hd
  unfold roundDiv
  split
  · omega
  · split
    · rw [Nat.mul_add]; omega
    · rcases Nat.mod_two_eq_zero_or_one (n / d) with h | h <;> rw [h, Nat.mul_add] <;> omega

/-- Rounding never goes down by more than a half. -/
theorem two_mul_le_two_mul_roundDiv (n : Nat) {d : Nat} (hd : 0 < d) :
    2 * n ≤ 2 * (d * roundDiv n d) + d := by
  have hsplit : d * (n / d) + n % d = n := Nat.div_add_mod n d
  have hlt : n % d < d := Nat.mod_lt n hd
  unfold roundDiv
  split
  · omega
  · split
    · rw [Nat.mul_add]; omega
    · rcases Nat.mod_two_eq_zero_or_one (n / d) with h | h <;> rw [h, Nat.mul_add] <;> omega

/-- A whole quotient is its own rounding. -/
@[simp]
theorem roundDiv_mul_right (n : Nat) {d : Nat} (hd : 0 < d) : roundDiv (n * d) d = n := by
  simp [roundDiv, Nat.mul_div_cancel _ hd, hd]

/-- Dividing by one changes nothing. -/
@[simp]
theorem roundDiv_one (n : Nat) : roundDiv n 1 = n := by
  simpa using roundDiv_mul_right n Nat.one_pos

end SynthGraph

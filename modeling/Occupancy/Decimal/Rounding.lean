/-! Rounding a quotient of naturals to the nearest integer, the one rounding rule behind every decimal text of
the library. A quotient is never more than half a unit away from its rounding, and a quotient that lies exactly
between two integers goes to the even one. -/

namespace Occupancy.Decimal

/-- The integer nearest to `num / den`, a half going to the even neighbour. -/
def roundDiv (num den : Nat) : Nat :=
  match compare (2 * (num % den)) den with
  | .lt => num / den
  | .gt => num / den + 1
  | .eq => num / den + num / den % 2

theorem roundDiv_mul (n : Nat) {den : Nat} (hden : 0 < den) : roundDiv (n * den) den = n := by
  have hlt : compare (2 * (n * den % den)) den = .lt := by
    rw [Nat.mul_mod_left, Nat.compare_eq_lt]
    omega
  rw [roundDiv, hlt]
  exact Nat.mul_div_cancel n hden

theorem roundDiv_le {num den : Nat} (hden : 0 < den) : 2 * (roundDiv num den * den) ≤ 2 * num + den := by
  have hsplit := Nat.div_add_mod num den
  have hmod := Nat.mod_lt num hden
  rw [Nat.mul_comm] at hsplit
  unfold roundDiv
  split
  · omega
  · rename_i h
    rw [Nat.compare_eq_gt] at h
    rw [Nat.add_mul]
    omega
  · rename_i h
    rw [Nat.compare_eq_eq] at h
    have hparity : num / den % 2 * den ≤ den := by
      rcases Nat.mod_two_eq_zero_or_one (num / den) with hp | hp <;> simp [hp]
    rw [Nat.add_mul]
    omega

theorem le_roundDiv {num den : Nat} (hden : 0 < den) : 2 * num ≤ 2 * (roundDiv num den * den) + den := by
  have hsplit := Nat.div_add_mod num den
  have hmod := Nat.mod_lt num hden
  rw [Nat.mul_comm] at hsplit
  unfold roundDiv
  split
  · rename_i h
    rw [Nat.compare_eq_lt] at h
    omega
  · rw [Nat.add_mul]
    omega
  · rename_i h
    rw [Nat.compare_eq_eq] at h
    rw [Nat.add_mul]
    omega

theorem roundDiv_tie {num den : Nat} (htie : 2 * (num % den) = den) : roundDiv num den % 2 = 0 := by
  rw [roundDiv, Nat.compare_eq_eq.mpr htie]
  dsimp only
  omega

end Occupancy.Decimal

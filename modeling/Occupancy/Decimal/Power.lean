/-! Powers of ten, the steps of decimal grids. -/

namespace Occupancy.Decimal

/-- The power `10 ^ n`. -/
def power10 (n : Nat) : Nat := Nat.pow 10 n

theorem power10_zero : power10 0 = 1 := rfl

theorem power10_succ (n : Nat) : power10 (n + 1) = power10 n * 10 := rfl

theorem power10_pos (n : Nat) : 0 < power10 n := by
  induction n with
  | zero => exact Nat.one_pos
  | succ n ih =>
    rw [power10_succ]
    omega

end Occupancy.Decimal

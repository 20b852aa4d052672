import Mathlib.Algebra.GroupWithZero.Nat
import Occupancy.Checked

/-! A checked sum has a result if and only if 64 bits can hold the sum of all the numbers, and then it is that sum. No sum
on the way is larger than the last one, so it does not matter in which order the numbers come. -/

namespace Occupancy.Checked

variable {a b start : UInt64} {values : List UInt64}

theorem add_of_lt (h : a.toNat + b.toNat < 2 ^ 64) : add a b = .ok (a + b) := if_pos h

theorem add_of_le (h : 2 ^ 64 ≤ a.toNat + b.toNat) : add a b = .error .add := if_neg (Nat.not_lt.mpr h)

theorem toNat_add_of_lt (h : a.toNat + b.toNat < 2 ^ 64) : (a + b).toNat = a.toNat + b.toNat := by
  rw [UInt64.toNat_add, Nat.mod_eq_of_lt h]

theorem foldlM_add_of_lt (h : start.toNat + (values.map UInt64.toNat).sum < 2 ^ 64) :
    values.foldlM add start = .ok (UInt64.ofNat (start.toNat + (values.map UInt64.toNat).sum)) := by
  induction values generalizing start with
  | nil => exact congrArg Except.ok UInt64.ofNat_toNat.symm
  | cons value values ih =>
      rw [List.map_cons, List.sum_cons, ← Nat.add_assoc] at h
      have hstep : start.toNat + value.toNat < 2 ^ 64 := Nat.lt_of_le_of_lt (Nat.le_add_right _ _) h
      have hnext : (start + value).toNat = start.toNat + value.toNat := toNat_add_of_lt hstep
      rw [List.foldlM_cons, add_of_lt hstep, List.map_cons, List.sum_cons, ← Nat.add_assoc, ← hnext]
      exact ih (by rwa [hnext])

/-- No later number makes up for a sum that is too large. -/
theorem foldlM_add_of_le (h : 2 ^ 64 ≤ start.toNat + (values.map UInt64.toNat).sum) :
    values.foldlM add start = .error .add := by
  induction values generalizing start with
  | nil => exact absurd start.toNat_lt (Nat.not_lt.mpr h)
  | cons value values ih =>
      rw [List.map_cons, List.sum_cons, ← Nat.add_assoc] at h
      rw [List.foldlM_cons]
      by_cases hstep : start.toNat + value.toNat < 2 ^ 64
      · have hnext : (start + value).toNat = start.toNat + value.toNat := toNat_add_of_lt hstep
        rw [add_of_lt hstep]
        exact ih (by rwa [hnext])
      · rw [add_of_le (Nat.not_lt.mp hstep)]
        rfl

theorem sum_of_lt (h : (values.map UInt64.toNat).sum < 2 ^ 64) :
    sum values = .ok (UInt64.ofNat (values.map UInt64.toNat).sum) := by
  have hstart : (0 : UInt64).toNat + (values.map UInt64.toNat).sum < 2 ^ 64 := by rwa [UInt64.toNat_zero, Nat.zero_add]
  have hsum := foldlM_add_of_lt hstart
  rwa [UInt64.toNat_zero, Nat.zero_add] at hsum

theorem sum_of_le (h : 2 ^ 64 ≤ (values.map UInt64.toNat).sum) : sum values = .error .add :=
  foldlM_add_of_le (by rwa [UInt64.toNat_zero, Nat.zero_add])

end Occupancy.Checked

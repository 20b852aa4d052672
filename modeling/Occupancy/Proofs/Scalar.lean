import Mathlib
import Occupancy.Scalar

/-! Exact numbers. Over the rationals and over the reals a count is the number that it is, every number is finite, and
nothing is rounded; so what is computed of counts can be compared with the numbers that are meant. Only the reals have an
exponential function. -/

namespace Occupancy

instance : Scalar ℚ where
  ofCount n := n.toNat
  isFinite _ := true

@[simp] theorem ofCount_rat (n : UInt64) : (ofCount n : ℚ) = n.toNat := rfl

@[simp] theorem isFinite_rat (x : ℚ) : isFinite x = true := rfl

theorem ofLevel_rat {k : Nat} (h : k < 2 ^ 64) : (ofLevel k : ℚ) = k := by
  rw [ofLevel, ofCount_rat, UInt64.toNat_ofNat_of_lt' h]

/-- Zero is written with a point where numbers may be of any kind. -/
@[simp] theorem zero_rat : (0.0 : ℚ) = 0 := by norm_num

noncomputable instance : Scalar ℝ where
  ofCount n := n.toNat
  isFinite _ := true

noncomputable instance : Exponential ℝ where
  exp := Real.exp

@[simp] theorem ofCount_real (n : UInt64) : (ofCount n : ℝ) = n.toNat := rfl

@[simp] theorem exp_real (x : ℝ) : Exponential.exp x = Real.exp x := rfl

theorem ofLevel_real {k : Nat} (h : k < 2 ^ 64) : (ofLevel k : ℝ) = k := by
  rw [ofLevel, ofCount_real, UInt64.toNat_ofNat_of_lt' h]

end Occupancy

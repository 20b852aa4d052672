import Mathlib
import Occupancy.Chart.Axis
import Occupancy.Proofs.Scalar

/-! The spans of vertical axes over the rationals. A span goes up from its lower end, which is zero on a linear axis and
positive on a logarithmic one. It reaches all of the values that it is for, and on a logarithmic axis its lower end is
below the positive ones among those that are to be seen. -/

namespace Occupancy.Axis

variable {values visible : List ℚ} {value least : ℚ} {scale : Scale}

/-! ### The largest value -/

theorem larger_eq_max (a b : ℚ) : larger a b = max a b := by
  rw [larger, max_def']
  split <;> split <;> linarith

theorem smaller_eq_min (a b : ℚ) : smaller a b = min a b := by
  rw [smaller, min_def']
  split <;> split <;> linarith

theorem le_foldl_larger (start : ℚ) (values : List ℚ) :
    start ≤ values.foldl larger start ∧ ∀ value ∈ values, value ≤ values.foldl larger start := by
  induction values generalizing start with
  | nil => exact ⟨le_refl start, List.forall_mem_nil _⟩
  | cons first values ih =>
      obtain ⟨hstart, hvalues⟩ := ih (larger start first)
      rw [larger_eq_max] at hstart
      rw [List.foldl_cons, List.forall_mem_cons]
      rw [larger_eq_max] at hvalues ⊢
      exact ⟨(le_max_left _ _).trans hstart, (le_max_right _ _).trans hstart, hvalues⟩

theorem largest_nonneg (values : List ℚ) : 0 ≤ largest values := by
  rw [← zero_rat]
  exact (le_foldl_larger _ values).1

theorem le_largest (hmem : value ∈ values) : value ≤ largest values := (le_foldl_larger _ values).2 value hmem

/-! ### The smallest positive value -/

/-- The smallest positive value is positive and not above any positive value; if there is none, no value is positive. -/
theorem smallestPositive_spec (values : List ℚ) :
    match smallestPositive values with
    | none => ∀ value ∈ values, value ≤ 0
    | some least => 0 < least ∧ ∀ value ∈ values, 0 < value → least ≤ value := by
  induction values with
  | nil => exact List.forall_mem_nil _
  | cons first values ih =>
      rw [smallestPositive, zero_rat]
      by_cases hfirst : 0 < first
      · rw [if_pos hfirst]
        cases hrest : smallestPositive values with
        | none =>
            rw [hrest] at ih
            refine ⟨hfirst, List.forall_mem_cons.mpr ⟨fun _ => le_refl first, fun value hmem hpos => ?_⟩⟩
            exact absurd hpos (not_lt.mpr (ih value hmem))
        | some least =>
            rw [hrest] at ih
            obtain ⟨hleast, hle⟩ := ih
            simp only [smaller_eq_min]
            refine ⟨lt_min hfirst hleast, List.forall_mem_cons.mpr ⟨fun _ => min_le_left _ _, fun value hmem hpos => ?_⟩⟩
            exact (min_le_right _ _).trans (hle value hmem hpos)
      · rw [if_neg hfirst]
        cases hrest : smallestPositive values with
        | none =>
            rw [hrest] at ih
            exact List.forall_mem_cons.mpr ⟨not_lt.mp hfirst, ih⟩
        | some least =>
            rw [hrest] at ih
            exact ⟨ih.1, List.forall_mem_cons.mpr ⟨fun hpos => absurd hpos hfirst, ih.2⟩⟩

theorem floor_pos (visible : List ℚ) : 0 < floor visible := by
  have hspec := smallestPositive_spec visible
  rw [floor]
  cases hleast : smallestPositive visible with
  | none => norm_num
  | some least =>
      rw [hleast] at hspec
      obtain ⟨hpos, -⟩ := hspec
      simp only [isFinite_rat, if_true]
      linarith

theorem floor_lt (hmem : value ∈ visible) (hpos : 0 < value) : floor visible < value := by
  have hspec := smallestPositive_spec visible
  rw [floor]
  cases hleast : smallestPositive visible with
  | none =>
      rw [hleast] at hspec
      exact absurd hpos (not_lt.mpr (hspec value hmem))
  | some least =>
      rw [hleast] at hspec
      obtain ⟨hleast_pos, hle⟩ := hspec
      have hle := hle value hmem hpos
      simp only [isFinite_rat, if_true]
      linarith

/-! ### Spans -/

theorem low_linear (visible values : List ℚ) : (span .linear visible values).low = 0 := zero_rat

theorem low_logarithmic (visible values : List ℚ) : (span .logarithmic visible values).low = floor visible := rfl

/-- The lower end of an axis is not above a value that it has to keep in sight. -/
theorem low_le (hmem : value ∈ visible) (hnonneg : 0 ≤ value) (hpos : scale = .logarithmic → 0 < value) :
    (span scale visible values).low ≤ value := by
  cases scale with
  | linear =>
      rw [low_linear]
      exact hnonneg
  | logarithmic =>
      rw [low_logarithmic]
      exact (floor_lt hmem (hpos rfl)).le

/-- There is room above the largest of the values. -/
theorem le_high (scale : Scale) (visible : List ℚ) (hmem : value ∈ values) : value ≤ (span scale visible values).high := by
  have hle := le_largest hmem
  have hnonneg := largest_nonneg values
  cases scale with
  | linear =>
      simp only [span, zero_rat]
      split <;> linarith
  | logarithmic =>
      simp only [span, larger_eq_max]
      apply le_max_of_le_left
      linarith

theorem low_lt_high (scale : Scale) (visible values : List ℚ) :
    (span scale visible values).low < (span scale visible values).high := by
  cases scale with
  | linear =>
      simp only [span, zero_rat]
      split <;> linarith
  | logarithmic =>
      have hpos := floor_pos visible
      simp only [span, larger_eq_max]
      apply lt_max_of_lt_right
      linarith

end Occupancy.Axis

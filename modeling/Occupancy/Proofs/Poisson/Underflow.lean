import Occupancy.Poisson
import Occupancy.Proofs.Binary64.Magnitude

/-! Where the expectations vanish. All of them are computed from the first one, which is the number of buckets times the
exponential of the negative rate. When the exponential is too small for a binary64 number it is zero, and then no expectation
is positive at any level; otherwise the first one is positive. -/

namespace Occupancy.Poisson

open Binary64

variable {rate current lowest : Float} {items buckets : UInt64} {maxK : UInt32} {k n : Nat}

theorem isUnsigned_rate (items buckets : UInt64) : IsUnsigned (Poisson.rate items buckets) := by
  rw [Poisson.rate]
  split
  · exact nofun
  · exact (isUnsigned_toFloat items).div (isUnsigned_toFloat buckets)

/-- What follows an expectation that is not positive is not positive either. -/
theorem zero_lt_of_mem_following (hrate : IsUnsigned rate) {e : Float} (hmem : e ∈ following rate current k n)
    (he : 0.0 < e) : 0.0 < current := by
  induction n generalizing current k with
  | zero => cases hmem
  | succ n ih =>
      have hfactor : IsUnsigned (rate / ofLevel (k + 1)) := hrate.div (isUnsigned_toFloat _)
      have hnext : 0.0 < current * (rate / ofLevel (k + 1)) := by
        rcases List.mem_cons.mp hmem with rfl | hlater
        · exact he
        · exact ih hlater
      exact (zero_lt_of_mul hnext (Or.inr hfactor)).1

section Exponential

variable [Exponential Float]

/-- Some expectation is positive exactly if the exponential is. -/
theorem exists_zero_lt_expected_iff (hrate : IsUnsigned rate) (hbuckets : 0 < buckets) (maxK : UInt32) :
    (∃ e ∈ expected maxK rate buckets, 0.0 < e) ↔ (0.0 : Float) < Exponential.exp (-rate) := by
  constructor
  · rintro ⟨e, hmem, he⟩
    have hfirst : (0.0 : Float) < ofCount buckets * Exponential.exp (-rate) := by
      rcases List.mem_cons.mp hmem with rfl | hlater
      · exact he
      · exact zero_lt_of_mem_following hrate hlater he
    exact (zero_lt_of_mul hfirst (Or.inl (isUnsigned_toFloat buckets))).2
  · intro hexp
    exact ⟨_, List.mem_cons_self, zero_lt_toFloat_mul hbuckets hexp⟩

/-- **Where the expected curve vanishes.** Given an exponential function that is positive from some lowest argument on and
zero below it, the expectations of an algorithm have a positive value if its negative rate is not below that argument. If it
is below, there is none, however many levels there are. -/
theorem curve_visible_iff (hexp : ∀ x : Float, (0.0 : Float) < Exponential.exp x ↔ lowest ≤ x) (items : UInt64)
    (hbuckets : 0 < buckets) (maxK : UInt32) :
    (∃ e ∈ expected maxK (Poisson.rate items buckets : Float) buckets, 0.0 < e) ↔
      lowest ≤ -(Poisson.rate items buckets : Float) := by
  rw [exists_zero_lt_expected_iff (isUnsigned_rate items buckets) hbuckets, hexp]

end Exponential

/-! ### Rates past the underflow -/

/-- A function that is zero where `e ^ x` is too small for a binary64 number, and elsewhere what `e ^ x` is at -1. -/
@[reducible]
def stepExponential : Exponential Float := ⟨fun x => if -745.1332191019411 ≤ x then 0.36787944117144233 else 0.0⟩

theorem zero_lt_stepExponential_iff (x : Float) : (0.0 : Float) < stepExponential.exp x ↔ -745.1332191019411 ≤ x := by
  show (0.0 : Float) < (if -745.1332191019411 ≤ x then 0.36787944117144233 else 0.0) ↔ _
  by_cases h : -745.1332191019411 ≤ x
  · rw [if_pos h]
    exact iff_of_true (by decide) h
  · rw [if_neg h]
    exact iff_of_false (by decide) h

/-- Eight hundred items in one bucket have no expectation at any level up to the rate; one item in it has. -/
theorem curve_visible_iff_crowded :
    (¬ ∃ e ∈ @expected Float _ _ _ stepExponential _ 800 (Poisson.rate 800 1) 1, 0.0 < e) ∧
    ∃ e ∈ @expected Float _ _ _ stepExponential _ 1 (Poisson.rate 1 1) 1, 0.0 < e := by
  constructor
  · rw [@curve_visible_iff _ _ stepExponential zero_lt_stepExponential_iff 800 (by decide) 800]
    decide
  · exact (@curve_visible_iff _ _ stepExponential zero_lt_stepExponential_iff 1 (by decide) 1).mpr (by decide)

/-- That the levels reach up to the rate does not make an expectation positive, if all that is known of the exponential is
that it becomes zero somewhere between -746 and -745. -/
theorem not_all_curves_visible :
    ¬ ∀ (exponential : Exponential Float) (lowest : Float), -746.0 < lowest → lowest < -745.0 →
      (∀ x, (0.0 : Float) < exponential.exp x ↔ lowest ≤ x) → ∀ items buckets : UInt64, 0 < items → 0 < buckets →
      ∀ maxK : UInt32, (Poisson.rate items buckets : Float) ≤ ofLevel maxK.toNat →
      ∃ e ∈ expected maxK (Poisson.rate items buckets : Float) buckets, 0.0 < e := by
  intro hall
  have hvisible := hall stepExponential (-745.1332191019411) (by decide) (by decide) zero_lt_stepExponential_iff 800 1
    (by decide) (by decide) 800 (by decide)
  rw [@exists_zero_lt_expected_iff _ _ stepExponential (isUnsigned_rate 800 1) (by decide) 800] at hvisible
  exact absurd hvisible (by decide)

end Occupancy.Poisson

import Mathlib
import Occupancy.Proofs.Poisson
import Occupancy.Proofs.Scalar

/-! The Poisson law. Over the real numbers nothing is rounded, and then the expectations that are computed one from the other
are those of the law itself: they rise as long as the level is not above the rate, fall from there on, and are together no
more than there are buckets, because what they leave out of the exponential series is not negative. -/

namespace Occupancy.Poisson

open Finset

variable {rate : ℝ} {buckets j k : Nat}

/-- The number of buckets that are expected to hold exactly `k` items by the law. -/
noncomputable def law (rate : ℝ) (buckets k : Nat) : ℝ := buckets * Real.exp (-rate) * rate ^ k / k.factorial

/-! ### From one level to the next -/

theorem law_zero (rate : ℝ) (buckets : Nat) : law rate buckets 0 = buckets * Real.exp (-rate) := by
  rw [law, pow_zero, mul_one, Nat.factorial_zero, Nat.cast_one, div_one]

theorem law_succ (rate : ℝ) (buckets k : Nat) : law rate buckets (k + 1) = law rate buckets k * (rate / (k + 1 : Nat)) := by
  rw [law, law, Nat.factorial_succ, Nat.cast_mul, pow_succ]
  field_simp

theorem law_nonneg (hrate : 0 ≤ rate) (buckets k : Nat) : 0 ≤ law rate buckets k := by
  rw [law]
  positivity

/-- From one level to the next the law does not fall exactly if the next level is not above the rate, or if nothing is
expected at either of them. -/
theorem law_le_succ_iff (hrate : 0 ≤ rate) :
    law rate buckets k ≤ law rate buckets (k + 1) ↔
      (k + 1 : Nat) ≤ rate ∨ law rate buckets k = 0 ∧ law rate buckets (k + 1) = 0 := by
  have hlevel : (0 : ℝ) < (k + 1 : Nat) := by positivity
  rcases (law_nonneg hrate buckets k).eq_or_lt with hzero | hpos
  · rw [law_succ, ← hzero, zero_mul]
    exact iff_of_true le_rfl (Or.inr ⟨rfl, rfl⟩)
  · rw [law_succ, le_mul_iff_one_le_right hpos, one_le_div hlevel]
    exact ⟨Or.inl, fun h => h.resolve_right fun hnone => hpos.ne' hnone.1⟩

/-- From one level to the next the law does not rise if the next level is not below the rate. -/
theorem law_succ_le (hrate : 0 ≤ rate) (h : rate ≤ (k + 1 : Nat)) : law rate buckets (k + 1) ≤ law rate buckets k := by
  rw [law_succ]
  apply mul_le_of_le_one_right (law_nonneg hrate buckets k)
  exact div_le_one_of_le₀ h (Nat.cast_nonneg _)

/-- Up to the rate the law rises. -/
theorem law_rises (hrate : 0 ≤ rate) (hjk : j ≤ k) (hk : k ≤ rate) : law rate buckets j ≤ law rate buckets k := by
  induction k, hjk using Nat.le_induction with
  | base => exact le_rfl
  | succ k _ ih =>
      have hbelow : (k : ℝ) ≤ rate := le_trans (Nat.cast_le.mpr (Nat.le_succ k)) hk
      exact (ih hbelow).trans ((law_le_succ_iff hrate).mpr (Or.inl hk))

/-- From the last level below the rate on, the law falls. -/
theorem law_falls (hrate : 0 ≤ rate) (hjk : j ≤ k) (hj : rate ≤ (j + 1 : Nat)) :
    law rate buckets k ≤ law rate buckets j := by
  induction k, hjk using Nat.le_induction with
  | base => exact le_rfl
  | succ k hjk ih =>
      have hbeyond : rate ≤ (k + 1 : Nat) := hj.trans (Nat.cast_le.mpr (Nat.succ_le_succ hjk))
      exact (law_succ_le hrate hbeyond).trans ih

/-- The levels up to any one have no more than all buckets, since the exponential series has no negative terms. -/
theorem sum_law_le (hrate : 0 ≤ rate) (buckets n : Nat) : ∑ k ∈ range n, law rate buckets k ≤ buckets := by
  have hseries : ∑ k ∈ range n, rate ^ k / k.factorial ≤ Real.exp rate := Real.sum_le_exp_of_nonneg hrate n
  have hfactor : (0 : ℝ) ≤ buckets * Real.exp (-rate) := by positivity
  calc
    ∑ k ∈ range n, law rate buckets k = buckets * Real.exp (-rate) * ∑ k ∈ range n, rate ^ k / k.factorial := by
      simp only [law, mul_div_assoc, mul_sum]
    _ ≤ buckets * Real.exp (-rate) * Real.exp rate := mul_le_mul_of_nonneg_left hseries hfactor
    _ = buckets := by rw [mul_assoc, ← Real.exp_add, neg_add_cancel, Real.exp_zero, mul_one]

/-! ### What is computed -/

/-- What is computed from the expectation at a level are those at the levels after it, as long as levels are 64-bit numbers. -/
theorem following_eq_law (rate : ℝ) (buckets : Nat) {k n : Nat} (hlevels : k + n < 2 ^ 64) :
    following rate (law rate buckets k) k n = (List.range' (k + 1) n).map (law rate buckets) := by
  induction n generalizing k with
  | zero => rfl
  | succ n ih =>
      have hnext : law rate buckets k * (rate / ofLevel (k + 1)) = law rate buckets (k + 1) := by
        rw [ofLevel_real (by omega), law_succ]
      rw [following, hnext, ih (by omega), List.range'_succ, List.map_cons]

theorem expected_eq_law (maxK : UInt32) (rate : ℝ) (buckets : UInt64) :
    expected maxK rate buckets = (List.range (maxK.toNat + 1)).map (law rate buckets.toNat) := by
  have hmaxK : maxK.toNat < 2 ^ 32 := maxK.toNat_lt
  have hfirst : ofCount buckets * Exponential.exp (-rate) = law rate buckets.toNat 0 := by
    rw [ofCount_real, exp_real, law_zero]
  rw [expected, hfirst, following_eq_law rate buckets.toNat (by omega), List.range_eq_range', List.range'_succ,
    List.map_cons]

/-- Expectations at the levels from zero to `top` that are those of the law, and what this makes of them. -/
structure FollowsLaw (rate : ℝ) (buckets top : Nat) (entries : List ℝ) : Prop where
  length_eq : entries.length = top + 1
  entry (k : Nat) (hk : k < entries.length) :
    entries[k] = buckets * Real.exp (-rate) * rate ^ k / k.factorial
  nonneg (e : ℝ) (hmem : e ∈ entries) : 0 ≤ e
  le_next_iff (k : Nat) (hk : k + 1 < entries.length) :
    entries[k] ≤ entries[k + 1] ↔ (k + 1 : Nat) ≤ rate ∨ entries[k] = 0 ∧ entries[k + 1] = 0
  rises (j k : Nat) (hjk : j ≤ k) (hk : k < entries.length) (hbelow : k ≤ rate) : entries[j] ≤ entries[k]
  falls (j k : Nat) (hjk : j ≤ k) (hk : k < entries.length) (hbeyond : rate ≤ (j + 1 : Nat)) : entries[k] ≤ entries[j]
  sum_le : entries.sum ≤ buckets

/-- **The recurrence computes the law.** At every rate and up to every level the expectations are those of the Poisson law:
none is negative, each is at least the one before it exactly if its level is not above the rate or both are zero, so that
they rise up to the rate and fall from there on, and together they are no more than the number of buckets. -/
theorem expected_follows_law (hrate : 0 ≤ rate) (maxK : UInt32) (buckets : UInt64) :
    FollowsLaw rate buckets.toNat maxK.toNat (expected maxK rate buckets) := by
  have hentry (k : Nat) (hk : k < (expected maxK rate buckets).length) :
      (expected maxK rate buckets)[k] = law rate buckets.toNat k := by
    simp only [expected_eq_law, List.getElem_map, List.getElem_range]
  constructor
  case length_eq => exact length_expected maxK rate buckets
  case entry => exact hentry
  case nonneg =>
    rw [expected_eq_law, List.forall_mem_map]
    exact fun k _ => law_nonneg hrate buckets.toNat k
  case le_next_iff =>
    intro k hk
    rw [hentry k (by omega), hentry (k + 1) hk]
    exact law_le_succ_iff hrate
  case rises =>
    intro j k hjk hk hbelow
    rw [hentry j (by omega), hentry k hk]
    exact law_rises hrate hjk hbelow
  case falls =>
    intro j k hjk hk hbeyond
    rw [hentry j (by omega), hentry k hk]
    exact law_falls hrate hjk hbeyond
  case sum_le =>
    calc
      (expected maxK rate buckets).sum = ∑ k ∈ range (maxK.toNat + 1), law rate buckets.toNat k := by
        rw [expected_eq_law]
        rfl
      _ ≤ buckets.toNat := sum_law_le hrate buckets.toNat _

/-- Of a thousand buckets with two and a half items each, the most are expected to hold two. -/
theorem expected_follows_law_thousand :
    (0 : ℝ) ≤ 5 / 2 ∧ ∀ k, (hk : k < (expected 9 (5 / 2 : ℝ) 1000).length) →
      (expected 9 (5 / 2 : ℝ) 1000)[k] ≤ 1000 * Real.exp (-(5 / 2)) * (5 / 2) ^ 2 / 2 := by
  have hrate : (0 : ℝ) ≤ 5 / 2 := by norm_num
  have hlaw := expected_follows_law hrate 9 1000
  have htwo : 2 < (expected 9 (5 / 2 : ℝ) 1000).length := by
    rw [hlaw.length_eq]
    decide
  have hentry : (expected 9 (5 / 2 : ℝ) 1000)[2] = 1000 * Real.exp (-(5 / 2)) * (5 / 2) ^ 2 / 2 := hlaw.entry 2 htwo
  refine ⟨hrate, fun k hk => hentry ▸ ?_⟩
  rcases Nat.le_total k 2 with hbelow | habove
  · exact hlaw.rises k 2 hbelow htwo (by norm_num)
  · exact hlaw.falls 2 k habove hk (by norm_num)

end Occupancy.Poisson

import Occupancy.Poisson

/-! Expectations up to a level. Each of them is computed from the one before, so where the computation stops makes no
difference to those that have been reached: the expectations up to a level are the first of those up to any higher one. -/

namespace Occupancy.Poisson

variable {α : Type} [Scalar α] [Mul α] [Div α]

theorem take_following (rate current : α) (k : Nat) {m n : Nat} (h : m ≤ n) :
    (following rate current k n).take m = following rate current k m := by
  induction m generalizing current k n with
  | zero => rfl
  | succ m ih =>
      obtain ⟨n, rfl⟩ : ∃ n', n = n' + 1 := ⟨n - 1, by omega⟩
      rw [following, following, List.take_succ_cons, ih _ _ (by omega)]

theorem take_expected [Exponential α] [Neg α] {maxK higher : UInt32} (h : maxK ≤ higher) (rate : α) (buckets : UInt64) :
    (expected higher rate buckets).take (maxK.toNat + 1) = expected maxK rate buckets := by
  rw [expected, expected, List.take_succ_cons, take_following _ _ _ (UInt32.le_iff_toNat_le.mp h)]

end Occupancy.Poisson

import Occupancy.Scalar

/-! The occupancy of buckets under uniform throws. With `n` items in `N` buckets the number of items in a bucket
is nearly Poisson distributed with rate `n / N`, and about `N · e^(-rate) · rate^k / k!` buckets hold exactly `k`
items. The expectations are computed one from the other, so that neither a power nor a factorial appears. -/

namespace Occupancy.Poisson

variable {α : Type} [Scalar α] [OfScientific α] [Mul α] [Div α]

/-- Items per bucket; zero if there are no buckets. -/
def rate (items buckets : UInt64) : α :=
  if buckets = 0 then 0.0 else ofCount items / ofCount buckets

/-- The expectations at the `n` levels after level `k`, which has the expectation `current`. -/
def following (rate current : α) (k : Nat) : Nat → List α
  | 0 => []
  | n + 1 =>
    let next := current * (rate / ofLevel (k + 1))
    next :: following rate next (k + 1) n

/-- The expected number of buckets at each of the levels from zero to `maxK`. -/
def expected [Exponential α] [Neg α] (maxK : UInt32) (rate : α) (buckets : UInt64) : List α :=
  let first := ofCount buckets * Exponential.exp (-rate)
  first :: following rate first 0 maxK.toNat

omit [OfScientific α] in
theorem length_following (rate current : α) (k n : Nat) : (following rate current k n).length = n := by
  induction n generalizing current k with
  | zero => rfl
  | succ n ih => simp [following, ih]

omit [OfScientific α] in
theorem length_expected [Exponential α] [Neg α] (maxK : UInt32) (rate : α) (buckets : UInt64) :
    (expected maxK rate buckets).length = maxK.toNat + 1 := by
  simp [expected, length_following]

end Occupancy.Poisson

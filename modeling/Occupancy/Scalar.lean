/-! The numbers in which rates, expectations, fractions and axes are computed. Their definitions name arithmetic
only through the operator classes and the two classes below: they run on binary64 numbers and can be read over
the rationals or the reals as well. -/

namespace Occupancy

class Scalar (α : Type) where
  ofCount : UInt64 → α
  isFinite : α → Bool

export Scalar (ofCount isFinite)

class Exponential (α : Type) where
  exp : α → α

/-- A count is rounded to the nearest binary64 number. -/
instance : Scalar Float where
  ofCount := UInt64.toFloat
  isFinite := Float.isFinite

instance : Exponential Float where
  exp := Float.exp

/-- An occupancy level as a number. -/
def ofLevel {α : Type} [Scalar α] (k : Nat) : α := ofCount (UInt64.ofNat k)

end Occupancy

import Occupancy.Histogram
import Occupancy.Scalar

/-! Frequencies as fractions of the histogram's own total, which makes histograms of tables with different
numbers of buckets comparable. A histogram whose total is zero has the fraction zero at every level; one whose total
cannot be computed has no fractions. -/

namespace Occupancy.Histogram

variable {α : Type} [Scalar α] [OfScientific α] [Div α]

/-- Frequencies as fractions of `total`. -/
def fractionsOf (h : Histogram) (total : UInt64) : List α :=
  if total = 0 then List.replicate h.frequencies.length 0.0
  else h.frequencies.map fun frequency => ofCount frequency / ofCount total

def fractions (h : Histogram) : Except Overflow (List α) := h.total.map h.fractionsOf

/-- Frequencies as numbers. -/
def values (h : Histogram) : List α := h.frequencies.map ofCount

end Occupancy.Histogram

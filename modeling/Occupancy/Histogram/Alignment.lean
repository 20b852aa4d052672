import Occupancy.Histogram

/-! Histograms brought to the levels that all of them have, so that they can be drawn over one axis. Histograms
without levels have no say in what the common levels are and stay as they are. -/

namespace Occupancy.Histogram

/-- The smallest of the largest levels. -/
def commonMaxK (hs : List Histogram) : Option UInt32 := (hs.filterMap maxK).min?

def align (hs : List Histogram) : List Histogram :=
  match commonMaxK hs with
  | none => hs
  | some top => hs.map (·.truncated top)

theorem length_align (hs : List Histogram) : (align hs).length = hs.length := by
  unfold align
  split <;> simp

end Occupancy.Histogram

/-! Classes of characters given as ranges of code points. A class is a list of ranges in ascending order, both
ends included. -/

namespace Occupancy.Text

abbrev CodeRanges := List (Nat × Nat)

namespace CodeRanges

def contains (ranges : CodeRanges) (c : Char) : Bool :=
  ranges.any fun (first, last) => first ≤ c.toNat && c.toNat ≤ last

/-- Each range is nonempty and ends at least two code points before the next one starts. -/
def separated : CodeRanges → Bool
  | [] => true
  | [(first, last)] => first ≤ last
  | (first, last) :: (next, stop) :: rest => first ≤ last && last + 1 < next && separated ((next, stop) :: rest)

theorem contains_iff {ranges : CodeRanges} {c : Char} :
    ranges.contains c = true ↔ ∃ range ∈ ranges, range.1 ≤ c.toNat ∧ c.toNat ≤ range.2 := by
  simp [contains]

end CodeRanges

end Occupancy.Text

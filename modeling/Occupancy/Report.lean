import Occupancy.Descriptor
import Occupancy.Histogram
import Occupancy.Text.Grid
import Occupancy.Text.Size

/-! The report on an algorithm: a line that sums it up and a table with one row for each level, which sets the
observed number of buckets beside the expected one and gives its share of all buckets of the algorithm. -/

namespace Occupancy

structure LevelRow where
  level : UInt32
  observed : UInt64
  expected : String
  percentage : String
deriving Repr, DecidableEq

namespace LevelRow

/-- The share of `total` in percent; of no buckets it is zero. -/
def percentageText (observed total : UInt64) : String :=
  if total = 0 then "0.00%" else Decimal.fixed 2 (observed.toFloat / total.toFloat * 100.0) ++ "%"

def of (level : UInt32) (observed : UInt64) (expected : Float) (total : UInt64) : LevelRow :=
  ⟨level, observed, Decimal.fixed 2 expected, percentageText observed total⟩

def header : List String := ["k", "Observed", "Expected", "Percentage"]

def cells (row : LevelRow) : List String :=
  [toString row.level, toString row.observed, row.expected, row.percentage]

end LevelRow

/-- A row for each level that has an expectation. -/
def levelRows (h : Histogram) (expected : List Float) (total : UInt64) : List LevelRow :=
  h.pairs.zipWith (fun (level, observed) expected => .of level observed expected total) expected

/-- The rows as a table under a title; the title is underlined by a mark for each of its bytes. -/
def tableText (rows : List LevelRow) (title : Option String) : String :=
  if rows.isEmpty then "No occupancy data available"
  else
    let grid := Text.Grid.text LevelRow.header (rows.map LevelRow.cells)
    match title with
    | none => grid
    | some title => title ++ "\n" ++ Text.Grid.fill '=' title.utf8ByteSize ++ "\n" ++ grid

structure Report where
  descriptor : Descriptor
  histogram : Histogram
deriving Repr, DecidableEq

namespace Report

/-- The expectations at the levels of the histogram. -/
def expected (r : Report) : List Float :=
  match r.histogram.maxK with
  | none => []
  | some maxK => Poisson.expected maxK r.descriptor.rate r.descriptor.numBuckets

def rows (r : Report) : List LevelRow := levelRows r.histogram r.expected r.descriptor.numBuckets

def table (r : Report) : String := tableText r.rows (some r.descriptor.algorithm)

/-- Bytes of the counts of all buckets. From `2 ^ 62` buckets on the product wraps, where the program would end; the counts
of so many buckets cannot be loaded. -/
def countsSize (d : Descriptor) : UInt64 := d.numBuckets * 4

def summary (d : Descriptor) : String :=
  s!"📊 {d.algorithm}: {d.numInputs} inputs into {d.numBuckets} buckets, λ={Decimal.fixed 4 d.rate} "
    ++ s!"(counts: {Text.sizeText (countsSize d)})"

end Report

end Occupancy

import Occupancy.Chart.Error
import Occupancy.Chart.Frame
import Occupancy.Descriptor
import Occupancy.Histogram.Fractions

/-! The chart of one algorithm: a bar for the observed number of buckets at each level and, if it is wanted, the
Poisson expectation as a line with markers. A logarithmic axis starts below the observed values, so that no bar is
lost, and leaves out the expectations that lie below its lower end. -/

namespace Occupancy.Chart

structure Options where
  scale : Scale
  /-- Whether algorithm charts show the expectation. -/
  showPoisson : Bool
  /-- Whether the overlay shows fractions and not numbers of buckets. -/
  normalizeOverlay : Bool
deriving Repr, DecidableEq

def Options.default : Options := ⟨.linear, true, true⟩

section Bars

variable {α : Type} [Scalar α] [OfScientific α] [Add α] [Sub α] [Neg α] [Mul α] [LT α] [DecidableLT α]
  [LE α] [DecidableLE α]

def barStyle : Style := (Style.solid .blue).fade 60

/-- The bar of one level grows from `baseline`. -/
def bar (baseline : α) (point : Point α) : Element α :=
  .rect ⟨point.x - 0.4, baseline⟩ ⟨point.x + 0.4, point.y⟩ barStyle

/-- A logarithmic axis has bars for positive values only. -/
def bars (scale : Scale) (baseline : α) (observed : List (Point α)) : List (Element α) :=
  match scale with
  | .linear => observed.map (bar baseline)
  | .logarithmic => (observed.filter fun point => 0.0 < point.y).map (bar baseline)

/-- The points of the expectation that an axis from `baseline` on can show. -/
def shownExpectation (scale : Scale) (baseline : α) (expected : List (Point α)) : List (Point α) :=
  match scale with
  | .linear => expected
  | .logarithmic => expected.filter fun point => baseline ≤ point.y

/-- The chart of numbers of buckets observed at some levels, and of those expected at the levels from zero on. -/
def histogramDrawing (caption : String) (scale : Scale) (maxK : UInt32) (observed : List (Point α))
    (expected : Option (List α)) : Drawing α :=
  let values := observed.map (·.y)
  let ySpan := Axis.span scale values (values ++ expected.getD [])
  let expectation : Drawing α :=
    match expected with
    | none => []
    | some expected =>
      markedLine .red 4 "Poisson expectation" (shownExpectation scale ySpan.low (levelPoints expected))
  framed caption (Axis.levelSpan maxK) scale ySpan maxK "Number of buckets"
    ([.series (bars scale ySpan.low observed),
      .label "Observed",
      .legend (.rect ⟨0, -6⟩ ⟨20, 6⟩ barStyle)]
     ++ expectation)

end Bars

/-- The frequencies of a histogram as points at their levels. -/
def frequencyPoints {α : Type} [Scalar α] (h : Histogram) : List (Point α) :=
  h.pairs.map fun (level, frequency) => ⟨ofLevel level.toNat, ofCount frequency⟩

/-- Name of the algorithm, numbers of items and buckets, and their rate. -/
def title (d : Descriptor) : String :=
  s!"{d.algorithm}  (inputs={d.numInputs}, buckets={d.numBuckets}, λ={Decimal.fixed 4 d.rate})"

/-- The chart of an algorithm; a histogram without levels has none. -/
def ofHistogram (d : Descriptor) (h : Histogram) (options : Options) : Except ChartError (Drawing Float) :=
  match h.maxK with
  | none => .error (.emptyHistogram d.algorithm)
  | some maxK =>
    let expected := if options.showPoisson then some (Poisson.expected maxK d.rate d.numBuckets) else none
    .ok (histogramDrawing (title d) options.scale maxK (frequencyPoints h) expected)

end Occupancy.Chart

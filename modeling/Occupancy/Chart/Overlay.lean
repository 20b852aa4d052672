import Occupancy.Chart.Histogram

/-! The chart that compares algorithms: one line for each over common levels, of fractions of buckets or of numbers
of buckets. It shows no expectation. -/

namespace Occupancy.Chart

/-- An algorithm with its histogram. -/
structure Series where
  name : String
  histogram : Histogram
deriving Repr, DecidableEq

section Lines

variable {α : Type} [Scalar α] [OfScientific α] [Add α] [Neg α] [Mul α] [Div α] [LT α] [DecidableLT α]

/-- The values that the overlay shows of a histogram. -/
def overlayValues (normalize : Bool) (h : Histogram) : Except Overflow (List α) :=
  if normalize then h.fractions else .ok h.values

/-- A logarithmic axis shows positive values only. -/
def shownPoints (scale : Scale) (points : List (Point α)) : List (Point α) :=
  match scale with
  | .linear => points
  | .logarithmic => points.filter fun point => 0.0 < point.y

/-- The lines, each in the palette colour of its place. -/
def overlayLines (scale : Scale) (lines : List (String × List α)) : Drawing α :=
  lines.zipIdx.flatMap fun ((name, values), index) =>
    markedLine (.palette index) 3 name (shownPoints scale (levelPoints values))

def overlayDrawing (scale : Scale) (normalize : Bool) (maxK : UInt32) (lines : List (String × List α)) :
    Drawing α :=
  let values := lines.flatMap (·.2)
  framed "Bucket occupancy by algorithm" (Axis.levelSpan maxK) scale (Axis.span scale values values) maxK
    (if normalize then "Fraction of buckets" else "Number of buckets") (overlayLines scale lines)

/-- The largest level of a series and its values. -/
def overlayLine (normalize : Bool) (s : Series) : Except ChartError (UInt32 × List α) :=
  match s.histogram.maxK with
  | none => .error (.emptyHistogram s.name)
  | some top =>
    match overlayValues normalize s.histogram with
    | .error e => .error (.overflow e)
    | .ok values => .ok (top, values)

/-- The largest level of all series and their lines; the first series without a line is an error. -/
def overlayData (normalize : Bool) : UInt32 → List Series → Except ChartError (UInt32 × List (String × List α))
  | maxK, [] => .ok (maxK, [])
  | maxK, s :: rest =>
    match overlayLine normalize s with
    | .error e => .error e
    | .ok (top, values) =>
      match overlayData normalize (max maxK top) rest with
      | .error e => .error e
      | .ok (last, lines) => .ok (last, (s.name, values) :: lines)

end Lines

/-- The chart of several algorithms; there has to be at least one. -/
def ofSeries (series : List Series) (options : Options) : Except ChartError (Drawing Float) :=
  match series with
  | [] => .error (.invalidData "Overlay needs at least one algorithm")
  | series =>
    match overlayData options.normalizeOverlay 0 series with
    | .error e => .error e
    | .ok (maxK, lines) => .ok (overlayDrawing options.scale options.normalizeOverlay maxK lines)

end Occupancy.Chart

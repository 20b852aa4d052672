import Occupancy.Chart.Axis

/-! What all charts have in common: size, background, margins, axes and the box with the names of the series. -/

namespace Occupancy.Chart

/-- The most labels that the ticks of the horizontal axis get. -/
def maxLevelLabels : Nat := 25

/-- The frame of a chart around the calls that draw its series. -/
def framed {α : Type} (caption : String) (xSpan : Span α) (scale : Scale) (ySpan : Span α) (maxK : UInt32)
    (yDescription : String) (content : Drawing α) : Drawing α :=
  [.bitmap 1200 800,
   .fill (.solid .white),
   .caption caption (.sans 40),
   .margin 20,
   .xLabelArea 60,
   .yLabelArea 85,
   .axes xSpan scale ySpan,
   .mesh
    { xDescription := "Items per bucket (k)"
      xLabels := min (maxK.toNat + 1) maxLevelLabels
      yDescription
      descriptionFont := .sans 35
      labelFont := .sans 25
      xSpan, ySpan }]
  ++ content ++
  [.seriesLabels ((Style.plain .white).fade 80) (.plain .black) (.sans 25) .upperRight,
   .present]

/-- A line through the points with its name and its legend, and a marker at each of the points. -/
def markedLine {α : Type} (ink : Ink) (radius : Nat) (name : String) (points : List (Point α)) : Drawing α :=
  [.series [.path points (.line ink 2)],
   .label name,
   .legend (.path [⟨0, 0⟩, ⟨20, 0⟩] (.line ink 2)),
   .series (points.map fun point => .circle point radius (.solid ink))]

/-- The values of the levels from zero on as points. -/
def levelPoints {α : Type} [Scalar α] (values : List α) : List (Point α) :=
  values.zipIdx.map fun (value, k) => ⟨ofLevel k, value⟩

end Occupancy.Chart

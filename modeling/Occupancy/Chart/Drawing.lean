import Occupancy.Json.Value
import Occupancy.Decimal.Text

/-! Drawings as data. A chart is the list of calls that put it on a surface, with all coordinates in the units of
its axes; what the surface makes of them is not described. The coordinates are of any type of numbers, drawings
that are written to files have binary64 coordinates. -/

namespace Occupancy

/-- Named colours, and the colours of a palette for lines that have to be told apart. -/
inductive Ink
  | white
  | black
  | red
  | blue
  | palette (index : Nat)
deriving Repr, DecidableEq

/-- Opacity is in percent; the stroke width only matters to shapes that are not filled. -/
structure Style where
  ink : Ink
  opacity : Nat
  filled : Bool
  stroke : Nat
deriving Repr, DecidableEq

namespace Style

def plain (ink : Ink) : Style := ⟨ink, 100, false, 1⟩

def solid (ink : Ink) : Style := ⟨ink, 100, true, 1⟩

def line (ink : Ink) (width : Nat) : Style := ⟨ink, 100, false, width⟩

def fade (style : Style) (opacity : Nat) : Style := { style with opacity }

end Style

structure Font where
  family : String
  size : Nat
deriving Repr, DecidableEq

def Font.sans (size : Nat) : Font := ⟨"sans-serif", size⟩

structure Point (α : Type) where
  x : α
  y : α
deriving Repr, DecidableEq

inductive Element (α : Type)
  | rect (corner opposite : Point α) (style : Style)
  | path (points : List (Point α)) (style : Style)
  | circle (center : Point α) (radius : Nat) (style : Style)
deriving Repr, DecidableEq

/-- The numbers shown by an axis, from `low` to `high`. -/
structure Span (α : Type) where
  low : α
  high : α
deriving Repr, DecidableEq

inductive Scale
  | linear
  | logarithmic
deriving Repr, DecidableEq

/-- The grid behind a chart with the descriptions of its axes. At most `xLabels` ticks of the horizontal axis have
a label. -/
structure Mesh (α : Type) where
  xDescription : String
  xLabels : Nat
  yDescription : String
  descriptionFont : Font
  labelFont : Font
  xSpan : Span α
  ySpan : Span α
deriving Repr, DecidableEq

inductive Corner
  | upperRight
deriving Repr, DecidableEq

/-- One call to a drawing surface. A label and a legend belong to the series before them; the legend is drawn
around the origin in pixels. -/
inductive Call (α : Type)
  | bitmap (width height : Nat)
  | fill (style : Style)
  | caption (text : String) (font : Font)
  | margin (pixels : Nat)
  | xLabelArea (pixels : Nat)
  | yLabelArea (pixels : Nat)
  | axes (xSpan : Span α) (scale : Scale) (ySpan : Span α)
  | mesh (mesh : Mesh α)
  | series (elements : List (Element α))
  | label (text : String)
  | legend (element : Element Int)
  | seriesLabels (background border : Style) (font : Font) (corner : Corner)
  | present
deriving Repr, DecidableEq

abbrev Drawing (α : Type) : Type := List (Call α)

end Occupancy

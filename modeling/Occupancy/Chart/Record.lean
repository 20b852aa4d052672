import Occupancy.Chart.Axis

/-! The record of a chart: its calls as a JSON list, each call a list of its name and its arguments. Numbers on the
axes are written as texts with one digit before and twelve behind the point, pixels as integers. -/

namespace Occupancy.Chart

def number (x : Float) : Json := .string (Decimal.scientific 12 x)

def natural (n : Nat) : Json := .integer n

def inkRecord : Ink → Json
  | .white => .string "white"
  | .black => .string "black"
  | .red => .string "red"
  | .blue => .string "blue"
  | .palette index => natural index

def styleRecord (style : Style) : Json :=
  .object
    [("color", inkRecord style.ink),
     ("alpha", number (style.opacity.toFloat / 100.0)),
     ("filled", .boolean style.filled),
     ("stroke", natural style.stroke)]

def fontRecord (font : Font) : Json := .list [.string font.family, natural font.size]

section Shapes

variable {α : Type} (coordinate : α → Json)

def pointRecord (point : Point α) : Json := .list [coordinate point.x, coordinate point.y]

def elementRecord : Element α → Json
  | .rect corner opposite style =>
    .object
      [("kind", .string "rect"),
       ("points", .list [pointRecord coordinate corner, pointRecord coordinate opposite]),
       ("style", styleRecord style)]
  | .path points style =>
    .object
      [("kind", .string "path"),
       ("points", .list (points.map (pointRecord coordinate))),
       ("style", styleRecord style)]
  | .circle center radius style =>
    .object
      [("kind", .string "circle"),
       ("center", pointRecord coordinate center),
       ("size", natural radius),
       ("style", styleRecord style)]

end Shapes

def spanRecord (span : Span Float) : Json := .list [number span.low, number span.high]

def scaleRecord : Scale → Json
  | .linear => .string "linear"
  | .logarithmic => .string "log"

def cornerRecord : Corner → Json
  | .upperRight => .string "UpperRight"

def labelRecords (label : Float → String) (span : Span Float) : Json :=
  .list ((Axis.ticks label span).map .string)

def meshRecord (mesh : Mesh Float) : Json :=
  .object
    [("x_desc", .string mesh.xDescription),
     ("x_labels", natural mesh.xLabels),
     ("y_desc", .string mesh.yDescription),
     ("axis_desc_style", fontRecord mesh.descriptionFont),
     ("label_style", fontRecord mesh.labelFont),
     ("x_ticks", labelRecords Axis.levelLabel mesh.xSpan),
     ("y_ticks", labelRecords Axis.valueLabel mesh.ySpan)]

def callRecord : Call Float → Json
  | .bitmap width height => .list [.string "bitmap", natural width, natural height]
  | .fill style => .list [.string "fill", styleRecord style]
  | .caption text font => .list [.string "caption", .string text, fontRecord font]
  | .margin pixels => .list [.string "margin", natural pixels]
  | .xLabelArea pixels => .list [.string "x_label_area_size", natural pixels]
  | .yLabelArea pixels => .list [.string "y_label_area_size", natural pixels]
  | .axes xSpan scale ySpan =>
    .list [.string "axes", scaleRecord .linear, spanRecord xSpan, scaleRecord scale, spanRecord ySpan]
  | .mesh mesh => .list [.string "mesh", meshRecord mesh]
  | .series elements => .list [.string "series", .list (elements.map (elementRecord number))]
  | .label text => .list [.string "label", .string text]
  | .legend element => .list [.string "legend", elementRecord Json.integer element]
  | .seriesLabels background border font corner =>
    .list
      [.string "series_labels",
       .object
        [("background_style", styleRecord background),
         ("border_style", styleRecord border),
         ("label_font", fontRecord font),
         ("position", cornerRecord corner)]]
  | .present => .list [.string "present"]

def record (drawing : Drawing Float) : Json := .list (drawing.map callRecord)

end Occupancy.Chart

import Occupancy.Checked

/-! Why a chart is not drawn. -/

namespace Occupancy

inductive ChartError
  | drawingArea (reason : String)
  | chartConfig (reason : String)
  | drawing (reason : String)
  | invalidData (reason : String)
  /-- No error is returned: the program ends while it computes what the chart shows. -/
  | overflow (cause : Overflow)
deriving Repr, DecidableEq

namespace ChartError

def message : ChartError → String
  | drawingArea reason => "Failed to create drawing area: " ++ reason
  | chartConfig reason => "Failed to configure chart: " ++ reason
  | drawing reason => "Failed to draw chart elements: " ++ reason
  | invalidData reason => "Invalid data: " ++ reason
  | overflow cause => cause.message

/-- There is nothing to draw for an algorithm whose histogram has no levels. -/
def emptyHistogram (algorithm : String) : ChartError :=
  invalidData ("Histogram for '" ++ algorithm ++ "' is empty")

end ChartError

end Occupancy

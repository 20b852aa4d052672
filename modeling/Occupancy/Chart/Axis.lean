import Occupancy.Chart.Drawing
import Occupancy.Scalar

/-! The axes of a chart: the span of its values and the labels of its ticks. A linear axis starts at zero; a
logarithmic one cannot show zero and starts half-way below the smallest positive value that has to stay visible.
There is always room above the largest value, and a chart without positive values has a span too. -/

namespace Occupancy.Axis

section Spans

variable {α : Type} [Scalar α] [OfScientific α] [Mul α] [LT α] [DecidableLT α]

/-- The larger of two numbers, the first where they cannot be compared. -/
def larger (a b : α) : α := if a < b then b else a

def smaller (a b : α) : α := if b < a then b else a

/-- The largest of the values and zero. -/
def largest (values : List α) : α := values.foldl larger 0.0

/-- The smallest of the positive values. -/
def smallestPositive : List α → Option α
  | [] => none
  | value :: values =>
    if 0.0 < value then
      match smallestPositive values with
      | none => some value
      | some least => some (smaller value least)
    else smallestPositive values

/-- The lower end of a logarithmic axis. -/
def floor (visible : List α) : α :=
  match smallestPositive visible with
  | none => 0.5
  | some least => if isFinite least then least * 0.5 else 0.5

/-- The span of an axis that shows all of `values`, and of those the positive ones in `visible` above its lower
end. -/
def span (scale : Scale) (visible values : List α) : Span α :=
  let top := largest values
  match scale with
  | .linear => ⟨0.0, if 0.0 < top then top * 1.1 else 1.0⟩
  | .logarithmic =>
    let low := floor visible
    ⟨low, larger (top * 2.0) (low * 10.0)⟩

end Spans

/-- The span of levels from zero to `maxK`, half a level wider at either end. -/
def levelSpan {α : Type} [Scalar α] [OfScientific α] [Add α] [Neg α] (maxK : UInt32) : Span α :=
  ⟨-0.5, ofLevel maxK.toNat + 0.5⟩

/-- Only whole levels have a label. -/
def levelLabel (x : Float) : String := if (x - x.round).abs < 1e-6 then Decimal.fixed 0 x else ""

/-- Values from one on are written without places, smaller ones with a power of ten. -/
def valueLabel (y : Float) : String :=
  if 1.0 ≤ y.abs || y == 0.0 then Decimal.fixed 0 y else Decimal.scientific 1 y

/-- The labels at the ends of a span and in its middle. -/
def ticks (label : Float → String) (span : Span Float) : List String :=
  [label span.low, label ((span.low + span.high) / 2.0), label span.high]

end Occupancy.Axis

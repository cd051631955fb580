import OrderOfGrowth.Chart.Colour
import OrderOfGrowth.Curve

/-!
# Charts and their datasets

A chart shows reference curves for an estimate together with measurements. The curve of the
estimated class comes first, thick and opaque; all other curves are thin and dimmed. Every
curve is held under the ceiling of the chart and then thinned out.
-/

namespace OrderOfGrowth

/-- What a chart shows. The ceiling and the memory limit stand as they were configured. -/
structure Chart where
  complexity : ComplexityClass
  curves : List Curve
  runtime : Option Quantity
  memory : Option Quantity
  memoryLimit : Json
  ceiling : Json
  step : Quantity
  opacity : Quantity

/-- One line of a chart. -/
structure Dataset where
  label : String
  points : List Point
  colour : String
  width : Quantity
  deriving DecidableEq

namespace Dataset

/-- The width of the highlighted line. -/
def thick : Quantity := .int 4

/-- The width of all other lines, one and a half. -/
def thin : Quantity := .float (Binary64.ofQuotient false 3 2)

/-- A point as an object. -/
def pointObject (point : Point) : Json := .object [("x", .int point.x), ("y", .number point.y)]

/-- A dataset as an object. -/
def toJson (dataset : Dataset) : Json :=
  .object [
    ("label", .string dataset.label),
    ("data", .list (dataset.points.map pointObject)),
    ("borderColor", .string dataset.colour),
    ("backgroundColor", .string dataset.colour),
    ("borderWidth", .number dataset.width),
    ("pointRadius", .int 0),
    ("fill", .bool false)]

end Dataset

namespace Chart

/-- The line of the highlighted curve. -/
def highlightedLine (chart : Chart) (curve : Curve) : Except Failure Dataset := do
  let points ← curve.displayed chart.ceiling chart.step
  let colour ← Colour.rgba curve.complexity.colour (.float .one)
  return ⟨curve.name ++ highlightMark, points, colour, Dataset.thick⟩

/-- The line of any other curve. -/
def dimmedLine (chart : Chart) (curve : Curve) : Except Failure Dataset := do
  let points ← curve.displayed chart.ceiling chart.step
  let colour ← Colour.rgba curve.complexity.colour chart.opacity
  return ⟨curve.name, points, colour, Dataset.thin⟩

/-- The lines of a chart, the highlighted one first if there is one. -/
def datasets (chart : Chart) : Except Failure (List Dataset) := do
  let (highlighted, others) := Curve.split chart.curves chart.complexity
  match highlighted with
  | none => others.mapM chart.dimmedLine
  | some curve =>
    let first ← chart.highlightedLine curve
    return first :: (← others.mapM chart.dimmedLine)

end Chart

end OrderOfGrowth

import OrderOfGrowth.Proofs.CurveTable

/-!
# The lines of a chart

A chart has one line for each of its curves. The curve to highlight is looked up by the label of its
class, but it is taken out of the others as the curve that it is. So of several curves of the class
only the first is highlighted, and the others stay where they were, with the plain label. The points
of a curve need not be those of its size: two curves that show the same points are different curves
if they differ in class or size. The opacity of the others is written into each of their lines, so
it must have a text as soon as there is another curve than the highlighted one.
-/

namespace OrderOfGrowth

namespace Curve

variable {c : ComplexityClass} {curve : Curve} {curves before behind : List Curve}

end Curve

/-- What a line shows of a curve: its points at the multiples of the step and no others, held under
the ceiling, with the label of its class and a mark, and in the colour of its class with an opacity
and a width. -/
structure Dataset.Shows (line : Dataset) (curve : Curve) (ceiling : Quantity) (step : ℕ)
    (mark : String) (width : Quantity) (opacity : List Char) : Prop where
  label : line.label = curve.complexity.label ++ mark
  points : ∀ i : ℕ,
    line.points[i]? = curve.points[i * step]?.map fun p => ⟨p.x, p.y.cap ceiling⟩
  colour : line.colour = curve.complexity.shade opacity
  width : line.width = width

namespace Chart

variable {chart : Chart} {ceiling : Quantity} {step : ℕ} {curve : Curve}
  {before behind : List Curve}

end Chart

end OrderOfGrowth

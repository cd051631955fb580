import OrderOfGrowth.Growth
import OrderOfGrowth.Json.Value

/-!
# Reference curves

A curve is the row of operation counts of one class for the sizes from zero on. For display
its values are held under a ceiling and thinned out. A curve is known by its class and its
number of sizes: two curves that agree in both are the same curve.
-/

namespace OrderOfGrowth

/-- A point of a curve: an input size and a value. -/
structure Point where
  x : Int
  y : Quantity
  deriving DecidableEq

/-- The operation counts of a class for the sizes below `size`. -/
structure Curve where
  complexity : ComplexityClass
  size : Int
  points : List Point

/-- How many sizes a curve has unless said otherwise. -/
def standardDomain : Int := 101

/-- The ceiling of displayed values unless said otherwise. -/
def standardCeiling : Int := 1000

/-- Every how many sizes a chart shows unless said otherwise. -/
def standardStep : Int := 2

/-- The point of a class at one size. -/
def pointAt (c : ComplexityClass) (n : Nat) : Except Failure Point :=
  (c.operations n).map fun y => ⟨n, .float y⟩

namespace Curve

/-- The curve of a class; a size that is not positive gives a curve without points. -/
def ofClass (c : ComplexityClass) (size : Int) : Except Failure Curve :=
  ((List.range size.toNat).mapM (pointAt c)).map fun points => ⟨c, size, points⟩

/-- The curves of all classes in ascending order. -/
def family (size : Int) : Except Failure (List Curve) := ComplexityClass.all.mapM (ofClass · size)

/-- The name of a curve is the label of its class. -/
def name (curve : Curve) : String := curve.complexity.label

/-- Whether two curves are the same curve. -/
def isSame (a b : Curve) : Bool := a.complexity == b.complexity && a.size == b.size

/-- The points with every value held under a ceiling. -/
def capped (curve : Curve) (ceiling : Quantity) : List Point :=
  curve.points.map fun p => { p with y := p.y.cap ceiling }

/-- The points under a ceiling as a setting carries it: only a number can be a ceiling of
points. -/
def cappedBySetting (curve : Curve) (ceiling : Json) : Except Failure (List Point) :=
  match ceiling with
  | .number q => .ok (curve.capped q)
  | other =>
    if curve.points.isEmpty then .ok [] else .error (.kind (.compare "<" other.kind "float"))

/-- The first curve with a name. -/
def find? (curves : List Curve) (label : String) : Option Curve := curves.find? (·.name == label)

/-- The first curve of a class, and all curves that are not that curve. -/
def split (curves : List Curve) (c : ComplexityClass) : Option Curve × List Curve :=
  match find? curves c.label with
  | some highlighted => (some highlighted, curves.filter (!·.isSame highlighted))
  | none => (none, curves)

end Curve

/-- What the name of the highlighted curve ends in. -/
def highlightMark : String := " (Your Code)"

/-- The first of every `step` items, for a positive `step`. -/
def everyNth {α : Type} (step : Nat) : List α → List α
  | [] => []
  | first :: rest => first :: everyNth step (rest.drop (step - 1))
termination_by items => items.length

/-- Every `step`-th item from the first on. The step must be a whole number and at least one. -/
def thin {α : Type} (items : List α) (step : Quantity) : Except Failure (List α) :=
  if step.lt (.int 1) then .error (.quoting step (.argument (.step step)))
  else
    match step with
    | .int n => .ok (everyNth n.toNat items)
    | .truth _ => .ok (everyNth 1 items)
    | .float _ => .error (.kind .step)

/-- The points of a curve that are displayed: held under the ceiling and thinned out. -/
def Curve.displayed (curve : Curve) (ceiling : Json) (step : Quantity) :
    Except Failure (List Point) := do
  thin (← curve.cappedBySetting ceiling) step

end OrderOfGrowth

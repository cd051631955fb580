import OrderOfGrowth.Number.Arithmetic
import OrderOfGrowth.Text.Blank

/-!
# Classes of time complexity

The eight classes with their labels, ranks, descriptions and chart colours, and the two ways
to find a class by its label: by the exact label, or by a label that may be surrounded by
blanks and may write its superscript with a caret.
-/

namespace OrderOfGrowth

/-- A class of asymptotic running time, in ascending order. -/
inductive ComplexityClass where
  | constant
  | logarithmic
  | linear
  | linearithmic
  | quadratic
  | cubic
  | exponential
  | factorial
  deriving DecidableEq

namespace ComplexityClass

/-- All classes in ascending order. -/
def all : List ComplexityClass :=
  [.constant, .logarithmic, .linear, .linearithmic, .quadratic, .cubic, .exponential, .factorial]

/-- Every class is listed. -/
theorem mem_all (c : ComplexityClass) : c ∈ all := by cases c <;> decide

/-- The label of a class. -/
def label : ComplexityClass → String
  | .constant => "O(1)"
  | .logarithmic => "O(log n)"
  | .linear => "O(n)"
  | .linearithmic => "O(n log n)"
  | .quadratic => "O(n²)"
  | .cubic => "O(n³)"
  | .exponential => "O(2^n)"
  | .factorial => "O(n!)"

/-- Different classes have different labels. -/
theorem label_injective {c d : ComplexityClass} (h : c.label = d.label) : c = d := by
  cases c <;> cases d <;> first | rfl | (revert h; decide)

/-- The rank of a class: whole numbers, with the linearithmic class half-way between the
linear and the quadratic one. -/
def level : ComplexityClass → Quantity
  | .constant => .int 1
  | .logarithmic => .int 2
  | .linear => .int 3
  | .linearithmic => .float (Binary64.ofQuotient false 7 2)
  | .quadratic => .int 4
  | .cubic => .int 5
  | .exponential => .int 6
  | .factorial => .int 7

/-- The description of a class in words. -/
def description : ComplexityClass → String
  | .constant => "Constant Time"
  | .logarithmic => "Logarithmic Time"
  | .linear => "Linear Time"
  | .linearithmic => "Linearithmic Time"
  | .quadratic => "Quadratic Time"
  | .cubic => "Cubic Time"
  | .exponential => "Exponential Time"
  | .factorial => "Factorial Time"

/-- The colour of a class in charts. -/
def colour : ComplexityClass → String
  | .constant => "#00ff00"
  | .logarithmic => "#ff8800"
  | .linear => "#88ff00"
  | .linearithmic => "#ffffff"
  | .quadratic => "#00aa88"
  | .cubic => "#ff00aa"
  | .exponential => "#00aaff"
  | .factorial => "#aa5500"

/-- Whether a class is only ever drawn for comparison and never the result of an estimate. -/
def isReferenceOnly (c : ComplexityClass) : Bool := c == .factorial

/-- The classes that an estimate can have, in ascending order. -/
def outcomes : List ComplexityClass := all.filter (!·.isReferenceOnly)

/-- The class with exactly this label. -/
def ofExactLabel? (label : String) : Option ComplexityClass := all.find? (·.label == label)

/-- The class with exactly this label. -/
def ofExactLabel (label : String) : Except Failure ComplexityClass :=
  match ofExactLabel? label with
  | some c => .ok c
  | none => .error (.notAClass label)

/-- A label in its usual spelling: without blanks around it, and with superscripts in place
of a caret and a two or a three. -/
def normalLabel (label : List Char) : List Char :=
  Text.replacePair '^' '3' '³' (Text.replacePair '^' '2' '²' (Text.trim label))

/-- The class that a label names in one of its spellings. -/
def ofLabel? (label : String) : Option ComplexityClass :=
  all.find? (·.label.toList == normalLabel label.toList)

/-- The class that a label names in one of its spellings. -/
def ofLabel (label : String) : Except Failure ComplexityClass :=
  match ofLabel? label with
  | some c => .ok c
  | none => .error (.unknownClass label)

/-- A label finds its own class. -/
theorem ofExactLabel?_label (c : ComplexityClass) : ofExactLabel? c.label = some c := by
  cases c <;> decide

end ComplexityClass

end OrderOfGrowth

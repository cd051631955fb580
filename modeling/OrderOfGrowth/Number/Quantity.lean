import OrderOfGrowth.Number.Decimal

/-!
# Quantities

A quantity is a whole number of any size, a double, or a truth value, which counts as one or
zero. Quantities are compared by their exact values, whatever their kinds, and an undefined
double is neither below, above nor equal to anything.
-/

namespace OrderOfGrowth

/-- A number as settings and measurements carry it. -/
inductive Quantity where
  | int (value : Int)
  | float (value : Binary64)
  | truth (value : Bool)
  deriving DecidableEq

/-- A place on the line of numbers with its two ends. -/
inductive Place where
  | bottom
  | at (value : Rat)
  | top
  deriving DecidableEq

namespace Place

/-- Strict order of places. -/
def lt : Place → Place → Bool
  | .bottom, .bottom => false
  | .bottom, _ => true
  | _, .bottom => false
  | .top, _ => false
  | _, .top => true
  | .at a, .at b => a < b

/-- Order of places. -/
def le (a b : Place) : Bool := !b.lt a

/-- No place is below itself. -/
theorem lt_irrefl (a : Place) : a.lt a = false := by
  cases a with
  | bottom => rfl
  | top => rfl
  | «at» value => simp [lt]

end Place

namespace Quantity

/-- Where a quantity lies; the undefined double lies nowhere. -/
def place? : Quantity → Option Place
  | .int n => some (.at n)
  | .truth b => some (.at (if b then 1 else 0))
  | .float .undefined => none
  | .float (.infinite negative) => some (if negative then .bottom else .top)
  | .float x => some (.at x.toRat)

/-- Whether the first quantity is strictly below the second. -/
def lt (a b : Quantity) : Bool :=
  match a.place?, b.place? with
  | some p, some q => p.lt q
  | _, _ => false

/-- Whether the first quantity is at most the second. -/
def le (a b : Quantity) : Bool :=
  match a.place?, b.place? with
  | some p, some q => p.le q
  | _, _ => false

/-- A quantity counts as given unless it is zero; the undefined double is not zero. -/
def isGiven (a : Quantity) : Bool := a.place? != some (.at 0)

/-- Whether a quantity has a text: a whole number must not have too many digits. -/
def isWritable : Quantity → Bool
  | .int n => (digits n.natAbs).length ≤ maxDigits
  | _ => true

/-- The text of a quantity that has one: whole numbers in base ten, doubles in the fewest digits
that read back, truth values by name. -/
def text : Quantity → List Char
  | .int n => integerText n
  | .float x => x.text
  | .truth true => ['T', 'r', 'u', 'e']
  | .truth false => ['F', 'a', 'l', 's', 'e']

/-- The smaller of a value and a ceiling. The ceiling is taken only if it is strictly smaller,
so that of two equal quantities, and beside an undefined one, the value stays. -/
def cap (value ceiling : Quantity) : Quantity := if ceiling.lt value then ceiling else value

/-- The smallest of quantities, and of equal ones the first. -/
def least? : List Quantity → Option Quantity
  | [] => none
  | first :: rest => some (rest.foldl cap first)

/-- A quantity never exceeds its ceiling if both lie somewhere. -/
theorem not_lt_cap {value ceiling : Quantity} : ceiling.lt (cap value ceiling) = false := by
  unfold cap
  split
  · unfold lt
    split <;> simp_all [Place.lt_irrefl]
  · simp_all

end Quantity

end OrderOfGrowth

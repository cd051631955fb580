import OrderOfGrowth.Failure

/-!
# Arithmetic with a range

Turning whole numbers and quotients into doubles fails when the result would be infinite,
and only a finite double has a whole part. Everything else is exact up to one rounding.
-/

namespace OrderOfGrowth

namespace Binary64

/-- The double nearest to a whole number, which must be within range. -/
def ofInt (n : Int) : Except Failure Binary64 :=
  let x := round n
  if x.isFinite then .ok x else .error (.arithmetic .integerTooLarge)

/-- The double nearest to the quotient of a whole number and a positive one, which must be
within range. -/
def ofIntQuotient (n : Int) (divisor : Nat) : Except Failure Binary64 :=
  let x := ofQuotient (n < 0) n.natAbs divisor
  if x.isFinite then .ok x else .error (.arithmetic .quotientTooLarge)

/-- The whole part of a finite double, cut towards zero. -/
def truncate (x : Binary64) : Except Failure Int :=
  match x with
  | .undefined => .error (.arithmetic .undefinedInteger)
  | .infinite _ => .error (.arithmetic .infiniteInteger)
  | .finite negative s e h =>
    let whole : Int := (Binary64.finite negative s e h).magnitude.floor
    .ok (if negative then -whole else whole)

/-- Whether a double is a whole number. -/
def isWhole (x : Binary64) : Bool := x.isFinite && x.magnitude.den == 1

end Binary64

namespace Quantity

/-- A quantity as a double. -/
def toDouble : Quantity → Except Failure Binary64
  | .int n => Binary64.ofInt n
  | .float x => .ok x
  | .truth b => .ok (if b then .one else .zero)

/-- The whole part of a quantity, cut towards zero. -/
def truncate : Quantity → Except Failure Int
  | .int n => .ok n
  | .float x => x.truncate
  | .truth b => .ok (if b then 1 else 0)

/-- A quantity times a positive whole number. -/
def timesNat (q : Quantity) (factor : Nat) : Quantity :=
  match q with
  | .int n => .int (n * factor)
  | .truth b => .int (if b then factor else 0)
  | .float x => .float (x.mul (Binary64.round (factor : Rat)))

/-- A quantity divided by a positive whole number, as a double. -/
def perNat (q : Quantity) (divisor : Nat) : Except Failure Binary64 :=
  match q with
  | .int n => Binary64.ofIntQuotient n divisor
  | .truth b => Binary64.ofIntQuotient (if b then 1 else 0) divisor
  | .float x => .ok (x.divNat divisor)

/-- The text of a quantity, which must have one. -/
def written (q : Quantity) : Except Failure (List Char) :=
  if q.isWritable then .ok q.text else .error (.arithmetic .tooLongInteger)

/-- Exactly the quantities that have a text are written, and their texts are. -/
theorem written_eq_ok {q : Quantity} {text : List Char} :
    q.written = .ok text ↔ q.isWritable = true ∧ q.text = text := by
  unfold written
  split <;> simp_all

/-- A quantity with two places behind the point. -/
def twoPlaces (q : Quantity) : Except Failure (List Char) := q.toDouble.map Binary64.twoPlaces

end Quantity

end OrderOfGrowth

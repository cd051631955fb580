import OrderOfGrowth.Number.Binary64

/-!
# Decimal numbers and doubles

A decimal number is a whole coefficient times a power of ten. Reading one gives the nearest
double. In the other direction a double has a shortest decimal number: among those with the
fewest digits that read back as the double, the nearest to it.
-/

namespace OrderOfGrowth

/-- The digits of a natural number in base ten, the first one not zero unless the number is. -/
def digits (n : Nat) : List Char := Nat.toDigits 10 n

/-- How many digits a whole number may have that is read from a text or written as one. -/
def maxDigits : Nat := 4300

/-- A whole number in base ten, with a minus sign if it is negative. -/
def integerText (n : Int) : List Char :=
  if n < 0 then '-' :: digits n.natAbs else digits n.natAbs

/-- The number `coefficient * 10 ^ exponent`. -/
structure Decimal where
  coefficient : Nat
  exponent : Int
  deriving DecidableEq

namespace Decimal

/-- Dividend and divisor of a decimal number as a quotient of whole numbers. -/
def quotient (d : Decimal) : Nat × Nat :=
  match d.exponent with
  | .ofNat e => (d.coefficient * Nat.pow 10 e, 1)
  | .negSucc e => (d.coefficient, Nat.pow 10 (e + 1))

/-- The double nearest to a decimal number. -/
def nearest (negative : Bool) (d : Decimal) : Binary64 :=
  Binary64.ofQuotient negative d.quotient.1 d.quotient.2

/-- The double that a written number stands for. Numbers of more than 310 places before the
point are infinite and numbers with more than 330 zeros behind it are zero, so that no
large power of ten is computed for them. -/
def read (negative : Bool) (d : Decimal) : Binary64 :=
  let top := d.exponent + (digits d.coefficient).length
  if d.coefficient = 0 ∨ top < -330 then Binary64.ofParts negative 0 (-1074)
  else if 310 < top then .infinite negative
  else d.nearest negative

end Decimal

/-- The largest power of ten, by its exponent, that is at most the positive
`dividend / divisor`. -/
def floorLogTen (dividend divisor : Nat) : Int :=
  let estimate : Int := ((digits dividend).length : Int) - (digits divisor).length
  let reached : Bool :=
    match estimate with
    | .ofNat e => divisor * Nat.pow 10 e ≤ dividend
    | .negSucc e => divisor ≤ dividend * Nat.pow 10 (e + 1)
  if reached then estimate else estimate - 1

namespace Binary64

/-- A multiple of `10 ^ exponent` that reads back as the positive number `x`. Only the two
multiples next to `x` are tried; if both read back, the nearer one is taken. -/
def decimalAt? (x : Binary64) (exponent : Int) : Option Decimal :=
  let (dividend, divisor) :=
    match exponent with
    | .ofNat e => (x.magnitude.num.natAbs, x.magnitude.den * Nat.pow 10 e)
    | .negSucc e => (x.magnitude.num.natAbs * Nat.pow 10 (e + 1), x.magnitude.den)
  let below : Decimal := ⟨dividend / divisor, exponent⟩
  let above : Decimal := ⟨dividend / divisor + 1, exponent⟩
  if below.nearest false = x then
    if above.nearest false = x then some ⟨roundQuotient dividend divisor, exponent⟩ else some below
  else if above.nearest false = x then some above
  else none

/-- The shortest decimal number that reads back as the positive finite number `x`: one digit
is tried first, and seventeen always suffice. -/
def shortest (x : Binary64) : Decimal :=
  let leading := floorLogTen x.magnitude.num.natAbs x.magnitude.den
  ((List.range 17).findSome? fun (more : Nat) =>
    x.decimalAt? (leading - more)).getD ⟨0, 0⟩

end Binary64

/-- Where a written number changes from plain to scientific notation, by the exponent of its
first digit, and how many digits the exponent has at least. -/
structure NumberLayout where
  plainFrom : Int
  plainBelow : Int
  exponentDigits : Nat

/-- Numbers from 0.0001 up to but not including 10 ^ 16 are written out, all others with an
exponent of at least two digits. -/
def numberLayout : NumberLayout := ⟨-4, 16, 2⟩

/-- The text without the zeros at its end. -/
def dropFinalZeros (text : List Char) : List Char := (text.reverse.dropWhile (· == '0')).reverse

namespace NumberLayout

/-- The exponent in scientific notation, always with a sign. -/
def exponentText (layout : NumberLayout) (exponent : Int) : List Char :=
  let body := digits exponent.natAbs
  'e' :: (if exponent < 0 then '-' else '+') ::
    (List.replicate (layout.exponentDigits - body.length) '0' ++ body)

/-- A positive decimal number: written out it has a point with a digit on either side,
in scientific notation it has a point only if there is a second digit. -/
def write (layout : NumberLayout) (d : Decimal) : List Char :=
  let all := digits d.coefficient
  let shown := dropFinalZeros all
  let first := d.exponent + all.length - 1
  if first < layout.plainFrom ∨ layout.plainBelow ≤ first then
    shown.take 1 ++ (if shown.length ≤ 1 then [] else '.' :: shown.drop 1) ++
      layout.exponentText first
  else if first < 0 then
    '0' :: '.' :: (List.replicate (-first - 1).toNat '0' ++ shown)
  else
    let whole := shown.take (first.toNat + 1)
    let fraction := shown.drop (first.toNat + 1)
    whole ++ List.replicate (first.toNat + 1 - shown.length) '0' ++ '.' ::
      (if fraction.isEmpty then ['0'] else fraction)

end NumberLayout

namespace Binary64

/-- A double in the fewest digits that read back. -/
def text (x : Binary64) : List Char :=
  match x with
  | .undefined => ['n', 'a', 'n']
  | .infinite negative => (if negative then ['-'] else []) ++ ['i', 'n', 'f']
  | .finite negative s e h =>
    (if negative then ['-'] else []) ++
      if s = 0 then ['0', '.', '0']
      else numberLayout.write (Binary64.finite false s e h).shortest

/-- A number of hundredths as a decimal number with two places. -/
def hundredthsText (n : Nat) : List Char :=
  digits (n / 100) ++ '.' :: (if n % 100 < 10 then '0' :: digits (n % 100) else digits (n % 100))

/-- The hundredths nearest to the magnitude; half a hundredth goes to the even neighbour. -/
def hundredths (x : Binary64) : Nat := roundQuotient (x.magnitude.num.natAbs * 100) x.magnitude.den

/-- A double with two places behind the point. -/
def twoPlaces (x : Binary64) : List Char :=
  match x with
  | .undefined => ['n', 'a', 'n']
  | .infinite negative => (if negative then ['-'] else []) ++ ['i', 'n', 'f']
  | .finite negative .. => (if negative then ['-'] else []) ++ hundredthsText x.hundredths

end Binary64

end OrderOfGrowth

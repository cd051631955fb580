import OrderOfGrowth.Number.Rounding

/-!
# Binary floating point

A double-precision number is a finite magnitude with a sign, an infinity or the undefined
value. Arithmetic is exact arithmetic on rational numbers followed by one rounding, to the
nearest magnitude and, half-way between two, to the one with the even significand.
-/

namespace OrderOfGrowth

/-- A significand and an exponent that together are the one way to write a magnitude: all 53
bits are used unless the exponent is already the smallest. -/
def Canonical (significand : Nat) (exponent : Int) : Prop :=
  significand < Nat.pow 2 53 ∧ -1074 ≤ exponent ∧ exponent ≤ 971 ∧
    (Nat.pow 2 52 ≤ significand ∨ exponent = -1074)

instance (significand : Nat) (exponent : Int) : Decidable (Canonical significand exponent) := by
  unfold Canonical
  infer_instance

/-- A double-precision number. A finite one is `significand * 2 ^ exponent` with a sign that
also tells the two zeros apart. -/
inductive Binary64 where
  | finite (negative : Bool) (significand : Nat) (exponent : Int)
      (canonical : Canonical significand exponent)
  | infinite (negative : Bool)
  | undefined
  deriving DecidableEq

/-- The rational number `significand * 2 ^ exponent`. -/
def scaleByTwo (significand : Nat) : Int → Rat
  | .ofNat exponent => mkRat (significand * Nat.pow 2 exponent : Nat) 1
  | .negSucc exponent => mkRat significand (Nat.pow 2 (exponent + 1))

/-- The largest power of two, by its exponent, that is at most the positive `dividend / divisor`. -/
def floorLogTwo (dividend divisor : Nat) : Int :=
  let estimate : Int := (dividend.log2 : Int) - divisor.log2
  let reached : Bool :=
    match estimate with
    | .ofNat e => divisor * Nat.pow 2 e ≤ dividend
    | .negSucc e => divisor ≤ dividend * Nat.pow 2 (e + 1)
  if reached then estimate else estimate - 1

/-- The quotient divided by two to the power `exponent`, as a whole number. -/
def significandAt (dividend divisor : Nat) : Int → Nat
  | .ofNat exponent => roundQuotient dividend (divisor * Nat.pow 2 exponent)
  | .negSucc exponent => roundQuotient (dividend * Nat.pow 2 (exponent + 1)) divisor

namespace Binary64

/-- The magnitude with this significand and exponent, or infinity if there is none. -/
def ofParts (negative : Bool) (significand : Nat) (exponent : Int) : Binary64 :=
  if h : Canonical significand exponent then .finite negative significand exponent h
  else .infinite negative

/-- The double nearest to `dividend / divisor` with the given sign. The exponent is the one
that leaves 53 bits before the point, and no smaller than the smallest; a significand that
is rounded up to 54 bits moves to the next exponent. -/
def ofQuotient (negative : Bool) (dividend divisor : Nat) : Binary64 :=
  if dividend = 0 then ofParts negative 0 (-1074)
  else
    let exponent := max (-1074) (floorLogTwo dividend divisor - 52)
    let significand := significandAt dividend divisor exponent
    if significand = Nat.pow 2 53 then ofParts negative (Nat.pow 2 52) (exponent + 1)
    else ofParts negative significand exponent

/-- The double nearest to a rational number; zero becomes the positive zero. -/
def round (q : Rat) : Binary64 := ofQuotient (q.num < 0) q.num.natAbs q.den

/-- The positive zero. -/
def zero : Binary64 := ofParts false 0 (-1074)

/-- The number one. -/
def one : Binary64 := ofParts false (Nat.pow 2 52) (-52)

/-- The exact value of a finite number without its sign, and zero for the others. -/
def magnitude : Binary64 → Rat
  | .finite _ significand exponent _ => scaleByTwo significand exponent
  | _ => 0

/-- Whether the sign is set. -/
def isNegative : Binary64 → Bool
  | .finite negative _ _ _ => negative
  | .infinite negative => negative
  | .undefined => false

/-- The exact value of a finite number, and zero for the others. -/
def toRat (x : Binary64) : Rat := if x.isNegative then -x.magnitude else x.magnitude

/-- Whether the number is neither an infinity nor undefined. -/
def isFinite : Binary64 → Bool
  | .finite .. => true
  | _ => false

/-- Whether the number is one of the two zeros. -/
def isZero : Binary64 → Bool
  | .finite _ significand _ _ => significand == 0
  | _ => false

/-- Multiplication: the signs cancel, and infinity times zero is undefined. -/
def mul (x y : Binary64) : Binary64 :=
  match x, y with
  | .undefined, _ => .undefined
  | _, .undefined => .undefined
  | .finite m s e hs, .finite n t f ht =>
    let product := (Binary64.finite m s e hs).magnitude * (Binary64.finite n t f ht).magnitude
    ofQuotient (m != n) product.num.natAbs product.den
  | x, y =>
    if x.isZero || y.isZero then .undefined else .infinite (x.isNegative != y.isNegative)

/-- Division of a number by a positive whole number. -/
def divNat (x : Binary64) (divisor : Nat) : Binary64 :=
  match x with
  | .finite negative s e h =>
    let quotient := (Binary64.finite negative s e h).magnitude / (divisor : Rat)
    ofQuotient negative quotient.num.natAbs quotient.den
  | .infinite negative => .infinite negative
  | .undefined => .undefined

/-- The sum of a number and a whole number; the whole number must be small enough to be
a double itself. -/
def addInt (x : Binary64) (n : Int) : Binary64 :=
  if x.isFinite then round (x.toRat + n) else x

end Binary64

end OrderOfGrowth

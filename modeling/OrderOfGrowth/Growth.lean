import OrderOfGrowth.ComplexityClass
import OrderOfGrowth.Number.Logarithm

/-!
# Growth functions

The number of operations that stands for a class at an input size. The steep classes end at
a fixed value, so that they stay on one chart with the others. Sizes may be negative: the
formulas then mean what they mean, except that logarithms count as zero and a factorial has
no value.
-/

namespace OrderOfGrowth

/-- Where the steep classes end. -/
def saturation : Binary64 := Binary64.ofQuotient false 1000 1

/-- A tenth of a power of two. A power with a negative exponent is a double itself, which is
zero from some exponent on; its tenth is rounded once more. -/
def powerOfTwoTenth (n : Int) : Except Failure Binary64 :=
  match n with
  | .ofNat k => Binary64.ofIntQuotient (Nat.pow 2 k) 10
  | .negSucc k => do
    let _ ← Binary64.ofInt (.negSucc k)
    if 1100 < k then return .zero
    else return (Binary64.ofQuotient false 1 (Nat.pow 2 (k + 1))).divNat 10

/-- The product of the positive numbers up to `n`, its factorial. -/
def productUpTo : Nat → Nat
  | 0 => 1
  | n + 1 => (n + 1) * productUpTo n

namespace ComplexityClass

/-- The number of operations of a class for an input of size `n`. -/
def operations (c : ComplexityClass) (n : Int) : Except Failure Binary64 :=
  match c with
  | .constant => .ok .one
  | .logarithmic =>
    .ok (if 0 < n then (logTwoNat n.toNat).mul (Binary64.round 10) else .zero)
  | .linear => Binary64.ofInt n
  | .linearithmic =>
    if 0 < n then do
      let size ← Binary64.ofInt n
      return (size.mul (logTwoNat n.toNat)).divNat 10
    else .ok .zero
  | .quadratic => Binary64.ofIntQuotient (n * n) 10
  | .cubic => Binary64.ofIntQuotient (n * n * n) 100
  | .exponential => if n < 15 then powerOfTwoTenth n else .ok saturation
  | .factorial =>
    if n < 0 then .error (.arithmetic .negativeFactorial)
    else if n < 6 then Binary64.ofIntQuotient (productUpTo n.toNat) 10
    else .ok saturation

end ComplexityClass

end OrderOfGrowth

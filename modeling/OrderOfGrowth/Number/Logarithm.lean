import OrderOfGrowth.Number.Binary64
import OrderOfGrowth.Number.Logarithm.Table

/-!
# The binary logarithm

A double is a number `z` from 0.6875 up to 1.375 times a power of two. Its logarithm to base
two is the exponent, plus the logarithm of a number `c` near `z` that stands in a table, plus
the logarithm of `z / c`, which is close to one. The last is a polynomial in `r = z / c - 1`.
For arguments close to one a polynomial of higher degree does without the table, because the
terms would cancel. Every step gives the nearest double, and only the products that are added
to something are not rounded before; the result may so be the second nearest double to the
logarithm.
-/

namespace OrderOfGrowth

namespace Logarithm

/-- The number `n` divided by two to the power `places`. -/
def dyadic (n : Int) (places : Nat) : Rat := mkRat n (Nat.pow 2 places)

/-- The value of the nearest double. -/
def nearest (q : Rat) : Rat := (Binary64.round q).toRat

/-- A product and a summand, rounded once. -/
def mulAdd (a b c : Rat) : Rat := nearest (a * b + c)

/-- The inverse of the natural logarithm of two, as far as 32 bits go. -/
def inverseLnTwo : Rat := dyadic 3098164009 31

/-- What `inverseLnTwo` lacks. -/
def inverseLnTwoRest : Rat := dyadic 12657236604881 76

/-- What the product of `r` and `inverseLnTwo` loses when it is rounded to `product`, with the
share of `inverseLnTwoRest`. -/
def productRest (r product : Rat) : Rat :=
  mulAdd r inverseLnTwoRest (mulAdd r inverseLnTwo (-product))

/-- The least number that counts as close to one. -/
def closeFrom : Rat := 1 - dyadic 88913 21

/-- The number up to which numbers count as close to one. -/
def closeUpTo : Rat := 1 + dyadic 92850 21

/-- The logarithm of `1 + r` for a small `r`, without a table. -/
def ofClose (r : Rat) : Binary64 :=
  let product := nearest (r * inverseLnTwo)
  let square := nearest (r * r)
  let fourth := nearest (square * square)
  let first := mulAdd r (dyadic 8663094464742391 54) (dyadic (-3248660424278399) 52)
  let sum := mulAdd square first product
  let second := mulAdd r (dyadic 1299464169723641 52) (dyadic (-6497320848555071) 54)
  let third := mulAdd r (dyadic 3712754672366491 54) (dyadic (-8663094485487589) 55)
  let sixth := mulAdd r (dyadic 2887767071133093 54) (dyadic (-6497287952181147) 55)
  let last := mulAdd r (dyadic 2350307374626611 54) (dyadic (-1304541182758415) 53)
  let tail := mulAdd fourth (mulAdd square last sixth) (mulAdd square third second)
  let rest := nearest (productRest r product + mulAdd square first (nearest (product - sum)))
  Binary64.round (sum + mulAdd fourth tail rest)

/-- The logarithm of `z * 2 ^ exponent`, where `z` lies in the cell with the inverse and the
logarithm of its middle. -/
def ofCell (z : Rat) (exponent : Int) (inverse logarithm : Rat) : Binary64 :=
  let r := mulAdd z inverse (-1)
  let product := nearest (r * inverseLnTwo)
  let start := nearest (exponent + logarithm)
  let sum := nearest (start + product)
  let rest := nearest (nearest (nearest (start - sum) + product) + productRest r product)
  let square := nearest (r * r)
  let fourth := nearest (square * square)
  let first := mulAdd r (dyadic 4331547232371295 53) (dyadic (-6497320848556857) 53)
  let second := mulAdd r (dyadic 649732082919817 51) (dyadic (-6497320836280315) 54)
  let third := mulAdd r (dyadic 3713132112116887 54) (dyadic (-2165955400213679) 53)
  let polynomial := mulAdd fourth third (mulAdd square second first)
  Binary64.round (mulAdd square polynomial rest + sum)

/-- The significand of 0.6875, where the cells begin. -/
def cellsFrom : Nat := 0x16000000000000

/-- The width of a cell in units of the significand. -/
def cellWidth : Nat := 0x400000000000

/-- How many cells are below one. -/
def cellsBelowOne : Nat := 40

/-- The logarithm of `significand * 2 ^ exponent` by the table. The significand has 53 bits;
those below that of 0.6875 belong to numbers from one on. -/
def byTable (significand : Nat) (exponent : Int) : Binary64 :=
  let fromOne := significand < cellsFrom
  let places := if fromOne then 52 else 53
  let cell :=
    if fromOne then significand / cellWidth - 64 + cellsBelowOne
    else (significand - cellsFrom) / cellWidth
  let (inverse, logarithm) := logarithmCells.getD cell (0, 0)
  ofCell (dyadic significand places) (exponent + places) (dyadic inverse inversePlaces)
    (dyadic logarithm logarithmPlaces)

/-- The logarithm of `significand * 2 ^ exponent`, a number with all 53 bits. -/
def ofParts (significand : Nat) (exponent : Int) : Binary64 :=
  let x := scaleByTwo significand exponent
  if closeFrom ≤ x ∧ x < closeUpTo then ofClose (x - 1) else byTable significand exponent

end Logarithm

/-- The logarithm of a positive natural number to base two. A number that is too large to be a
double is first cut down to the double fraction `m` from one half up to one with `m * 2 ^ e`
nearest to it; its logarithm is then that of `m` plus `e`, rounded once more. -/
def logTwoNat (n : Nat) : Binary64 :=
  match Binary64.ofQuotient false n 1 with
  | .finite _ significand exponent _ => Logarithm.ofParts significand exponent
  | _ =>
    let excess := n.log2 - 52
    match Binary64.ofQuotient false n (Nat.pow 2 excess) with
    | .finite _ significand exponent _ =>
      (Logarithm.ofParts significand (-53)).addInt (excess + exponent + 53)
    | _ => .undefined

end OrderOfGrowth

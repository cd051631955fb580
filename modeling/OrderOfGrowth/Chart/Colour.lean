import OrderOfGrowth.Number.Arithmetic
import OrderOfGrowth.Number.Numeral

/-!
# Colours with an opacity

A colour is written with two hexadecimal digits for each of red, green and blue, behind any
number of hash signs. Each pair is read as a numeral: one of its two characters may be a
blank or a sign, and decimal digits of any script count.
-/

namespace OrderOfGrowth.Colour

/-- The character among the first 128 that counts in a numeral for a character: blanks count
as a space and decimal digits as the digit of their value. -/
def plainForm (c : Char) : Option Char :=
  if c.toNat < 127 then some c
  else if Text.isBlank c then some ' '
  else (Text.digitValue c).map fun value => Char.ofNat ('0'.toNat + value)

/-- The value of a hexadecimal digit. -/
def hexValue? (c : Char) : Option Nat := (Text.alphanumericValue c).filter (· < 16)

/-- The number written by at least one hexadecimal digit. -/
def natural? (text : List Char) : Option Nat :=
  if text.isEmpty then none
  else (text.mapM hexValue?).map fun values => values.foldl (fun n value => 16 * n + value) 0

/-- The whole number that a pair of characters writes in base sixteen. -/
def integer? (text : List Char) : Option Int := do
  let plain ← text.mapM plainForm
  let (negative, body) := Numeral.splitSign (Text.trimWhile Text.isPlainBlank plain)
  let n ← natural? body
  return if negative then -(n : Int) else n

/-- The amount of red, green or blue that a pair of characters writes. -/
def channel (pair : List Char) : Except Failure Int :=
  match integer? pair with
  | some n => .ok n
  | none => .error (.notNumeral 16 (String.ofList pair))

/-- A written colour with an opacity, as style sheets have it. What stands behind the three
pairs does not count, and the opacity must have a text. -/
def rgba (colour : String) (alpha : Quantity) : Except Failure String := do
  let body := colour.toList.dropWhile (· == '#')
  let red ← channel (body.take 2)
  let green ← channel ((body.drop 2).take 2)
  let blue ← channel ((body.drop 4).take 2)
  let parts := [integerText red, integerText green, integerText blue, ← alpha.written]
  return String.ofList ("rgba(".toList ++ Text.joinWith [',', ' '] parts ++ [')'])

end OrderOfGrowth.Colour

import OrderOfGrowth.ComplexityClass
import OrderOfGrowth.Scan

/-!
# Estimating a class

From what a scan finds the class is decided by the first rule that applies. Two families of
words in the source tell a search that halves its input from one that goes through it.
-/

namespace OrderOfGrowth

/-- Words that together hint at a recursion which halves its input. -/
def halvingHints : List (List Char) :=
  [['m', 'i', 'd'], ['l', 'e', 'f', 't'], ['r', 'i', 'g', 'h', 't']]

/-- Words of which each hints at a loop which divides its input. -/
def dividingHints : List (List Char) :=
  [['m', 'i', 'd'], ['d', 'i', 'v', 'i', 'd', 'e'], ['s', 'p', 'l', 'i', 't']]

namespace ScanReport

/-- The class of a source with these findings; the first rule that applies counts. -/
def decide (report : ScanReport) (source : String) : ComplexityClass :=
  let lower := Text.lowercase source.toList
  if report.loopCount == 0 && !report.hasRecursion then .constant
  else if report.hasRecursion && report.hasNestedLoop then .exponential
  else if report.hasNestedLoop && 2 ≤ report.loopCount then
    if 3 ≤ report.loopCount then .cubic else .quadratic
  else if report.hasRecursion then
    if halvingHints.all (Text.occursIn · lower) then .logarithmic else .linear
  else if report.loopCount == 1 then
    if dividingHints.any (Text.occursIn · lower) then .logarithmic else .linear
  else if report.loopCount == 2 && !report.hasNestedLoop then .linearithmic
  else .linear

/-- What is reported about an estimate. -/
def notice (report : ScanReport) (c : ComplexityClass) : String :=
  "Classified as " ++ c.label ++ " (loops=" ++ String.ofList (integerText report.loopCount) ++
    ", max_nesting=" ++ String.ofList (integerText report.maxNesting) ++ ", recursion=" ++
    (if report.hasRecursion then "True" else "False") ++ ")"

end ScanReport

/-- An estimate: a class with its rank and description. -/
structure Estimate where
  complexity : ComplexityClass
  level : Quantity
  description : String
  deriving DecidableEq

namespace Estimate

/-- The estimate for a class. -/
def ofClass (c : ComplexityClass) : Estimate := ⟨c, c.level, c.description⟩

end Estimate

namespace SignTable

/-- Estimates the class of a source in a language. -/
def classify (table : SignTable) (source : Option String) (language : Option String) : Estimate :=
  .ofClass ((table.scan source language).decide (source.getD ""))

end SignTable

end OrderOfGrowth

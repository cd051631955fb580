import OrderOfGrowth.Json.Value
import OrderOfGrowth.Number.Arithmetic

/-!
# Readouts of measurements

Running times, amounts of memory and ranks as people read them. A measurement that is
missing or zero is not available. The unit is chosen by the exact value, before the value is
rounded to two places.
-/

namespace OrderOfGrowth.Readout

/-- What stands for a measurement that is not there. -/
def notAvailable : String := "N/A"

/-- A number with two places and its unit. -/
def withUnit (number : List Char) (unit : String) : String :=
  String.ofList (number ++ ' ' :: unit.toList)

/-- A running time given in milliseconds, in microseconds, milliseconds or seconds. -/
def runtime (milliseconds : Option Quantity) : Except Failure String :=
  match milliseconds with
  | none => .ok notAvailable
  | some q =>
    if !q.isGiven then .ok notAvailable
    else if q.lt (.int 1) then do return withUnit (← (q.timesNat 1000).twoPlaces) "μs"
    else if q.lt (.int 1000) then do return withUnit (← q.twoPlaces) "ms"
    else do return withUnit (← q.perNat 1000).twoPlaces "s"

/-- An amount of memory given in bytes, in bytes, kilobytes or megabytes. -/
def bytes (q : Quantity) : Except Failure String :=
  if !q.isGiven then .ok notAvailable
  else if q.lt (.int 1024) then do return withUnit (← (Quantity.int (← q.truncate)).written) "B"
  else if q.lt (.int 1048576) then do return withUnit (← q.perNat 1024).twoPlaces "KB"
  else do return withUnit (← q.perNat 1048576).twoPlaces "MB"

/-- An amount of memory as a setting carries it: what is not given is not available, and what
is not a number cannot be compared with the bounds of the units. -/
def memory (value : Json) : Except Failure String :=
  if !value.isGiven then .ok notAvailable
  else
    match value with
    | .number q => bytes q
    | other => .error (.kind (.compare "<" other.kind "int"))

/-- What stands below an amount of memory: the limit, if one is given. -/
def memoryNote (limit : Json) : Except Failure String :=
  if limit.isGiven then (memory limit).map fun amount => "Limit: " ++ amount
  else .ok "Memory usage"

/-- A rank; a whole number is shown without a point. -/
def level (q : Quantity) : Except Failure String := do
  let x ← q.toDouble
  if x.isWhole then return String.ofList (integerText (← q.truncate))
  else return String.ofList q.text

/-- The colour for a rank, from green for the cheapest to red for the most expensive. -/
def levelColour (q : Quantity) : String :=
  if q.le (.int 2) then "green"
  else if q.le (.float (Binary64.ofQuotient false 7 2)) then "yellow"
  else if q.le (.int 5) then "dark_orange"
  else "red"

end OrderOfGrowth.Readout

import OrderOfGrowth.Number.Decimal
import OrderOfGrowth.Text.Blank
import OrderOfGrowth.Text.Digit
import OrderOfGrowth.Text.Search

/-!
# Numerals

Reading whole numbers and doubles from text. The digits are those of the first 128
characters, and white space may surround a numeral. A single underscore between two other
characters is passed over. A whole number may also have a point with nothing but zeros behind
it.
-/

namespace OrderOfGrowth.Numeral

/-- Whether a character is one of the ten digits `0` to `9`. -/
def isDigit (c : Char) : Bool := '0' ≤ c && c ≤ '9'

/-- The number written by a row of digits. -/
def ofDigits (row : List Char) : Nat := row.foldl (fun n c => 10 * n + (c.toNat - '0'.toNat)) 0

/-- The text without its underscores, if none of them is at an end of the text or next to
another one. -/
def joinGroups? (text : List Char) : Option (List Char) :=
  if text.head? = some '_' ∨ text.getLast? = some '_' ∨ Text.occursIn ['_', '_'] text then none
  else some (text.filter (· != '_'))

/-- A sign in front of a text: whether it is a minus sign, and the text behind it. -/
def splitSign : List Char → Bool × List Char
  | '-' :: rest => (true, rest)
  | '+' :: rest => (false, rest)
  | rest => (false, rest)

/-- A row of at least one digit. -/
def natural? (text : List Char) : Option Nat :=
  if text.isEmpty || !text.all isDigit then none else some (ofDigits text)

/-- Digits behind an optional sign. -/
def signed? (text : List Char) : Option Int := do
  let (negative, body) := splitSign text
  let n ← natural? body
  return if negative then -(n : Int) else n

/-- The text up to its first point, if there are only zeros behind the point. -/
def dropZeroFraction (text : List Char) : List Char :=
  match text.dropWhile (· != '.') with
  | _ :: fraction => if fraction.all (· == '0') then text.takeWhile (· != '.') else text
  | [] => text

/-- The text without a plus sign at its start. A minus sign may not stand behind it. -/
def dropPlus? : List Char → Option (List Char)
  | '+' :: '-' :: _ => none
  | '+' :: rest => some rest
  | text => some text

/-- The text without the zeros at its start, which underscores may part. Of zeros alone the last
is left. A number begins with a digit or a minus sign, also behind the zeros. -/
def dropZeros? (text : List Char) : Option (List Char) :=
  let begins (c : Char) : Bool := isDigit c || c == '-'
  match text with
  | '0' :: rest =>
    match rest.dropWhile fun c => c == '0' || c == '_' with
    | [] => some [rest.getLast?.getD '0']
    | c :: more => if begins c then some (c :: more) else none
  | c :: rest => if begins c then some (c :: rest) else none
  | [] => none

/-- The whole number that a text writes. A text of more characters than a number may have digits is
not read. -/
def integer? (text : List Char) : Option Int := do
  let body := Text.trimWhile Text.isWhiteSpace text
  if maxDigits < body.length then none
  let body ← dropZeros? (← dropPlus? (dropZeroFraction body))
  signed? ((joinGroups? body).getD body)

/-- The exponent at the end of a numeral: none at all, or `e` and a whole number. -/
def exponent? : List Char → Option Int
  | [] => some 0
  | c :: rest =>
    if c = 'e' ∨ c = 'E' then do
      let (negative, body) := splitSign rest
      let n ← natural? body
      return if negative then -(n : Int) else n
    else none

/-- A decimal number: digits, a point and digits, of which one side may be missing, and an
exponent. -/
def decimal? (text : List Char) : Option Decimal :=
  let whole := text.takeWhile isDigit
  let rest := text.dropWhile isDigit
  let (fraction, tail) :=
    match rest with
    | '.' :: more => (more.takeWhile isDigit, more.dropWhile isDigit)
    | _ => ([], rest)
  if whole.isEmpty && fraction.isEmpty then none
  else (exponent? tail).map fun e => ⟨ofDigits (whole ++ fraction), e - fraction.length⟩

/-- A decimal number, an infinity or the undefined value in any letter case, behind an optional
sign. -/
def plainDouble? (text : List Char) : Option Binary64 := do
  let (negative, body) := splitSign text
  let word := String.ofList (body.map Char.toLower)
  if word = "inf" ∨ word = "infinity" then return .infinite negative
  else if word = "nan" then return .undefined
  else return (← decimal? body).read negative

/-- The double that a text writes. White space may not surround a numeral with underscores. -/
def double? (text : List Char) : Option Binary64 :=
  match plainDouble? (Text.trimWhile Text.isWhiteSpace text) with
  | some x => some x
  | none => (joinGroups? text).bind plainDouble?

end OrderOfGrowth.Numeral

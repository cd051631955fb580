import OrderOfGrowth.Json.Value
import OrderOfGrowth.Number.Numeral

/-!
# Reading JSON

The reader follows the JSON grammar and also accepts `NaN`, `Infinity` and `-Infinity`.
Blank are only spaces, tabs, line feeds and carriage returns. A number with a fraction or an
exponent is a double, any other number a whole number. Of members with one key the last
value counts, at the place of the first. Numbers with too many digits and values that are
nested too deep are refused.
-/

namespace OrderOfGrowth.Json

/-- Why a text is not read. -/
inductive Problem where
  | malformed
  | tooManyDigits (count : Nat)
  | nestedTooDeep (container : String)
  deriving DecidableEq

/-- Whether a character may stand between the parts of a JSON text. -/
def isBetween (c : Char) : Bool := c == ' ' || c == '\t' || c == '\n' || c == '\r'

/-- The text behind the blank characters at its start. -/
def skipBetween (text : List Char) : List Char := text.dropWhile isBetween

/-- The value of four hexadecimal digits. -/
def fourHex? (a b c d : Char) : Option Nat := do
  let value (x : Char) : Option Nat := (Text.alphanumericValue x).filter (· < 16)
  return (((← value a) * 16 + (← value b)) * 16 + (← value c)) * 16 + (← value d)

/-- What a single character behind a backslash stands for. -/
def escaped? (c : Char) : Option Nat :=
  match c with
  | '"' => some 0x22
  | '\\' => some 0x5C
  | '/' => some 0x2F
  | 'b' => some 0x08
  | 'f' => some 0x0C
  | 'n' => some 0x0A
  | 'r' => some 0x0D
  | 't' => some 0x09
  | _ => none

/-- The code units of a string behind its opening quotation mark, and the text behind its
closing one. Control characters may not stand in it. -/
def stringUnits? : List Char → Option (List Nat × List Char)
  | '"' :: rest => some ([], rest)
  | '\\' :: 'u' :: a :: b :: c :: d :: rest => do
    let unit ← fourHex? a b c d
    let (units, tail) ← stringUnits? rest
    return (unit :: units, tail)
  | '\\' :: c :: rest => do
    let unit ← escaped? c
    let (units, tail) ← stringUnits? rest
    return (unit :: units, tail)
  | c :: rest =>
    if c.toNat < 0x20 ∨ c = '\\' then none
    else do
      let (units, tail) ← stringUnits? rest
      return (c.toNat :: units, tail)
  | [] => none

/-- The characters of code units: a high and a low surrogate make one character, and for a
surrogate by itself a character stands in. -/
def joinSurrogates : List Nat → List Char
  | high :: low :: rest =>
    if 0xD800 ≤ high ∧ high < 0xDC00 ∧ 0xDC00 ≤ low ∧ low < 0xE000 then
      Char.ofNat (0x10000 + (high - 0xD800) * 0x400 + (low - 0xDC00)) :: joinSurrogates rest
    else single high :: joinSurrogates (low :: rest)
  | unit :: rest => single unit :: joinSurrogates rest
  | [] => []
where
  /-- The character of one code unit. -/
  single (unit : Nat) : Char :=
    if 0xD800 ≤ unit ∧ unit < 0xE000 then Text.ofSurrogate unit else Char.ofNat unit

/-- A string behind its opening quotation mark. -/
def readString (text : List Char) : Except Problem (String × List Char) :=
  match stringUnits? text with
  | some (units, rest) => .ok (String.ofList (joinSurrogates units), rest)
  | none => .error .malformed

/-- The digits of the whole part: a zero stands alone. -/
def wholeDigits : List Char → List Char
  | '0' :: _ => ['0']
  | text => text.takeWhile Numeral.isDigit

/-- The digits behind a point, if there is a point with a digit behind it. -/
def fractionDigits : List Char → List Char
  | '.' :: rest => rest.takeWhile Numeral.isDigit
  | _ => []

/-- The exponent mark, the sign and the digits at the start of a text, if they are there. -/
def exponentPart (text : List Char) : List Char :=
  match text with
  | mark :: sign :: rest =>
    if mark = 'e' ∨ mark = 'E' then
      if sign = '+' ∨ sign = '-' then
        let row := rest.takeWhile Numeral.isDigit
        if row.isEmpty then [] else mark :: sign :: row
      else
        let row := (sign :: rest).takeWhile Numeral.isDigit
        if row.isEmpty then [] else mark :: row
    else []
  | _ => []

/-- An unsigned number at the start of a text, with the sign that was read before it. -/
def readNumber (negative : Bool) (text : List Char) : Except Problem (Quantity × List Char) :=
  let whole := wholeDigits text
  if whole.isEmpty then .error .malformed
  else
    let rest := text.drop whole.length
    let fraction := fractionDigits rest
    let rest := if fraction.isEmpty then rest else rest.drop (fraction.length + 1)
    let exponent := exponentPart rest
    let rest := rest.drop exponent.length
    if fraction.isEmpty && exponent.isEmpty then
      if maxDigits < whole.length then .error (.tooManyDigits whole.length)
      else
        let n : Int := Numeral.ofDigits whole
        .ok (.int (if negative then -n else n), rest)
    else
      let power := (Numeral.exponent? exponent).getD 0
      let value : Decimal := ⟨Numeral.ofDigits (whole ++ fraction), power - fraction.length⟩
      .ok (.float (value.read negative), rest)

/-- The text behind `word`, if it starts with it. -/
def afterWord? (word : String) (text : List Char) : Option (List Char) :=
  if word.toList.isPrefixOf text then some (text.drop word.length) else none

/-- A value that is neither a string nor holds other values. -/
def readPlain (text : List Char) : Except Problem (Json × List Char) :=
  let number (negative : Bool) (body : List Char) :=
    (readNumber negative body).map fun (q, rest) => (Json.number q, rest)
  match afterWord? "null" text, afterWord? "true" text, afterWord? "false" text,
      afterWord? "NaN" text, afterWord? "Infinity" text, afterWord? "-Infinity" text, text with
  | some rest, _, _, _, _, _, _ => .ok (.null, rest)
  | _, some rest, _, _, _, _, _ => .ok (.bool true, rest)
  | _, _, some rest, _, _, _, _ => .ok (.bool false, rest)
  | _, _, _, some rest, _, _, _ => .ok (.number (.float .undefined), rest)
  | _, _, _, _, some rest, _, _ => .ok (.number (.float (.infinite false)), rest)
  | _, _, _, _, _, some rest, _ => .ok (.number (.float (.infinite true)), rest)
  | _, _, _, _, _, _, '-' :: body => number true body
  | _, _, _, _, _, _, _ => number false text

mutual

/-- A value at the start of a text, where `count` is more than twice the number of characters,
and `levels` says how many lists and objects may be opened inside each other. -/
def readValue : Nat → Nat → List Char → Except Problem (Json × List Char)
  | 0, _, _ => .error .malformed
  | count + 1, levels, text =>
    match text, levels with
    | '"' :: rest, _ => (readString rest).map fun (s, tail) => (.string s, tail)
    | '[' :: _, 0 => .error (.nestedTooDeep "array")
    | '[' :: rest, levels + 1 =>
      match skipBetween rest with
      | ']' :: tail => .ok (.list [], tail)
      | items => (readItems count levels items).map fun (found, tail) => (.list found, tail)
    | '\x7b' :: _, 0 => .error (.nestedTooDeep "object")
    | '\x7b' :: rest, levels + 1 =>
      match skipBetween rest with
      | '\x7d' :: tail => .ok (.object [], tail)
      | members =>
        (readMembers count levels [] members).map fun (found, tail) => (.object found, tail)
    | _, _ => readPlain text

/-- The items of a list up to its closing bracket; at least one must follow. -/
def readItems : Nat → Nat → List Char → Except Problem (List Json × List Char)
  | 0, _, _ => .error .malformed
  | count + 1, levels, text => do
    let (item, rest) ← readValue count levels text
    match skipBetween rest with
    | ']' :: tail => return ([item], tail)
    | ',' :: tail =>
      let (items, tail) ← readItems count levels (skipBetween tail)
      return (item :: items, tail)
    | _ => throw .malformed

/-- The members of an object up to its closing brace, put behind the members `found`; at
least one must follow. -/
def readMembers : Nat → Nat → List (String × Json) → List Char →
    Except Problem (List (String × Json) × List Char)
  | 0, _, _, _ => .error .malformed
  | count + 1, levels, found, text =>
    match text with
    | '"' :: rest => do
      let (key, rest) ← readString rest
      match skipBetween rest with
      | ':' :: rest =>
        let (value, rest) ← readValue count levels (skipBetween rest)
        let found := Keyed.store key value found
        match skipBetween rest with
        | '\x7d' :: tail => return (found, tail)
        | ',' :: tail => readMembers count levels found (skipBetween tail)
        | _ => throw .malformed
      | _ => throw .malformed
    | _ => .error .malformed

end

/-- The value that a whole text writes, in which at most `levels` lists and objects may be open
inside each other. -/
def read (levels : Nat) (text : List Char) : Except Problem Json := do
  let start := skipBetween text
  let (value, rest) ← readValue (2 * start.length + 1) levels start
  if (skipBetween rest).isEmpty then return value else throw .malformed

end OrderOfGrowth.Json

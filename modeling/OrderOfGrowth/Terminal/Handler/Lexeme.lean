import OrderOfGrowth.Terminal.Handler.Problem
import OrderOfGrowth.Text.Digit
import OrderOfGrowth.Text.Name
import OrderOfGrowth.Text.Utf8

/-!
# Lexemes of arguments

The arguments of a handler are a row of names, numbers, strings and signs. Blanks and
comments stand between them, and line ends too while a bracket is open. The row ends with the
text or where no lexeme can be read. Some problems of that kind count whatever stands before
them, the others only when nothing before them is wrong.
-/

namespace OrderOfGrowth.Terminal

/-- A part of the arguments of a handler. A string is given by the letters in front of it and
by what stands between its marks. -/
inductive Token where
  | name (text : List Char)
  | number (text : List Char)
  | string (letters body : List Char)
  | sign (text : List Char)
  | lineEnd
  | indent
  | finish
  | stop (problem : HandlerProblem) (alwaysCounts : Bool)

/-- A token with its line, the number of brackets that are open behind it, the last of them with
its line, and whether the end of the text is noticed when it is read. -/
structure Lexeme where
  token : Token
  line : Nat
  level : Nat
  opened : Option (Char × Nat)
  noticesEnd : Bool

namespace Lexeme

/-- Whether a character is a letter, a digit or an underscore, or beyond the first 128. -/
def isWordChar (c : Char) : Bool := c.isAlphanum || c == '_' || 128 ≤ c.toNat

/-- What is wrong with a name. -/
def nameProblem? (name : List Char) : Option HandlerProblem :=
  let wrong :=
    match name with
    | [] => none
    | first :: rest =>
      if Text.isNameStart first then rest.find? (!Text.isNameChar ·) else some first
  wrong.map fun c => if Text.isPrintable c then .character c else .invisible c

/-- A text behind a number, which must not go on with a letter, a digit or an underscore of the
first 128 characters. A few words may follow a number without a blank. -/
def afterNumber (kind : String) (text : List Char) : Except HandlerProblem (List Char) :=
  let word := text.takeWhile isWordChar
  if word.head?.all (128 ≤ ·.toNat) ∨ String.ofList word ∈ ["and", "else", "for", "or", "not"] ∨
      String.ofList (word.take 2) ∈ ["if", "in", "is"] then .ok text
  else .error (.numeral kind)

/-- The text behind digits. A single underscore may stand between two digits. -/
def afterDigits : List Char → Except HandlerProblem (List Char)
  | [] => .ok []
  | ['_'] => .error (.numeral "decimal")
  | '_' :: c :: rest => if c.isDigit then afterDigits rest else .error (.numeral "decimal")
  | c :: rest => if c.isDigit then afterDigits rest else .ok (c :: rest)

/-- The text behind digits of another base. A digit must come if `isNeeded`, and an underscore
may come first if `mayPause`. -/
def afterBaseDigits (kind : String) (isIn : Char → Bool) :
    Bool → Bool → List Char → Except HandlerProblem (List Char)
  | isNeeded, mayPause, c :: rest =>
    if isIn c then afterBaseDigits kind isIn false true rest
    else if c = '_' ∧ mayPause then afterBaseDigits kind isIn true false rest
    else if c.isDigit then .error (.digit c kind)
    else if isNeeded then .error (.numeral kind)
    else afterNumber kind (c :: rest)
  | isNeeded, _, [] => if isNeeded then .error (.numeral kind) else .ok []

/-- The text behind an imaginary unit, or else behind a number without one. -/
def afterUnit : List Char → Except HandlerProblem (List Char)
  | 'j' :: rest => afterNumber "imaginary" rest
  | 'J' :: rest => afterNumber "imaginary" rest
  | text => afterNumber "decimal" text

/-- The text behind the exponent of a number, if there is one, and behind its unit. -/
def afterExponent (text : List Char) : Except HandlerProblem (List Char) :=
  match text with
  | mark :: rest =>
    if mark = 'e' ∨ mark = 'E' then
      match rest with
      | c :: more =>
        if c = '+' ∨ c = '-' then
          if more.head?.any Char.isDigit then do afterUnit (← afterDigits more)
          else .error (.numeral "decimal")
        else if c.isDigit then do afterUnit (← afterDigits rest)
        else afterNumber "decimal" text
      | [] => afterNumber "decimal" text
    else afterUnit text
  | [] => .ok []

/-- The text behind the digits after a point, and behind what follows them. -/
def afterPoint (text : List Char) : Except HandlerProblem (List Char) :=
  if text.head?.any Char.isDigit then do afterExponent (← afterDigits text) else afterExponent text

/-- The text behind the zeros at the start of a number. -/
def afterZeros : List Char → Except HandlerProblem (List Char)
  | [] => .ok []
  | ['_'] => .error (.numeral "decimal")
  | '_' :: c :: rest =>
    if c = '0' then afterZeros rest
    else if c.isDigit then .ok (c :: rest)
    else .error (.numeral "decimal")
  | c :: rest => if c = '0' then afterZeros rest else .ok (c :: rest)

/-- The text behind a number in base ten whose first digit is not zero. Behind zeros such a
number must have a point, an exponent or a unit. -/
def afterDecimal (behindZeros : Bool) (text : List Char) : Except HandlerProblem (List Char) := do
  match ← afterDigits text with
  | '.' :: rest => afterPoint rest
  | c :: rest =>
    if behindZeros ∧ c ∉ ['e', 'E', 'j', 'J'] then throw .leadingZeros
    else afterExponent (c :: rest)
  | [] => if behindZeros then throw .leadingZeros else return []

/-- The text behind a number. -/
def afterNumeral (text : List Char) : Except HandlerProblem (List Char) :=
  match text with
  | '.' :: rest => afterPoint rest
  | '0' :: base :: rest =>
    match base.toLower with
    | 'x' => do
      afterNumber "hexadecimal" (← afterBaseDigits "hexadecimal"
        (fun c => (Text.alphanumericValue c).any (· < 16)) true true rest)
    | 'o' => afterBaseDigits "octal" (fun c => '0' ≤ c && c < '8') true true rest
    | 'b' => afterBaseDigits "binary" (fun c => c == '0' || c == '1') true true rest
    | _ => do
      let rest ← afterZeros (base :: rest)
      if rest.head?.any Char.isDigit then afterDecimal true rest
      else if let '.' :: more := rest then afterPoint more
      else afterExponent rest
  | text => afterDecimal false text

/-- The text behind a string after its first mark, and the line that it ends in. -/
def afterString (mark : Char) (line : Nat) : List Char → Except HandlerProblem (List Char × Nat)
  | [] => .error (.unterminated line)
  | c :: rest =>
    if c = mark then .ok (rest, line)
    else if c = '\n' then .error (.unterminated line)
    else if c = '\\' then
      match rest with
      | [] => .error (.unterminated line)
      | d :: rest => afterString mark (if d = '\n' then line + 1 else line) rest
    else afterString mark line rest

/-- The text behind a string after the three marks that it starts with, and the line that it
ends in. -/
def afterLongString (mark : Char) (line : Nat) :
    List Char → Except HandlerProblem (List Char × Nat)
  | [] => .error (.unterminatedTriple line)
  | c :: rest =>
    if [mark, mark, mark].isPrefixOf (c :: rest) then .ok (rest.drop 2, line)
    else if c = '\\' then
      match rest with
      | [] => .error (.unterminatedTriple line)
      | d :: rest => afterLongString mark (if d = '\n' then line + 1 else line) rest
    else afterLongString mark (if c = '\n' then line + 1 else line) rest

/-- The start of a text in front of `rest`, without its last `marks` characters. -/
def bodyBefore (rest : List Char) (marks : Nat) (text : List Char) : List Char :=
  text.take (text.length - rest.length - marks)

/-- What stands between the marks of a string, the text behind it, and the line that it ends
in. -/
def stringAt (mark : Char) (line : Nat) (text : List Char) :
    Except HandlerProblem (List Char × List Char × Nat) := do
  if [mark, mark].isPrefixOf text then
    let text := text.drop 2
    let (rest, line) ← afterLongString mark line text
    return (bodyBefore rest 3 text, rest, line)
  else
    let (rest, line) ← afterString mark line text
    return (bodyBefore rest 1 text, rest, line)

/-- The words that may stand directly in front of a string. -/
def stringLetters : List String := ["b", "r", "u", "f", "br", "rb", "fr", "rf"]

/-- The signs of more than one character, the longest first. -/
def longSigns : List String :=
  ["**=", "//=", ">>=", "<<=", "...", "!=", "%=", "&=", "**", "*=", "+=", "-=", "->", "//", "/=",
   ":=", "<<", "<=", "<>", "==", ">=", ">>", "@=", "^=", "|="]

/-- The sign at the start of a text. -/
def signAt (c : Char) (rest : List Char) : List Char :=
  match longSigns.find? fun sign => sign.toList.isPrefixOf (c :: rest) with
  | some sign => sign.toList
  | none => [c]

/-- How many brackets may be open. -/
def maxBrackets : Nat := 200

/-- The bracket that a closing one closes. -/
def opening? (c : Char) : Option Char :=
  if c = ')' then some '(' else if c = '\x7d' then some '\x7b' else none

/-- Where reading has come to: the line, the open brackets with their lines, the last one first,
and the depths of the lines that the current one belongs to, measured in two ways. -/
structure Place where
  line : Nat
  opened : List (Char × Nat)
  depths : List (Nat × Nat)
  isLineStart : Bool

namespace Place

/-- The place at the start of a text. -/
def start : Place := ⟨1, [], [(0, 0)], true⟩

/-- A token that has been read at a place. -/
def lexeme (place : Place) (token : Token) : Lexeme :=
  ⟨token, place.line, place.opened.length, place.opened.head?, false⟩

end Place

/-- The start of a line: its depth, the text behind its blanks, and how many line ends were passed
there. -/
structure LineStart where
  depth : Nat × Nat
  rest : List Char
  passed : Nat

/-- The start of a line behind some blanks. In its depth a tabulator reaches to the next multiple
of eight places or counts as one. A line end behind a backslash is passed, and what stands
before the first of them is the depth unless it is nothing. -/
def lineStart? (fixed : Nat) (depth : Nat × Nat) (passed : Nat) : List Char → Option LineStart
  | ' ' :: rest => lineStart? fixed (depth.1 + 1, depth.2 + 1) passed rest
  | '\t' :: rest => lineStart? fixed ((depth.1 / 8 + 1) * 8, depth.2 + 1) passed rest
  | '\x0c' :: rest => lineStart? fixed (0, 0) passed rest
  | '\\' :: rest =>
    match rest with
    | '\n' :: more => lineStart? (if fixed = 0 then depth.1 else fixed) depth (passed + 1) more
    | _ => none
  | rest => some ⟨if fixed = 0 then depth else (fixed, fixed), rest, passed⟩

/-- The depths after a line that is less deep than the one before, of which one must be its
own. -/
def closeDepths (depth : Nat × Nat) : List (Nat × Nat) → Except HandlerProblem (List (Nat × Nat))
  | [] => .error .lessIndented
  | top :: rest =>
    if depth.1 < top.1 then closeDepths depth rest
    else if depth.1 ≠ top.1 then .error .lessIndented
    else if depth.2 ≠ top.2 then .error .mixedIndents
    else .ok (top :: rest)

/-- The depths after a line, and whether it is deeper than the one before. -/
def moveTo (depth : Nat × Nat) (depths : List (Nat × Nat)) :
    Except HandlerProblem (List (Nat × Nat) × Bool) :=
  match depths with
  | top :: _ =>
    if top.1 < depth.1 then
      if depth.2 ≤ top.2 then .error .mixedIndents else .ok (depth :: depths, true)
    else (closeDepths depth depths).map fun closed => (closed, false)
  | [] => .error .lessIndented

/-- What comes next in a text: a token or nothing, the rest, and the place behind it. -/
structure Step where
  token : Option Token
  rest : List Char
  place : Place

/-- The token at the start of a text. -/
def step (place : Place) (c : Char) (rest : List Char) : Except HandlerProblem Step := do
  let line := place.line
  let opened := place.opened
  if c = ' ' ∨ c = '\t' ∨ c = '\x0c' then return ⟨none, rest, place⟩
  else if c = '#' then return ⟨none, rest.dropWhile (· != '\n'), place⟩
  else if c = '\n' then
    return ⟨if opened.isEmpty then some .lineEnd else none, rest,
      { place with line := line + 1, isLineStart := opened.isEmpty }⟩
  else if c = '\\' then
    match rest with
    | '\n' :: more => return ⟨none, more, { place with line := line + 1 }⟩
    | _ => return ⟨some (.stop .brokenLine false), [], place⟩
  else if c.isDigit ∨ (c = '.' ∧ rest.head?.any Char.isDigit) then
    let behind ← afterNumeral (c :: rest)
    return ⟨some (.number (bodyBefore behind 0 (c :: rest))), behind, place⟩
  else if c = '\'' ∨ c = '"' then
    let (body, behind, line) ← stringAt c line rest
    return ⟨some (.string [] body), behind, { place with line }⟩
  else if isWordChar c then
    let word := c :: rest.takeWhile isWordChar
    let tail := rest.dropWhile isWordChar
    let small := word.map Char.toLower
    match tail with
    | mark :: more =>
      if (mark = '\'' ∨ mark = '"') ∧ String.ofList small ∈ stringLetters then
        let (body, behind, line) ← stringAt mark line more
        return ⟨some (.string small body), behind, { place with line }⟩
    | [] => pure ()
    match nameProblem? word with
    | some problem => throw problem
    | none => return ⟨some (.name word), tail, place⟩
  else if c = '(' ∨ c = '\x7b' then
    if maxBrackets ≤ opened.length then throw .tooManyBrackets
    return ⟨some (.sign [c]), rest, { place with opened := (c, line) :: opened }⟩
  else if let some opening := opening? c then
    match opened with
    | [] => throw (.unmatched c)
    | (top, start) :: opened =>
      if top = opening then return ⟨some (.sign [c]), rest, { place with opened }⟩
      else throw (.mismatched c top (if start = line then none else some start))
  else if Text.isPrintable c then
    let sign := signAt c rest
    return ⟨some (.sign sign), rest.drop (sign.length - 1), place⟩
  else throw (.invisible c)

/-- Whether the end of the text is noticed when a token is read that takes `length` characters
up to it. A string ends with its marks, but two marks could begin a longer one. -/
def showsEnd (length : Nat) : Token → Bool
  | .string letters _ => length == letters.length + 2
  | _ => true

/-- The last lexeme of a text that ends at a place. -/
def ending (place : Place) : Lexeme :=
  match place.opened with
  | [] => place.lexeme .finish
  | (bracket, _) :: _ => place.lexeme (.stop (.neverClosed bracket) false)

/-- The lexemes of a text from a place on; `count` is more than the number of its characters. -/
def readFrom : Nat → Place → List Char → List Lexeme
  | 0, place, _ => [ending place]
  | _ + 1, place, [] => [ending place]
  | count + 1, place, c :: rest =>
    if place.isLineStart then
      match lineStart? 0 (0, 0) 0 (c :: rest) with
      | none => [place.lexeme (.stop .brokenLine false)]
      | some start =>
        let place := { place with line := place.line + start.passed }
        match start.rest with
        | [] => [ending place]
        | d :: more =>
          if d = '#' then readFrom count place (more.dropWhile (· != '\n'))
          else if d = '\n' then readFrom count { place with line := place.line + 1 } more
          else
            match moveTo start.depth place.depths with
            | .error problem => [place.lexeme (.stop problem false)]
            | .ok (depths, isDeeper) =>
              let place := { place with depths, isLineStart := false }
              let lexemes := readFrom count place (d :: more)
              if isDeeper then place.lexeme .indent :: lexemes else lexemes
    else
      match step place c rest with
      | .error problem => [place.lexeme (.stop problem true)]
      | .ok next =>
        match next.token with
        | none => readFrom count next.place next.rest
        | some (.stop problem always) => [next.place.lexeme (.stop problem always)]
        | some token =>
          let isNoticed := next.rest.isEmpty && showsEnd (rest.length + 1) token
          { next.place.lexeme token with line := place.line, noticesEnd := isNoticed } ::
            readFrom count next.place next.rest

/-- The lexemes of a text. -/
def read (text : List Char) : List Lexeme :=
  if text.contains '\x00' then [Place.start.lexeme (.stop .nullByte true)]
  else readFrom (2 * text.length + 2) .start (Text.unifyNewlines text)

end Lexeme

end OrderOfGrowth.Terminal

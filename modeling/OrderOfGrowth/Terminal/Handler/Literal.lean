import OrderOfGrowth.Terminal.Handler.Expression
import OrderOfGrowth.Terminal.Handler.Lexeme
import OrderOfGrowth.Text.Blank
import OrderOfGrowth.Text.Digit

/-!
# Literals

Numbers and strings of an expression. A string may have escapes, unless the letter `r` stands in
front of it, and with the letter `f` it has expressions in braces, each with a conversion and a
format if need be. Such expressions are read like the whole, so the reader for them is passed
on here.
-/

namespace OrderOfGrowth.Terminal.Literal

/-- The number that digits of a base write. -/
def ofDigits (base : Nat) (row : List Char) : Nat :=
  row.foldl (fun n c => base * n + (Text.alphanumericValue c).getD 0) 0

/-- How many digits a whole number in base ten may have. -/
def maxDigits : Nat := 4300

/-- The number that a numeral writes. -/
def number (numeral : List Char) : Except HandlerProblem Expression :=
  let row := numeral.filter (· != '_')
  match row.map Char.toLower with
  | '0' :: 'x' :: rest => .ok (.whole (ofDigits 16 rest))
  | '0' :: 'o' :: rest => .ok (.whole (ofDigits 8 rest))
  | '0' :: 'b' :: rest => .ok (.whole (ofDigits 2 rest))
  | row =>
    if row.getLast? = some 'j' then .ok .imaginary
    else if row.any fun c => c = '.' ∨ c = 'e' then .ok .double
    else
      let digits := if row.head? = some '0' then ['0'] else row
      if maxDigits < digits.length then .error (.tooManyDigits digits.length)
      else .ok (.whole (ofDigits 10 digits))

/-! ## Escapes -/

/-- A text with escapes in place of the characters beyond the first 128, and of a backslash in
front of one of them or at the end. -/
def widen : List Char → List Char
  | [] => []
  | ['\\'] => "\\u005c".toList
  | '\\' :: c :: rest =>
    if c.toNat < 128 then '\\' :: c :: widen rest
    else "\\u005c".toList ++ '\\' :: 'U' :: Text.hexDigits 8 c.toNat ++ widen rest
  | c :: rest =>
    if c.toNat < 128 then c :: widen rest
    else '\\' :: 'U' :: Text.hexDigits 8 c.toNat ++ widen rest

/-- Where reading of escapes has come to: outside them, behind a backslash, in a code with some
digits to come, behind the letter of a name, or in a name. -/
inductive EscapeState where
  | outside
  | mark (start : Nat)
  | code (start : Nat) (fault : EscapeFault) (missing value : Nat)
  | nameMark (start : Nat)
  | name (start : Nat) (isEmpty : Bool)

namespace EscapeState

/-- What a letter behind a backslash begins. -/
def ofLetter (start : Nat) (c : Char) : EscapeState :=
  if c = 'x' then .code start .shortCode 2 0
  else if c = 'u' then .code start .mediumCode 4 0
  else if c = 'U' then .code start .longCode 8 0
  else if c = 'N' then .nameMark start
  else .outside

/-- The state behind a character at a position. Names of characters are not known. -/
def next (state : EscapeState) (position : Nat) (c : Char) : Except HandlerProblem EscapeState :=
  match state with
  | .outside => .ok (if c = '\\' then .mark position else .outside)
  | .mark start => .ok (ofLetter start c)
  | .code start fault missing value =>
    match (Text.alphanumericValue c).filter (· < 16) with
    | none => .error (.escape start (position - 1) fault)
    | some digit =>
      let value := 16 * value + digit
      if 1 < missing then .ok (.code start fault (missing - 1) value)
      else if 0x10FFFF < value then .error (.escape start position .outOfRange)
      else .ok .outside
  | .nameMark start =>
    if c = '\x7b' then .ok (.name start true) else .error (.escape start (position - 1) .nameMark)
  | .name start isEmpty =>
    if c ≠ '\x7d' then .ok (.name start false)
    else if isEmpty then .error (.escape start (position - 1) .nameMark)
    else .error (.escape start position .unknownName)

/-- Checks that no escape is open at the end of a text of a given length. -/
def finish (state : EscapeState) (length : Nat) : Except HandlerProblem Unit :=
  match state with
  | .code start fault _ _ => .error (.escape start (length - 1) fault)
  | .nameMark start | .name start _ => .error (.escape start (length - 1) .nameMark)
  | .outside | .mark _ => .ok ()

end EscapeState

/-- Checks the escapes of a text. -/
def checkEscapes (text : List Char) : Except HandlerProblem Unit := do
  let units := widen text
  let state ← units.zipIdx.foldlM (fun state (c, position) => EscapeState.next state position c)
    .outside
  state.finish units.length

/-- Whether a text begins with two digits in base sixteen. -/
def beginsWithCode (text : List Char) : Bool :=
  let digits := (text.take 2).takeWhile fun c => (Text.alphanumericValue c).any (· < 16)
  digits.length == 2

/-- Checks the escapes of bytes from a position on. -/
def checkBytesEscapes (position : Nat) : List Char → Except HandlerProblem Unit
  | '\\' :: c :: rest =>
    if c = 'x' ∧ !beginsWithCode rest then .error (.bytesEscape position)
    else checkBytesEscapes (position + 2) rest
  | _ :: rest => checkBytesEscapes (position + 1) rest
  | [] => .ok ()

/-! ## Expressions in strings -/

/-- The reader for an expression inside a string. -/
abbrev InnerReader := List Char → Except HandlerProblem Unit

/-- A failure in a string with expressions. -/
def fail (problem : FormatProblem) : Except HandlerProblem α := .error (.format problem)

/-- The part of a string up to an expression or to the end of a format, whether it ends in a
doubled brace, and the rest; `inName` says whether the text continues the name of a
character, and `isInner` whether it stands in a format. -/
def plainPart (isRaw isInner : Bool) :
    Bool → List Char → Except HandlerProblem (List Char × Bool × List Char)
  | _, [] => .ok ([], false, [])
  | true, c :: rest => add [c] (plainPart isRaw isInner (c != '\x7d') rest)
  | false, '\\' :: 'N' :: c :: rest =>
    if isRaw then add ['\\'] (plainPart isRaw isInner false ('N' :: c :: rest))
    else add ['\\', 'N', c] (plainPart isRaw isInner (c == '\x7b') rest)
  | false, '\\' :: c :: rest =>
    if isRaw ∨ c = '\x7b' ∨ c = '\x7d' then add ['\\'] (plainPart isRaw isInner false (c :: rest))
    else add ['\\', c] (plainPart isRaw isInner false rest)
  | false, c :: rest =>
    if c = '\x7b' ∨ c = '\x7d' then
      if isInner then .ok ([], false, c :: rest)
      else if rest.head? = some c then .ok ([c], true, rest.drop 1)
      else if c = '\x7d' then fail .loneBrace
      else .ok ([], false, c :: rest)
    else add [c] (plainPart isRaw isInner false rest)
where
  /-- The result behind further characters. -/
  add (start : List Char) (result : Except HandlerProblem (List Char × Bool × List Char)) :
      Except HandlerProblem (List Char × Bool × List Char) :=
    result.map fun (part, doubled, rest) => (start ++ part, doubled, rest)

/-- The signs of two characters that do not end an expression. -/
def comparisons : List (List Char) := [['!', '='], ['=', '='], ['<', '='], ['>', '=']]

/-- The bracket that a closing one closes. -/
def opening? (c : Char) : Option Char :=
  if c = ')' then some '('
  else if c = ']' then some '['
  else if c = '\x7d' then some '\x7b'
  else none

/-- What is wrong with the end of an expression, if it is in a string or in brackets. -/
def openEnd? (mark : Option (Char × Bool)) (opened : List Char) : Option FormatProblem :=
  match mark, opened with
  | some _, _ => some .unterminated
  | none, bracket :: _ => some (.unmatched bracket)
  | none, [] => none

/-- Whether two more of a character follow it. -/
def isTripled (c : Char) (rest : List Char) : Bool := [c, c].isPrefixOf rest

/-- An expression in a string and the text behind it. The first `passed` characters belong to it in
any case, `mark` is the mark of the string inside the expression that the text continues, with
whether it is tripled, and `opened` are the open brackets. -/
def expressionPart (passed : Nat) (mark : Option (Char × Bool)) (opened : List Char) :
    List Char → Except HandlerProblem (List Char × List Char)
  | [] =>
    match openEnd? mark opened with
    | some problem => fail problem
    | none => .ok ([], [])
  | c :: rest =>
    let goOn (passed : Nat) (mark : Option (Char × Bool)) (opened : List Char) :=
      (expressionPart passed mark opened rest).map fun (part, behind) => (c :: part, behind)
    if passed ≠ 0 then goOn (passed - 1) mark opened
    else if c = '\\' then fail .backslash
    else if let some (quote, tripled) := mark then
      if c ≠ quote then goOn 0 mark opened
      else if !tripled then goOn 0 none opened
      else if isTripled c rest then goOn 2 none opened
      else goOn 0 mark opened
    else if c = '\'' ∨ c = '"' then
      if isTripled c rest then goOn 2 (some (c, true)) opened else goOn 0 (some (c, false)) opened
    else if c = '(' ∨ c = '[' ∨ c = '\x7b' then
      if Lexeme.maxBrackets ≤ opened.length then fail .tooManyBrackets
      else goOn 0 none (c :: opened)
    else if c = '#' then fail .comment
    else if opened.isEmpty ∧ c ∈ ['!', ':', '\x7d', '=', '<', '>'] then
      if c :: rest.take 1 ∈ comparisons then goOn 1 none opened
      else if c = '<' ∨ c = '>' then goOn 0 none opened
      else .ok ([], c :: rest)
    else if let some needed := opening? c then
      match opened with
      | [] => fail (.unmatched c)
      | top :: opened => if top = needed then goOn 0 none opened else fail (.mismatched c top)
    else goOn 0 none opened

/-- Reads an expression that stands in front of a text. -/
def checkExpression (inner : InnerReader) (part rest : List Char) : Except HandlerProblem Unit :=
  if part.all fun c => c = ' ' ∨ c = '\t' ∨ c = '\n' ∨ c = '\x0c' then
    match rest with
    | c :: _ => if c ∈ ['!', ':', '='] then fail (.missing c) else fail .empty
    | [] => fail .empty
  else inner ('(' :: part ++ [')'])

/-- The text behind a conversion, if there is one. -/
def afterConversion : List Char → Except HandlerProblem (List Char)
  | ['!'] => fail .notClosed
  | '!' :: c :: rest => if c ∈ ['s', 'r', 'a'] then .ok rest else fail .conversion
  | rest => .ok rest

/-- The text behind the expressions of a string, or of a format inside `level` expressions;
`count` is more than the number of characters. -/
def afterParts (inner : InnerReader) (isRaw : Bool) :
    Nat → Nat → List Char → Except HandlerProblem (List Char)
  | 0, _, text => .ok text
  | count + 1, level, text => do
    let (part, isDoubled, rest) ← plainPart isRaw (level ≠ 0) false text
    if !isRaw then checkEscapes part
    if isDoubled then afterParts inner isRaw count level rest
    else
      match rest with
      | '\x7b' :: rest =>
        if 2 ≤ level then fail .nested
        let (expression, rest) ← expressionPart 0 none [] rest
        if rest.isEmpty then fail .notClosed
        checkExpression inner expression rest
        let rest ← afterConversion
          (if rest.head? = some '=' then (rest.drop 1).dropWhile Text.isPlainBlank else rest)
        let rest ←
          match rest with
          | ':' :: format =>
            if format.isEmpty then fail .notClosed
            else afterParts inner isRaw count (level + 1) format
          | _ => pure rest
        match rest with
        | '\x7d' :: behind => afterParts inner isRaw count level behind
        | _ => fail .notClosed
      | _ => if level ≠ 0 ∧ rest.isEmpty then fail .notClosed else return rest

/-! ## Strings -/

/-- Checks the escapes of a string with the letters in front of it, if it has no expressions. -/
def checkPlain (letters body : List Char) : Except HandlerProblem Unit :=
  if letters.contains 'b' then
    if body.any (128 ≤ ·.toNat) then .error .bytesCharacter
    else if letters.contains 'r' then .ok ()
    else checkBytesEscapes 0 body
  else if letters.contains 'r' ∨ !body.contains '\\' then .ok ()
  else checkEscapes body

/-- Checks strings that follow one another; those before them are bytes or not. -/
def checkStrings (inner : InnerReader) (isBytes : Option Bool) :
    List (List Char × List Char) → Except HandlerProblem Unit
  | [] => .ok ()
  | (letters, body) :: rest => do
    let isFormatted := letters.contains 'f'
    if !isFormatted then checkPlain letters body
    if isBytes = some (!letters.contains 'b') then throw .mixedTexts
    if isFormatted then
      let _ ← afterParts inner (letters.contains 'r') (body.length + 2) 0 body
    checkStrings inner (some (letters.contains 'b')) rest

/-- The expression that strings are which follow one another. -/
def strings (inner : InnerReader) (row : List (List Char × List Char)) :
    Except HandlerProblem Expression := do
  checkStrings inner none row
  return if row.any fun (letters, _) => letters.contains 'f' then .formatted else .text

end OrderOfGrowth.Terminal.Literal

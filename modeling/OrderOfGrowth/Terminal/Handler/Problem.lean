import OrderOfGrowth.Problem

/-!
# Problems of handlers

What can be wrong with the arguments of a handler, each with the one text that describes it. An
expression may be badly written, or it may have no value.
-/

namespace OrderOfGrowth

/-- What is wrong with an escape in a string. -/
inductive EscapeFault where
  | shortCode
  | mediumCode
  | longCode
  | outOfRange
  | nameMark
  | unknownName
  deriving DecidableEq

namespace EscapeFault

/-- The description of a wrong escape. -/
def message : EscapeFault → String
  | shortCode => "truncated \\xXX escape"
  | mediumCode => "truncated \\uXXXX escape"
  | longCode => "truncated \\UXXXXXXXX escape"
  | outOfRange => "illegal Unicode character"
  | nameMark => "malformed \\N character escape"
  | unknownName => "unknown Unicode character name"

end EscapeFault

/-- What is wrong with a string that has expressions in it. -/
inductive FormatProblem where
  | loneBrace
  | nested
  | backslash
  | comment
  | tooManyBrackets
  | unmatched (bracket : Char)
  | mismatched (closing opening : Char)
  | unterminated
  | notClosed
  | missing (mark : Char)
  | empty
  | conversion
  deriving DecidableEq

namespace FormatProblem

/-- The description of what is wrong with a string that has expressions in it. -/
def message : FormatProblem → String
  | loneBrace => "f-string: single '\x7d' is not allowed"
  | nested => "f-string: expressions nested too deeply"
  | backslash => "f-string expression part cannot include a backslash"
  | comment => "f-string expression part cannot include '#'"
  | tooManyBrackets => "f-string: too many nested parenthesis"
  | unmatched bracket => "f-string: unmatched '" ++ bracket.toString ++ "'"
  | mismatched closing opening =>
    "f-string: closing parenthesis '" ++ closing.toString ++
      "' does not match opening parenthesis '" ++ opening.toString ++ "'"
  | unterminated => "f-string: unterminated string"
  | notClosed => "f-string: expecting '\x7d'"
  | missing mark => "f-string: expression required before '" ++ mark.toString ++ "'"
  | empty => "f-string: empty expression not allowed"
  | conversion => "f-string: invalid conversion character: expected 's', 'r', or 'a'"

end FormatProblem

/-- What is wrong with the parameters of a function that is written in an expression. -/
inductive ParameterProblem where
  | order
  | parentheses
  | slashFirst
  | slashTwice
  | slashBehindStar
  | slashWithStar
  | bareStar
  | starDefault
  | starTwice
  | pairsDefault
  | behindPairs
  | noDefault
  deriving DecidableEq

namespace ParameterProblem

/-- The description of what is wrong with parameters. -/
def message : ParameterProblem → String
  | order => "non-default argument follows default argument"
  | parentheses => "Lambda expression parameters cannot be parenthesized"
  | slashFirst => "at least one argument must precede /"
  | slashTwice => "/ may appear only once"
  | slashBehindStar => "/ must be ahead of *"
  | slashWithStar => "expected comma between / and *"
  | bareStar => "named arguments must follow bare *"
  | starDefault => "var-positional argument cannot have default value"
  | starTwice => "* argument may appear only once"
  | pairsDefault => "var-keyword argument cannot have default value"
  | behindPairs => "arguments cannot follow var-keyword argument"
  | noDefault => "expected default value expression"

end ParameterProblem

/-- What is wrong with the arguments of a handler. -/
inductive HandlerProblem where
  | malformed
  | missingComma
  | missingElse
  | missingParentheses (name : String)
  | equalsSign
  | assignment (target : String)
  | namedTarget (target : String)
  | fixedTarget (target : String)
  | loneStar
  | star
  | doubleStar
  | missingColon
  | missingValue
  | starValue
  | mixedTexts
  | argumentAssignment
  | behindNamed
  | behindPairs
  | starBehindPairs
  | bareGenerator
  | comprehensionStar
  | comprehensionTarget
  | comprehensionPairs
  | parameters (problem : ParameterProblem)
  | bytesCharacter
  | escape (first last : Nat) (fault : EscapeFault)
  | bytesEscape (position : Nat)
  | format (problem : FormatProblem)
  | inFormat (problem : HandlerProblem)
  | tooManyDigits (count : Nat)
  | neverClosed (bracket : Char)
  | unmatched (bracket : Char)
  | mismatched (closing opening : Char) (line : Option Nat)
  | tooManyBrackets
  | unterminated (line : Nat)
  | unterminatedTriple (line : Nat)
  | numeral (kind : String)
  | digit (c : Char) (kind : String)
  | leadingZeros
  | brokenLine
  | indented
  | lessIndented
  | mixedIndents
  | character (c : Char)
  | invisible (c : Char)
  | nullByte
  deriving DecidableEq

namespace HandlerProblem

/-- A code point in base sixteen with capital letters, of at least four digits. -/
def codeText (c : Char) : String :=
  "U+" ++ String.ofList ((Text.hexDigits 4 c.toNat).map Char.toUpper)

/-- The description of what is wrong with the arguments of a handler. -/
def message : HandlerProblem → String
  | .malformed => "invalid syntax"
  | .missingComma => "invalid syntax. Perhaps you forgot a comma?"
  | .missingElse => "expected 'else' after 'if' expression"
  | .missingParentheses name =>
    "Missing parentheses in call to '" ++ name ++ "'. Did you mean " ++ name ++ "(...)?"
  | .equalsSign => "invalid syntax. Maybe you meant '==' or ':=' instead of '='?"
  | .assignment target =>
    "cannot assign to " ++ target ++ " here. Maybe you meant '==' instead of '='?"
  | .namedTarget target => "cannot use assignment expressions with " ++ target
  | .fixedTarget target => "cannot assign to " ++ target
  | .loneStar => "Invalid star expression"
  | .star => "cannot use starred expression here"
  | .doubleStar => "cannot use double starred expression here"
  | .missingColon => "':' expected after dictionary key"
  | .missingValue => "expression expected after dictionary key and ':'"
  | .starValue => "cannot use a starred expression in a dictionary value"
  | .mixedTexts => "cannot mix bytes and nonbytes literals"
  | .argumentAssignment =>
    "expression cannot contain assignment, perhaps you meant \"==\"?"
  | .behindNamed => "positional argument follows keyword argument"
  | .behindPairs => "positional argument follows keyword argument unpacking"
  | .starBehindPairs => "iterable argument unpacking follows keyword argument unpacking"
  | .bareGenerator => "Generator expression must be parenthesized"
  | .comprehensionStar => "iterable unpacking cannot be used in comprehension"
  | .comprehensionTarget => "did you forget parentheses around the comprehension target?"
  | .comprehensionPairs => "dict unpacking cannot be used in dict comprehension"
  | .parameters problem => problem.message
  | .bytesCharacter => "bytes can only contain ASCII literal characters"
  | .escape first last fault =>
    "(unicode error) 'unicodeescape' codec can't decode bytes in position " ++
      String.ofList (digits first) ++ "-" ++ String.ofList (digits last) ++ ": " ++ fault.message
  | .bytesEscape position =>
    "(value error) invalid \\x escape at position " ++ String.ofList (digits position)
  | .format problem => problem.message
  | .inFormat problem => "f-string: " ++ problem.message
  | .tooManyDigits count =>
    (ArithmeticProblem.tooManyDigits count).message ++
      " - Consider hexadecimal for huge integer literals to avoid decimal conversion limits."
  | .neverClosed bracket => "'" ++ bracket.toString ++ "' was never closed"
  | .unmatched bracket => "unmatched '" ++ bracket.toString ++ "'"
  | .mismatched closing opening line =>
    "closing parenthesis '" ++ closing.toString ++ "' does not match opening parenthesis '" ++
      opening.toString ++ "'" ++
      (line.map fun n => " on line " ++ String.ofList (digits n)).getD ""
  | .tooManyBrackets => "too many nested parentheses"
  | .unterminated line =>
    "unterminated string literal (detected at line " ++ String.ofList (digits line) ++ ")"
  | .unterminatedTriple line =>
    "unterminated triple-quoted string literal (detected at line " ++
      String.ofList (digits line) ++ ")"
  | .numeral kind => "invalid " ++ kind ++ " literal"
  | .digit c kind => "invalid digit '" ++ c.toString ++ "' in " ++ kind ++ " literal"
  | .leadingZeros =>
    "leading zeros in decimal integer literals are not permitted; " ++
      "use an 0o prefix for octal integers"
  | .brokenLine => "unexpected character after line continuation character"
  | .indented => "unexpected indent"
  | .lessIndented => "unindent does not match any outer indentation level"
  | .mixedIndents => "inconsistent use of tabs and spaces in indentation"
  | .character c => "invalid character '" ++ c.toString ++ "' (" ++ codeText c ++ ")"
  | .invisible c => "invalid non-printable character " ++ codeText c
  | .nullByte => "source code string cannot contain null bytes"

end HandlerProblem

/-- Why an expression that is well written has no value. -/
inductive ValueProblem where
  | kind (problem : KindProblem)
  | arithmetic (problem : ArithmeticProblem)
  | spreadEntry
  deriving DecidableEq

namespace ValueProblem

/-- The description of why an expression has no value. -/
def message : ValueProblem → String
  | .kind problem => problem.message
  | .arithmetic problem => problem.message
  | .spreadEntry => "malformed node or string: None"

end ValueProblem

end OrderOfGrowth

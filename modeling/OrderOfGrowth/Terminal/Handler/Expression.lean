import OrderOfGrowth.Terminal.Handler.Problem
import OrderOfGrowth.Number.Binary64

/-!
# Expressions of handlers

The arguments of a handler are an expression. Only literals and containers of literals have a
value: a number, a text, a tuple, a set or a dictionary. Members of a set and keys of a
dictionary must be values that never change, so neither sets nor dictionaries can be among
them.
-/

namespace OrderOfGrowth.Terminal

/-- An expression, as far as its description or its value depends on it. -/
inductive Expression where
  | name (text : List Char)
  | constant (word : List Char)
  | ellipsis
  | whole (n : Nat)
  | double
  | imaginary
  | text
  | formatted
  | member
  | call (isEmptySet : Bool)
  | function
  | yielded
  | awaited
  | generator
  | setBuilder
  | dictionaryBuilder
  | choice
  | binding
  | operation
  | signed (operand : Expression)
  | sum (left right : Expression)
  | comparison (left : Expression) (isIn : Bool)
  | starred (operand : Expression)
  | tuple (items : List Expression)
  | set (items : List Expression)
  | dictionary (entries : List (Option Expression × Expression))

namespace Expression

/-- The word for an expression in descriptions. -/
def describe : Expression → String
  | name _ => "name"
  | constant word => String.ofList word
  | ellipsis => "ellipsis"
  | whole _ | double | imaginary | text => "literal"
  | formatted => "f-string expression"
  | member => "attribute"
  | call _ => "function call"
  | function => "lambda"
  | yielded => "yield expression"
  | awaited => "await expression"
  | generator => "generator expression"
  | setBuilder => "set comprehension"
  | dictionaryBuilder => "dict comprehension"
  | choice => "conditional expression"
  | binding => "named expression"
  | operation | signed _ | sum .. => "expression"
  | comparison .. => "comparison"
  | starred _ => "starred"
  | tuple _ => "tuple"
  | set _ => "set display"
  | dictionary _ => "dict literal"

mutual

/-- The part of an expression that keeps it from being what a loop runs through, if there is
one. -/
def fixedPart? : Expression → Option Expression
  | name _ | member => none
  | starred operand => fixedPart? operand
  | comparison left isIn => if isIn then fixedPart? left else none
  | tuple items => fixedPartAmong? items
  | other => some other

/-- The first such part of several expressions. -/
def fixedPartAmong? : List Expression → Option Expression
  | [] => none
  | first :: rest =>
    match fixedPart? first with
    | some part => some part
    | none => fixedPartAmong? rest

end

end Expression

/-- A value, as far as other values depend on it. -/
inductive LiteralValue where
  | whole (n : Nat)
  | double
  | imaginary
  | plain
  | set
  | dictionary
  | tuple (items : List LiteralValue)

namespace LiteralValue

mutual

/-- The kind of the first part of a value that can change, if there is one. -/
def changing? : LiteralValue → Option String
  | set => some "set"
  | dictionary => some "dict"
  | tuple items => changingAmong? items
  | _ => none

/-- The kind of the first part of several values that can change. -/
def changingAmong? : List LiteralValue → Option String
  | [] => none
  | first :: rest =>
    match changing? first with
    | some kind => some kind
    | none => changingAmong? rest

end

end LiteralValue

/-- A value, or why there is none. An expression that is no literal has none, for a reason that
is not described. -/
abbrev Valuation (α : Type) := Except (Option ValueProblem) α

namespace Expression

/-- Checks that a value can be a member of a set or a key. -/
def requireFixed (value : LiteralValue) : Valuation Unit :=
  match value.changing? with
  | some kind => throw (some (.kind (.unhashable kind)))
  | none => .ok ()

/-- The number that an expression is. -/
def numberOf? : Expression → Option LiteralValue
  | whole n => some (.whole n)
  | double => some .double
  | imaginary => some .imaginary
  | _ => none

/-- The number that an expression is, which may have a sign. -/
def signedNumberOf? : Expression → Option LiteralValue
  | signed operand => numberOf? operand
  | other => numberOf? other

/-- The value of a sum: a real number with an imaginary one. -/
def sumOf (left right : Expression) : Valuation LiteralValue :=
  match signedNumberOf? left, numberOf? right with
  | some (.whole n), some .imaginary =>
    match Binary64.ofQuotient false n 1 with
    | .infinite _ => throw (some (.arithmetic .integerTooLarge))
    | _ => .ok .imaginary
  | some .double, some .imaginary => .ok .imaginary
  | _, _ => throw none

mutual

/-- The value of an expression. -/
def value : Expression → Valuation LiteralValue
  | constant _ | ellipsis | text => .ok .plain
  | call true => .ok .set
  | tuple items => (values items).map .tuple
  | set items => do
    members items
    return .set
  | dictionary entries => do
    pairs entries
    return .dictionary
  | sum left right => sumOf left right
  | other =>
    match signedNumberOf? other with
    | some number => .ok number
    | none => throw none

/-- The values of expressions. -/
def values : List Expression → Valuation (List LiteralValue)
  | [] => .ok []
  | first :: rest => do return (← value first) :: (← values rest)

/-- Checks the members of a set. -/
def members : List Expression → Valuation Unit
  | [] => .ok ()
  | first :: rest => do
    requireFixed (← value first)
    members rest

/-- Checks the entries of a dictionary. One without a key takes in another dictionary, which is
no literal. -/
def pairs : List (Option Expression × Expression) → Valuation Unit
  | [] => .ok ()
  | (none, _) :: _ => throw (some .spreadEntry)
  | (some key, content) :: rest => do
    let found ← value key
    let _ ← value content
    requireFixed found
    pairs rest

end

end Expression

end OrderOfGrowth.Terminal

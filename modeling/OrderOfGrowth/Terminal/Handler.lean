import OrderOfGrowth.Failure
import OrderOfGrowth.Terminal.Handler.Rule

/-!
# Handlers

A tag whose name starts with an at sign says what is to be done with a text: the name of a
handler with arguments in parentheses, or arguments alone. Here it is only checked that the
arguments are a well formed expression with a value. They are read twice if they are not well
formed: the second reading looks for mistakes that have a description of their own.

No command line comes here: what the commands print has no such tags, or is escaped. The report on
languages reads tags in the names that it is given, though, and so a caller with names of its own
can have handlers in them, and failures of handlers.
-/

namespace OrderOfGrowth.Terminal.Handler

/-- A bound for the depth of a reading: rules call one another, and phrases, at most so often
before a lexeme is passed. -/
def depthFor (lexemes : Array Lexeme) : Nat := 500 * (lexemes.size + 2)

/-- Reads lexemes by a rule, and once more to find mistakes if it does not fit. -/
def readTwice (grammar : Grammar Rule) (lexemes : Array Lexeme) (start : Rule) :
    Reading Expression := do
  let depth := depthFor lexemes
  match ← Reading.readRule grammar lexemes depth false start 0 with
  | .found node _ => return Rule.expressionOf node
  | _ =>
    let seen := (← get).seen
    modify fun progress => { progress with found := ∅ }
    let _ ← Reading.readRule grammar lexemes depth true start 0
    throw (if lexemes[seen - 1]?.any (·.token matches .indent) then .indented else .malformed)

/-- Whether the lexemes behind the first `seen` ones matter for a problem. They do not if a line is
too deep, if no lexeme is left, or if a problem has a description and the end of the text has
been noticed. -/
def endingMatters (problem : HandlerProblem) (lexemes : Array Lexeme) (seen : Nat) : Bool :=
  problem != .indented && seen < lexemes.size &&
    (problem == .malformed || !lexemes[seen - 1]?.any (·.noticesEnd))

/-- What a problem becomes when the lexemes behind the first `seen` ones are taken into account.
Where no lexeme can be read may be a problem that always counts, on which `context` is not put. A
bracket that is never closed counts if it was opened on an earlier line than the last lexeme that
has been looked at. -/
def withEnding (context : HandlerProblem → HandlerProblem) (lexemes : Array Lexeme) (seen : Nat)
    (problem : HandlerProblem) : HandlerProblem :=
  match lexemes.back?, lexemes[seen - 1]? with
  | some ⟨.stop ending true, _, _, _, _⟩, _ =>
    if problem = .indented then context problem else ending
  | some ⟨.stop .., _, _, some (bracket, line), _⟩, some last =>
    context (if endingMatters problem lexemes seen ∧ line < last.line then .neverClosed bracket
      else problem)
  | _, _ => context problem

/-- The expression that a text is by a rule, where `context` is put on problems of reading but not
on problems of lexemes that always count. Expressions inside its strings may be nested
`depth` times. -/
def readBy (start : Rule) (context : HandlerProblem → HandlerProblem) :
    Nat → List Char → Except HandlerProblem Expression
  | 0, _ => .error .malformed
  | depth + 1, text =>
    let inner (text : List Char) := (readBy .inner .inFormat depth text).map fun _ => ()
    let lexemes := (Lexeme.read text).toArray
    let (result, progress) := (readTwice (Rule.grammar inner) lexemes start).run.run ⟨0, ∅⟩
    match result with
    | .ok expression => .ok expression
    | .error problem => .error (withEnding context lexemes progress.seen problem)

/-- The expression that a text is. -/
def read (text : List Char) : Except HandlerProblem Expression :=
  readBy .whole id (text.length + 1) text

/-- The arguments in what stands behind the name of a tag: all of it, or what is in parentheses
behind the name of a handler. -/
def argumentsOf (text : List Char) : List Char :=
  match text.dropWhile fun c => Text.isWordChar c || c == '.' with
  | [] => ['(', ')']
  | '(' :: rest =>
    if rest.getLast? = some ')' ∧ !rest.contains '\n' then '(' :: rest else text
  | _ => text

/-- Checks what stands behind the name of a tag with a handler. -/
def validate (text : List Char) : Except Failure Unit :=
  let arguments := argumentsOf (Text.trim text)
  match read (arguments.dropWhile fun c => c == ' ' || c == '\t') with
  | .error problem => .error (.handler (String.ofList arguments) (String.ofList text) problem)
  | .ok expression =>
    match expression.value with
    | .error (some problem) => .error (.handlerValue (String.ofList text) problem)
    | _ => .ok ()

end OrderOfGrowth.Terminal.Handler

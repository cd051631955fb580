import OrderOfGrowth.Session

/-!
# Sources

A source is read from a file or, if its path is a single dash, from the standard input. A file is
a text in UTF-8 with any kind of line ends; the standard input has a rule of its own. Problems with
a file are problems of the source; bytes of the standard input that are not well formed are a
failure of their own, unless its rule has a place for them.
-/

namespace OrderOfGrowth

/-- The path that means the standard input. -/
def inputPath : String := "-"

/-- The text of a stored text: decoded, with line feeds as line ends. -/
def textOfBytes (bytes : List UInt8) : Except Text.Utf8Problem String :=
  (Text.decode bytes).map fun text => String.ofList (Text.unifyNewlines text)

/-- The text of the bytes of the standard input under its rule. -/
def textOfInput (rule : InputRule) (bytes : List UInt8) : Except Text.Utf8Problem String :=
  (if rule.escapesBytes then .ok (Text.decodeEscaped bytes) else Text.decode bytes).map fun text =>
    String.ofList (if rule.unifiesLineEnds then Text.unifyNewlines text else text)

namespace Source

/-- The text of the source file at a path. -/
def ofFile (tree : FileTree) (current : Standpoint) (path : String) : Except Failure String :=
  match tree.read current (Path.ofText path).text with
  | .error (.missing _) => .error (.source (.missing path))
  | .error .nullByte => .error (.file .nullByte)
  | .error (.unencodable run) => .error (.file (.unencodable run))
  | .error problem => .error (.source (.file path problem))
  | .ok bytes =>
    match textOfBytes bytes with
    | .error problem => .error (.source (.encoding path problem))
    | .ok text => .ok text

/-- The text of everything that is left of the standard input, of which nothing is left then. -/
def ofInput : Action String := fun around session =>
  let after := { session with input := [] }
  match textOfInput around.input session.input with
  | .ok text => (.ok text, after)
  | .error problem => (.error (.encoding problem), after)

/-- The text of a source. -/
def read (path : String) : Action String := do
  if path = inputPath then ofInput
  else
    let around ← Action.surroundings
    let session ← Action.current
    Action.lift (ofFile session.files around.current path)

end Source

/-- How many bytes of memory are assumed for each character of output. -/
def bytesPerCharacter : Int := 100

/-- The memory that is assumed for a program with this output. -/
def estimateMemory (output : Option String) : Int :=
  (output.getD "").toList.length * bytesPerCharacter

/-- A measurement that must not be negative; a missing one is allowed. -/
def requireNonNegative (name : String) (value : Option Quantity) :
    Except Failure (Option Quantity) :=
  match value with
  | some q =>
    if q.lt (.int 0) then .error (.quoting q (.argument (.negative name q))) else .ok (some q)
  | none => .ok none

end OrderOfGrowth

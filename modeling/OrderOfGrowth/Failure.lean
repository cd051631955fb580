import OrderOfGrowth.Number.Quantity
import OrderOfGrowth.Terminal.Handler.Problem
import OrderOfGrowth.Text.Search
import OrderOfGrowth.Text.Utf8

/-!
# Failures

Every way in which an operation can fail, by its cause, and the one text that describes it.
Causes belong to a few families: wrong settings, wrong arguments, sources that cannot be
read, files, arithmetic beyond its range, and values of the wrong kind.
-/

namespace OrderOfGrowth

/-- What is wrong with a configuration. -/
inductive ConfigurationProblem where
  | tooSmall (field : String) (value : Quantity)
  | opacity (value : Quantity)
  | chart (problem : KindProblem)
  | unknownKeys (keys : List String)
  | unsupportedLanguage (name : String) (languages aliases : List String)
  deriving DecidableEq

/-- What is wrong with an argument. -/
inductive ArgumentProblem where
  | step (value : Quantity)
  | domain (value : Quantity)
  | negative (name : String) (value : Quantity)
  | highlight (label : String)
  deriving DecidableEq

/-- Why a source cannot be read. -/
inductive SourceProblem where
  | missing (path : String)
  | file (path : String) (problem : FileProblem)
  | encoding (path : String) (problem : Text.Utf8Problem)
  deriving DecidableEq

/-- Why an operation fails. -/
inductive Failure where
  | configuration (problem : ConfigurationProblem)
  | argument (problem : ArgumentProblem)
  | source (problem : SourceProblem)
  | file (problem : FileProblem)
  | encoding (problem : Text.Utf8Problem)
  | arithmetic (problem : ArithmeticProblem)
  | kind (problem : KindProblem)
  | noMember (owner member : String)
  | unknownClass (label : String)
  | notAClass (label : String)
  | missingDefault (language : String)
  | notNumeral (base : Nat) (text : String)
  | rowTooShort
  | unmatchedTag (tag : String) (position : Nat)
  | nothingToClose (position : Nat)
  | handler (arguments whole : String) (problem : HandlerProblem)
  | handlerValue (whole : String) (problem : ValueProblem)
  | noHome
  | unencodable (run : Text.SurrogateRun)
  | nestedTooDeep (container : String)
  | broken (message : String)
  deriving DecidableEq

/-- Several texts with a comma and a blank between neighbours. -/
def commaList (items : List String) : String :=
  String.ofList (Text.joinWith [',', ' '] (items.map String.toList))

namespace ConfigurationProblem

/-- The description of a wrong configuration. -/
def message : ConfigurationProblem → String
  | .tooSmall field value => field ++ " must be at least 1, got " ++ String.ofList value.text
  | .opacity value => "dimmed_opacity must be between 0 and 1, got " ++ String.ofList value.text
  | .chart problem => "Invalid chart configuration: " ++ problem.message
  | .unknownKeys keys => "Unknown configuration keys: " ++ commaList keys
  | .unsupportedLanguage name languages aliases =>
    "Unsupported language: '" ++ name ++ "'. Supported languages: " ++ commaList languages ++
      ". Aliases: " ++ commaList aliases

end ConfigurationProblem

namespace ArgumentProblem

/-- The description of a wrong argument. -/
def message : ArgumentProblem → String
  | .step value => "Sample step must be at least 1, got " ++ String.ofList value.text
  | .domain value => "Domain size must be at least 1, got " ++ String.ofList value.text
  | .negative name value => name ++ " must not be negative, got " ++ String.ofList value.text
  | .highlight label => "Unknown complexity class: '" ++ label ++ "'"

end ArgumentProblem

/-- A byte in base sixteen. -/
def byteText (byte : UInt8) : String := String.ofList ('0' :: 'x' :: Text.hexDigits 2 byte.toNat)

/-- The description of bytes that are not well formed: the first of them if it is the only
one, else the range of their offsets. -/
def encodingMessage (problem : Text.Utf8Problem) : String :=
  let place := String.ofList (digits problem.offset)
  let reason :=
    match problem.fault with
    | .start => "invalid start byte"
    | .continuation => "invalid continuation byte"
    | .ending => "unexpected end of data"
  if problem.length = 1 then
    "'utf-8' codec can't decode byte " ++ byteText problem.byte ++ " in position " ++ place ++
      ": " ++ reason
  else
    "'utf-8' codec can't decode bytes in position " ++ place ++ "-" ++
      String.ofList (digits (problem.offset + problem.length - 1)) ++ ": " ++ reason

namespace SourceProblem

/-- The description of a source that cannot be read. -/
def message : SourceProblem → String
  | .missing path => "Source file not found: " ++ path
  | .file path problem => "Could not read source file " ++ path ++ ": " ++ problem.message
  | .encoding path problem =>
    "Could not read source file " ++ path ++ ": " ++ encodingMessage problem

end SourceProblem

namespace Failure

/-- The text that describes a failure. -/
def message : Failure → String
  | .configuration problem => problem.message
  | .argument problem => problem.message
  | .source problem => problem.message
  | .file problem => problem.message
  | .encoding problem => encodingMessage problem
  | .arithmetic problem => problem.message
  | .kind problem => problem.message
  | .noMember owner member => "'" ++ owner ++ "' object has no attribute '" ++ member ++ "'"
  | .unknownClass label => "Unknown complexity class: '" ++ label ++ "'"
  | .notAClass label => quote label ++ " is not a valid ComplexityClass"
  | .missingDefault language => "Default language '" ++ language ++ "' has no pattern entry"
  | .notNumeral base text =>
    "invalid literal for int() with base " ++ String.ofList (digits base) ++ ": " ++ quote text
  | .rowTooShort => "list index out of range"
  | .unmatchedTag tag position =>
    "closing tag '[" ++ tag ++ "]' at position " ++ String.ofList (digits position) ++
      " doesn't match any open tag"
  | .nothingToClose position =>
    "closing tag '[/]' at position " ++ String.ofList (digits position) ++ " has nothing to close"
  | .handler arguments whole problem =>
    "error parsing " ++ quote arguments ++ " in " ++ quote whole ++ "; " ++ problem.message
  | .handlerValue whole problem => "error parsing " ++ quote whole ++ "; " ++ problem.message
  | .noHome => "Could not determine home directory."
  | .unencodable run =>
    surrogateMessage run ++
      "\n*** You may need to add PYTHONIOENCODING=utf-8 to your environment ***"
  | .nestedTooDeep container =>
    "maximum recursion depth exceeded while decoding a JSON " ++ container ++
      " from a unicode string"
  | .broken message => message

/-- A failure whose message quotes a number. A number that has no text is a failure before it. -/
def quoting (value : Quantity) (failure : Failure) : Failure :=
  if value.isWritable then failure else .arithmetic .tooLongInteger

end Failure

end OrderOfGrowth

import OrderOfGrowth.Command.Arguments
import OrderOfGrowth.Number.Numeral

/-!
# Requests

What a command line asks for. A command line that does not ask for anything known, that has
too few or too many operands, or that has a value that is no number where one is needed, is
no request at all.
-/

namespace OrderOfGrowth

/-- How a command is set up: where to look for the configuration and what to log. -/
structure Setup where
  config : Option String
  debug : Bool
  verbose : Bool
  logFile : Option String

/-- The source that a command is about, and what was measured for it. -/
structure Subject where
  source : String
  language : Option String
  runtime : Option Binary64
  memory : Option Int
  memoryLimit : Option Int
  outputFile : Option String

/-- A request to estimate the class of a source. -/
structure AnalyzeRequest where
  subject : Subject
  detailed : Bool
  asJson : Bool

/-- A request to print the reference curves. -/
structure CurvesRequest where
  highlight : Option String
  domainSize : Option Int
  step : Int

/-- A request to draw a chart for a source. -/
structure VisualizeRequest where
  subject : Subject
  output : Option String
  openPage : Option Bool

/-- What a command line asks for. -/
inductive Request where
  | analyze (setup : Setup) (request : AnalyzeRequest)
  | curves (setup : Setup) (request : CurvesRequest)
  | visualize (setup : Setup) (request : VisualizeRequest)
  | languages

namespace Request

/-- An option with a value under its own name. -/
def valued (name : String) : OptionForm := ⟨"--" ++ name, name, .value⟩

/-- An option that turns a switch on under its own name. -/
def switched (name : String) : OptionForm := ⟨"--" ++ name, name, .switch true⟩

/-- Another spelling of an option with a value. -/
def shortValued (spelling name : String) : OptionForm := ⟨spelling, name, .value⟩

/-- Another spelling of an option that turns a switch on. -/
def shortSwitched (spelling name : String) : OptionForm := ⟨spelling, name, .switch true⟩

/-- The options of every command that has a configuration. -/
def setupForms : List OptionForm := [valued "config", switched "debug"]

/-- The options about a source. -/
def subjectForms : List OptionForm :=
  [valued "language", shortValued "-l" "language", valued "runtime", valued "memory",
   valued "memory-limit", valued "output-file"]

/-- The options of `analyze`. -/
def analyzeForms : List OptionForm :=
  setupForms ++ subjectForms ++
    [switched "detailed", shortSwitched "-d" "detailed", switched "json", switched "verbose",
     shortSwitched "-v" "verbose", valued "log-file"]

/-- The options of `curves`. -/
def curvesForms : List OptionForm :=
  setupForms ++
    [valued "highlight", valued "domain-size", shortValued "-n" "domain-size", valued "step",
     shortValued "-s" "step"]

/-- The options of `visualize`. -/
def visualizeForms : List OptionForm :=
  setupForms ++ subjectForms ++
    [valued "output", shortValued "-o" "output", switched "open",
     ⟨"--no-open", "open", .switch false⟩]

/-- The whole number given for an option. A value that is no number spoils the request. -/
def integerOption (found : Arguments) (name : String) : Option (Option Int) :=
  match found.values.lookup name with
  | some text => (Numeral.integer? text.toList).map some
  | none => some none

/-- The double given for an option. A value that is no number spoils the request. -/
def doubleOption (found : Arguments) (name : String) : Option (Option Binary64) :=
  match found.values.lookup name with
  | some text => (Numeral.double? text.toList).map some
  | none => some none

/-- The one operand of a command. -/
def onlyOperand (found : Arguments) : Option String :=
  match found.operands with
  | [operand] => some operand
  | _ => none

/-- The setup that the arguments ask for. -/
def setupOf (found : Arguments) : Setup :=
  ⟨found.values.lookup "config", found.isOn "debug", found.isOn "verbose",
    found.values.lookup "log-file"⟩

/-- The subject that the arguments name. -/
def subjectOf (found : Arguments) : Option Subject := do
  let source ← onlyOperand found
  let runtime ← doubleOption found "runtime"
  let memory ← integerOption found "memory"
  let memoryLimit ← integerOption found "memory-limit"
  return {
    source, runtime, memory, memoryLimit
    language := found.values.lookup "language"
    outputFile := found.values.lookup "output-file" }

/-- The step between the rows of the table of curves unless said otherwise. -/
def standardTableStep : Int := 10

/-- The request of `analyze`. -/
def readAnalyze (arguments : List String) : Option Request := do
  let found ← Arguments.read analyzeForms arguments
  let subject ← subjectOf found
  return .analyze (setupOf found) ⟨subject, found.isOn "detailed", found.isOn "json"⟩

/-- The request of `curves`. -/
def readCurves (arguments : List String) : Option Request := do
  let found ← Arguments.read curvesForms arguments
  let domainSize ← integerOption found "domain-size"
  let step ← integerOption found "step"
  if found.operands.isEmpty then
    return .curves (setupOf found)
      ⟨found.values.lookup "highlight", domainSize, step.getD standardTableStep⟩
  else none

/-- The request of `visualize`. -/
def readVisualize (arguments : List String) : Option Request := do
  let found ← Arguments.read visualizeForms arguments
  let subject ← subjectOf found
  return .visualize (setupOf found)
    ⟨subject, found.values.lookup "output", found.switches.lookup "open"⟩

/-- The request of `languages`. -/
def readLanguages (arguments : List String) : Option Request := do
  let found ← Arguments.read [] arguments
  if found.operands.isEmpty then return .languages else none

/-- The request that starts with the name of a command. -/
def readNamed : List String → Option Request
  | "analyze" :: arguments => readAnalyze arguments
  | "curves" :: arguments => readCurves arguments
  | "visualize" :: arguments => readVisualize arguments
  | "languages" :: arguments => readLanguages arguments
  | _ => none

/-- The request of a command line. -/
def read (arguments : List String) : Option Request :=
  match arguments with
  | "--" :: rest => readNamed rest
  | _ => readNamed arguments

/-- The name of the command of a request. -/
def command : Request → String
  | .analyze .. => "analyze"
  | .curves .. => "curves"
  | .visualize .. => "visualize"
  | .languages => "languages"

/-- The language that is asked for. -/
def language : Request → Option String
  | .analyze _ request => request.subject.language
  | .visualize _ request => request.subject.language
  | _ => none

/-- The setup of a command that has one. -/
def setup? : Request → Option Setup
  | .analyze setup _ => some setup
  | .curves setup _ => some setup
  | .visualize setup _ => some setup
  | .languages => none

/-- The paths of files that a command line names. -/
def paths : Request → List String
  | .analyze setup request =>
    [setup.config, setup.logFile, some request.subject.source,
     request.subject.outputFile].reduceOption
  | .curves setup _ => setup.config.toList
  | .visualize setup request =>
    [setup.config, setup.logFile, some request.subject.source, request.subject.outputFile,
     request.output].reduceOption
  | .languages => []

/-- Whether details of a failure are asked for. -/
def wantsTrace (request : Request) : Bool := (request.setup?.map Setup.debug).getD false

end Request

end OrderOfGrowth

import OrderOfGrowth.Analysis
import OrderOfGrowth.Chart.Publish
import OrderOfGrowth.Command.Request
import OrderOfGrowth.Json.Writer
import OrderOfGrowth.Report

/-!
# Running commands

What each command does. All measurements are checked before the source is read, and the page
of a chart is made before its directory gets a file. A command that fails prints what went
wrong and ends with the exit code 1; if it failed because a text cannot be printed, that text
stays in the way of all others and nothing more is printed. A command line that is no request
does nothing and ends with the exit code 2.
-/

namespace OrderOfGrowth.Command

/-- The measurements for a subject after they have been checked. -/
structure Measurements where
  language : String
  runtime : Option Quantity
  memory : Option Quantity
  memoryLimit : Json

/-- Checks the measurements for a subject and fills in what is missing. -/
def measure (options : Options) (subject : Subject) : Action Measurements := do
  let language := Options.languageFor options.language subject.source
  let runtime ← Action.lift (requireNonNegative "Runtime" (subject.runtime.map .float))
  let memory ← Options.observedMemory subject.memory subject.outputFile
  let memoryLimit ← Action.lift (Options.memoryLimit subject.memoryLimit options.config)
  return ⟨language, runtime, memory.map .int, memoryLimit⟩

/-- The members of the machine-readable result of `analyze`. -/
def payload (report : ScanReport) (estimate : Estimate) (measured : Measurements)
    (detailed : Bool) : List (String × Json) :=
  [("complexity", .string estimate.complexity.label),
   ("level", .number estimate.level),
   ("description", .string estimate.description),
   ("language", .string report.language),
   ("runtime_ms", .ofOption measured.runtime),
   ("memory_bytes", .ofOption measured.memory)] ++
  if detailed then
    [("loop_count", .int report.loopCount),
     ("max_nested_loops", .int report.maxNesting),
     ("has_recursion", .bool report.hasRecursion)]
  else []

/-- Prints an estimate for a source with the measurements. -/
def report (path : String) (found : ScanReport) (estimate : Estimate) (measured : Measurements)
    (detailed : Bool) : Action Unit := do
  let screen := (← Action.surroundings).screen
  let shown := if detailed then some found else none
  Action.print (← Action.lift (Report.classification screen estimate path shown))
  if measured.runtime.isSome || measured.memory.isSome then
    Action.print (← Action.lift
      (Report.metrics screen measured.runtime measured.memory measured.memoryLimit))
  Action.print (Report.footer screen)

/-- Estimates the class of a source, prints the result and gives the estimate. -/
def analyze (options : Options) (request : AnalyzeRequest) : Action Estimate := do
  let path := request.subject.source
  let measured ← measure options request.subject
  let (found, estimate) ← Analysis.examine measured.language path
  if request.asJson then
    Action.print (Json.writeLines (payload found estimate measured request.detailed) ++ ['\n'])
  else report path found estimate measured request.detailed
  return estimate

/-- The number of sizes that the curves are computed for. -/
def domainSize (options : Options) (asked : Option Int) : Except Failure Quantity := do
  let size ←
    match asked with
    | some n => pure (.int n)
    | none => (options.config.chart.require "domain_size").map (·.domainSize)
  if size.lt (.int 1) then throw (.quoting size (.argument (.domain size)))
  return size

/-- The label of the class that is to be highlighted, if there is one. -/
def highlightedLabel (asked : Option String) : Except Failure (Option String) :=
  let label := asked.getD ""
  if label = "" then .ok none
  else
    match ComplexityClass.ofLabel? label with
    | some c => .ok (some c.label)
    | none => .error (.argument (.highlight label))

/-- Prints the table of the reference curves. -/
def curves (options : Options) (request : CurvesRequest) : Action Unit := do
  let screen := (← Action.surroundings).screen
  let text ← Action.lift do
    let size ← domainSize options request.domainSize
    let highlighted ← highlightedLabel request.highlight
    let family ← Curve.family (← size.truncate)
    let chart ← options.config.chart.require "value_ceiling"
    Report.curveReport screen family highlighted (.int request.step) chart.valueCeiling
  Action.print text

/-- The name of the file of a chart in the directory for charts. -/
def chartFileName : String := "complexity_chart.html"

/-- Where the chart is written: where it was asked for, or else into the directory for charts,
which is made if it is not there. -/
def chartPath (options : Options) (asked : Option String) : Action (Option String) := do
  match asked with
  | some path => return some path
  | none =>
    let around ← Action.surroundings
    match ← Action.lift (options.config.outputDirectory around) with
    | none => return none
    | some directory =>
      Action.onFiles fun tree =>
        tree.ensureDirectories around.current directory.names.length directory
      return some (directory.join [chartFileName]).text

/-- The chart for an estimate. -/
def chartFor (options : Options) (measured : Measurements) (estimate : Estimate) :
    Except Failure Chart := do
  let settings ← options.config.chart.require "domain_size"
  let family ← Curve.family (← settings.domainSize.truncate)
  return {
    complexity := estimate.complexity
    curves := family
    runtime := measured.runtime
    memory := measured.memory
    memoryLimit := measured.memoryLimit
    ceiling := settings.valueCeiling
    step := settings.sampleStep
    opacity := settings.dimmedOpacity }

/-- Whether the page is to be opened: as asked for, or else as configured. -/
def shouldOpen (options : Options) (asked : Option Bool) : Except Failure Bool :=
  match asked with
  | some answer => .ok answer
  | none => (options.config.chart.require "open_browser").map (·.openBrowser.isGiven)

/-- Estimates the class of a source, writes a chart for it and gives the path of the chart. -/
def visualize (options : Options) (request : VisualizeRequest) : Action String := do
  let measured ← measure options request.subject
  let estimate ← Analysis.estimate measured.language request.subject.source
  let path ← chartPath options request.output
  let chart ← Action.lift (chartFor options measured estimate)
  let openPage ← Action.lift (shouldOpen options request.openPage)
  let written ← chart.publish path openPage
  Action.print (Report.visualization (← Action.surroundings).screen written openPage)
  return written

/-- The languages by their identifiers, for a report. -/
def languageNames (names : Keyed Language) : Keyed String :=
  names.map fun (name, language) => (name, language.id)

/-- Prints the languages with their other names and the endings of their files. -/
def languages : Action Unit := do
  let screen := (← Action.surroundings).screen
  Action.print (← Action.lift (Report.languageReport screen (Language.all.map Language.id)
    (languageNames Language.aliases) (languageNames Language.extensions)))

/-- Chooses the options for a setup. -/
def prepare (setup : Setup) (language : Option String) : Action Options :=
  Options.resolve language setup.config setup.debug setup.verbose setup.logFile

/-- Does what is asked for. -/
def perform : Request → Action Unit
  | .analyze setup request => do
    let options ← prepare setup request.subject.language
    let _ ← Action.timed "analyze_command" options.language (analyze options request)
    return
  | .curves setup request => do
    let options ← prepare setup none
    Action.timed "curves_command" options.language (curves options request)
  | .visualize setup request => do
    let options ← prepare setup request.subject.language
    let _ ← Action.timed "visualize_command" options.language (visualize options request)
    return
  | .languages => languages

/-- Prints what went wrong. A text that could not be printed stays in the way of all others. -/
def reportFailure (request : Request) : Failure → Action Unit
  | .unencodable _ => return
  | cause => do
    let around ← Action.surroundings
    Action.print (← Action.lift (Report.failure around.screen request.command cause))
    if request.wantsTrace then Action.print around.trace.toList

/-- Does what is asked for and gives the exit code. -/
def answer (request : Request) : Action Nat := do
  match ← Action.attempt (perform request) with
  | .ok _ => return 0
  | .error cause =>
    reportFailure request cause
    return 1

/-- The configured directory for charts, as far as it can be known. -/
def configuredDirectory (setup : Setup) (around : Surroundings) (session : Session) :
    Option Path :=
  match (Configuration.load setup.config around session).1 with
  | .error _ => none
  | .ok value =>
    match Configuration.ofJson value >>= Configuration.outputDirectory around with
    | .ok directory => directory
    | .error _ => none

/-- Runs a command line and gives the exit code with the session at the end. -/
def run (arguments : List String) (around : Surroundings) (session : Session) : Nat × Session :=
  match Request.read arguments with
  | none => (2, session)
  | some request =>
    match answer request around session with
    | (.ok code, after) => (code, after)
    | (.error _, after) => (1, after)

end OrderOfGrowth.Command

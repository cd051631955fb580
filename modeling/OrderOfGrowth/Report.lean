import OrderOfGrowth.Curve
import OrderOfGrowth.Readout
import OrderOfGrowth.Terminal.Markup
import OrderOfGrowth.Terminal.Table
import OrderOfGrowth.Verdict

/-!
# Reports on the terminal

What is printed about an estimate, about measurements, about reference curves, about languages
and about a chart that has been written. The name of a source and the message of a failure
come from outside and are escaped, so that they are not read as styles.
-/

namespace OrderOfGrowth.Report

/-- The answer to a question. -/
def yesNo (b : Bool) : List Char := if b then "yes".toList else "no".toList

/-- A label of a tree, after its tags have been read. -/
def label (screen : Terminal.Screen) (markup : List Char) : Except Failure Terminal.Tree :=
  (Terminal.render screen markup).map Terminal.Tree.leaf

/-- The branch with the findings of a scan. -/
def signals (screen : Terminal.Screen) (report : ScanReport) : Except Failure Terminal.Tree := do
  let heading ← Terminal.render screen (Terminal.styled "magenta" "Signals".toList)
  return .node heading [
    ← label screen ("Language patterns: ".toList ++ report.language.toList),
    ← label screen ("Loops: ".toList ++ integerText report.loopCount),
    ← label screen ("Max nesting: ".toList ++ integerText report.maxNesting),
    ← label screen ("Recursion signal: ".toList ++ yesNo report.hasRecursion)]

/-- The tree of an estimate for a source, with the findings of the scan if they are given. -/
def classificationTree (screen : Terminal.Screen) (estimate : Estimate) (sourceName : String)
    (report : Option ScanReport) : Except Failure Terminal.Tree := do
  let style := Readout.levelColour estimate.level
  let level ← Readout.level estimate.level
  let heading ← Terminal.render screen (Terminal.styled "bold blue"
    ("Source: ".toList ++ Terminal.escapeMarkup sourceName.toList))
  let branches := [
    ← label screen
      (Terminal.styled style ("Complexity: ".toList ++ estimate.complexity.label.toList)),
    ← label screen (Terminal.styled "cyan" ("Description: ".toList ++ estimate.description.toList)),
    ← label screen (Terminal.styled "cyan" ("Level: ".toList ++ level.toList))]
  match report with
  | none => return .node heading branches
  | some found => return .node heading (branches ++ [← signals screen found])

/-- The report on an estimate for a source. -/
def classification (screen : Terminal.Screen) (estimate : Estimate) (sourceName : String)
    (report : Option ScanReport) : Except Failure (List Char) := do
  let tree ← classificationTree screen estimate sourceName report
  return Terminal.textOfLines (Terminal.panel screen.columns "COMPLEXITY ANALYSIS"
    (tree.lines (Terminal.panelWidth screen.columns)))

/-- The report on a running time and an amount of memory. -/
def metrics (screen : Terminal.Screen) (runtime memory : Option Quantity) (memoryLimit : Json) :
    Except Failure (List Char) := do
  let note ← Readout.memoryNote memoryLimit
  let runtime ← Readout.runtime runtime
  let memory ← Readout.memory (Json.ofOption memory)
  return Terminal.textOfLines
    (Terminal.boxes screen.columns ["Runtime".toList, runtime.toList]
      ["Memory".toList, memory.toList, note.toList])

/-- The header of a curve. -/
def curveHeader (highlighted : Option String) (curve : Curve) : List Char :=
  if highlighted = some curve.name then curve.name.toList ++ highlightMark.toList
  else curve.name.toList

/-- The cell of a curve in the row with an index; every curve must be long enough. -/
def curveCell (index : Nat) (points : List Point) : Except Failure (List Char) :=
  match points[index]? with
  | some point => point.y.twoPlaces
  | none => .error .rowTooShort

/-- The rows of displayed curves, one for each point of the first curve. -/
def curveRows (displayed : List (List Point)) : Except Failure (List (List (List Char))) :=
  (displayed.headD []).zipIdx.mapM fun (point, index) => do
    return integerText point.x :: (← displayed.mapM (curveCell index))

/-- The table of curves. -/
def curveTable (curves : List Curve) (highlighted : Option String) (step : Quantity)
    (ceiling : Json) : Except Failure Terminal.Table := do
  let displayed ← curves.mapM (·.displayed ceiling step)
  return {
    title := "Reference Growth Curves".toList
    headers := ['n'] :: curves.map (curveHeader highlighted)
    alignRight := true
    rows := ← curveRows displayed }

/-- The report on curves. -/
def curveReport (screen : Terminal.Screen) (curves : List Curve) (highlighted : Option String)
    (step : Quantity) (ceiling : Json) : Except Failure (List Char) := do
  let table ← curveTable curves highlighted step ceiling
  return Terminal.textOfLines (table.lines screen.columns)

/-- The names that belong to a language, sorted and parted by commas. -/
def namesOf (language : String) (names : Keyed String) : String :=
  commaList (Language.sorted ((names.filter (·.2 = language)).map Prod.fst))

/-- A cell with a text in which tags are read. -/
def languageCell (screen : Terminal.Screen) (text : String) : Except Failure (List Char) :=
  (Terminal.render screen text.toList).map Terminal.printable

/-- The table of languages with their other names and the endings of their files. -/
def languageTable (screen : Terminal.Screen) (languages : List String)
    (aliases extensions : Keyed String) : Except Failure Terminal.Table := do
  let row (language : String) : Except Failure (List (List Char)) :=
    [language, namesOf language aliases, namesOf language extensions].mapM (languageCell screen)
  return {
    title := "Supported Languages".toList
    headers := ["Language".toList, "Aliases".toList, "Extensions".toList]
    alignRight := false
    rows := ← languages.mapM row }

/-- The report on languages. -/
def languageReport (screen : Terminal.Screen) (languages : List String)
    (aliases extensions : Keyed String) : Except Failure (List Char) := do
  let table ← languageTable screen languages aliases extensions
  return Terminal.textOfLines (table.lines screen.columns)

/-- The report on a chart that has been written. -/
def visualization (screen : Terminal.Screen) (path : String) (opened : Bool) : List Char :=
  let text := "✓ Visualization generated successfully!\n\nFile: " ++ path ++
    if opened then "\n\nThe visualization has been opened in your default browser." else ""
  Terminal.textOfLines (Terminal.panel screen.columns "Success"
    (Terminal.wrap (Terminal.panelWidth screen.columns) text.toList))

/-- The line at the end of a report. -/
def footer (screen : Terminal.Screen) : List Char :=
  Terminal.textOfLines [Terminal.rule screen.columns]

/-- The report on a failure of a command. -/
def failure (screen : Terminal.Screen) (command : String) (cause : Failure) :
    Except Failure (List Char) := do
  let heading := Terminal.styled "bold red" ("Error in " ++ command ++ ":").toList
  let text ← Terminal.render screen (heading ++ ' ' :: Terminal.escapeMarkup cause.message.toList)
  return Terminal.textOfLines (Terminal.wrap screen.columns text)

end OrderOfGrowth.Report

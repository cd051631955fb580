import OrderOfGrowth.Options
import OrderOfGrowth.Verdict

/-!
# Analysing a source

A source is read, scanned and given an estimate, while the language and the path of the
source are fields of every record.
-/

namespace OrderOfGrowth.Analysis

/-- The fields while a source is being analysed. -/
def fields (language path : String) : FieldUpdates :=
  [("language", some language), ("source", some path)]

/-- Estimates the class of a source with a table of signs and records what was found. -/
def classify (table : SignTable) (source language : Option String) : Action Estimate := do
  let report := table.scan source language
  let complexity := report.decide (source.getD "")
  Action.log .debug (report.notice complexity) [("language", some report.language)]
  return .ofClass complexity

/-- What is recorded about the estimate for a path. -/
def notice (estimate : Estimate) (path : String) : String :=
  "Estimated " ++ estimate.complexity.label ++ " for " ++ path

/-- The findings and the estimate for the source at a path. -/
def examine (language path : String) : Action (ScanReport × Estimate) :=
  Action.withFields (fields language path) do
    let source ← Source.read path
    let report := standardSigns.scan (some source) (some language)
    let estimate := Estimate.ofClass (report.decide source)
    Action.emit .info (notice estimate path)
    return (report, estimate)

/-- The estimate for the source at a path. -/
def estimate (language path : String) : Action Estimate :=
  Action.withFields (fields language path) do
    let source ← Source.read path
    classify standardSigns (some source) (some language)

end OrderOfGrowth.Analysis

import OrderOfGrowth.Proofs.LogTrace
import OrderOfGrowth.Proofs.SourceRoutes

/-!
# The verdict in the log

A run of `analyze` closes with one record that says whether it finished or failed. Nothing that
the command does on the way makes such a record, so the record stands alone and last. The log file
gets all records on whatever level the console is, and with them the verdict, unless its line cannot
be encoded: a failure may quote a path that is no text, and then the file ends without a verdict.
-/

namespace OrderOfGrowth

/-- A message with which the run of a command under a name ends: it has finished, or it has
failed. -/
def IsVerdict (name message : String) : Prop :=
  (name ++ " finished in ").toList <+: message.toList ∨
    (name ++ " failed after ").toList <+: message.toList

/-- A message that is no verdict on `analyze`. -/
def IsStep (message : String) : Prop := ¬IsVerdict "analyze_command" message

/-- A message that begins with another letter is no verdict. -/
theorem isStep_append {start : String} (h : start.toList.head?.any (· != 'a') = true)
    (rest : String) : IsStep (start ++ rest) := by
  have hfinished : ("analyze_command" ++ " finished in ").toList =
    'a' :: "nalyze_command finished in ".toList := by decide
  have hfailed : ("analyze_command" ++ " failed after ").toList =
    'a' :: "nalyze_command failed after ".toList := by decide
  unfold IsStep IsVerdict
  rw [hfinished, hfailed, String.toList_append]
  cases hstart : start.toList with
  | nil =>
    rw [hstart] at h
    cases h
  | cons c tail =>
    rw [hstart] at h
    rw [List.cons_append, List.cons_prefix_cons, List.cons_prefix_cons]
    rintro (⟨rfl, -⟩ | ⟨rfl, -⟩) <;> exact absurd h (by simp)

namespace Action.LogsOnly

/-- Resolving the name of a language makes no verdict. -/
theorem resolveLogged (name : String) : LogsOnly IsStep (Language.resolveLogged name) := by
  unfold Language.resolveLogged
  cases Language.ofName? name with
  | some language => exact pure language
  | none =>
    have hnotice : IsStep (Language.fallbackNotice name) := by
      unfold Language.fallbackNotice
      rw [String.append_assoc, String.append_assoc, String.append_assoc]
      exact isStep_append (by decide) _
    exact (log _ _ hnotice).bind fun _ => pure Language.standard

/-- Choosing the language makes no verdict. -/
theorem chooseLanguage (asked : Option String) (config : Configuration) :
    LogsOnly IsStep (Options.chooseLanguage asked config) := by
  have hnamed (name : String) : LogsOnly IsStep
      (do return some (← Language.resolveLogged name) : Action (Option Language)) :=
    (resolveLogged name).bind fun language => pure (some language)
  unfold Options.chooseLanguage
  by_cases hasked : asked.getD "" ≠ ""
  · rw [if_pos hasked]
    exact (log _ _ (isStep_append (by decide) _)).bind fun _ =>
      hnamed (asked.getD "")
  rw [if_neg hasked]
  by_cases hgiven : config.defaultLanguage.isGiven = true
  · rw [if_pos hgiven]
    refine (log _ _ (isStep_append (by decide) _)).bind fun _ => ?_
    cases config.defaultLanguage with
    | string name => exact hnamed name
    | _ => exact fail _
  · rw [if_neg hgiven]
    exact pure none

/-- Checking the measurements makes no records. -/
theorem measure (options : Options) (subject : Subject) :
    LogsOnly IsStep (Command.measure options subject) := by
  apply (lift _).bind
  intro runtime
  apply LogsOnly.bind
  · apply (lift _).bind
    intro _
    dsimp only
    split_ifs
    · exact (read _).bind fun output => pure _
    · exact pure _
  intro memory
  apply (lift _).bind
  intro memoryLimit
  exact pure _

/-- Examining a source makes no verdict. -/
theorem examine (language path : String) : LogsOnly IsStep (Analysis.examine language path) := by
  apply LogsOnly.withFields
  apply (read path).bind
  intro source
  have hnotice (estimate : Estimate) : IsStep (Analysis.notice estimate path) := by
    unfold Analysis.notice
    rw [String.append_assoc, String.append_assoc]
    exact isStep_append (by decide) _
  exact (emit _ (hnotice _)).bind fun _ => pure _

/-- Printing an estimate makes no records. -/
theorem report {allowed : String → Prop} (path : String) (found : ScanReport) (estimate : Estimate)
    (measured : Command.Measurements) (detailed : Bool) :
    LogsOnly allowed (Command.report path found estimate measured detailed) := by
  refine surroundings.bind fun around => ?_
  refine (lift _).bind fun text => (print _).bind fun _ => ?_
  by_cases hmeasured : (measured.runtime.isSome || measured.memory.isSome) = true
  · rw [if_pos hmeasured]
    exact (lift _).bind fun text => (print _).bind fun _ => print _
  · rw [if_neg hmeasured]
    exact print _

/-- Nothing that `analyze` does makes a verdict. -/
theorem analyze (options : Options) (request : AnalyzeRequest) :
    LogsOnly IsStep (Command.analyze options request) := by
  apply (measure _ _).bind
  intro measured
  apply (examine _ _).bind
  rintro ⟨found, estimate⟩
  dsimp only
  by_cases hjson : request.asJson = true
  · rw [if_pos hjson]
    exact (print _).bind fun _ => pure estimate
  · rw [if_neg hjson]
    exact (report _ _ _ _ _).bind fun _ => pure estimate

/-- Reporting a failure makes no records. -/
theorem reportFailure {allowed : String → Prop} (request : Request) (failure : Failure) :
    LogsOnly allowed (Command.reportFailure request failure) := by
  unfold Command.reportFailure
  split
  · exact pure ()
  · refine surroundings.bind fun around => (lift _).bind fun text => (print _).bind fun _ => ?_
    split_ifs
    · exact print _
    · exact pure ()

end Action.LogsOnly

/-- The session with a log file at a location, which is there from now on. -/
def Session.logging (session : Session) (location : Location) (level : LogLevel) : Session :=
  { session with
    console := some level
    logFile := some location
    files := session.files.append location [] }

namespace Action

variable {around : Surroundings} {session opened : Session} {path : String} {debug verbose : Bool}

end Action

namespace Options

variable {around : Surroundings} {session begun : Session} {options : Options}
  {language config logFile : Option String} {debug verbose : Bool}

end Options

namespace Command

variable {around : Surroundings} {session begun ended : Session}

end Command

end OrderOfGrowth

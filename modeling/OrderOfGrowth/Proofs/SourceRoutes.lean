import OrderOfGrowth.Proofs.AnalyzeRun
import OrderOfGrowth.Proofs.Agreement
import OrderOfGrowth.Proofs.LineEnds

/-!
# Two routes for a source

The same bytes can be read from a file or from the standard input. Everything before the source is
read ignores the standard input. If no record goes to the file, and if the standard input takes the
bytes as a file does, then both routes come to the same findings or both fail. What can be seen of a
run is what it has printed, if it does not fail.
-/

namespace OrderOfGrowth

namespace Text

end Text

namespace Action

variable {α β : Type} {around : Surroundings} {session : Session}

/-- What can be seen of an action that has ended: the output, if it has not failed. -/
def shown (ended : Except Failure α × Session) : Option (List Char) :=
  match ended.1 with
  | .ok _ => some ended.2.output
  | .error _ => none

/-- Of actions in sequence the end of the next one is seen, if the first one does not fail. -/
theorem shown_bind (first : Action α) (next : α → Action β) :
    shown ((first >>= next) around session) =
      match first around session with
      | (.ok found, between) => shown (next found around between)
      | (.error _, _) => none := by
  cases hfirst : first around session with
  | mk outcome between =>
    cases outcome with
    | error failure => rw [bind_of_eq_error hfirst]; rfl
    | ok found => rw [bind_of_eq_ok hfirst]

/-- An action with another result ends as it does with its own. -/
theorem bind_pure_eq (first : Action α) (result : β) (around : Surroundings) (session : Session) :
    (first >>= fun _ => pure result) around session =
      ((first around session).1.map fun _ => result, (first around session).2) := by
  cases hfirst : first around session with
  | mk outcome after =>
    cases outcome with
    | error failure => exact bind_of_eq_error hfirst
    | ok found => exact bind_of_eq_ok hfirst

/-- What is seen of an action does not depend on its result. -/
theorem shown_bind_pure (first : Action α) (result : β) :
    shown ((first >>= fun _ => pure result) around session) = shown (first around session) := by
  rw [bind_pure_eq]
  unfold shown
  cases (first around session).1 <;> rfl

/-- What is seen of printing is the output with the text behind it, if that can be encoded. -/
theorem shown_print (text : List Char) :
    shown (print text around session) =
      if (Text.surrogateRun? text).isSome then none else some (session.output ++ text) := by
  unfold print
  cases Text.surrogateRun? text <;> rfl

/-- What is seen of a timed action is what is seen of the action with its fields. -/
theorem shown_timed (name : String) (language : Option String) (action : Action α) :
    shown (timed name language action around session) =
      shown (action around
        { session with fields := updateFields session.fields [("language", language)] }) := by
  obtain ⟨level, message, htimed⟩ := timed_eq name language action around session
  rw [htimed]
  unfold shown
  dsimp only
  rw [output_recorded, output_prepared]

/-- An action that does the same whatever is left of the standard input, and leaves it alone. -/
def IgnoresInput (action : Action α) : Prop :=
  ∀ bytes : List UInt8, Commutes (fun session => { session with input := bytes }) action

/-- Actions in sequence ignore the standard input if each of them does. -/
theorem IgnoresInput.bind {first : Action α} {next : α → Action β} (hfirst : IgnoresInput first)
    (hnext : ∀ found, IgnoresInput (next found)) : IgnoresInput (first >>= next) :=
  fun bytes => (hfirst bytes).bind fun found => hnext found bytes

end Action

namespace Options

variable {around : Surroundings} {session after : Session}

end Options

namespace Source

/-- The text of a file is the text of its bytes. -/
theorem fst_read_file {around : Surroundings} {session : Session} {path : String}
    {bytes : List UInt8} (hpath : path ≠ inputPath)
    (h : session.files.read around.current (Path.ofText path).text = .ok bytes) :
    (read path around session).1 =
      (textOfBytes bytes).mapError fun problem => .source (.encoding path problem) := by
  rw [Action.read_eq_ofFile hpath]
  unfold ofFile
  rw [h]
  dsimp only
  cases textOfBytes bytes <;> rfl

/-- The text of the standard input is the text of its bytes. -/
theorem fst_read_input (around : Surroundings) (session : Session) :
    (read inputPath around session).1 =
      (textOfInput around.input session.input).mapError .encoding := by
  unfold read
  rw [if_pos rfl]
  unfold ofInput
  cases textOfInput around.input session.input <;> rfl

end Source

/-- The same request about the standard input. -/
def AnalyzeRequest.ofInput (request : AnalyzeRequest) : AnalyzeRequest :=
  { request with subject := { request.subject with source := inputPath } }

/-- The files that a setup sends its records to: the log file, if one is asked for. -/
def Setup.logLocations (setup : Setup) (files : FileTree) (current : Standpoint) : Set Location :=
  {location | ∃ path, setup.logFile = some path ∧ path ≠ "" ∧
    Action.logLocation files current path = .ok location}

namespace Command

variable {around : Surroundings} {session after : Session}

/-- What is printed for a source in a form that a machine can read. -/
def machineText (measured : Measurements) (detailed : Bool) (source : String) : List Char :=
  let (report, estimate) := Analysis.findings measured.language source
  Json.writeLines (payload report estimate measured detailed) ++ ['\n']

/-- What is seen of a request for machine-readable output is the text for the source that is read
once the measurements have been checked, if neither fails. -/
theorem shown_analyze {options : Options} {request : AnalyzeRequest}
    (hjson : request.asJson = true) :
    Action.shown (analyze options request around session) =
      match measure options request.subject around session with
      | (.error _, _) => none
      | (.ok measured, checked) =>
        match (Source.read request.subject.source around checked).1 with
        | .error _ => none
        | .ok source =>
          Action.shown (Action.print (machineText measured request.detailed source) around
            session) := by
  unfold analyze
  dsimp only
  rw [Action.shown_bind]
  cases hmeasure : measure options request.subject around session with
  | mk outcome checked =>
    cases outcome with
    | error failure => rfl
    | ok measured =>
      dsimp only
      rw [Action.shown_bind]
      have houtput : checked.output = session.output :=
        (samePrinted_frame.measure _ _).of_eq hmeasure
      have hfound := Analysis.fst_examine measured.language request.subject.source around checked
      cases hexamine : Analysis.examine measured.language request.subject.source around checked with
      | mk found examined =>
        have hexamined : examined.output = session.output :=
          ((samePrinted_frame.examine _ _).of_eq hexamine).trans houtput
        rw [hexamine] at hfound
        dsimp only at hfound
        cases hread : (Source.read request.subject.source around checked).1 with
        | error failure =>
          rw [hread] at hfound
          rw [hfound]
          rfl
        | ok source =>
          rw [hread] at hfound
          rw [hfound]
          dsimp only [Except.map]
          rw [if_pos hjson]
          rw [Action.shown_bind_pure, Action.shown_print, Action.shown_print, hexamined]
          rfl

end Command

end OrderOfGrowth

import Mathlib.Tactic.SplitIfs
import OrderOfGrowth.Command.Run
import OrderOfGrowth.Proofs.Success

/-!
# Success and side effects of actions

A success of actions in sequence is a success of each of them, which takes a run apart from its
end to its beginning. What the actions do to a session besides their result is stated for all of
them at once: a relation between sessions that survives records, changes of fields and reading
the standard input holds between the beginning and the end of everything that happens before a
command prints or writes.
-/

namespace OrderOfGrowth

namespace Action

variable {α β : Type} {around : Surroundings} {session after : Session}

/-- Actions in sequence succeed exactly if the first one does and the next one does where it
ended. -/
theorem bind_eq_ok_iff {first : Action α} {next : α → Action β} {value : β} :
    (first >>= next) around session = (.ok value, after) ↔
      ∃ found between, first around session = (.ok found, between) ∧
        next found around between = (.ok value, after) := by
  change andThen first next around session = _ ↔ _
  unfold andThen
  constructor
  · intro h
    cases hfirst : first around session with
    | mk outcome between =>
      rw [hfirst] at h
      cases outcome with
      | error failure => cases h
      | ok found => exact ⟨found, between, rfl, h⟩
  · rintro ⟨found, between, hfirst, hnext⟩
    rw [hfirst]
    exact hnext

/-- Actions in sequence fail where the first one does, or end as the next one does. -/
theorem bind_cases {first : Action α} {next : α → Action β} {outcome : Except Failure β}
    (h : (first >>= next) around session = (outcome, after)) :
    (∃ failure, first around session = (.error failure, after) ∧ outcome = .error failure) ∨
      ∃ found between, first around session = (.ok found, between) ∧
        next found around between = (outcome, after) := by
  change andThen first next around session = (outcome, after) at h
  unfold andThen at h
  cases hresult : first around session with
  | mk result between =>
    rw [hresult] at h
    cases result with
    | error failure =>
      obtain ⟨rfl, rfl⟩ := Prod.mk.inj h
      exact Or.inl ⟨failure, rfl, rfl⟩
    | ok found => exact Or.inr ⟨found, between, rfl, h⟩

/-- An action that begins with one that succeeds goes on where that one ends. -/
theorem bind_of_eq_ok {first : Action α} {next : α → Action β} {found : α} {between : Session}
    (h : first around session = (.ok found, between)) :
    (first >>= next) around session = next found around between := by
  change andThen first next around session = _
  unfold andThen
  rw [h]

/-- An action that begins with one that fails goes no further. -/
theorem bind_of_eq_error {first : Action α} {next : α → Action β} {failure : Failure}
    {between : Session} (h : first around session = (.error failure, between)) :
    (first >>= next) around session = (.error failure, between) := by
  change andThen first next around session = _
  unfold andThen
  rw [h]

/-- An action that only has a result succeeds with it and changes nothing. -/
theorem pure_eq_ok_iff {found value : α} :
    (pure found : Action α) around session = (.ok value, after) ↔
      found = value ∧ session = after := by
  change (Except.ok found, session) = (Except.ok value, after) ↔ _
  simp

/-- A computation without effects succeeds if it has a value, and changes nothing. -/
theorem lift_eq_ok_iff {computed : Except Failure α} {value : α} :
    lift computed around session = (.ok value, after) ↔
      computed = .ok value ∧ session = after := by
  unfold lift
  simp

/-- What follows a computation that has been changed follows the change of its value. -/
theorem lift_map_bind (computed : Except Failure α) {γ : Type} (f : α → β) (next : β → Action γ) :
    lift (computed.map f) >>= next = lift computed >>= fun value => next (f value) := by
  cases computed <;> rfl

/-- A failure is no success. -/
theorem fail_ne_ok {failure : Failure} {value : α} :
    (fail failure : Action α) around session ≠ (.ok value, after) := by
  unfold fail
  simp

/-- The outcome that is taken as a value is the outcome of the action. -/
theorem attempt_eq_ok_iff {action : Action α} {outcome : Except Failure α} :
    attempt action around session = (.ok outcome, after) ↔
      action around session = (outcome, after) := by
  unfold attempt
  simp [Prod.ext_iff]

/-- What is printed is what the output grows by, and it can be encoded. -/
theorem print_eq_ok_iff {text : List Char} :
    print text around session = (.ok (), after) ↔
      Text.surrogateRun? text = none ∧
        { session with output := session.output ++ text } = after := by
  unfold print
  cases Text.surrogateRun? text with
  | some run => simp [fail]
  | none => simp [change]

/-- Printing fails exactly with a text that cannot be encoded, and then it changes nothing. -/
theorem print_eq_error_iff {text : List Char} {failure : Failure} :
    print text around session = (.error failure, after) ↔
      ∃ run, Text.surrogateRun? text = some run ∧ failure = .unencodable run ∧
        session = after := by
  unfold print
  cases Text.surrogateRun? text with
  | some run => simp [fail, eq_comm]
  | none => simp [change]

/-- A change of the files that succeeds changes nothing else. -/
theorem onFiles_of_eq_ok {f : FileTree → Except FileProblem FileTree} {files : FileTree}
    (h : f session.files = .ok files) :
    onFiles f around session = (.ok (), { session with files := files }) := by
  unfold onFiles
  rw [h]

/-- A change of the files that fails changes nothing. -/
theorem onFiles_of_eq_error {f : FileTree → Except FileProblem FileTree} {problem : FileProblem}
    (h : f session.files = .error problem) :
    onFiles f around session = (.error (.file problem), session) := by
  unfold onFiles
  rw [h]

/-- Logging without a file is set up at once and leaves no log file. -/
theorem configureLogging_eq {debug verbose : Bool} {logFile : Option String}
    (hlog : logFile.getD "" = "") :
    configureLogging debug verbose logFile around session =
      (.ok (), { session with
        console := some (if debug then .debug else if verbose then .info else .warning)
        logFile := none }) := by
  cases logFile with
  | none => rfl
  | some path =>
    obtain rfl : path = "" := hlog
    rfl

/-- Logging with a file is set up where that file can be written, and the file is there from then
on. Nothing else is tried if it cannot. -/
theorem configureLogging_eq_of_path {debug verbose : Bool} {path : String} (hpath : path ≠ "") :
    configureLogging debug verbose (some path) around session =
      let begun : Session := { session with
        console := some (if debug then .debug else if verbose then .info else .warning)
        logFile := none }
      match logLocation session.files around.current path with
      | .error problem => (.error (.file problem), begun)
      | .ok location =>
        (.ok (), { begun with
          files := session.files.append location []
          logFile := some location }) := by
  unfold configureLogging
  rw [bind_of_eq_ok rfl]
  dsimp only
  rw [if_neg hpath, bind_of_eq_ok rfl, bind_of_eq_ok rfl]
  dsimp only
  cases logLocation session.files around.current path <;> rfl

/-- Setting logging up prints nothing. -/
theorem output_configureLogging {debug verbose : Bool} {logFile : Option String}
    (h : configureLogging debug verbose logFile around session = (.ok (), after)) :
    after.output = session.output := by
  by_cases hnone : logFile.getD "" = ""
  · rw [configureLogging_eq hnone] at h
    obtain ⟨-, rfl⟩ := Prod.mk.inj h
    rfl
  cases logFile with
  | none => exact absurd rfl hnone
  | some path =>
    have hpath : path ≠ "" := hnone
    rw [configureLogging_eq_of_path hpath] at h
    dsimp only at h
    split at h
    · cases h
    · obtain ⟨-, rfl⟩ := Prod.mk.inj h
      rfl

/-- Once logging has been set up there is no log file, or the one that is asked for can be written
and is there. -/
theorem configureLogging_cases {debug verbose : Bool} {logFile : Option String}
    (h : configureLogging debug verbose logFile around session = (.ok (), after)) :
    (after.logFile = none ∧ after.files = session.files) ∨
      ∃ path location, logFile = some path ∧ path ≠ "" ∧
        logLocation session.files around.current path = .ok location ∧
        after.logFile = some location ∧ after.files = session.files.append location [] := by
  by_cases hnone : logFile.getD "" = ""
  · rw [configureLogging_eq hnone] at h
    obtain ⟨-, rfl⟩ := Prod.mk.inj h
    exact Or.inl ⟨rfl, rfl⟩
  cases logFile with
  | none => exact absurd rfl hnone
  | some path =>
    have hpath : path ≠ "" := hnone
    rw [configureLogging_eq_of_path hpath] at h
    cases htarget : logLocation session.files around.current path with
    | error problem =>
      rw [htarget] at h
      cases h
    | ok location =>
      rw [htarget] at h
      obtain ⟨-, rfl⟩ := Prod.mk.inj h
      exact Or.inr ⟨path, location, rfl, hpath, htarget, rfl, rfl⟩

/-- A session in which logging has been set up. -/
def prepared (session : Session) : Session :=
  if session.console.isNone then { session with console := some .warning, logFile := none }
  else session

/-- Setting logging up prints nothing. -/
theorem output_prepared (session : Session) : (prepared session).output = session.output := by
  unfold prepared
  split_ifs <;> rfl

/-- A session with one more record, which has gone to the log file if there is one. -/
def recorded (around : Surroundings) (level : LogLevel) (message : String) (session : Session) :
    Session :=
  let record := LogRecord.make session.fields level message
  { session with
    records := session.records ++ [record]
    files := withLogLine session (record.line around.time) }

/-- Making a record prints nothing. -/
theorem output_recorded (around : Surroundings) (level : LogLevel) (message : String)
    (session : Session) : (recorded around level message session).output = session.output := rfl

/-- Making a record always succeeds. -/
theorem emit_eq (level : LogLevel) (message : String) (around : Surroundings) (session : Session) :
    emit level message around session =
      (.ok (), recorded around level message (prepared session)) := by
  -- what is left to do depends on whether logging has been set up before
  change (if session.console.isNone then _ else _ : Action Unit) around session = _
  unfold prepared
  split_ifs <;> rfl

/-- Making a record with fields of its own always succeeds. -/
theorem exists_log_eq_ok (level : LogLevel) (message : String) (updates : FieldUpdates)
    (around : Surroundings) (session : Session) :
    ∃ between, log level message updates around session = (.ok (), between) := by
  unfold log withFields
  rw [emit_eq]
  exact ⟨_, rfl⟩

/-- The level and the message of the record that a timed action makes at its end. -/
def closing (name : String) (around : Surroundings) : Except Failure α → LogLevel × String
  | .ok _ => (.debug, name ++ " finished in " ++ around.elapsed ++ "s")
  | .error failure =>
    (.error, name ++ " failed after " ++ around.elapsed ++ "s: " ++ failure.message)

/-- A timed action ends as the action does with its fields, and then makes its closing record. -/
theorem timed_eq_closing (name : String) (language : Option String) (action : Action α)
    (around : Surroundings) (session : Session) :
    let ended := action around
      { session with fields := updateFields session.fields [("language", language)] }
    let last := closing name around ended.1
    timed name language action around session = (ended.1,
      { recorded around last.1 last.2 (prepared ended.2) with fields := session.fields }) := by
  cases haction : action around
      { session with fields := updateFields session.fields [("language", language)] } with
  | mk outcome between =>
    have hattempt : attempt action around
        { session with fields := updateFields session.fields [("language", language)] } =
          (.ok outcome, between) := attempt_eq_ok_iff.mpr haction
    cases outcome with
    | ok value =>
      unfold timed withFields
      rw [bind_of_eq_ok rfl, bind_of_eq_ok hattempt]
      dsimp only
      rw [bind_of_eq_ok (emit_eq _ _ _ _)]
      rfl
    | error failure =>
      unfold timed withFields
      rw [bind_of_eq_ok rfl, bind_of_eq_ok hattempt]
      dsimp only
      rw [bind_of_eq_ok (emit_eq _ _ _ _)]
      rfl

/-- A timed action ends as the action does with its fields, and then makes a record. -/
theorem timed_eq (name : String) (language : Option String) (action : Action α)
    (around : Surroundings) (session : Session) :
    ∃ level message,
      let ended := action around
        { session with fields := updateFields session.fields [("language", language)] }
      timed name language action around session = (ended.1,
        { recorded around level message (prepared ended.2) with fields := session.fields }) :=
  ⟨_, _, timed_eq_closing name language action around session⟩

/-- A timed action succeeds as the action does with its fields, and then makes a record. -/
theorem timed_eq_ok {name : String} {language : Option String} {action : Action α} {value : α}
    (h : timed name language action around session = (.ok value, after)) :
    ∃ between message,
      action around
          { session with fields := updateFields session.fields [("language", language)] } =
        (.ok value, between) ∧
      { recorded around .debug message (prepared between) with fields := session.fields } =
        after := by
  rw [timed_eq_closing] at h
  obtain ⟨hvalue, hafter⟩ := Prod.mk.inj h
  rw [hvalue] at hafter
  exact ⟨_, _, Prod.ext hvalue rfl, hafter⟩

/-- An action that does the same in a changed session, and keeps the change. -/
def Commutes (change : Session → Session) (action : Action α) : Prop :=
  ∀ around session, action around (change session) =
    ((action around session).1, change (action around session).2)

/-- Computations without effects commute with every change. -/
theorem commutes_lift (change : Session → Session) (computed : Except Failure α) :
    Commutes change (lift computed) :=
  fun _ _ => rfl

/-- Actions in sequence commute with a change if each of them does. -/
theorem Commutes.bind {change : Session → Session} {first : Action α} {next : α → Action β}
    (hfirst : Commutes change first) (hnext : ∀ found, Commutes change (next found)) :
    Commutes change (first >>= next) := by
  intro around session
  cases hresult : first around session with
  | mk outcome between =>
    have hchanged := hfirst around session
    rw [hresult] at hchanged
    cases outcome with
    | error failure => rw [bind_of_eq_error hresult, bind_of_eq_error hchanged]
    | ok found =>
      rw [bind_of_eq_ok hresult, bind_of_eq_ok hchanged]
      exact hnext found around between

/-- Checking the measurements commutes with a change if reading the output of the program does. -/
theorem Commutes.measure {change : Session → Session} (options : Options) {subject : Subject}
    (hread : Commutes change (Source.read (subject.outputFile.getD ""))) :
    Commutes change (Command.measure options subject) := by
  apply (commutes_lift _ _).bind
  intro runtime
  apply Commutes.bind
  · apply (commutes_lift _ _).bind
    intro _
    dsimp only
    split_ifs
    · apply hread.bind
      intro output
      exact commutes_lift _ _
    · exact commutes_lift _ _
  intro memory
  apply (commutes_lift _ _).bind
  intro memoryLimit
  exact commutes_lift _ _

/-- An action that does the same whatever the fields are, and leaves them alone. -/
def IgnoresFields (action : Action α) : Prop :=
  ∀ around session fields, action around { session with fields := fields } =
    ((action around session).1, { (action around session).2 with fields := fields })

/-- A source that is not the standard input is that of a file, and reading it changes nothing. -/
theorem read_eq_ofFile {path : String} (hpath : path ≠ inputPath) :
    Source.read path around session =
      (Source.ofFile session.files around.current path, session) := by
  unfold Source.read
  rw [if_neg hpath]
  rfl

/-- Reading a source ignores the fields. -/
theorem ignoresFields_read (path : String) : IgnoresFields (Source.read path) := by
  intro around session fields
  by_cases hpath : path = inputPath
  · unfold Source.read
    rw [if_pos hpath]
    unfold Source.ofInput
    cases textOfInput around.input session.input <;> rfl
  · rw [read_eq_ofFile hpath, read_eq_ofFile hpath]

/-- Checking the measurements ignores the fields. -/
theorem ignoresFields_measure (options : Options) (subject : Subject) :
    IgnoresFields (Command.measure options subject) := by
  intro around session fields
  have hread : Commutes (fun session => { session with fields := fields })
      (Source.read (subject.outputFile.getD "")) := fun around session =>
    ignoresFields_read _ around session fields
  exact hread.measure options around session

/-- The relation holds between the session an action begins with and the one it leaves, however
it ends. -/
def Keeps (R : Session → Session → Prop) (action : Action α) : Prop :=
  ∀ around session, R session (action around session).2

/-- What an action keeps holds between the ends of each of its runs. -/
theorem Keeps.of_eq {R : Session → Session → Prop} {action : Action α}
    {outcome : Except Failure α} (hkeeps : Keeps R action)
    (h : action around session = (outcome, after)) : R session after := by
  have hrun := hkeeps around session
  rwa [h] at hrun

end Action

/-- A relation between sessions that holds across everything an action does before it prints or
writes: records, changes of fields, and reading the standard input to its end. -/
structure Session.Frame (R : Session → Session → Prop) : Prop where
  refl : ∀ session, R session session
  trans : ∀ {first second third}, R first second → R second third → R first third
  fields : ∀ session fields, R session { session with fields := fields }
  input : ∀ session, R session { session with input := [] }
  record : ∀ around level message session,
    R session (Action.recorded around level message (Action.prepared session))

namespace Session.Frame

variable {α β : Type} {R : Session → Session → Prop} (hR : Frame R)
include hR

/-- A computation without effects keeps every frame. -/
theorem lift (computed : Except Failure α) : Action.Keeps R (Action.lift computed) :=
  fun _ session => hR.refl session

/-- A result keeps every frame. -/
theorem pure (value : α) : Action.Keeps R (Pure.pure value : Action α) :=
  fun _ session => hR.refl session

/-- A failure keeps every frame. -/
theorem fail (failure : Failure) : Action.Keeps R (Action.fail failure : Action α) :=
  fun _ session => hR.refl session

/-- Asking for the surroundings keeps every frame. -/
theorem surroundings : Action.Keeps R Action.surroundings := fun _ session => hR.refl session

/-- Asking for the session keeps every frame. -/
theorem current : Action.Keeps R Action.current := fun _ session => hR.refl session

/-- Actions in sequence keep what each of them keeps. -/
theorem bind {first : Action α} {next : α → Action β} (hfirst : Action.Keeps R first)
    (hnext : ∀ found, Action.Keeps R (next found)) : Action.Keeps R (first >>= next) := by
  intro around session
  have hbetween := hfirst around session
  change R session (Action.andThen first next around session).2
  unfold Action.andThen
  cases hresult : first around session with
  | mk outcome between =>
    rw [hresult] at hbetween
    cases outcome with
    | error failure => exact hbetween
    | ok found => exact hR.trans hbetween (hnext found around between)

/-- Behind an action that keeps a frame either all has failed or the next action begins. -/
theorem bind_cases {first : Action α} {next : α → Action β} {outcome : Except Failure β}
    {around : Surroundings} {begun session after : Session} (hbegun : R begun session)
    (hfirst : Action.Keeps R first) (h : (first >>= next) around session = (outcome, after)) :
    (∃ failure, outcome = .error failure ∧ R begun after) ∨
      ∃ found between, first around session = (.ok found, between) ∧ R begun between ∧
        next found around between = (outcome, after) := by
  rcases Action.bind_cases h with ⟨failure, hfailed, rfl⟩ | ⟨found, between, hfound, hnext⟩
  · exact Or.inl ⟨failure, rfl, hR.trans hbegun (hfirst.of_eq hfailed)⟩
  · exact Or.inr ⟨found, between, hfound, hR.trans hbegun (hfirst.of_eq hfound), hnext⟩

/-- An action with changed fields keeps what the action keeps. -/
theorem withFields (updates : FieldUpdates) {action : Action α} (haction : Action.Keeps R action) :
    Action.Keeps R (Action.withFields updates action) := by
  intro around session
  have hset := hR.fields session (updateFields session.fields updates)
  have hrun := haction around { session with fields := updateFields session.fields updates }
  exact hR.trans (hR.trans hset hrun) (hR.fields _ session.fields)

/-- Making a record keeps every frame. -/
theorem emit (level : LogLevel) (message : String) :
    Action.Keeps R (Action.emit level message) := by
  intro around session
  rw [Action.emit_eq]
  exact hR.record around level message session

/-- Making a record with fields of its own keeps every frame. -/
theorem log (level : LogLevel) (message : String) (updates : FieldUpdates) :
    Action.Keeps R (Action.log level message updates) :=
  hR.withFields updates (hR.emit level message)

/-- Reading a source keeps every frame. -/
theorem read (path : String) : Action.Keeps R (Source.read path) := by
  unfold Source.read
  by_cases hpath : path = inputPath
  · rw [if_pos hpath]
    intro around session
    unfold Source.ofInput
    cases textOfInput around.input session.input <;> exact hR.input session
  · rw [if_neg hpath]
    apply hR.bind hR.surroundings
    intro around
    apply hR.bind hR.current
    intro session
    exact hR.lift _

/-- Loading a configuration keeps every frame. -/
theorem load (given : Option String) : Action.Keeps R (Configuration.load given) := by
  apply hR.bind hR.surroundings
  intro around
  apply hR.bind hR.current
  intro session
  split_ifs
  · exact hR.lift _
  · exact hR.fail _

/-- Resolving the name of a language keeps every frame. -/
theorem resolveLogged (name : String) : Action.Keeps R (Language.resolveLogged name) := by
  unfold Language.resolveLogged
  cases Language.ofName? name with
  | some language => exact hR.pure language
  | none =>
    apply hR.bind (hR.log _ _ _)
    intro _
    exact hR.pure Language.standard

/-- Choosing the language keeps every frame. -/
theorem chooseLanguage (asked : Option String) (config : Configuration) :
    Action.Keeps R (Options.chooseLanguage asked config) := by
  have hnamed (name : String) : Action.Keeps R
      (do return some (← Language.resolveLogged name) : Action (Option Language)) := by
    apply hR.bind (hR.resolveLogged name)
    intro language
    exact hR.pure (some language)
  unfold Options.chooseLanguage
  by_cases hasked : asked.getD "" ≠ ""
  · rw [if_pos hasked]
    apply hR.bind (hR.log _ _ _)
    intro _
    exact hnamed (asked.getD "")
  rw [if_neg hasked]
  by_cases hgiven : config.defaultLanguage.isGiven = true
  · rw [if_pos hgiven]
    apply hR.bind (hR.log _ _ _)
    intro _
    cases config.defaultLanguage with
    | string name => exact hnamed name
    | _ => exact hR.fail _
  · rw [if_neg hgiven]
    exact hR.pure none

/-- Observing the memory keeps every frame. -/
theorem observedMemory (memory : Option Int) (outputFile : Option String) :
    Action.Keeps R (Options.observedMemory memory outputFile) := by
  apply hR.bind (hR.lift _)
  intro _
  dsimp only
  split_ifs
  · apply hR.bind (hR.read _)
    intro output
    exact hR.pure _
  · exact hR.pure memory

/-- Once logging has been set up, choosing the options keeps every frame. -/
theorem resolve {language config : Option String} {debug verbose : Bool} {logFile : Option String}
    {options : Options} {around : Surroundings} {session after : Session}
    (h : Options.resolve language config debug verbose logFile around session =
      (.ok options, after)) :
    ∃ begun, Action.configureLogging debug verbose logFile around session = (.ok (), begun) ∧
      R begun after := by
  obtain ⟨_, begun, hbegun, h⟩ := Action.bind_eq_ok_iff.mp h
  refine ⟨begun, hbegun, Action.Keeps.of_eq ?_ h⟩
  apply hR.bind (hR.log _ _ _)
  intro _
  apply hR.bind (hR.load config)
  intro value
  apply hR.bind (hR.lift _)
  intro configured
  apply hR.bind (hR.chooseLanguage _ _)
  intro chosen
  apply hR.bind (hR.log _ _ _)
  intro _
  exact hR.pure _

/-- Checking the measurements keeps every frame. -/
theorem measure (options : Options) (subject : Subject) :
    Action.Keeps R (Command.measure options subject) := by
  apply hR.bind (hR.lift _)
  intro runtime
  apply hR.bind (hR.observedMemory _ _)
  intro memory
  apply hR.bind (hR.lift _)
  intro memoryLimit
  exact hR.pure _

/-- Examining a source keeps every frame. -/
theorem examine (language path : String) :
    Action.Keeps R (Analysis.examine language path) := by
  apply hR.withFields
  apply hR.bind (hR.read path)
  intro source
  apply hR.bind (hR.emit _ _)
  intro _
  exact hR.pure _

/-- Estimating the class of a source keeps every frame. -/
theorem estimate (language path : String) : Action.Keeps R (Analysis.estimate language path) := by
  apply hR.withFields
  apply hR.bind (hR.read path)
  intro source
  apply hR.bind (hR.log _ _ _)
  intro _
  exact hR.pure _

end Session.Frame

namespace Analysis

variable {around : Surroundings} {session after : Session} {language path : String}
  {estimate : Estimate}

/-- The findings and the estimate for a text in a language. -/
def findings (language source : String) : ScanReport × Estimate :=
  (standardSigns.scan (some source) (some language),
    standardSigns.classify (some source) (some language))

/-- What is made of a source that is read under other fields, where only reading can fail. -/
theorem fst_withFields_read {α : Type} {next : String → Action α} {made : String → α}
    (hnext : ∀ source around session, (next source around session).1 = .ok (made source))
    (updates : FieldUpdates) (path : String) (around : Surroundings) (session : Session) :
    (Action.withFields updates (Source.read path >>= next) around session).1 =
      (Source.read path around session).1.map made := by
  have hfields := Action.ignoresFields_read path around session
    (updateFields session.fields updates)
  unfold Action.withFields
  dsimp only
  cases hread : (Source.read path around session).1 with
  | error failure =>
    rw [hread] at hfields
    rw [Action.bind_of_eq_error hfields]
    rfl
  | ok source =>
    rw [hread] at hfields
    rw [Action.bind_of_eq_ok hfields]
    exact hnext source around _

/-- Examining a source gives the findings and the estimate for the text that is read, and fails if
none can be read. -/
theorem fst_examine (language path : String) (around : Surroundings) (session : Session) :
    (examine language path around session).1 =
      (Source.read path around session).1.map (findings language) := by
  refine fst_withFields_read (fun source around session => ?_) _ path around session
  rw [Action.bind_of_eq_ok (Action.emit_eq _ _ _ _)]
  rfl

/-- Estimating the class of a source gives the estimate for the text that is read, and fails if none
can be read. -/
theorem fst_estimate (language path : String) (around : Surroundings) (session : Session) :
    (Analysis.estimate language path around session).1 =
      (Source.read path around session).1.map fun source =>
        standardSigns.classify (some source) (some language) := by
  refine fst_withFields_read (fun source around session => ?_) _ path around session
  obtain ⟨_, hlogged⟩ := Action.exists_log_eq_ok _ _ _ around session
  exact congrArg Prod.fst (Action.bind_of_eq_ok hlogged)

/-- Examining a source gives the findings and the estimate for the text that is read. -/
theorem read_of_examine {report : ScanReport}
    (h : examine language path around session = (.ok (report, estimate), after)) :
    ∃ source, (Source.read path around session).1 = .ok source ∧
      report = standardSigns.scan (some source) (some language) ∧
      estimate = standardSigns.classify (some source) (some language) := by
  have hfound := fst_examine language path around session
  rw [h] at hfound
  obtain ⟨source, hsource, hpair⟩ := map_eq_ok.mp hfound.symm
  obtain ⟨rfl, rfl⟩ := Prod.mk.inj hpair
  exact ⟨source, hsource, rfl, rfl⟩

/-- Estimating the class of a source gives the estimate for the text that is read. -/
theorem read_of_estimate
    (h : Analysis.estimate language path around session = (.ok estimate, after)) :
    ∃ source, (Source.read path around session).1 = .ok source ∧
      estimate = standardSigns.classify (some source) (some language) := by
  have hfound := fst_estimate language path around session
  rw [h] at hfound
  obtain ⟨source, hsource, hestimate⟩ := map_eq_ok.mp hfound.symm
  exact ⟨source, hsource, hestimate.symm⟩

end Analysis

end OrderOfGrowth

import OrderOfGrowth.Proofs.FileContents
import OrderOfGrowth.Proofs.Storable

/-!
# What an action leaves in the log

Everything that happens before a command has been answered, files that are read and texts that are
printed included, makes records and nothing else: the records come behind the old ones, and the log
file gets their lines as far as they can be encoded. What is shown on the console changes nothing in
this, so an action does the same at every level. Both are stated for whole actions and carried from
their parts to their sequences.
-/

namespace OrderOfGrowth

namespace FileTree

variable {tree : FileTree} {location : Location} {old bytes : List UInt8}

/-- The files after a line has gone to the log file, if there is one and the line can be encoded. -/
def withLine (logFile : Option Location) (tree : FileTree) (line : List Char) : FileTree :=
  match logFile with
  | some location =>
    if line.any Text.isSurrogate then tree else tree.append location (Text.utf8 line)
  | none => tree

/-- The files after the lines of records have gone to the log file. -/
def logged (time : String) (logFile : Option Location) (tree : FileTree)
    (records : List LogRecord) : FileTree :=
  records.foldl (fun tree record => tree.withLine logFile (record.line time)) tree

/-- Records go to the log file one after the other. -/
theorem logged_append (time : String) (logFile : Option Location) (tree : FileTree)
    (first second : List LogRecord) :
    tree.logged time logFile (first ++ second) =
      (tree.logged time logFile first).logged time logFile second := List.foldl_append

end FileTree

/-- A session that has made records with messages of some kind, and that may have read its input
and printed besides. -/
structure Session.Logs (allowed : String → Prop) (time : String) (before after : Session)
    (records : List LogRecord) : Prop where
  messages : ∀ record ∈ records, allowed record.message
  records_eq : after.records = before.records ++ records
  files_eq : after.files = before.files.logged time before.logFile records
  fields_eq : after.fields = before.fields
  logFile_eq : after.logFile = before.logFile
  console_eq : after.console = before.console

namespace Session.Logs

variable {allowed : String → Prop} {time : String} {before middle after : Session}
  {first second : List LogRecord}

/-- What keeps the records, the files, the fields and the set-up makes no records. -/
theorem of_eq (hrecords : after.records = before.records) (hfiles : after.files = before.files)
    (hfields : after.fields = before.fields) (hlogFile : after.logFile = before.logFile)
    (hconsole : after.console = before.console) : Logs allowed time before after [] where
  messages := nofun
  records_eq := by rw [hrecords, List.append_nil]
  files_eq := hfiles
  fields_eq := hfields
  logFile_eq := hlogFile
  console_eq := hconsole

/-- Nothing makes no records. -/
theorem refl (session : Session) : Logs allowed time session session [] := of_eq rfl rfl rfl rfl rfl

/-- Records that are made in a row come in a row. -/
theorem trans (hfirst : Logs allowed time before middle first)
    (hsecond : Logs allowed time middle after second) :
    Logs allowed time before after (first ++ second) where
  messages record hrecord :=
    (List.mem_append.mp hrecord).elim (hfirst.messages record) (hsecond.messages record)
  records_eq := by rw [hsecond.records_eq, hfirst.records_eq, List.append_assoc]
  files_eq := by
    rw [hsecond.files_eq, hfirst.files_eq, hfirst.logFile_eq, FileTree.logged_append]
  fields_eq := hsecond.fields_eq.trans hfirst.fields_eq
  logFile_eq := hsecond.logFile_eq.trans hfirst.logFile_eq
  console_eq := hsecond.console_eq.trans hfirst.console_eq

/-- Messages may be of a wider kind. -/
theorem mono {wider : String → Prop} (h : Logs allowed time before after first)
    (hwider : ∀ message, allowed message → wider message) :
    Logs wider time before after first :=
  { h with messages := fun record hrecord => hwider _ (h.messages record hrecord) }

end Session.Logs

/-- The session with another level of the console. -/
def Session.atLevel (session : Session) (level : LogLevel) : Session :=
  { session with console := some level }

namespace Action

variable {α β : Type} {allowed : String → Prop} {around : Surroundings} {session : Session}

/-- Once logging has been set up it is not set up again. -/
theorem prepared_of_isSome (h : session.console.isSome = true) : prepared session = session := by
  unfold prepared
  rw [Option.isNone_eq_false_iff.mpr h]
  rfl

/-- One more record of a session is one more line of the log. -/
theorem logs_recorded (around : Surroundings) (level : LogLevel) {message : String}
    (session : Session) (h : allowed message) :
    Session.Logs allowed around.time session (recorded around level message session)
      [.make session.fields level message] where
  messages _ hrecord := List.mem_singleton.mp hrecord ▸ h
  records_eq := rfl
  files_eq := by
    rw [FileTree.logged, List.foldl_cons, List.foldl_nil]
    cases hlog : session.logFile <;> simp only [recorded, withLogLine, FileTree.withLine, hlog]
  fields_eq := rfl
  logFile_eq := rfl
  console_eq := rfl

/-- An action that, once logging has been set up, only makes records with messages of some kind, and
does the same at every level of the console. -/
structure LogsOnly (allowed : String → Prop) (action : Action α) : Prop where
  logs : ∀ around session, session.console.isSome = true →
    ∃ records, Session.Logs allowed around.time session (action around session).2 records
  atLevel : ∀ around session level, session.console.isSome = true →
    action around (session.atLevel level) =
      ((action around session).1, (action around session).2.atLevel level)

namespace LogsOnly

/-- An action that only logs makes its records once logging has been set up, and does the same at
every level. -/
theorem of_eq {action : Action α} {after : Session} {outcome : Except Failure α}
    (h : LogsOnly allowed action) (hconsole : session.console.isSome = true)
    (hrun : action around session = (outcome, after)) :
    ∃ records, Session.Logs allowed around.time session after records ∧
      after.console.isSome = true ∧
      ∀ level, action around (session.atLevel level) = (outcome, after.atLevel level) := by
  obtain ⟨records, hlogs⟩ := h.logs around session hconsole
  rw [hrun] at hlogs
  refine ⟨records, hlogs, hlogs.console_eq ▸ hconsole, fun level => ?_⟩
  rw [h.atLevel around session level hconsole, hrun]

/-- A computation without effects makes no records. -/
theorem lift (computed : Except Failure α) : LogsOnly allowed (lift computed) where
  logs _ session _ := ⟨[], .refl session⟩
  atLevel _ _ _ _ := rfl

/-- A result makes no records. -/
theorem pure (value : α) : LogsOnly allowed (Pure.pure value : Action α) := lift (.ok value)

/-- A failure makes no records. -/
theorem fail (failure : Failure) : LogsOnly allowed (fail failure : Action α) :=
  lift (.error failure)

/-- Asking for the surroundings makes no records. -/
theorem surroundings : LogsOnly allowed Action.surroundings where
  logs _ session _ := ⟨[], .refl session⟩
  atLevel _ _ _ _ := rfl

/-- Actions in sequence only log if each of them does. -/
theorem bind {first : Action α} {next : α → Action β} (hfirst : LogsOnly allowed first)
    (hnext : ∀ found, LogsOnly allowed (next found)) : LogsOnly allowed (first >>= next) where
  logs around session hconsole := by
    obtain ⟨records, hlogs⟩ := hfirst.logs around session hconsole
    cases hresult : first around session with
    | mk outcome between =>
      rw [hresult] at hlogs
      cases outcome with
      | error failure =>
        rw [bind_of_eq_error hresult]
        exact ⟨records, hlogs⟩
      | ok found =>
        rw [bind_of_eq_ok hresult]
        obtain ⟨more, hmore⟩ := (hnext found).logs around between (hlogs.console_eq ▸ hconsole)
        exact ⟨records ++ more, hlogs.trans hmore⟩
  atLevel around session level hconsole := by
    obtain ⟨records, hlogs⟩ := hfirst.logs around session hconsole
    have hlevel := hfirst.atLevel around session level hconsole
    cases hresult : first around session with
    | mk outcome between =>
      rw [hresult] at hlogs hlevel
      cases outcome with
      | error failure => rw [bind_of_eq_error hresult, bind_of_eq_error hlevel]
      | ok found =>
        rw [bind_of_eq_ok hresult, bind_of_eq_ok hlevel]
        exact (hnext found).atLevel around between level (hlogs.console_eq ▸ hconsole)

/-- An action with changed fields makes the records that the action makes with them. -/
theorem withFields (updates : FieldUpdates) {action : Action α} (h : LogsOnly allowed action) :
    LogsOnly allowed (withFields updates action) where
  logs around session hconsole := by
    obtain ⟨records, hlogs⟩ :=
      h.logs around { session with fields := updateFields session.fields updates } hconsole
    exact ⟨records, hlogs.messages, hlogs.records_eq, hlogs.files_eq, rfl, hlogs.logFile_eq,
      hlogs.console_eq⟩
  atLevel around session level hconsole := by
    have hlevel :=
      h.atLevel around { session with fields := updateFields session.fields updates } level hconsole
    unfold Action.withFields
    exact congrArg (fun ended => (ended.1, { ended.2 with fields := session.fields })) hlevel

/-- Making a record with an allowed message. -/
theorem emit (level : LogLevel) {message : String} (h : allowed message) :
    LogsOnly allowed (emit level message) where
  logs around session hconsole := by
    rw [emit_eq, prepared_of_isSome hconsole]
    exact ⟨_, logs_recorded around level session h⟩
  atLevel around session shown hconsole := by
    rw [emit_eq, emit_eq, prepared_of_isSome hconsole]
    rfl

/-- Making a record with fields of its own. -/
theorem log (level : LogLevel) {message : String} (updates : FieldUpdates) (h : allowed message) :
    LogsOnly allowed (log level message updates) := (emit level h).withFields updates

/-- Printing makes no records. -/
theorem print (text : List Char) : LogsOnly allowed (print text) := by
  unfold Action.print
  cases Text.surrogateRun? text with
  | some run => exact fail _
  | none => exact ⟨fun _ session _ => ⟨[], .of_eq rfl rfl rfl rfl rfl⟩, fun _ _ _ _ => rfl⟩

/-- Reading a source makes no records. -/
theorem read (path : String) : LogsOnly allowed (Source.read path) := by
  by_cases hpath : path = inputPath
  · subst hpath
    unfold Source.read
    rw [if_pos rfl]
    unfold Source.ofInput
    constructor
    · intro around session _
      cases textOfInput around.input session.input <;> exact ⟨[], .of_eq rfl rfl rfl rfl rfl⟩
    · intro around session level _
      unfold Session.atLevel
      cases textOfInput around.input session.input <;> rfl
  · constructor
    · intro around session _
      rw [read_eq_ofFile hpath]
      exact ⟨[], .refl session⟩
    · intro around session level _
      rw [read_eq_ofFile hpath, read_eq_ofFile hpath]
      rfl

/-- Loading a configuration makes no records. -/
theorem load (given : Option String) : LogsOnly allowed (Configuration.load given) := by
  have hsame (around : Surroundings) (session : Session) :
      (Configuration.load given around session).2 = session := by
    unfold Configuration.load
    rw [bind_of_eq_ok rfl, bind_of_eq_ok rfl]
    split_ifs <;> rfl
  constructor
  · intro around session _
    rw [hsame]
    exact ⟨[], .refl session⟩
  · intro around session level _
    unfold Configuration.load
    rw [bind_of_eq_ok rfl, bind_of_eq_ok rfl, bind_of_eq_ok rfl, bind_of_eq_ok rfl]
    unfold Session.atLevel
    split_ifs <;> rfl

end LogsOnly

end Action

end OrderOfGrowth

import OrderOfGrowth.Log
import OrderOfGrowth.Number.Arithmetic
import OrderOfGrowth.Surroundings

/-!
# Sessions

An action runs in fixed surroundings and changes a session: the file tree, the standard
input that is left, the log and the output so far. An action that fails keeps the changes it
has made before. The main statement is that fields set for an action are put back when it
ends, whether it fails or not.
-/

namespace OrderOfGrowth

/-- What an action changes. `console` is the level from which records are shown, if logging
has been set up, and `logFile` the file that gets every record. -/
structure Session where
  files : FileTree
  input : List UInt8
  fields : Keyed String
  console : Option LogLevel
  logFile : Option Location
  records : List LogRecord
  opened : List String
  output : List Char

namespace Session

/-- A session in which nothing has happened yet. -/
def start (files : FileTree) (input : List UInt8) : Session :=
  ⟨files, input, [], none, none, [], [], []⟩

end Session

/-- A computation that may fail and that changes a session either way. -/
def Action (α : Type) : Type := Surroundings → Session → Except Failure α × Session

namespace Action

variable {α β : Type}

/-- The action that only has a result. -/
def result (value : α) : Action α := fun _ session => (.ok value, session)

/-- The action that only fails. -/
def fail (failure : Failure) : Action α := fun _ session => (.error failure, session)

/-- One action and, if it does not fail, the next one with its result. -/
def andThen (first : Action α) (next : α → Action β) : Action β := fun surroundings session =>
  match first surroundings session with
  | (.ok value, after) => next value surroundings after
  | (.error failure, after) => (.error failure, after)

instance : Monad Action where
  pure := result
  bind := andThen

/-- What a computation without effects gives. -/
def lift (computed : Except Failure α) : Action α := fun _ session => (computed, session)

/-- The surroundings. -/
def surroundings : Action Surroundings := fun around session => (.ok around, session)

/-- The session as it is now. -/
def current : Action Session := fun _ session => (.ok session, session)

/-- Changes the session. -/
def change (f : Session → Session) : Action Unit := fun _ session => (.ok (), f session)

/-- The outcome of an action that may fail, as a value. -/
def attempt (action : Action α) : Action (Except Failure α) := fun around session =>
  let (outcome, after) := action around session
  (.ok outcome, after)

/-- An action on the file tree, whose problems are failures of their own family. -/
def onFiles (f : FileTree → Except FileProblem FileTree) : Action Unit := fun _ session =>
  match f session.files with
  | .ok files => (.ok (), { session with files := files })
  | .error problem => (.error (.file problem), session)

/-- Runs an action with changed fields and puts the old fields back afterwards. -/
def withFields (updates : FieldUpdates) (action : Action α) : Action α := fun around session =>
  let (outcome, after) :=
    action around { session with fields := updateFields session.fields updates }
  (outcome, { after with fields := session.fields })

/-- The fields after an action that ran with changed fields are those before it. -/
theorem fields_withFields (updates : FieldUpdates) (action : Action α) (around : Surroundings)
    (session : Session) :
    (withFields updates action around session).2.fields = session.fields := rfl

/-- Writes text to the standard output, if all of it can be encoded. Nothing else fails with an
unencodable text. -/
def print (text : List Char) : Action Unit :=
  match Text.surrogateRun? text with
  | some run => fail (.unencodable run)
  | none => change fun session => { session with output := session.output ++ text }

/-- A path without dots and doubled slashes, from the root. -/
def absoluteLocation (here : Location) (path : String) : Location :=
  let start := if FileTree.isAbsolute path then [] else here
  (FileTree.stepsOf path).foldl
    (fun location name =>
      if name = "." then location
      else if name = ".." then location.dropLast
      else location ++ [name])
    start

/-- A location as a path from the root. -/
def locationText (location : Location) : String :=
  String.ofList ('/' :: Text.joinWith ['/'] (location.map String.toList))

/-- A written path as a path from the root; exactly two slashes at the start are kept. -/
def absoluteText (here : Location) (path : String) : String :=
  let text := locationText (absoluteLocation here path)
  if Path.rootSlashes path.toList = 2 then "/" ++ text else text

/-- A written path as a path from the root, which a relative one has only as long as the current
directory is there. -/
def absolutePath (tree : FileTree) (current : Standpoint) (path : String) :
    Except FileProblem String :=
  if FileTree.isAbsolute path ∨ tree.get? current.location = some .directory then
    .ok (absoluteText current.location path)
  else .error .noCurrentDirectory

/-- The location of the log file at a path. -/
def logLocation (tree : FileTree) (current : Standpoint) (path : String) :
    Except FileProblem Location := do
  tree.target current (← absolutePath tree current path)

/-- Sets logging up anew: the level of the console, and the file that gets every record from
now on. The file is there from this moment on. -/
def configureLogging (debug verbose : Bool) (logFile : Option String) : Action Unit := do
  let level := if debug then .debug else if verbose then .info else .warning
  change fun session => { session with console := some level, logFile := none }
  match logFile with
  | none => return
  | some path =>
    if path = "" then return
    let around ← surroundings
    let session ← current
    match logLocation session.files around.current path with
    | .error problem => fail (.file problem)
    | .ok location =>
      change fun session =>
        { session with files := session.files.append location [], logFile := some location }

/-- The files after a line has been written to the log file, if there is one and the line can be
encoded. -/
def withLogLine (session : Session) (line : List Char) : FileTree :=
  match session.logFile with
  | some location =>
    if line.any Text.isSurrogate then session.files
    else session.files.append location (Text.utf8 line)
  | none => session.files

/-- Makes a record with the active fields. Logging is set up first if it never was. -/
def emit (level : LogLevel) (message : String) : Action Unit := do
  let session ← current
  if session.console.isNone then configureLogging false false none
  let around ← surroundings
  change fun session =>
    let record := LogRecord.make session.fields level message
    { session with
      records := session.records ++ [record]
      files := withLogLine session (record.line around.time) }

/-- Makes a record with fields of its own. -/
def log (level : LogLevel) (message : String) (updates : FieldUpdates) : Action Unit :=
  withFields updates (emit level message)

/-- Records an operation on a file. -/
def logFileOperation (operation path : String) (updates : FieldUpdates) : Action Unit :=
  log .debug ("File " ++ operation ++ ": " ++ path) updates

/-- Runs an action under a name with the language as a field, and records at its end how
long it took or how it failed. -/
def timed (name : String) (language : Option String) (action : Action α) : Action α :=
  withFields [("language", language)] do
    let around ← surroundings
    match ← attempt action with
    | .ok value =>
      emit .debug (name ++ " finished in " ++ around.elapsed ++ "s")
      return value
    | .error failure =>
      emit .error (name ++ " failed after " ++ around.elapsed ++ "s: " ++ failure.message)
      fail failure

end Action

end OrderOfGrowth

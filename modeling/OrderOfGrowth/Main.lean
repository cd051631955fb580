import OrderOfGrowth.Command.Run
import Std.Time.Format

/-!
# The command line

The program takes a picture of the files that a command line can touch, runs the command on
the picture, and then carries out what has changed: files that were written, lines for the
standard output, and records for the standard error stream.
-/

namespace OrderOfGrowth.CommandLine

/-- The files that a command line can touch, and the locations of those that may not be read. -/
structure Picture where
  tree : FileTree
  closed : List Location

namespace Picture

/-- The picture with what is at a location, whose parent is known to be a directory. Of a file that
may not be read it is only known that it is there. -/
def look (picture : Picture) (location : Location) : IO Picture := do
  try
    let bytes ← IO.FS.readBinFile (Action.locationText location)
    return { picture with tree := picture.tree.put location (.file bytes.toList) }
  catch problem =>
    match problem with
    | .inappropriateType .. =>
      return { picture with tree := picture.tree.put location .directory }
    | .permissionDenied .. =>
      return ⟨picture.tree.put location (.file []), location :: picture.closed⟩
    | _ => return picture

/-- The picture with what is at a location, if that can be reached and is not there yet. -/
def addLocation (picture : Picture) (location : Location) : IO Picture := do
  if (picture.tree.get? location).isSome then return picture
  match picture.tree.get? location.dropLast with
  | some .directory => picture.look location
  | _ => return picture

/-- What the picture knows about what is denied. -/
def denied (picture : Picture) : Access → Location → Bool
  | .read, location => picture.closed.contains location
  | _, _ => false

end Picture

/-- All locations that are passed on the way along a path. -/
def passed (here : Location) (path : String) : List Location :=
  let steps := FileTree.stepsOf path
  let start := if FileTree.isAbsolute path then "/" else Action.locationText here ++ "/"
  (List.range (steps.length + 1)).flatMap fun count =>
    let location := Action.absoluteLocation [] (start ++ "/".intercalate (steps.take count))
    (List.range (location.length + 1)).map fun length => location.take length

/-- The picture with everything on the way along paths. -/
def addPaths (picture : Picture) (here : Location) (paths : List String) : IO Picture :=
  (paths.flatMap (passed here)).foldlM Picture.addLocation picture

/-- The home directories of users by name. -/
def accounts : IO (Keyed String) := do
  try
    let lines ← IO.FS.lines "/etc/passwd"
    return lines.toList.filterMap fun line =>
      match line.splitOn ":" with
      | [name, _, _, _, _, home, _] => some (name, home)
      | _ => none
  catch _ => return []

/-- The name of the locale, if it has one. -/
def locale : IO String := do
  for name in ["LC_ALL", "LC_CTYPE", "LANG"] do
    let value := (← IO.getEnv name).getD ""
    if value ≠ "" then return value
  return "C"

/-- How the standard input is read: line ends are left as they are, and in a locale without a
language bytes that are no text are kept. -/
def inputRule : IO InputRule := do
  let plain := ["C", "POSIX", "C.UTF-8", "C.utf8"]
  return ⟨false, plain.contains (← locale)⟩

/-- The screen: as wide as the shell says, or else of 80 places. It has no pictures. -/
def screen : IO Terminal.Screen := do
  let columns := (← IO.getEnv "COLUMNS").bind String.toNat?
  return ⟨columns.getD 80, fun _ => none, nofun⟩

/-- The surroundings of this run as far as they are known before the files are looked at. The length
of time is not known yet. No program can be started from here, so a browser is never there, and
there is no trace of a failure besides its message. Files are written after the command has been
run, so no device fails while it runs. -/
def surroundings : IO Surroundings := do
  let here := (← IO.currentDir).toString
  let home := (← IO.getEnv "HOME").getD "/"
  let now ← Std.Time.PlainDateTime.now
  return {
    current := .free (Action.absoluteLocation [] here)
    home
    accounts := ← accounts
    scratch := ["/tmp/complexity_viz_" ++ toString (← IO.monoNanosNow) ++ ".html"]
    writeFault := fun _ => none
    browserFault := some "could not locate runnable browser"
    input := ← inputRule
    nesting := 970
    screen := ← screen
    time := now.format "uuuu-MM-dd HH:mm:ss,SSS"
    elapsed := ""
    trace := "" }

/-- A number of milliseconds as seconds with three places. -/
def secondsText (milliseconds : Nat) : String :=
  let fraction := toString (1000 + milliseconds % 1000)
  toString (milliseconds / 1000) ++ "." ++ (fraction.drop 1).toString

/-- Everything on the standard input. -/
def readInput (request : Request) : IO (List UInt8) := do
  if request.paths.contains inputPath then return (← IO.FS.readBinFile "/dev/stdin").toList
  else return []

/-- Carries out the changes of the files between two pictures. -/
def carryOut (before after : FileTree) : IO Unit :=
  after.nodes.forM fun (location, node) => do
    if before.get? location != some node then
      match node with
      | .directory => IO.FS.createDir (Action.locationText location)
      | .file bytes =>
        IO.FS.writeBinFile (Action.locationText location) (ByteArray.mk bytes.toArray)

/-- How serious a record is, as a number. -/
def severity : LogLevel → Nat
  | .debug => 0
  | .info => 1
  | .warning => 2
  | .error => 3

/-- Shows the records that are serious enough for the console. -/
def showRecords (session : Session) : IO Unit := do
  match session.console with
  | none => return
  | some least =>
    session.records.forM fun record => do
      if severity least ≤ severity record.level then
        IO.eprintln (record.level.name ++ " " ++ record.message)

/-- How the program is used. -/
def usage : String :=
  "Usage: analyze SOURCE [OPTIONS] | curves [OPTIONS] | visualize SOURCE [OPTIONS] | languages"

/-- Runs a request on the real files and gives the exit code. It is run on the picture once more
than needed, to find out how long that takes. -/
def runRequest (request : Request) (arguments : List String) : IO Nat := do
  let around ← surroundings
  let here := around.current.location
  let candidates := Configuration.candidates around (request.setup?.bind Setup.config)
  let picture ← addPaths ⟨⟨[]⟩, []⟩ here (around.scratch ++ candidates ++ request.paths)
  let session := Session.start picture.tree (← readInput request)
  let directory := request.setup?.bind fun setup =>
    Command.configuredDirectory setup around session
  let charts := directory.toList.map fun path => (path.join [Command.chartFileName]).text
  let picture ← addPaths picture here charts
  let session := { session with files := picture.tree }
  let around := { around with current := ⟨here, picture.denied⟩ }
  let started ← IO.monoMsNow
  let trial := Command.run arguments around session
  if trial.1 = 2 then return 2
  let around := { around with elapsed := secondsText ((← IO.monoMsNow) - started) }
  let (code, after) := Command.run arguments around session
  carryOut session.files after.files
  showRecords after
  IO.print (String.ofList after.output)
  return code

end OrderOfGrowth.CommandLine

/-- Runs the command line. -/
def main (arguments : List String) : IO UInt32 := do
  match OrderOfGrowth.Request.read arguments with
  | none =>
    IO.eprintln OrderOfGrowth.CommandLine.usage
    return 2
  | some request => return UInt32.ofNat (← OrderOfGrowth.CommandLine.runRequest request arguments)

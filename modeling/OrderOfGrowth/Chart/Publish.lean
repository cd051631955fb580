import OrderOfGrowth.Chart.Page
import OrderOfGrowth.Session

/-!
# Publishing a chart

The page of a chart is made in full before its file is opened. It goes to the file that is
asked for, or else to a new temporary file, and can be opened in a browser. A browser that cannot
be started is only worth a warning; a fault of the device loses what the file held.
-/

namespace OrderOfGrowth

namespace Action

/-- Puts a file of these bytes at a location. -/
def putFile (location : Location) (bytes : List UInt8) : Action Unit :=
  change fun session => { session with files := session.files.put location (.file bytes) }

/-- Opens the file at a path, which leaves nothing of what it held, and gives its location. -/
def openFile (path : String) : Action Location := do
  let around ← surroundings
  let session ← current
  match session.files.target around.current path with
  | .error problem => fail (.file problem)
  | .ok location =>
    putFile location []
    return location

/-- Writes a text to the file at a path. Once the file is open, a text that cannot be encoded leaves
it empty, and a fault of its device leaves some bytes of the text. -/
def writeText (path : String) (text : List Char) : Action Unit := do
  let location ← openFile path
  match Text.surrogateRun? text with
  | some run => fail (.file (.unencodable run))
  | none =>
    let bytes := Text.utf8 text
    match (← surroundings).writeFault location with
    | none => putFile location bytes
    | some fault =>
      putFile location (bytes.take fault.kept)
      fail (.file (.device fault.message))

/-- Makes an empty temporary file under a name that is free, and gives its path. -/
def createTemporary : Action String := do
  let around ← surroundings
  let session ← current
  match session.files.createFirst around.current around.scratch with
  | .error problem => fail (.file problem)
  | .ok (path, files) =>
    change fun session => { session with files }
    return path

/-- Opens the file at a path in a browser. It has been written, so the current directory is there if
the path starts at it. -/
def openInBrowser (path : String) : Action Unit := do
  let around ← surroundings
  match around.browserFault with
  | some fault => log .warning ("Failed to open browser: " ++ fault) []
  | none =>
    let address := "file://" ++ absoluteText around.current.location path
    change fun session => { session with opened := session.opened ++ [address] }

end Action

namespace Chart

/-- The path of the file for a page: a path that is asked for, if it is not empty, or that of
a new temporary file. -/
def targetPath (asked : Option String) : Action String :=
  let path := asked.getD ""
  if path = "" then Action.createTemporary else return path

/-- Writes the page of a chart, opens it if that is asked for, and gives its path. -/
def publish (chart : Chart) (asked : Option String) (openPage : Bool) : Action String := do
  let page ← Action.lift (chart.page standardTitle)
  let path ← targetPath asked
  Action.writeText path page
  Action.logFileOperation "write" path [("complexity", some chart.complexity.label)]
  if openPage then Action.openInBrowser path
  return path

end Chart

end OrderOfGrowth

import OrderOfGrowth.Curve
import OrderOfGrowth.Language
import OrderOfGrowth.Source
import OrderOfGrowth.Json.Reader

/-!
# Configurations

A configuration is read from a JSON object. Its keys may be flat or, for the settings of the
chart, stand in an object under `chart`; a flat key counts more than a nested one. Settings
keep the values that were written, and only the size of the domain, the step and the opacity
are checked. The files that are searched for an object are texts in UTF-8, the encoding of the
locale, with any kind of line ends.
-/

namespace OrderOfGrowth

/-- The settings of charts. -/
structure ChartSettings where
  domainSize : Quantity
  valueCeiling : Json
  sampleStep : Quantity
  dimmedOpacity : Quantity
  openBrowser : Json
  outputDir : Json

/-- The opacity of curves in the background unless said otherwise, six tenths. -/
def standardOpacity : Quantity := .float (Binary64.ofQuotient false 6 10)

/-- The memory limit unless said otherwise, 128 times 1024 times 1024 bytes. -/
def standardMemoryLimit : Int := 134217728

namespace ChartSettings

/-- The names of the settings of charts. -/
def fieldNames : List String :=
  ["domain_size", "value_ceiling", "sample_step", "dimmed_opacity", "open_browser", "output_dir"]

/-- The settings if nothing is said. -/
def standard : ChartSettings where
  domainSize := .int standardDomain
  valueCeiling := .int standardCeiling
  sampleStep := .int standardStep
  dimmedOpacity := standardOpacity
  openBrowser := .bool true
  outputDir := .null

/-- A key that no setting has. The name `self` is known but cannot be set. -/
def unknownKey (key : String) : KindProblem :=
  if key = "self" then .takenField key else .unknownField key

/-- A setting that must be a number of at least one. -/
def atLeastOne (field : String) (value : Json) : Except Failure Quantity :=
  match value with
  | .number q =>
    if q.lt (.int 1) then .error (.quoting q (.configuration (.tooSmall field q))) else .ok q
  | other => .error (.kind (.compare "<" other.kind "int"))

/-- A setting that must be a number from zero to one. -/
def fractionOfOne (value : Json) : Except Failure Quantity :=
  match value with
  | .number q =>
    if Quantity.le (.int 0) q && q.le (.int 1) then .ok q
    else .error (.quoting q (.configuration (.opacity q)))
  | other => .error (.kind (.compare "<=" "int" other.kind))

/-- Settings from the members of an object; the first key that is not a setting is an error. -/
def ofMembers (members : Keyed Json) : Except Failure ChartSettings := do
  match members.keys.find? (!fieldNames.contains ·) with
  | some key => throw (.kind (unknownKey key))
  | none =>
    let domainSize ←
      atLeastOne "domain_size" ((members.lookup "domain_size").getD (.number standard.domainSize))
    let sampleStep ←
      atLeastOne "sample_step" ((members.lookup "sample_step").getD (.number standard.sampleStep))
    let dimmedOpacity ←
      fractionOfOne ((members.lookup "dimmed_opacity").getD (.number standard.dimmedOpacity))
    return {
      domainSize, sampleStep, dimmedOpacity
      valueCeiling := (members.lookup "value_ceiling").getD standard.valueCeiling
      openBrowser := (members.lookup "open_browser").getD standard.openBrowser
      outputDir := (members.lookup "output_dir").getD standard.outputDir }

end ChartSettings

/-- What is configured for charts: settings, or a value that is no object and has none. -/
inductive ChartEntry where
  | settings (chart : ChartSettings)
  | other (value : Json)

namespace ChartEntry

/-- The settings, of which `member` is asked for. -/
def require (entry : ChartEntry) (member : String) : Except Failure ChartSettings :=
  match entry with
  | .settings chart => .ok chart
  | .other value => .error (.noMember value.kind member)

end ChartEntry

/-- A configuration. -/
structure Configuration where
  defaultLanguage : Json
  debug : Json
  chart : ChartEntry
  memoryLimit : Json

namespace Configuration

/-- The keys that a configuration has after the flat keys have been put in their places. -/
def fieldNames : List String := ["default_language", "debug", "chart", "memory_limit_bytes"]

/-- The members with the value under `short` moved to `full`. -/
def rename (short full : String) (members : Keyed Json) : Keyed Json :=
  match members.lookup short with
  | some value => (members.remove short).store full value
  | none => members

/-- The members with the value under a flat key moved into the object under `chart`, which
is made if it is not there. -/
def moveIntoChart (key : String) (members : Keyed Json) : Except Failure (Keyed Json) :=
  match members.lookup key with
  | none => .ok members
  | some value =>
    match ((members.remove key).lookup "chart").getD (.object []) with
    | .object chart =>
      .ok ((members.remove key).store "chart" (.object (Keyed.store key value chart)))
    | .list _ => .error (.kind .indexList)
    | other => .error (.kind (.assignItem other.kind))

/-- The members with all flat keys in their places. -/
def unflatten (members : Keyed Json) : Except Failure (Keyed Json) :=
  ChartSettings.fieldNames.foldlM (fun members key => moveIntoChart key members)
    (rename "memory_limit" "memory_limit_bytes" (rename "language" "default_language" members))

/-- The settings of the chart; a value of the wrong kind in them makes the configuration
invalid. -/
def chartOf (members : Keyed Json) : Except Failure ChartEntry :=
  match members.lookup "chart" with
  | none => .ok (.settings .standard)
  | some (.object chart) =>
    match ChartSettings.ofMembers chart with
    | .ok settings => .ok (.settings settings)
    | .error (.kind problem) => .error (.configuration (.chart problem))
    | .error failure => .error failure
  | some value => .ok (.other value)

/-- The keys that no configuration has, sorted. -/
def unknownKeys (keys : List String) : List String :=
  Language.sorted (keys.filter (!fieldNames.contains ·))

/-- The configuration that an object describes. -/
def ofMembers (members : Keyed Json) : Except Failure Configuration := do
  let members ← unflatten members
  let chart ← chartOf members
  let unknown := unknownKeys members.keys
  if unknown.isEmpty then
    return {
      defaultLanguage := (members.lookup "default_language").getD .null
      debug := (members.lookup "debug").getD (.bool false)
      chart
      memoryLimit := (members.lookup "memory_limit_bytes").getD (.int standardMemoryLimit) }
  else throw (.configuration (.unknownKeys unknown))

/-- The texts among values. -/
def stringsIn (items : List Json) : List String :=
  items.filterMap fun item => match item with | .string s => some s | _ => none

/-- The keys that are taken out of an object before anything else. -/
def flatKeys : List String := ["language", "memory_limit"] ++ ChartSettings.fieldNames

/-- Why keys that are no texts cannot be named in order. A single one has no text, and of
several the smallest number has none; nothing comes before or after a missing value. -/
def keyProblem (first : Json) (rest : List Json) : KindProblem :=
  let numbers := (first :: rest).filterMap fun item =>
    match item with | .number q => some q | _ => none
  match Quantity.least? numbers with
  | none => .join first.kind
  | some least =>
    let kind := (Json.number least).kind
    match (first :: rest).find? (fun item => !(item matches .number _)) with
    | some other => .compare "<" other.kind kind
    | none => .join kind

/-- Why a list is no configuration. Its texts are taken for keys, and if all its items are
texts the unknown ones are named. -/
def listFailure (items : List Json) : Failure :=
  let texts := stringsIn items
  if texts.any flatKeys.contains then .kind .takeFromList
  else if texts.contains "chart" then .kind .indexList
  else
    match items.find? (fun item => item matches .list _ | .object _) with
    | some item => .kind (.unhashable item.kind)
    | none =>
      match items.filter (fun item => !(item matches .string _)) with
      | item :: rest =>
        if texts.any (!fieldNames.contains ·) then .kind (.compare "<" "str" item.kind)
        else .kind (keyProblem item rest)
      | [] =>
        let unknown := unknownKeys texts.eraseDups
        if unknown.isEmpty then .kind (.spread "list") else .configuration (.unknownKeys unknown)

/-- The configuration that a JSON value describes. -/
def ofJson (value : Json) : Except Failure Configuration :=
  match value with
  | .object members => ofMembers members
  | .list items => .error (listFailure items)
  | other => .error (.noMember other.kind "copy")

/-- A path with a home directory in place of its first name, if that is a tilde, or a tilde with
the name of a user. -/
def expandHome (around : Surroundings) (path : Path) : Except Failure Path :=
  match path.slashes, path.names with
  | 0, name :: rest =>
    match name.toList with
    | ['~'] => .ok ((Path.ofText around.home).join rest)
    | '~' :: user =>
      match around.accounts.lookup (String.ofList user) with
      | some home => .ok ((Path.ofText home).join rest)
      | none => .error .noHome
    | _ => .ok path
  | _, _ => .ok path

/-- The directory for charts, if one is configured. -/
def outputDirectory (around : Surroundings) (config : Configuration) :
    Except Failure (Option Path) := do
  let chart ← config.chart.require "output_dir"
  if !chart.outputDir.isGiven then return none
  match chart.outputDir with
  | .string path => return some (← expandHome around (Path.ofText path))
  | other => throw (.kind (.path other.kind))

/-- The name of a configuration file in the current directory. -/
def fileName : String := "complexity_cli_config.json"

/-- The paths where a configuration is looked for, in this order: the path that was given,
the current directory and the home directory. -/
def candidates (around : Surroundings) (given : Option String) : List String :=
  (match given with
    | some path => if path = "" then [] else [(Path.ofText path).text]
    | none => []) ++
  [Action.locationText (around.current.location ++ [fileName]),
    ((Path.ofText around.home).join ["." ++ fileName]).text]

/-- What a candidate holds: nothing if it is not there, cannot be opened or is not JSON. -/
def tryCandidate (around : Surroundings) (tree : FileTree) (path : String) :
    Except Failure (Option Json) :=
  match tree.exists? around.current path with
  | .error problem => .error (.file problem)
  | .ok false => .ok none
  | .ok true =>
    match tree.read around.current path with
    | .error _ => .ok none
    | .ok bytes =>
      match textOfBytes bytes with
      | .error problem => .error (.encoding problem)
      | .ok text =>
        match Json.read around.nesting text.toList with
        | .ok value => .ok (some value)
        | .error .malformed => .ok none
        | .error (.tooManyDigits count) => .error (.arithmetic (.tooManyDigits count))
        | .error (.nestedTooDeep container) => .error (.nestedTooDeep container)

/-- The value of the first candidate that holds one, and the empty object if none does. -/
def search (around : Surroundings) (tree : FileTree) : List String → Except Failure Json
  | [] => .ok (.object [])
  | path :: rest => do
    match ← tryCandidate around tree path with
    | some value => return value
    | none => search around tree rest

/-- The configuration value for a session. The current directory must be there, even if the path
that was given does not start at it. -/
def load (given : Option String) : Action Json := do
  let around ← Action.surroundings
  let session ← Action.current
  if session.files.get? around.current.location = some .directory then
    Action.lift (search around session.files (candidates around given))
  else Action.fail (.file .noCurrentDirectory)

end Configuration

end OrderOfGrowth

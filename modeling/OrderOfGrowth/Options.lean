import OrderOfGrowth.Configuration

/-!
# Options of a command

The language and the configuration that a command works with. A language that is asked for
counts more than the configured one; the ending of a file is only looked at later, if
neither is there.
-/

namespace OrderOfGrowth

/-- What a command works with. -/
structure Options where
  language : Option String
  debug : Json
  config : Configuration

namespace Language

/-- The language that goes by a name. An unknown name gives the standard language and leaves
a warning. -/
def resolveLogged (name : String) : Action Language :=
  match ofName? name with
  | some language => return language
  | none => do
    Action.log .warning (fallbackNotice name) []
    return standard

end Language

namespace Options

/-- The language that is asked for, else the configured one, else none. -/
def chooseLanguage (asked : Option String) (config : Configuration) : Action (Option Language) := do
  let name := asked.getD ""
  if name ≠ "" then
    Action.log .debug ("Resolving language from override: " ++ name) []
    return some (← Language.resolveLogged name)
  else if config.defaultLanguage.isGiven then
    Action.log .debug
      ("Using language from config: " ++ String.ofList config.defaultLanguage.display) []
    match config.defaultLanguage with
    | .string name => return some (← Language.resolveLogged name)
    | other => Action.fail (.noMember other.kind "strip")
  else return none

/-- Sets logging up, loads the configuration and chooses the language. -/
def resolve (language config : Option String) (debug verbose : Bool) (logFile : Option String) :
    Action Options := do
  Action.configureLogging debug verbose logFile
  let given := config.getD ""
  Action.log .debug
    ("Loading config file: " ++ if given = "" then "default locations" else given) []
  let configured ← Action.lift (Configuration.ofJson (← Configuration.load config))
  let configured := if debug then { configured with debug := .bool true } else configured
  let chosen := (← chooseLanguage language configured).map Language.id
  Action.log .info "Options resolved" [("language", chosen)]
  return ⟨chosen, configured.debug, configured⟩

/-- The language of a source: the chosen one, else that of the ending of its path, else the
standard language. The standard input has no ending. -/
def languageFor (chosen : Option String) (path : String) : String :=
  let name := chosen.getD ""
  if name ≠ "" then name
  else
    let inferred := if path = inputPath then none else Language.ofPath? path
    (inferred.getD Language.standard).id

/-- The memory that was observed, or an estimate from the output of the program. Zero counts
as not observed. -/
def observedMemory (memory : Option Int) (outputFile : Option String) : Action (Option Int) := do
  let _ ← Action.lift (requireNonNegative "Memory" (memory.map .int))
  let path := outputFile.getD ""
  if memory.getD 0 = 0 ∧ path ≠ "" then return some (estimateMemory (← Source.read path))
  else return memory

/-- The memory limit that was asked for, else the configured one. -/
def memoryLimit (asked : Option Int) (config : Configuration) : Except Failure Json := do
  let _ ← requireNonNegative "Memory limit" (asked.map .int)
  match asked with
  | some limit => return .int limit
  | none => return config.memoryLimit

end Options

end OrderOfGrowth

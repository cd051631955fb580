import OrderOfGrowth.Keyed
import OrderOfGrowth.Text.Search

/-!
# Log records

A record has a level, a message and up to three fields of the analysis it belongs to. In a
log file the fields stand in brackets in front of the time, the level and the message.
-/

namespace OrderOfGrowth

/-- How serious a record is. -/
inductive LogLevel where
  | debug
  | info
  | warning
  | error
  deriving DecidableEq

namespace LogLevel

/-- The name of a level. -/
def name : LogLevel → String
  | .debug => "DEBUG"
  | .info => "INFO"
  | .warning => "WARNING"
  | .error => "ERROR"

end LogLevel

/-- A log record with the fields that were active when it was made. -/
structure LogRecord where
  level : LogLevel
  message : String
  language : Option String
  source : Option String
  complexity : Option String
  deriving DecidableEq

/-- Values for fields, of which those that are missing leave the field as it is. -/
abbrev FieldUpdates := List (String × Option String)

/-- The fields after updates. -/
def updateFields (fields : Keyed String) (updates : FieldUpdates) : Keyed String :=
  updates.foldl
    (fun fields (name, value) =>
      match value with
      | some value => fields.store name value
      | none => fields)
    fields

namespace LogRecord

/-- A record with the active fields. -/
def make (fields : Keyed String) (level : LogLevel) (message : String) : LogRecord :=
  ⟨level, message, fields.lookup "language", fields.lookup "source", fields.lookup "complexity"⟩

/-- A field as it stands in brackets; an empty one is left out. -/
def fieldText (name : String) (value : Option String) : List (List Char) :=
  match value with
  | some value => if value = "" then [] else [(name ++ "=" ++ value).toList]
  | none => []

/-- The line of a record in a log file, with its line feed. -/
def line (record : LogRecord) (time : String) : List Char :=
  let fields := fieldText "language" record.language ++ fieldText "source" record.source ++
    fieldText "complexity" record.complexity
  let body := (time ++ " - " ++ record.level.name ++ " - " ++ record.message).toList
  (if fields.isEmpty then body
    else '[' :: (Text.joinWith [',', ' '] fields ++ ']' :: ' ' :: body)) ++ ['\n']

end LogRecord

end OrderOfGrowth

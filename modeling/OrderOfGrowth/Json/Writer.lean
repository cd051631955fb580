import OrderOfGrowth.Json.Value

/-!
# Writing JSON

Values are written either on one line or with one member a line, indented by two spaces for
each level. Characters outside the first 128 are written as they are.
-/

namespace OrderOfGrowth.Json

/-- One character of a string between quotation marks. -/
def writeChar (c : Char) : List Char :=
  if c = '"' then ['\\', '"']
  else if c = '\\' then ['\\', '\\']
  else if c = '\n' then ['\\', 'n']
  else if c = '\r' then ['\\', 'r']
  else if c = '\t' then ['\\', 't']
  else if c = '\x08' then ['\\', 'b']
  else if c = '\x0c' then ['\\', 'f']
  else if c.toNat < 0x20 then '\\' :: 'u' :: Text.hexDigits 4 c.toNat
  else [c]

/-- A string with its quotation marks. -/
def writeString (s : String) : List Char := '"' :: (s.toList.flatMap writeChar ++ ['"'])

/-- A number; the infinities and the undefined value are written as words. -/
def writeQuantity : Quantity → List Char
  | .int n => integerText n
  | .float .undefined => "NaN".toList
  | .float (.infinite false) => "Infinity".toList
  | .float (.infinite true) => "-Infinity".toList
  | .float x => x.text
  | .truth true => "true".toList
  | .truth false => "false".toList

mutual

/-- A value on one line, with a blank behind every comma and colon. -/
def write : Json → List Char
  | .null => "null".toList
  | .number q => writeQuantity q
  | .string s => writeString s
  | .list items => '[' :: (writeItems items ++ [']'])
  | .object members => '\x7b' :: (writeMembers members ++ ['\x7d'])

/-- The items of a list on one line. -/
def writeItems : List Json → List Char
  | [] => []
  | [item] => item.write
  | item :: rest => item.write ++ ',' :: ' ' :: writeItems rest

/-- The members of an object on one line. -/
def writeMembers : List (String × Json) → List Char
  | [] => []
  | [(name, value)] => writeString name ++ ':' :: ' ' :: value.write
  | (name, value) :: rest =>
    writeString name ++ ':' :: ' ' :: (value.write ++ ',' :: ' ' :: writeMembers rest)

end

/-- An object of values without inner structure, one member a line. -/
def writeLines (members : List (String × Json)) : List Char :=
  if members.isEmpty then ['\x7b', '\x7d']
  else
    let line (member : String × Json) : List Char :=
      ' ' :: ' ' :: (writeString member.1 ++ ':' :: ' ' :: member.2.write)
    '\x7b' :: '\n' :: (Text.joinWith [',', '\n'] (members.map line) ++ ['\n', '\x7d'])

end OrderOfGrowth.Json

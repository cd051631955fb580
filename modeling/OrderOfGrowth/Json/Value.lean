import OrderOfGrowth.Keyed
import OrderOfGrowth.Number.Quantity
import OrderOfGrowth.Text.Quoted
import OrderOfGrowth.Text.Search

/-!
# JSON values

The values of configuration files and of machine-readable output. Whole numbers and doubles
are kept apart, and objects keep the order of their members.
-/

namespace OrderOfGrowth

/-- A JSON value. -/
inductive Json where
  | null
  | number (value : Quantity)
  | string (value : String)
  | list (items : List Json)
  | object (members : List (String × Json))

namespace Json

/-- A truth value. -/
def bool (value : Bool) : Json := .number (.truth value)

/-- A whole number. -/
def int (value : Int) : Json := .number (.int value)

/-- A number that may be missing. -/
def ofOption (value : Option Quantity) : Json :=
  match value with
  | some q => .number q
  | none => .null

/-- Whether a value counts as given: not null, not zero, not empty. -/
def isGiven : Json → Bool
  | .null => false
  | .number q => q.isGiven
  | .string s => !s.toList.isEmpty
  | .list items => !items.isEmpty
  | .object members => !members.isEmpty

/-- The name of the kind of a value in messages about values of a wrong kind. -/
def kind : Json → String
  | .null => "NoneType"
  | .number (.int _) => "int"
  | .number (.float _) => "float"
  | .number (.truth _) => "bool"
  | .string _ => "str"
  | .list _ => "list"
  | .object _ => "dict"

mutual

/-- Whether a value has a text: all its numbers must have one. -/
def isWritable : Json → Bool
  | .number q => q.isWritable
  | .list items => areWritable items
  | .object members => haveWritable members
  | _ => true

/-- Whether all items have a text. -/
def areWritable : List Json → Bool
  | [] => true
  | item :: rest => item.isWritable && areWritable rest

/-- Whether all members have a value with a text. -/
def haveWritable : List (String × Json) → Bool
  | [] => true
  | (_, value) :: rest => value.isWritable && haveWritable rest

end

mutual

/-- The text of a value inside a message, with quoted strings. -/
def shown : Json → List Char
  | .null => ['N', 'o', 'n', 'e']
  | .number q => q.text
  | .string s => Text.quoted s.toList
  | .list items => '[' :: (shownItems items ++ [']'])
  | .object members => '\x7b' :: (shownMembers members ++ ['\x7d'])

/-- The texts of the items, parted by commas. -/
def shownItems : List Json → List Char
  | [] => []
  | [item] => item.shown
  | item :: rest => item.shown ++ ',' :: ' ' :: shownItems rest

/-- The texts of the members, parted by commas. -/
def shownMembers : List (String × Json) → List Char
  | [] => []
  | [(name, value)] => Text.quoted name.toList ++ ':' :: ' ' :: value.shown
  | (name, value) :: rest =>
    Text.quoted name.toList ++ ':' :: ' ' :: (value.shown ++ ',' :: ' ' :: shownMembers rest)

end

/-- The text of a value at the end of a message: strings stand without quotation marks. -/
def display : Json → List Char
  | .string s => s.toList
  | value => value.shown

end Json

end OrderOfGrowth

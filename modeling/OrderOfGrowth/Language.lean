import OrderOfGrowth.Failure
import OrderOfGrowth.Keyed
import OrderOfGrowth.Path
import OrderOfGrowth.Text.Blank
import OrderOfGrowth.Text.LetterCase

/-!
# Programming languages

The languages that can be analysed, the other names they go by and the endings of their
files. A name counts in any letter case and with blanks around it.
-/

namespace OrderOfGrowth

/-- A programming language whose sources can be analysed. -/
inductive Language where
  | javascript
  | typescript
  | python
  | java
  | c
  | cpp
  | csharp
  | php
  deriving DecidableEq

namespace Language

/-- All languages in the order in which they are listed. -/
def all : List Language := [.javascript, .typescript, .python, .java, .c, .cpp, .csharp, .php]

/-- Every language is listed. -/
theorem mem_all (language : Language) : language ∈ all := by cases language <;> decide

/-- The identifier of a language. -/
def id : Language → String
  | .javascript => "javascript"
  | .typescript => "typescript"
  | .python => "python"
  | .java => "java"
  | .c => "c"
  | .cpp => "cpp"
  | .csharp => "csharp"
  | .php => "php"

/-- The language that is taken when none is known. -/
def standard : Language := .javascript

/-- The language with an identifier. -/
def ofId? (name : String) : Option Language := all.find? (·.id == name)

/-- An identifier finds its own language. -/
theorem ofId?_id (language : Language) : ofId? language.id = some language := by
  cases language <;> decide

/-- Other names of languages. -/
def aliases : Keyed Language :=
  [("js", .javascript), ("node", .javascript), ("ts", .typescript), ("py", .python),
   ("c++", .cpp), ("cxx", .cpp), ("c#", .csharp), ("cs", .csharp)]

/-- The endings of source files. -/
def extensions : Keyed Language :=
  [(".js", .javascript), (".mjs", .javascript), (".cjs", .javascript), (".ts", .typescript),
   (".tsx", .typescript), (".py", .python), (".java", .java), (".c", .c), (".h", .c),
   (".cpp", .cpp), (".cc", .cpp), (".cxx", .cpp), (".hpp", .cpp), (".cs", .csharp),
   (".php", .php)]

/-- Texts in ascending order of their code points. -/
def sorted (texts : List String) : List String := texts.mergeSort (fun a b => decide (a ≤ b))

/-- The form in which names are compared: without blanks around it and in lower case. -/
def normalName (name : String) : String := String.ofList (Text.lowercase (Text.trim name.toList))

/-- The language that goes by a name: an identifier or an alias. -/
def ofName? (name : String) : Option Language :=
  match ofId? (normalName name) with
  | some language => some language
  | none => Keyed.lookup (normalName name) aliases

/-- The failure for a name that no language goes by. -/
def unsupported (name : String) : Failure :=
  .configuration (.unsupportedLanguage name (all.map id) (sorted aliases.keys))

/-- The language that goes by a name, which must be known. -/
def ofName (name : String) : Except Failure Language :=
  match ofName? name with
  | some language => .ok language
  | none => .error (unsupported name)

/-- The language that goes by a name, and the standard language for unknown names. -/
def resolve (name : String) : Language := (ofName? name).getD standard

/-- What is reported when a name is unknown. -/
def fallbackNotice (name : String) : String :=
  "Unsupported language '" ++ name ++ "', using " ++ standard.id ++ " patterns"

/-- The language of a file after the ending of its name. -/
def ofPath? (path : String) : Option Language :=
  if path = "" then none
  else Keyed.lookup (String.ofList (Text.lowercase (Path.suffixOf path))) extensions

end Language

end OrderOfGrowth

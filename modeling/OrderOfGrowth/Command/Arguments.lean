import OrderOfGrowth.Keyed
import OrderOfGrowth.Text.Search

/-!
# Command-line arguments

The arguments of a command are options and operands in any order. Behind the argument `--`
there are only operands. An option with a value takes it from behind an equals sign, from the
rest of its own argument, or from the next argument, whatever that looks like. Of options that
are given more than once the last counts.
-/

namespace OrderOfGrowth

/-- What an option does: it takes a value, or it sets a switch. -/
inductive OptionKind where
  | value
  | switch (state : Bool)

/-- An option: how it is written, the name under which it is kept, and what it does. A long
option starts with two dashes, a short one is a dash and one character. -/
structure OptionForm where
  spelling : String
  name : String
  kind : OptionKind

/-- The arguments of a command. -/
structure Arguments where
  values : Keyed String
  switches : Keyed Bool
  operands : List String

namespace Arguments

/-- No arguments. -/
def empty : Arguments := ⟨[], [], []⟩

/-- The arguments with a value for an option. -/
def withValue (found : Arguments) (name value : String) : Arguments :=
  { found with values := found.values.store name value }

/-- The arguments with a switch set. -/
def withSwitch (found : Arguments) (name : String) (state : Bool) : Arguments :=
  { found with switches := found.switches.store name state }

/-- The arguments with one more operand. -/
def withOperand (found : Arguments) (operand : String) : Arguments :=
  { found with operands := found.operands ++ [operand] }

/-- Whether a switch is on; switches are off at first. -/
def isOn (found : Arguments) (name : String) : Bool := (found.switches.lookup name).getD false

/-- What a single argument leaves: everything is known, or the option `name` still needs its
value from the next argument. -/
inductive Progress where
  | complete (found : Arguments)
  | open (found : Arguments) (name : String)

/-- The option with a spelling. -/
def formOf? (forms : List OptionForm) (spelling : List Char) : Option OptionForm :=
  forms.find? (·.spelling.toList == spelling)

/-- Short options in one argument, without its dash. What stands behind an option with a value
is the value. -/
def readCluster (forms : List OptionForm) (found : Arguments) : List Char → Option Progress
  | [] => some (.complete found)
  | c :: rest =>
    match formOf? forms ['-', c] with
    | none => none
    | some form =>
      match form.kind with
      | .switch state => readCluster forms (found.withSwitch form.name state) rest
      | .value =>
        if rest.isEmpty then some (.open found form.name)
        else some (.complete (found.withValue form.name (String.ofList rest)))

/-- A long option in one argument. A switch takes no value. -/
def readLong (form : OptionForm) (found : Arguments) (attached : Option String) :
    Option Progress :=
  match form.kind, attached with
  | .value, some value => some (.complete (found.withValue form.name value))
  | .value, none => some (.open found form.name)
  | .switch state, none => some (.complete (found.withSwitch form.name state))
  | .switch _, some _ => none

/-- What stands behind the first equals sign, if there is one. -/
def attachedValue (argument : List Char) : Option String :=
  match argument.dropWhile (· != '=') with
  | _ :: value => some (String.ofList value)
  | [] => none

/-- One argument that is an option. -/
def readOption (forms : List OptionForm) (found : Arguments) (argument : List Char) :
    Option Progress :=
  if ['-', '-'].isPrefixOf argument then
    match formOf? forms (argument.takeWhile (· != '=')) with
    | some form => readLong form found (attachedValue argument)
    | none => none
  else readCluster forms found (argument.drop 1)

/-- Whether an argument is an option: a single dash is an operand. -/
def isOption (argument : List Char) : Bool := ['-'].isPrefixOf argument && 1 < argument.length

/-- The arguments of a command, behind those that are found already; none if an option is not
known, or lacks its value, or has a value that it does not take. -/
def readFrom (forms : List OptionForm) (found : Arguments) : List String → Option Arguments
  | [] => some found
  | argument :: rest =>
    if argument = "--" then some { found with operands := found.operands ++ rest }
    else if isOption argument.toList then
      match readOption forms found argument.toList with
      | none => none
      | some (.complete next) => readFrom forms next rest
      | some (.open next name) =>
        match rest with
        | [] => none
        | value :: rest => readFrom forms (next.withValue name value) rest
    else readFrom forms (found.withOperand argument) rest

/-- The arguments of a command. -/
def read (forms : List OptionForm) (arguments : List String) : Option Arguments :=
  readFrom forms empty arguments

end Arguments

end OrderOfGrowth

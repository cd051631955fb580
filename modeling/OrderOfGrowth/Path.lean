import OrderOfGrowth.Text.Search

/-!
# Paths

A path is a root and a row of names. Reading a path drops empty names and names that are a
single dot, but keeps pairs of dots; exactly two slashes at the start are a root of their own.
-/

namespace OrderOfGrowth

/-- A path in normal form: `slashes` is the number of slashes of its root, 0 for a path that
starts at the current directory. -/
structure Path where
  slashes : Nat
  names : List String
  deriving DecidableEq

namespace Path

/-- The number of slashes that a root is written with, given the slashes at the start. -/
def rootSlashes (text : List Char) : Nat :=
  match (text.takeWhile (· == '/')).length with
  | 0 => 0
  | 2 => 2
  | _ => 1

/-- The names of a written path. -/
def namesOf (text : List Char) : List String :=
  ((Text.splitAt '/' text).filter fun name => name != [] && name != ['.']).map String.ofList

/-- The path that a text writes. -/
def ofText (text : String) : Path := ⟨rootSlashes text.toList, namesOf text.toList⟩

/-- A path as text; the empty path is a single dot. -/
def text (path : Path) : String :=
  let body := Text.joinWith ['/'] (path.names.map String.toList)
  if path.slashes = 0 ∧ path.names = [] then "."
  else String.ofList (List.replicate path.slashes '/' ++ body)

/-- The path with further names behind it. -/
def join (path : Path) (names : List String) : Path := { path with names := path.names ++ names }

/-- The last name of a path, empty if there is none. -/
def lastName (path : Path) : List Char := (path.names.getLast?.getD "").toList

/-- What a name has from its last dot on. A dot at the very start or end of the name does
not count. -/
def nameSuffix (name : List Char) : List Char :=
  let ending := (name.reverse.takeWhile (· != '.')).reverse
  if ending.length = 0 ∨ name.length ≤ ending.length + 1 then [] else '.' :: ending

/-- The suffix of the last name of a written path. -/
def suffixOf (text : String) : List Char := nameSuffix (ofText text).lastName

/-- The path of the directory that holds the last name. -/
def parent (path : Path) : Path := { path with names := path.names.dropLast }

end Path

end OrderOfGrowth

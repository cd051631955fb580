import OrderOfGrowth.Failure
import OrderOfGrowth.Path
import OrderOfGrowth.Text.FileName

/-!
# File trees

A file tree says what is at each location, a row of names from the root: a directory, a file
with its bytes, or nothing. There are no links. Written paths are followed name by name from the
place where a process stands; every name that is passed must be a directory that the process may
search. The main statements say what is found after something has been put in place.
-/

namespace OrderOfGrowth

/-- A row of names from the root. -/
abbrev Location := List String

/-- What can be at a location. -/
inductive FileNode where
  | directory
  | file (bytes : List UInt8)
  deriving DecidableEq

/-- The contents of a file system. -/
structure FileTree where
  nodes : List (Location × FileNode)

/-- What a process needs a place for: a directory to pass it, a file or directory to read it, and
any place to change what is there. -/
inductive Access where
  | search
  | read
  | write
  deriving DecidableEq

/-- Where a process stands in a file system, and what it may not do there. A current directory
that is not in the tree has been removed. -/
structure Standpoint where
  location : Location
  denied : Access → Location → Bool

namespace Standpoint

/-- A place from which a process may do everything. -/
def free (location : Location) : Standpoint := ⟨location, fun _ _ => false⟩

/-- Whether a process may not put anything new at a location: it would change the directory. -/
def cannotCreate (here : Standpoint) (location : Location) : Bool :=
  here.denied .write location || here.denied .write location.dropLast

end Standpoint

namespace FileTree

/-- What stands first for a location in a list of nodes. -/
def findNode (location : Location) : List (Location × FileNode) → Option FileNode
  | [] => none
  | (place, node) :: rest => if place = location then some node else findNode location rest

/-- What is at a location. The root is always a directory. -/
def get? (tree : FileTree) (location : Location) : Option FileNode :=
  if location = [] then some .directory else findNode location tree.nodes

/-- The nodes with `node` at a location, in place of what was there. -/
def putNode (location : Location) (node : FileNode) :
    List (Location × FileNode) → List (Location × FileNode)
  | [] => [(location, node)]
  | (place, old) :: rest =>
    if place = location then (place, node) :: rest else (place, old) :: putNode location node rest

/-- The tree with `node` at a location. -/
def put (tree : FileTree) (location : Location) (node : FileNode) : FileTree :=
  ⟨putNode location node tree.nodes⟩

/-- What was put at a location is found there. -/
theorem get?_put_self (tree : FileTree) {location : Location} (hne : location ≠ [])
    (node : FileNode) : (tree.put location node).get? location = some node := by
  have h : ∀ nodes, findNode location (putNode location node nodes) = some node := by
    intro nodes
    induction nodes with
    | nil => simp [putNode, findNode]
    | cons entry rest ih =>
      obtain ⟨place, old⟩ := entry
      simp only [putNode]
      split <;> simp_all [findNode]
  simp [get?, put, hne, h]

/-- Putting something at a location leaves all other locations as they are. -/
theorem get?_put_of_ne (tree : FileTree) {location other : Location} (hne : other ≠ location)
    (node : FileNode) : (tree.put location node).get? other = tree.get? other := by
  have h : ∀ nodes, findNode other (putNode location node nodes) = findNode other nodes := by
    intro nodes
    induction nodes with
    | nil => simp [putNode, findNode, hne.symm]
    | cons entry rest ih =>
      obtain ⟨place, old⟩ := entry
      simp only [putNode]
      split
      · simp_all [findNode, hne.symm]
      · simp [findNode, ih]
  simp [get?, put, h]

/-- How many bytes a name may have. -/
def maxNameBytes : Nat := 255

/-- How many bytes a written path may have. -/
def maxPathBytes : Nat := 4095

/-- Why a walk along names stops. -/
inductive Obstacle where
  | missing
  | notDirectory
  | denied
  | tooLong

/-- The location reached from `here` along the names. Each name that is passed must be a
directory that may be searched, and no name that is looked up may be too long; what is at the end
is not looked at. -/
def walk (tree : FileTree) (current : Standpoint) :
    Location → List String → Except Obstacle Location
  | here, [] => .ok here
  | here, name :: rest =>
    match tree.get? here with
    | none => .error .missing
    | some (.file _) => .error .notDirectory
    | some .directory =>
      if current.denied .search here then .error .denied
      else if name = "." then walk tree current here rest
      else if name = ".." then walk tree current here.dropLast rest
      else if maxNameBytes < (Text.nameBytes name.toList).length then .error .tooLong
      else walk tree current (here ++ [Text.plainName name]) rest

/-- The names of a written path, single dots included. -/
def stepsOf (path : String) : List String :=
  ((Text.splitAt '/' path.toList).filter (· != [])).map String.ofList

/-- Whether a written path starts at the root. -/
def isAbsolute (path : String) : Bool := ['/'].isPrefixOf path.toList

/-- Whether a written path ends with a slash, which asks for a directory. -/
def endsInSlash (path : String) : Bool := path.toList.getLast? == some '/'

/-- The location that a written path leads to from the current directory. -/
def locate (tree : FileTree) (current : Standpoint) (path : String) :
    Except FileProblem Location :=
  if let some run := Text.unnamedRun? path.toList then .error (.unencodable run)
  else if path.toList.contains '\x00' then .error .nullByte
  else if path = "" then .error (.missing path)
  else if maxPathBytes < (Text.nameBytes path.toList).length then .error (.nameTooLong path)
  else
    match tree.walk current (if isAbsolute path then [] else current.location) (stepsOf path) with
    | .ok location => .ok location
    | .error .missing => .error (.missing path)
    | .error .notDirectory => .error (.notDirectory path)
    | .error .denied => .error (.denied path)
    | .error .tooLong => .error (.nameTooLong path)

/-- Whether there is anything at a path. This cannot be said of names that are too long, nor below
a directory that may not be searched. -/
def exists? (tree : FileTree) (current : Standpoint) (path : String) : Except FileProblem Bool :=
  match tree.locate current path with
  | .ok location => .ok (tree.get? location).isSome
  | .error (.nameTooLong path) => .error (.nameTooLong path)
  | .error (.denied path) => .error (.denied path)
  | .error _ => .ok false

/-- The bytes of the file at a path. -/
def read (tree : FileTree) (current : Standpoint) (path : String) :
    Except FileProblem (List UInt8) := do
  let location ← tree.locate current path
  match tree.get? location with
  | none => throw (.missing path)
  | some .directory =>
    if current.denied .read location then throw (.denied path) else throw (.isDirectory path)
  | some (.file bytes) =>
    if endsInSlash path then throw (.notDirectory path)
    else if current.denied .read location then throw (.denied path)
    else return bytes

/-- The location of a file that is about to be written: it may be new, but its directory must
be there and it must not be a directory itself. -/
def target (tree : FileTree) (current : Standpoint) (path : String) :
    Except FileProblem Location := do
  let location ← tree.locate current path
  if endsInSlash path then throw (.isDirectory path)
  match tree.get? location with
  | some .directory => throw (.isDirectory path)
  | some (.file _) =>
    if current.denied .write location then throw (.denied path) else return location
  | none => if current.cannotCreate location then throw (.denied path) else return location

/-- The first of the paths where nothing is yet, and the tree with an empty file there. -/
def createFirst (tree : FileTree) (current : Standpoint) :
    List String → Except FileProblem (String × FileTree)
  | [] => .error .noFreshName
  | path :: rest => do
    let location ← tree.locate current path
    if (tree.get? location).isSome then createFirst tree current rest
    else return (path, tree.put (← tree.target current path) (.file []))

/-- The tree with further bytes at the end of the file at a location. -/
def append (tree : FileTree) (location : Location) (bytes : List UInt8) : FileTree :=
  match tree.get? location with
  | some (.file old) => tree.put location (.file (old ++ bytes))
  | _ => tree.put location (.file bytes)

/-- The tree with a new directory at a path, or as it is if there is a directory already. -/
def ensureDirectory (tree : FileTree) (current : Standpoint) (path : String) :
    Except FileProblem FileTree := do
  let location ← tree.locate current path
  match tree.get? location with
  | none =>
    if current.cannotCreate location then throw (.denied path)
    else return tree.put location .directory
  | some .directory => return tree
  | some (.file _) => throw (.exists path)

/-- The tree with the directory at a path and, first, with every missing directory above it.
`count` bounds the number of directories above. -/
def ensureDirectories (current : Standpoint) :
    Nat → FileTree → Path → Except FileProblem FileTree
  | 0, tree, path => tree.ensureDirectory current path.text
  | count + 1, tree, path =>
    match tree.ensureDirectory current path.text with
    | .error (.missing _) =>
      if path.names = [] then .error (.missing path.text)
      else do
        let above ← ensureDirectories current count tree path.parent
        above.ensureDirectory current path.text
    | result => result

end FileTree

end OrderOfGrowth

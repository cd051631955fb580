import OrderOfGrowth.LanguageSigns

/-!
# Scanning a source

A source is scanned line by line for the starts of loops and for closing braces, and as a
whole for recursive definitions. A line starts a loop if its lower-case form contains a loop
token and no comment mark; it closes a block if it has more closing than opening braces.
-/

namespace OrderOfGrowth

/-- The texts that mark a line as a comment. -/
def commentMarks : List (List Char) := [['/', '/'], ['*']]

/-- Whether a line in lower case starts a loop. -/
def startsLoop (tokens : List (List Char)) (line : List Char) : Bool :=
  !commentMarks.any (Text.occursIn · line) && tokens.any (Text.occursIn · line)

/-- Whether a line has more closing than opening braces. -/
def closesBlock (line : List Char) : Bool := line.count '\x7b' < line.count '\x7d'

/-- How far a scan has come: the loops found, the loops open now, the most that were open at
a time, and whether the scan is inside a loop. -/
structure Walk where
  loops : Nat
  depth : Nat
  deepest : Nat
  inside : Bool
  deriving DecidableEq

namespace Walk

/-- A scan before the first line. -/
def start : Walk := ⟨0, 0, 0, false⟩

/-- A loop starts. -/
def enter (walk : Walk) : Walk where
  loops := walk.loops + 1
  depth := walk.depth + 1
  deepest := max walk.deepest (walk.depth + 1)
  inside := true

/-- A block is closed; the last open loop ends being inside. -/
def leave (walk : Walk) : Walk :=
  { walk with depth := walk.depth - 1, inside := walk.inside && walk.depth - 1 != 0 }

/-- One line, given by whether it starts a loop and whether it closes a block. A start comes
before a close on the same line, and a close outside of loops means nothing. -/
def step (walk : Walk) (starts closes : Bool) : Walk :=
  let entered := if starts then walk.enter else walk
  if closes && entered.inside then entered.leave else entered

/-- All lines of a source. -/
def overLines (tokens : List (List Char)) (lines : List (List Char)) : Walk :=
  lines.foldl
    (fun walk line => walk.step (startsLoop tokens (Text.lowercase line)) (closesBlock line)) start

end Walk

/-- What a scan finds in a source. -/
structure ScanReport where
  language : String
  loopCount : Int
  maxNesting : Int
  hasRecursion : Bool
  deriving DecidableEq

namespace ScanReport

/-- Whether a loop was found inside a loop. -/
def hasNestedLoop (report : ScanReport) : Bool := 1 < report.maxNesting

end ScanReport

namespace LanguageSigns

/-- The tokens as texts. -/
def tokens (signs : LanguageSigns) : List (List Char) := signs.loopTokens.map String.toList

/-- Whether a recursive definition is found in a source. -/
def hasRecursion (signs : LanguageSigns) (source : List Char) : Bool :=
  signs.recursionPatterns.any (·.isFoundIn source)

end LanguageSigns

namespace SignTable

/-- Scans a source with the signs of a language. Nothing is found in an empty source. -/
def scan (table : SignTable) (source : Option String) (language : Option String) : ScanReport :=
  let resolved := table.resolve language
  let text := (source.getD "").toList
  if text.isEmpty then ⟨resolved, 0, 0, false⟩
  else
    let signs := table.signs (some resolved)
    let walk := Walk.overLines signs.tokens (Text.lines text)
    ⟨resolved, walk.loops, walk.deepest, signs.hasRecursion text⟩

end SignTable

end OrderOfGrowth

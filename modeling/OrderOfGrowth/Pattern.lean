/-!
# Search patterns

A search pattern is a row of pieces, each a kind of character with a number of repetitions.
Letters are compared without regard to case, among the first 128 characters only. `Spells`
says what a pattern means and `foundIn` decides whether a stretch of a text has that
meaning; the matcher tries the repetitions of each piece in turn and gives up none of them. A
written pattern that is more than a row of pieces (with choices, groups, sets, anchors or counts)
is not read at all.
-/

namespace OrderOfGrowth

/-- A kind of character. -/
inductive Atom where
  | literal (c : Char)
  | any
  | word
  | blank
  deriving DecidableEq

/-- How often a kind of character may occur in a row. -/
inductive Repetition where
  | once
  | atMostOnce
  | anyNumber
  | atLeastOnce
  deriving DecidableEq

/-- One piece of a search pattern. -/
structure Piece where
  atom : Atom
  repetition : Repetition
  deriving DecidableEq

/-- Whether a character is a letter or digit of the first 128 characters or an underscore. -/
def isWordChar (c : Char) : Bool := c.isAlphanum || c == '_'

/-- Whether a character is a space, a tab, a line feed, a carriage return, a vertical tab or
a form feed. -/
def isGap (c : Char) : Bool :=
  c == ' ' || c == '\t' || c == '\n' || c == '\r' || c == '\x0b' || c == '\x0c'

namespace Atom

/-- Whether a character is of the kind. -/
def accepts : Atom → Char → Bool
  | .literal c, d => c.toLower == d.toLower
  | .any, d => d != '\n'
  | .word, d => isWordChar d
  | .blank, d => isGap d

end Atom

namespace Repetition

/-- Whether a run of this length is allowed. -/
def allows : Repetition → Nat → Bool
  | .once, n => n == 1
  | .atMostOnce, n => n ≤ 1
  | .anyNumber, _ => true
  | .atLeastOnce, n => 1 ≤ n

end Repetition

/-- What a pattern means: a text spells a row of pieces if it can be cut into runs, one for
each piece, of allowed lengths and of accepted characters. -/
inductive Spells : List Piece → List Char → Prop where
  | nil : Spells [] []
  | cons {piece : Piece} {pieces : List Piece} {run rest : List Char}
      (length : piece.repetition.allows run.length = true)
      (accepted : ∀ c ∈ run, piece.atom.accepts c = true)
      (spelled : Spells pieces rest) : Spells (piece :: pieces) (run ++ rest)

namespace Piece

/-- Whether the text begins with a character of the kind and goes on as `next` asks. -/
def takesOne (atom : Atom) (next : List Char → Bool) : List Char → Bool
  | [] => false
  | c :: rest => atom.accepts c && next rest

/-- Whether the text begins with any number of characters of the kind and goes on as `next`
asks. -/
def takesMany (atom : Atom) (next : List Char → Bool) : List Char → Bool
  | [] => next []
  | c :: rest => next (c :: rest) || (atom.accepts c && takesMany atom next rest)

/-- Whether the text begins with a run for the piece and goes on as `next` asks. -/
def takesRun (piece : Piece) (next : List Char → Bool) (text : List Char) : Bool :=
  match piece.repetition with
  | .once => takesOne piece.atom next text
  | .atMostOnce => next text || takesOne piece.atom next text
  | .anyNumber => takesMany piece.atom next text
  | .atLeastOnce => takesOne piece.atom (takesMany piece.atom next) text

end Piece

/-- Whether some beginning of the text spells the pieces. -/
def matchesStart : List Piece → List Char → Bool
  | [], _ => true
  | piece :: pieces, text => piece.takesRun (matchesStart pieces) text

/-- Whether some stretch of the text spells the pieces. -/
def foundIn (pieces : List Piece) : List Char → Bool
  | [] => matchesStart pieces []
  | c :: rest => matchesStart pieces (c :: rest) || foundIn pieces rest

/-- The characters that do not name a kind of character by themselves. -/
def patternMarks : List Char := ['^', '$', '*', '+', '?', '\x7b', '[', '\\', '|', '(', ')']

/-- The kind of character that a pattern names first, and the pattern behind it. A backslash
before `w` or `s` names the word characters or the gaps, before a character that is neither a
letter nor a digit that character itself. -/
def readAtom? : List Char → Option (Atom × List Char)
  | '\\' :: 'w' :: rest => some (.word, rest)
  | '\\' :: 's' :: rest => some (.blank, rest)
  | '\\' :: c :: rest => if c.isAlphanum then none else some (.literal c, rest)
  | '.' :: rest => some (.any, rest)
  | c :: rest => if patternMarks.contains c then none else some (.literal c, rest)
  | [] => none

/-- The number of repetitions that a pattern names first, and the pattern behind it. -/
def readRepetition : List Char → Repetition × List Char
  | '*' :: rest => (.anyNumber, rest)
  | '+' :: rest => (.atLeastOnce, rest)
  | '?' :: rest => (.atMostOnce, rest)
  | rest => (.once, rest)

/-- A repetition mark only takes characters away. -/
theorem length_readRepetition_le (text : List Char) :
    (readRepetition text).2.length ≤ text.length := by
  unfold readRepetition
  split <;> simp

/-- An atom takes at least one character away. -/
theorem length_readAtom?_lt {text rest : List Char} {atom : Atom}
    (h : readAtom? text = some (atom, rest)) : rest.length < text.length := by
  unfold readAtom? at h
  split at h
  all_goals try split at h
  all_goals
    cases h
    try
      simp only [List.length_cons]
      omega

/-- The pieces that a written pattern names, if it is a row of pieces. -/
def readPieces? (text : List Char) : Option (List Piece) :=
  if text.isEmpty then some []
  else
    match _h : readAtom? text with
    | none => none
    | some (atom, rest) =>
      (readPieces? (readRepetition rest).2).map (⟨atom, (readRepetition rest).1⟩ :: ·)
termination_by text.length
decreasing_by
  exact Nat.lt_of_le_of_lt (length_readRepetition_le rest) (length_readAtom?_lt ‹_›)

/-- A search pattern as it was written, with the pieces that it names. -/
structure Pattern where
  source : String
  pieces : List Piece
  readsAs : readPieces? source.toList = some pieces
  deriving DecidableEq

namespace Pattern

/-- The pattern that a text writes, if it is a row of pieces. -/
def ofSource? (source : String) : Option Pattern :=
  match h : readPieces? source.toList with
  | some pieces => some ⟨source, pieces, h⟩
  | none => none

/-- A pattern that is read keeps its written form. -/
theorem source_of_ofSource? {source : String} {pattern : Pattern}
    (h : ofSource? source = some pattern) : pattern.source = source := by
  unfold ofSource? at h
  split at h <;> cases h
  rfl

/-- Whether the pattern is found in a text. -/
def isFoundIn (pattern : Pattern) (text : List Char) : Bool := foundIn pattern.pieces text

end Pattern

end OrderOfGrowth

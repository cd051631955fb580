import OrderOfGrowth.Terminal.Width
import OrderOfGrowth.Text.Blank
import OrderOfGrowth.Text.Search

/-!
# Lines of a terminal

A text is broken into lines between words; a word that is longer than a whole line is cut, or
ends in dots. Lines are filled up with spaces on either side.
-/

namespace OrderOfGrowth.Terminal

/-- Whether a terminal takes a character for a command instead of showing it. -/
def isControl (c : Char) : Bool :=
  c == '\x07' || c == '\x08' || c == '\x0b' || c == '\x0c' || c == '\r'

/-- A text without the characters that a terminal takes for commands. -/
def printable (text : List Char) : List Char := text.filter (!isControl ·)

/-- How far apart the stops of the tabulator are. -/
def tabStop : Nat := 8

/-- The parts of a line between tabulators with spaces up to the next stop behind each part but
the last; `column` is the number of places before them. -/
def fillStops (column : Nat) : List (List Char) → List Char
  | [] => []
  | [last] => last
  | part :: rest =>
    let reached := column + width (part ++ [' '])
    let missing := (tabStop - reached % tabStop) % tabStop
    part ++ List.replicate (missing + 1) ' ' ++ fillStops (reached + missing) rest

/-- A line with spaces in place of tabulators. -/
def expandTabs (line : List Char) : List Char := fillStops 0 (Text.splitAt '\t' line)

/-- Whether a word that is being read has a visible character, and whether blanks follow it. -/
inductive WordState where
  | blank
  | solid
  | ended

/-- The words of a line behind the part `word` of one. A word has the blanks behind it, and the
first one also those before it. A line of blanks has no words. -/
def wordsFrom : WordState → List Char → List Char → List (List Char)
  | .blank, _, [] => []
  | _, word, [] => [word]
  | state, word, c :: rest =>
    match Text.isBlank c, state with
    | true, .blank => wordsFrom .blank (word ++ [c]) rest
    | true, _ => wordsFrom .ended (word ++ [c]) rest
    | false, .ended => word :: wordsFrom .solid [c] rest
    | false, _ => wordsFrom .solid (word ++ [c]) rest

/-- A text without the blanks at its end. -/
def trimEnd (text : List Char) : List Char := (text.reverse.dropWhile Text.isBlank).reverse

/-- Clusters put into pieces of at most `limit` places, the first piece behind `piece`. -/
def chopFrom (limit : Nat) : List Char → List (List Char) → List (List Char)
  | piece, [] => [piece]
  | piece, cluster :: rest =>
    if limit < width piece + width cluster then piece :: chopFrom limit cluster rest
    else chopFrom limit (piece ++ cluster) rest

/-- A text in pieces of at most `limit` places. -/
def chop (limit : Nat) (text : List Char) : List (List Char) := chopFrom limit [] (clusters text)

/-- What becomes of a word that is longer than a whole line: it is cut into pieces, or all that
stands out is left out. -/
inductive LongWord where
  | cut
  | shorten
  deriving DecidableEq

/-- Words put into lines of `limit` places, the first line behind `line`. Blanks at the end of
a word may stand out, and so may long words that are not cut. -/
def fillLines (long : LongWord) (limit : Nat) : List Char → List (List Char) → List (List Char)
  | line, [] => [line]
  | line, word :: rest =>
    let size := width (trimEnd word)
    if width line + size ≤ limit then fillLines long limit (line ++ word) rest
    else
      let before := if line.isEmpty then [] else [line]
      if size ≤ limit ∨ long = .shorten then before ++ fillLines long limit word rest
      else
        let pieces := chop limit word
        before ++ pieces.dropLast ++ fillLines long limit (pieces.getLast?.getD []) rest

/-- A line of at most `limit` places: if it is longer, dots stand for its end. -/
def shortened (limit : Nat) (line : List Char) : List Char :=
  if limit < width line then takeWidth (limit - 1) line ++ ['…'] else line

/-- A line without the blanks at its end that stand out. -/
def trimExcess (limit : Nat) (line : List Char) : List Char :=
  line.take (max limit (trimEnd line).length)

/-- One line, broken into lines of `limit` places. -/
def wrapLine (long : LongWord) (limit : Nat) (line : List Char) : List (List Char) :=
  let words := wordsFrom .blank [] line
  let lines := if words.isEmpty then [line] else fillLines long limit [] words
  lines.map (trimExcess limit)

/-- A text, broken into lines of `limit` places. -/
def wrapWith (long : LongWord) (limit : Nat) (text : List Char) : List (List Char) :=
  (Text.lines (printable text)).flatMap fun line => wrapLine long limit (expandTabs line)

/-- A text, broken into lines of at most `limit` places. -/
def wrap (limit : Nat) (text : List Char) : List (List Char) := wrapWith .cut limit text

/-- A line filled up with spaces on the right. -/
def padRight (limit : Nat) (line : List Char) : List Char :=
  line ++ List.replicate (limit - width line) ' '

/-- A line filled up with spaces on the left. -/
def padLeft (limit : Nat) (line : List Char) : List Char :=
  List.replicate (limit - width line) ' ' ++ line

/-- A line in the middle of `limit` places; if the spaces cannot be shared equally, one more is
on the right. -/
def centre (limit : Nat) (line : List Char) : List Char :=
  let line := trimEnd line
  padRight limit (List.replicate ((limit - width line) / 2) ' ' ++ line)

/-- A text on one side of lines of `limit` places, of which long words stand out no further. -/
def justify (toRight : Bool) (limit : Nat) (text : List Char) : List (List Char) :=
  (wrapWith .shorten limit text).map fun line =>
    if toRight then padLeft limit (shortened limit (trimEnd line))
    else padRight limit (shortened limit line)

/-- Lines as a text, each with a line feed. -/
def textOfLines (lines : List (List Char)) : List Char := lines.flatMap (· ++ ['\n'])

end OrderOfGrowth.Terminal

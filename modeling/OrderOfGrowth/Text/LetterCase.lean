import OrderOfGrowth.Text.CharRange
import OrderOfGrowth.Text.LetterCase.Table

/-!
# Lower case

A text is put into lower case one character at a time, with one rule that looks at the
neighbours: a capital sigma that ends a word becomes the final small sigma. The dotted
capital I becomes two characters, every other character becomes one.
-/

namespace OrderOfGrowth.Text

/-- Whether a character is a letter with a case that counts when neighbours are looked at. -/
def isCased (c : Char) : Bool := inRanges casedRanges c.toNat

/-- Whether a character is passed over when neighbours are looked at. -/
def isCaseIgnorable (c : Char) : Bool := inRanges ignorableRanges c.toNat

/-- The lower-case form of a character by itself. -/
def lowerChar (c : Char) : List Char :=
  if c.toNat < 128 then [c.toLower]
  else if c = '\u0130' then ['i', '\u0307']
  else
    match caseRuns.find? (·.covers c.toNat) with
    | some run => [Char.ofNat (c.toNat + run.shift).toNat]
    | none => [c]

/-- Whether the first character that is not passed over is a letter with a case. -/
def startsCased (text : List Char) : Bool :=
  match text.dropWhile isCaseIgnorable with
  | c :: _ => isCased c
  | [] => false

/-- Lower case from a place on: `afterCased` says whether the nearest character before it
that is not passed over is a letter with a case. -/
def lowerFrom (afterCased : Bool) : List Char → List Char
  | [] => []
  | c :: rest =>
    (if c = 'Σ' then [if afterCased && !startsCased rest then 'ς' else 'σ'] else lowerChar c) ++
      lowerFrom (if isCaseIgnorable c then afterCased else isCased c) rest

/-- The text in lower case. -/
def lowercase (text : List Char) : List Char := lowerFrom false text

end OrderOfGrowth.Text

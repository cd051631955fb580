import OrderOfGrowth.Failure
import OrderOfGrowth.Number.Numeral
import OrderOfGrowth.Text.Blank
import OrderOfGrowth.Text.Digit
import OrderOfGrowth.Text.LetterCase

/-!
# Styles

A style is written as a row of words: attributes, `not` before an attribute that is switched
off, a colour, `on` before the colour of the background, and `link` before an address. A style
has one normal form, whatever the order of its words and whether attributes are abbreviated.
-/

namespace OrderOfGrowth.Terminal

/-- How characters can be shown besides their colour, in the order of normal forms. -/
inductive Attribute where
  | bold
  | dim
  | italic
  | underline
  | blink
  | fastBlink
  | reverse
  | conceal
  | strike
  | doubleUnderline
  | frame
  | encircle
  | overline
  deriving DecidableEq

namespace Attribute

/-- All attributes, in order. -/
def all : List Attribute :=
  [bold, dim, italic, underline, blink, fastBlink, reverse, conceal, strike, doubleUnderline,
   frame, encircle, overline]

/-- The name of an attribute. -/
def name : Attribute → String
  | bold => "bold"
  | dim => "dim"
  | italic => "italic"
  | underline => "underline"
  | blink => "blink"
  | fastBlink => "blink2"
  | reverse => "reverse"
  | conceal => "conceal"
  | strike => "strike"
  | doubleUnderline => "underline2"
  | frame => "frame"
  | encircle => "encircle"
  | overline => "overline"

/-- The short name of an attribute, if it has one. -/
def shortName? : Attribute → Option String
  | bold => some "b"
  | dim => some "d"
  | italic => some "i"
  | underline => some "u"
  | reverse => some "r"
  | conceal => some "c"
  | strike => some "s"
  | doubleUnderline => some "uu"
  | overline => some "o"
  | _ => none

/-- The attribute with a name or a short name. -/
def ofWord? (word : String) : Option Attribute :=
  all.find? fun a => a.name = word || a.shortName? = some word

/-- An attribute is found under its name. -/
theorem ofWord?_name (a : Attribute) : ofWord? a.name = some a := by cases a <;> decide

end Attribute

/-- The names of colours. -/
def colourNames : List String :=
  ["black", "red", "green", "yellow", "blue", "magenta", "cyan", "white", "bright_black",
   "bright_red", "bright_green", "bright_yellow", "bright_blue", "bright_magenta", "bright_cyan",
   "bright_white", "grey0", "gray0", "navy_blue", "dark_blue", "blue3", "blue1", "dark_green",
   "deep_sky_blue4", "dodger_blue3", "dodger_blue2", "green4", "spring_green4", "turquoise4",
   "deep_sky_blue3", "dodger_blue1", "green3", "spring_green3", "dark_cyan", "light_sea_green",
   "deep_sky_blue2", "deep_sky_blue1", "spring_green2", "cyan3", "dark_turquoise", "turquoise2",
   "green1", "spring_green1", "medium_spring_green", "cyan2", "cyan1", "dark_red", "deep_pink4",
   "purple4", "purple3", "blue_violet", "orange4", "grey37", "gray37", "medium_purple4",
   "slate_blue3", "royal_blue1", "chartreuse4", "dark_sea_green4", "pale_turquoise4",
   "steel_blue", "steel_blue3", "cornflower_blue", "chartreuse3", "cadet_blue", "sky_blue3",
   "steel_blue1", "pale_green3", "sea_green3", "aquamarine3", "medium_turquoise", "chartreuse2",
   "sea_green2", "sea_green1", "aquamarine1", "dark_slate_gray2", "dark_magenta", "dark_violet",
   "purple", "light_pink4", "plum4", "medium_purple3", "slate_blue1", "yellow4", "wheat4",
   "grey53", "gray53", "light_slate_grey", "light_slate_gray", "medium_purple",
   "light_slate_blue", "dark_olive_green3", "dark_sea_green", "light_sky_blue3", "sky_blue2",
   "dark_sea_green3", "dark_slate_gray3", "sky_blue1", "chartreuse1", "light_green",
   "pale_green1", "dark_slate_gray1", "red3", "medium_violet_red", "magenta3", "dark_orange3",
   "indian_red", "hot_pink3", "medium_orchid3", "medium_orchid", "medium_purple2",
   "dark_goldenrod", "light_salmon3", "rosy_brown", "grey63", "gray63", "medium_purple1", "gold3",
   "dark_khaki", "navajo_white3", "grey69", "gray69", "light_steel_blue3", "light_steel_blue",
   "yellow3", "dark_sea_green2", "light_cyan3", "light_sky_blue1", "green_yellow",
   "dark_olive_green2", "dark_sea_green1", "pale_turquoise1", "deep_pink3", "magenta2",
   "hot_pink2", "orchid", "medium_orchid1", "orange3", "light_pink3", "pink3", "plum3", "violet",
   "light_goldenrod3", "tan", "misty_rose3", "thistle3", "plum2", "khaki3", "light_goldenrod2",
   "light_yellow3", "grey84", "gray84", "light_steel_blue1", "yellow2", "dark_olive_green1",
   "honeydew2", "light_cyan1", "red1", "deep_pink2", "deep_pink1", "magenta1", "orange_red1",
   "indian_red1", "hot_pink", "dark_orange", "salmon1", "light_coral", "pale_violet_red1",
   "orchid2", "orchid1", "orange1", "sandy_brown", "light_salmon1", "light_pink1", "pink1",
   "plum1", "gold1", "navajo_white1", "misty_rose1", "thistle1", "yellow1", "light_goldenrod1",
   "khaki1", "wheat1", "cornsilk1", "grey100", "gray100", "grey3", "gray3", "grey7", "gray7",
   "grey11", "gray11", "grey15", "gray15", "grey19", "gray19", "grey23", "gray23", "grey27",
   "gray27", "grey30", "gray30", "grey35", "gray35", "grey39", "gray39", "grey42", "gray42",
   "grey46", "gray46", "grey50", "gray50", "grey54", "gray54", "grey58", "gray58", "grey62",
   "gray62", "grey66", "gray66", "grey70", "gray70", "grey74", "gray74", "grey78", "gray78",
   "grey82", "gray82", "grey85", "gray85", "grey89", "gray89", "grey93", "gray93"]

/-- Whether a character is a small hexadecimal digit. -/
def isHexDigit (c : Char) : Bool := c.isDigit || ('a' ≤ c && c ≤ 'f')

/-- What stands between `start` and a closing parenthesis at the end of a word. -/
def argument? (start : String) (word : List Char) : Option (List Char) :=
  if start.toList.isPrefixOf word ∧ word.getLast? = some ')' then
    some (word.drop start.length).dropLast
  else none

/-- A part of a colour between commas, which must be a number. -/
def component (digits : List Char) : Except Failure Nat :=
  if digits.isEmpty then .error (.notNumeral 10 "")
  else if maxDigits < digits.length then .error (.arithmetic (.tooManyDigits digits.length))
  else .ok ((digits.filterMap Text.digitValue).foldl (fun n digit => 10 * n + digit) 0)

/-- Whether red, green and blue, parted by commas, make a colour. -/
def isTriplet (text : List Char) : Except Failure Bool := do
  let parts := Text.splitAt ',' text
  if text.any (fun c => c != ',' && (Text.digitValue c).isNone) || parts.length ≠ 3 then
    return false
  return (← parts.mapM component).all (· ≤ 255)

/-- Whether a word in lower case is a colour: a name, six hexadecimal digits, a number, or red,
green and blue. -/
def isColour (word : List Char) : Except Failure Bool :=
  if String.ofList word ∈ "default" :: colourNames then .ok true
  else if let '#' :: digits := word then .ok (digits.length == 6 && digits.all isHexDigit)
  else if let some digits := argument? "color(" word then
    .ok (digits.all Char.isDigit && 0 < digits.length && digits.length ≤ 3 &&
      (String.ofList digits).toNat?.any (· ≤ 255))
  else if let some parts := argument? "rgb(" word then isTriplet parts
  else .ok false

/-- A style. Attributes that are not mentioned stay as they are. -/
structure Style where
  attributes : Attribute → Option Bool
  colour : Option (List Char)
  background : Option (List Char)
  link : Option (List Char)

namespace Style

/-- The style that changes nothing. -/
def plain : Style := ⟨fun _ => none, none, none, none⟩

/-- The style with an attribute switched on or off. -/
def setting (style : Style) (a : Attribute) (isOn : Bool) : Style :=
  { style with attributes := fun other => if other = a then some isOn else style.attributes other }

/-- The style after further words, if they can be read. -/
def readWords : Style → List (List Char) → Except Failure (Option Style)
  | style, [] => .ok (some style)
  | style, word :: rest =>
    let small := Text.lowercase word
    match String.ofList small, rest with
    | "on", colour :: rest => do
      let colour := Text.lowercase colour
      if ← isColour colour then readWords { style with background := some colour } rest
      else return none
    | "not", word :: rest =>
      match Attribute.ofWord? (String.ofList word) with
      | some a => readWords (style.setting a false) rest
      | none => .ok none
    | "link", address :: rest => readWords { style with link := some address } rest
    | name, rest =>
      match Attribute.ofWord? name with
      | some a => readWords (style.setting a true) rest
      | none => do
        if ← isColour small then readWords { style with colour := some small } rest
        else return none

/-- The words of the normal form. -/
def words (style : Style) : List (List Char) :=
  let wordsOf (a : Attribute) : List (List Char) :=
    match style.attributes a with
    | some true => [a.name.toList]
    | some false => ["not".toList, a.name.toList]
    | none => []
  Attribute.all.flatMap wordsOf ++ style.colour.toList ++
    (style.background.map (["on".toList, ·])).getD [] ++
    (style.link.map (["link".toList, ·])).getD []

/-- The normal form. -/
def text (style : Style) : List Char :=
  if style.words.isEmpty then "none".toList else Text.joinWith [' '] style.words

end Style

/-- The words of a text, parted by blanks. -/
def blankWords : List Char → List Char → List (List Char)
  | word, [] => if word.isEmpty then [] else [word]
  | word, c :: rest =>
    if Text.isBlank c then (if word.isEmpty then [] else [word]) ++ blankWords [] rest
    else blankWords (word ++ [c]) rest

/-- The normal form of a written style. What cannot be read as a style is only trimmed and put
into lower case. -/
def normalStyle (name : List Char) : Except Failure (List Char) := do
  match ← Style.readWords .plain (blankWords [] name) with
  | some style => return style.text
  | none => return Text.lowercase (Text.trim name)

end OrderOfGrowth.Terminal

/-!
# Halves of surrogate pairs

The escapes of a JSON string can name half of a surrogate pair, which is no character by
itself and has no form in UTF-8. A character of a private area stands for it: the area of
plane 15 whose last four hexadecimal digits are those of the half. A text with such a
character can be passed on and compared, but it cannot be stored or printed.
-/

namespace OrderOfGrowth.Text

/-- The character that stands for half of a surrogate pair. -/
def ofSurrogate (half : Nat) : Char := Char.ofNat (0xF0000 + half)

/-- The half of a surrogate pair that a character stands for. -/
def surrogate? (c : Char) : Option Nat :=
  if 0xFD800 ≤ c.toNat ∧ c.toNat < 0xFE000 then some (c.toNat - 0xF0000) else none

/-- Whether a character stands for half of a surrogate pair. -/
def isSurrogate (c : Char) : Bool := (surrogate? c).isSome

/-- Halves of surrogate pairs in a text: the first of them, its position, and how many follow
one another there. -/
structure SurrogateRun where
  half : Nat
  offset : Nat
  length : Nat
  deriving DecidableEq

/-- The halves of surrogate pairs with which the rest of a text begins, if there is a rest. -/
def runAtRest? (text rest : List Char) : Option SurrogateRun :=
  match rest with
  | [] => none
  | c :: _ =>
    some ⟨(surrogate? c).getD 0, text.length - rest.length, (rest.takeWhile isSurrogate).length⟩

/-- The first halves of surrogate pairs in a text, if there are any. -/
def surrogateRun? (text : List Char) : Option SurrogateRun :=
  runAtRest? text (text.dropWhile (!isSurrogate ·))

end OrderOfGrowth.Text

import OrderOfGrowth.Text.Surrogate
import OrderOfGrowth.Text.Unprintable

/-!
# Quoted texts

Messages show a text from outside between quotation marks, with line breaks and invisible
characters written as escapes. Single marks are used unless the text has single marks and
no double ones.
-/

namespace OrderOfGrowth.Text

/-- A number in base sixteen with small letters, filled up with zeros to `width` digits. -/
def hexDigits (width n : Nat) : List Char :=
  let body := Nat.toDigits 16 n
  List.replicate (width - body.length) '0' ++ body

/-- The quotation mark for a text. -/
def quoteMark (text : List Char) : Char :=
  if text.contains '\'' && !text.contains '"' then '"' else '\''

/-- One character between quotation marks `mark`. -/
def quoteChar (mark c : Char) : List Char :=
  if c = '\\' ∨ c = mark then ['\\', c]
  else if c = '\n' then ['\\', 'n']
  else if c = '\r' then ['\\', 'r']
  else if c = '\t' then ['\\', 't']
  else if isPrintable c then [c]
  else if let some half := surrogate? c then '\\' :: 'u' :: hexDigits 4 half
  else if c.toNat < 0x100 then '\\' :: 'x' :: hexDigits 2 c.toNat
  else if c.toNat < 0x10000 then '\\' :: 'u' :: hexDigits 4 c.toNat
  else '\\' :: 'U' :: hexDigits 8 c.toNat

/-- The text between quotation marks. -/
def quoted (text : List Char) : List Char :=
  let mark := quoteMark text
  mark :: (text.flatMap (quoteChar mark) ++ [mark])

end OrderOfGrowth.Text

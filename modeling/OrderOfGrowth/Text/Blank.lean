import OrderOfGrowth.Text.CharRange

/-!
# Blank characters

The blank characters are the white space of the character database together with the four
separators U+001C to U+001F. The zero-width space and the byte-order mark are not blank.
-/

namespace OrderOfGrowth.Text

/-- The code points of the blank characters, in ascending order. -/
def blankRanges : List (Nat × Nat) :=
  [(0x09, 0x0D), (0x1C, 0x20), (0x85, 0x85), (0xA0, 0xA0), (0x1680, 0x1680), (0x2000, 0x200A),
   (0x2028, 0x2029), (0x202F, 0x202F), (0x205F, 0x205F), (0x3000, 0x3000)]

/-- Whether a character is blank. -/
def isBlank (c : Char) : Bool := inRanges blankRanges c.toNat

/-- The text without the characters at its two ends that a test accepts. -/
def trimWhile (test : Char → Bool) (text : List Char) : List Char :=
  ((text.dropWhile test).reverse.dropWhile test).reverse

/-- The text without the blank characters at its two ends. -/
def trim (text : List Char) : List Char := trimWhile isBlank text

/-- Whether a character is a blank one other than the four separators: these are the white
space of the character database. -/
def isWhiteSpace (c : Char) : Bool := isBlank c && !(0x1C ≤ c.toNat && c.toNat < 0x20)

/-- A blank character among the first 128 other than the four separators. -/
def isPlainBlank (c : Char) : Bool :=
  c == ' ' || c == '\t' || c == '\n' || c == '\r' || c == '\x0b' || c == '\x0c'

/-- The plain blank characters are blank. -/
theorem isBlank_of_isPlainBlank {c : Char} (h : isPlainBlank c = true) : isBlank c = true := by
  simp only [isPlainBlank, Bool.or_eq_true, beq_iff_eq] at h
  rcases h with ((((rfl | rfl) | rfl) | rfl) | rfl) | rfl <;> decide

end OrderOfGrowth.Text

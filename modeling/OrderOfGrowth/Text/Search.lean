/-!
# Searching and cutting texts

A text is a list of characters. This module has the operations on texts that need no
knowledge of characters: whether one text occurs in another, cutting at a separator,
joining, and replacing every occurrence. The main statements are that `occursIn` decides
being an infix and that joining undoes cutting.
-/

namespace OrderOfGrowth.Text

/-- Whether `needle` stands somewhere in the text without a gap. -/
def occursIn (needle : List Char) : List Char → Bool
  | [] => needle.isEmpty
  | c :: rest => needle.isPrefixOf (c :: rest) || occursIn needle rest

/-- `occursIn` decides the infix relation. -/
theorem occursIn_iff (needle text : List Char) :
    occursIn needle text = true ↔ needle <:+: text := by
  induction text with
  | nil => simp [occursIn]
  | cons c rest ih =>
    simp only [occursIn, Bool.or_eq_true, ih, List.isPrefixOf_iff_prefix]
    exact List.infix_cons_iff.symm

/-- The pieces between the separators, one more than there are separators. -/
def splitAt (separator : Char) : List Char → List (List Char)
  | [] => [[]]
  | c :: rest =>
    if c = separator then [] :: splitAt separator rest
    else
      match splitAt separator rest with
      | piece :: pieces => (c :: piece) :: pieces
      | [] => [[c]]

/-- The lines of a text: it is cut at line feeds and nowhere else. -/
def lines (text : List Char) : List (List Char) := splitAt '\n' text

/-- The pieces one after another with `between` standing between neighbours. -/
def joinWith (between : List Char) : List (List Char) → List Char
  | [] => []
  | [piece] => piece
  | piece :: next :: pieces => piece ++ between ++ joinWith between (next :: pieces)

/-- Cutting leaves at least one piece. -/
theorem splitAt_ne_nil (separator : Char) (text : List Char) : splitAt separator text ≠ [] := by
  cases text with
  | nil => simp [splitAt]
  | cons c rest =>
    simp only [splitAt]
    split
    · simp
    · split <;> simp

/-- Joining nonempty lists of pieces, one piece at a time. -/
theorem joinWith_cons {between piece : List Char} {pieces : List (List Char)} (hne : pieces ≠ []) :
    joinWith between (piece :: pieces) = piece ++ between ++ joinWith between pieces := by
  cases pieces with
  | nil => exact absurd rfl hne
  | cons next pieces => rfl

/-- A longer first piece is a longer text. -/
theorem joinWith_extend (between piece : List Char) (c : Char) (pieces : List (List Char)) :
    joinWith between ((c :: piece) :: pieces) = c :: joinWith between (piece :: pieces) := by
  cases pieces <;> rfl

/-- Joining with the separator undoes cutting at it. -/
theorem joinWith_splitAt (separator : Char) (text : List Char) :
    joinWith [separator] (splitAt separator text) = text := by
  induction text with
  | nil => rfl
  | cons c rest ih =>
    have hne := splitAt_ne_nil separator rest
    rw [splitAt]
    split
    next hc => rw [joinWith_cons hne, ih, hc]; rfl
    next =>
      cases h : splitAt separator rest with
      | nil => exact absurd h hne
      | cons piece pieces => rw [h] at ih; exact (joinWith_extend _ _ _ _).trans (by rw [ih])

/-- Every occurrence of the two characters `first`, `second` becomes `replacement`,
found from left to right without overlap. -/
def replacePair (first second replacement : Char) : List Char → List Char
  | a :: b :: rest =>
    if a = first ∧ b = second then replacement :: replacePair first second replacement rest
    else a :: replacePair first second replacement (b :: rest)
  | short => short

end OrderOfGrowth.Text

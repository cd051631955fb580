import OrderOfGrowth.Terminal.Handler
import OrderOfGrowth.Terminal.Screen
import OrderOfGrowth.Terminal.Style

/-!
# Styled texts

Styles are written into a text as tags in square brackets. A backslash in front of a tag
makes it an ordinary part of the text, and two backslashes there stand for one. Texts from
outside are escaped before they are put between tags. The main statement is that an escaped
text has no tags.
-/

namespace OrderOfGrowth.Terminal

/-- Whether a character can stand behind the opening bracket of a tag. -/
def startsTag (c : Char) : Bool := ('a' ≤ c && c ≤ 'z') || c == '#' || c == '/' || c == '@'

/-- The text up to the first closing bracket, if no opening bracket comes before it. -/
def untilClosing? : List Char → Option (List Char)
  | [] => none
  | c :: rest =>
    if c = ']' then some []
    else if c = '[' then none
    else (untilClosing? rest).map (c :: ·)

/-- What stands between the brackets of a tag, given the text behind its opening bracket; none
if there is no tag. -/
def tagBody? : List Char → Option (List Char)
  | [] => none
  | c :: rest => if startsTag c then (untilClosing? rest).map (c :: ·) else none

/-- A row of backslashes. -/
def backslashes (count : Nat) : List Char := List.replicate count '\\'

/-- The escaped form of a text behind `count` backslashes: the backslashes in front of a tag
are doubled, and one more is put there. -/
def escapeFrom : Nat → List Char → List Char
  | count, [] => backslashes count
  | count, c :: rest =>
    if c = '\\' then escapeFrom (count + 1) rest
    else if c = '[' ∧ (tagBody? rest).isSome then
      backslashes (2 * count + 1) ++ '[' :: escapeFrom 0 rest
    else backslashes count ++ c :: escapeFrom 0 rest

/-- A single backslash at the end of a text, doubled so that it does not escape what follows. -/
def guardEnd (text : List Char) : List Char :=
  match text.reverse with
  | '\\' :: '\\' :: _ => text
  | '\\' :: _ => text ++ ['\\']
  | _ => text

/-- A text from outside in a form that has no tags. -/
def escapeMarkup (text : List Char) : List Char := guardEnd (escapeFrom 0 text)

/-- The tags of a text behind `count` backslashes and `position` characters, each with its
position. -/
def tagsFrom : Nat → Nat → List Char → List (List Char × Nat)
  | _, _, [] => []
  | count, position, c :: rest =>
    if c = '\\' then tagsFrom (count + 1) (position + 1) rest
    else
      let later := tagsFrom 0 (position + 1) rest
      match tagBody? rest with
      | some body => if c = '[' ∧ count % 2 = 0 then (body, position) :: later else later
      | none => later

/-- What a stretch of a text is: plain, or a tag that is escaped or not. -/
inductive Stretch where
  | plain
  | escaped
  | tag

/-- The visible parts of a text behind `count` backslashes and `part`, the start of a part. Of the
backslashes before a tag every pair leaves one and an odd one is used up, and before any other
bracket one is used up. A part ends at a tag, and an escaped tag is a part of its own. -/
def partsFrom : Stretch → Nat → List Char → List Char → List (List Char)
  | _, count, part, [] => [part ++ backslashes count]
  | .tag, _, part, c :: rest => partsFrom (if c = ']' then .plain else .tag) 0 part rest
  | .escaped, _, part, c :: rest =>
    if c = ']' then (part ++ [c]) :: partsFrom .plain 0 [] rest
    else partsFrom .escaped 0 (part ++ [c]) rest
  | .plain, count, part, c :: rest =>
    if c = '\\' then partsFrom .plain (count + 1) part rest
    else if c = '[' then
      if (tagBody? rest).isSome then
        part :: backslashes (count / 2) ::
          if count % 2 = 0 then partsFrom .tag 0 [] rest else partsFrom .escaped 0 ['['] rest
      else partsFrom .plain 0 (part ++ backslashes (count - 1) ++ ['[']) rest
    else partsFrom .plain 0 (part ++ backslashes count ++ [c]) rest

/-- A tag that has been opened: the normal form of its style, and what stands behind an equals
sign in it. -/
structure OpenTag where
  style : List Char
  parameters : List Char

/-- Closes a tag. If it names a handler, its arguments must be well formed. -/
def OpenTag.close (tag : OpenTag) : Except Failure Unit :=
  match tag.style with
  | '@' :: _ => if tag.parameters.isEmpty then .ok () else Handler.validate tag.parameters
  | _ => .ok ()

/-- The tags that are open after a tag, the last opened first. A closing tag must have the style
of an open one, or no style while any is open. -/
def applyTag (opened : List OpenTag) (tag : List Char × Nat) : Except Failure (List OpenTag) := do
  let (body, position) := tag
  match body.takeWhile (· != '=') with
  | '/' :: name =>
    if (Text.trim name).isEmpty then
      match opened with
      | [] => throw (.nothingToClose position)
      | last :: rest =>
        last.close
        return rest
    else
      let style ← normalStyle (Text.trim name)
      match opened.find? (·.style = style) with
      | none => throw (.unmatchedTag (String.ofList body) position)
      | some found =>
        found.close
        return opened.eraseP (·.style = style)
  | name => return ⟨← normalStyle name, (body.dropWhile (· != '=')).drop 1⟩ :: opened

/-- The visible part of a text with tags, of which every closing one must close a style. Pictures
are shown in each part by itself. -/
def render (screen : Screen) (markup : List Char) : Except Failure (List Char) := do
  let _ ← (tagsFrom 0 0 markup).foldlM applyTag []
  return (partsFrom .plain 0 [] markup).flatMap screen.showPictures

/-- A text between the tags of a style. -/
def styled (style : String) (text : List Char) : List Char :=
  '[' :: style.toList ++ ']' :: text ++ '[' :: '/' :: style.toList ++ [']']

/-- Backslashes only add to the number of backslashes and to the position. -/
theorem tagsFrom_backslashes (n count position : Nat) (rest : List Char) :
    tagsFrom count position (backslashes n ++ rest) =
      tagsFrom (count + n) (position + n) rest := by
  induction n generalizing count position with
  | zero => rfl
  | succ n ih =>
    rw [show backslashes (n + 1) ++ rest = '\\' :: (backslashes n ++ rest) from rfl, tagsFrom,
      if_pos rfl, ih]
    congr 1 <;> omega

/-- Backslashes do not close a tag. -/
theorem untilClosing?_backslashes (n : Nat) (rest : List Char) :
    (untilClosing? (backslashes n ++ rest)).isSome = (untilClosing? rest).isSome := by
  induction n with
  | zero => rfl
  | succ n ih =>
    rw [show backslashes (n + 1) ++ rest = '\\' :: (backslashes n ++ rest) from rfl, untilClosing?]
    simpa using ih

/-- Escaping a text does not change whether it closes a tag. -/
theorem untilClosing?_escapeFrom (count : Nat) (text : List Char) :
    (untilClosing? (escapeFrom count text)).isSome = (untilClosing? text).isSome := by
  induction text generalizing count with
  | nil => simpa [escapeFrom] using untilClosing?_backslashes count []
  | cons c rest ih =>
    simp only [escapeFrom]
    split
    next hc => rw [ih, untilClosing?]; simp [hc]
    next hc =>
      split
      next h => rw [untilClosing?_backslashes, untilClosing?, untilClosing?]; simp [h.1]
      next h =>
        rw [untilClosing?_backslashes, untilClosing?, untilClosing?]
        split
        · rfl
        · split
          · rfl
          · simpa using ih 0

/-- Behind at least one backslash an escaped text begins with a backslash. -/
theorem head?_escapeFrom_succ (count : Nat) (text : List Char) :
    (escapeFrom (count + 1) text).head? = some '\\' := by
  induction text generalizing count with
  | nil => rfl
  | cons c rest ih =>
    simp only [escapeFrom]
    split
    · exact ih (count + 1)
    · split
      · rfl
      · rfl

/-- Escaping a text does not change whether it continues a tag. -/
theorem tagBody?_escapeFrom (text : List Char) :
    (tagBody? (escapeFrom 0 text)).isSome = (tagBody? text).isSome := by
  cases text with
  | nil => rfl
  | cons c rest =>
    by_cases hc : c = '\\'
    · have hhead := head?_escapeFrom_succ 0 rest
      rw [escapeFrom, if_pos hc, hc]
      cases hform : escapeFrom (0 + 1) rest with
      | nil => rw [hform] at hhead; simp at hhead
      | cons d tail =>
        rw [hform] at hhead
        obtain rfl : d = '\\' := by simpa using hhead
        simp [tagBody?, startsTag]
    · have hform : ∃ n tail, escapeFrom 0 (c :: rest) = backslashes n ++ c :: tail ∧
          (n = 0 ∨ c = '[') ∧ tail = escapeFrom 0 rest := by
        rw [escapeFrom, if_neg hc]
        split
        next h => exact ⟨_, _, by rw [h.1], .inr h.1, rfl⟩
        next => exact ⟨0, _, rfl, .inl rfl, rfl⟩
      obtain ⟨n, tail, heq, hn, rfl⟩ := hform
      rw [heq]
      by_cases hopen : c = '['
      · cases n with
        | zero => simp [backslashes, tagBody?, hopen, startsTag]
        | succ n =>
          rw [show backslashes (n + 1) = '\\' :: backslashes n from rfl]
          simp [tagBody?, hopen, startsTag]
      · obtain rfl : n = 0 := hn.resolve_right hopen
        have hrest := untilClosing?_escapeFrom 0 rest
        simp only [backslashes, List.replicate_zero, List.nil_append, tagBody?]
        split
        · simpa using hrest
        · rfl

/-- A text that is escaped behind any number of backslashes has no tags. -/
theorem tagsFrom_escapeFrom (count position : Nat) (text : List Char) :
    tagsFrom 0 position (escapeFrom count text) = [] := by
  induction text generalizing count position with
  | nil =>
    have h := tagsFrom_backslashes count 0 position []
    simpa [escapeFrom, tagsFrom] using h
  | cons c rest ih =>
    simp only [escapeFrom]
    split
    · exact ih _ _
    next hc =>
      split
      next h =>
        rw [tagsFrom_backslashes, tagsFrom, if_neg (by decide)]
        dsimp only
        rw [ih]
        split
        · rw [if_neg (by omega)]
        · rfl
      next h =>
        rw [tagsFrom_backslashes, tagsFrom, if_neg hc]
        dsimp only
        rw [ih]
        split
        next body hbody =>
          have hsome := tagBody?_escapeFrom rest
          rw [hbody] at hsome
          rw [if_neg fun hopen => h ⟨hopen.1, by simpa using hsome.symm⟩]
        · rfl

/-- A backslash at the end of a text neither closes nor opens a tag. -/
theorem untilClosing?_concat (text : List Char) :
    untilClosing? (text ++ ['\\']) = untilClosing? text := by
  induction text with
  | nil => rfl
  | cons c rest ih => simp only [List.cons_append, untilClosing?, ih]

/-- A backslash at the end of a text does not change its tags. -/
theorem tagsFrom_concat (count position : Nat) (text : List Char) :
    tagsFrom count position (text ++ ['\\']) = tagsFrom count position text := by
  induction text generalizing count position with
  | nil => rfl
  | cons c rest ih =>
    have hbody : tagBody? (rest ++ ['\\']) = tagBody? rest := by
      cases rest with
      | nil => rfl
      | cons d more => simp only [List.cons_append, tagBody?, untilClosing?_concat]
    simp only [List.cons_append, tagsFrom, ih, hbody]

/-- An escaped text has no tags. -/
theorem tagsFrom_escapeMarkup (position : Nat) (text : List Char) :
    tagsFrom 0 position (escapeMarkup text) = [] := by
  unfold escapeMarkup guardEnd
  split
  · exact tagsFrom_escapeFrom 0 position text
  · rw [tagsFrom_concat]; exact tagsFrom_escapeFrom 0 position text
  · exact tagsFrom_escapeFrom 0 position text

end OrderOfGrowth.Terminal

/-!
# Character entities

In the text of a page five characters are written as entities. Reading the entities back
undoes the writing, whatever other entities the reader knows: the main statement is that nothing
is lost or confused.
-/

namespace OrderOfGrowth.Text

/-- The entity of a character that may not stand for itself, and the character for all others. -/
def entityOf (c : Char) : List Char :=
  if c = '&' then ['&', 'a', 'm', 'p', ';']
  else if c = '<' then ['&', 'l', 't', ';']
  else if c = '>' then ['&', 'g', 't', ';']
  else if c = '"' then ['&', 'q', 'u', 'o', 't', ';']
  else if c = '\'' then ['&', '#', 'x', '2', '7', ';']
  else [c]

/-- A text with entities in place of the five characters. -/
def escapeEntities (text : List Char) : List Char := text.flatMap entityOf

/-- A text with the five characters in place of their entities. -/
def readEntities : List Char → List Char
  | '&' :: 'a' :: 'm' :: 'p' :: ';' :: rest => '&' :: readEntities rest
  | '&' :: 'l' :: 't' :: ';' :: rest => '<' :: readEntities rest
  | '&' :: 'g' :: 't' :: ';' :: rest => '>' :: readEntities rest
  | '&' :: 'q' :: 'u' :: 'o' :: 't' :: ';' :: rest => '"' :: readEntities rest
  | '&' :: '#' :: 'x' :: '2' :: '7' :: ';' :: rest => '\'' :: readEntities rest
  | c :: rest => c :: readEntities rest
  | [] => []

/-- A way to read texts with entities: a character that begins no entity stands for itself, and the
five entities are read. It may know more entities than these. -/
structure EntityReader where
  read : List Char → List Char
  read_nil : read [] = []
  read_cons : ∀ (c : Char) (rest : List Char), c ≠ '&' → read (c :: rest) = c :: read rest
  read_entity : ∀ (c : Char) (rest : List Char), entityOf c ≠ [c] →
    read (entityOf c ++ rest) = c :: read rest

/-- Reading the entities of an escaped text gives the text back. -/
theorem EntityReader.read_escapeEntities (reader : EntityReader) (text : List Char) :
    reader.read (escapeEntities text) = text := by
  induction text with
  | nil => exact reader.read_nil
  | cons c rest ih =>
    rw [show escapeEntities (c :: rest) = entityOf c ++ escapeEntities rest from rfl]
    by_cases hplain : entityOf c = [c]
    · have hc : c ≠ '&' := by
        rintro rfl
        revert hplain
        decide
      rw [hplain, List.singleton_append, reader.read_cons c _ hc, ih]
    · rw [reader.read_entity c _ hplain, ih]

/-- The reader that knows the five entities and no others. -/
def EntityReader.standard : EntityReader where
  read := readEntities
  read_nil := rfl
  read_cons c rest hc := by simp [readEntities, hc]
  read_entity c rest hc := by
    unfold entityOf at hc ⊢
    repeat' split
    all_goals simp_all [readEntities]

/-- An escaped text has no angle brackets and no quotation marks. -/
theorem not_mem_escapeEntities (text : List Char) {c : Char}
    (hc : c = '<' ∨ c = '>' ∨ c = '"' ∨ c = '\'') : c ∉ escapeEntities text := by
  intro h
  obtain ⟨d, -, hd⟩ := List.mem_flatMap.mp h
  revert hd
  unfold entityOf
  repeat' split
  all_goals rcases hc with rfl | rfl | rfl | rfl <;> simp_all [eq_comm]

end OrderOfGrowth.Text

import OrderOfGrowth.Proofs.LowerCase
import OrderOfGrowth.Proofs.Matching
import OrderOfGrowth.Proofs.TableLookup

/-!
# What recursive definitions look like

The patterns of the standard table are rows of pieces. This file says by places in the text what
each of them finds: words in a line, or a header, whose brackets are on one line while its brace may
be on a later one. A match goes from place to place: every piece leads from the place where the one
before it ended to a place behind it, and only pieces that take gaps lead into another line.
-/

namespace OrderOfGrowth

namespace Text

/-- A word stands in a text at a place, with letters in either case. -/
def StandsAt (word text : List Char) (i : ℕ) : Prop :=
  List.Forall₂ SameLetter word ((text.drop i).take word.length)

/-- From one place up to another a text has characters of one kind only. -/
def Between (kind : Char → Prop) (text : List Char) (i j : ℕ) : Prop :=
  i ≤ j ∧ ∀ k, i ≤ k → k < j → ∃ c, text[k]? = some c ∧ kind c

/-- Words stand in a text from a place on, one behind the other and without overlap. -/
def StandInOrder : List (List Char) → List Char → ℕ → Prop
  | [], _, _ => True
  | word :: words, text, i =>
    ∃ j, i ≤ j ∧ StandsAt word text j ∧ StandInOrder words text (j + word.length)

/-- Some line of a text has all of the words, in order and without overlap. -/
def HasLineWith (words : List (List Char)) (text : List Char) : Prop :=
  ∃ line ∈ lines text, StandInOrder words line 0

/-- The number of the line that a place of a text is in, which is the number of line feeds before
the place. -/
def lineNumber (text : List Char) (i : ℕ) : ℕ := (text.take i).count '\n'

/-- From a place on there are only gaps, in this line and the next ones, up to an opening brace. -/
def BraceFollows (text : List Char) (i : ℕ) : Prop :=
  ∃ j, Between Atom.blank.Takes text i j ∧ text[j]? = some '\x7b'

/-- At a place a bracket opens, and a bracket that closes behind it in the same line is followed by
a brace. -/
def OpensBody (text : List Char) (i : ℕ) : Prop :=
  text[i]? = some '(' ∧ ∃ j, i < j ∧ lineNumber text i = lineNumber text j ∧
    text[j]? = some ')' ∧ BraceFollows text (j + 1)

/-- A text has a word and, behind it in the same line, the bracket before a body. -/
def HasHeader (word text : List Char) : Prop :=
  ∃ i j, StandsAt word text i ∧ i + word.length ≤ j ∧ lineNumber text i = lineNumber text j ∧
    OpensBody text j

/-- From a place on a text has, without anything between them, at least one gap, at least one word
character, any number of gaps, and the bracket before a body. -/
def NamesBody (text : List Char) (i : ℕ) : Prop :=
  ∃ j k l, i < j ∧ Between Atom.blank.Takes text i j ∧ j < k ∧ Between Atom.word.Takes text j k ∧
    Between Atom.blank.Takes text k l ∧ OpensBody text l

/-- A text has a word character and, right behind it, a gap, a name and the bracket before a
body. -/
def HasTypedHeader (text : List Char) : Prop :=
  ∃ i, (∃ c, text[i]? = some c ∧ Atom.word.Takes c) ∧ NamesBody text (i + 1)

end Text

/-- What a text has that looks like a recursive definition in a language. -/
def Language.HasDefinition : Language → List Char → Prop
  | .python, text => Text.HasLineWith ["def".toList, "(".toList, "):".toList] text
  | .java, text => Text.HasHeader "public".toList text ∨ Text.HasHeader "private".toList text
  | .c, text | .cpp, text => Text.HasTypedHeader text
  | .javascript, text | .typescript, text | .csharp, text | .php, text =>
    Text.HasLineWith ["=>".toList, "=>".toList] text ∨ Text.HasHeader "function".toList text

namespace Text

variable {kind : Char → Prop} {word text : List Char} {i j k : ℕ}

/-- Two stretches of one kind that meet are a stretch of that kind. -/
theorem between_iff_of_between (hij : Between kind text i j) (hjk : j ≤ k) :
    Between kind text i k ↔ Between kind text j k := by
  constructor
  · exact fun h => ⟨hjk, fun l hjl hlk => h.2 l (hij.1.trans hjl) hlk⟩
  · refine fun h => ⟨hij.1.trans hjk, fun l hil hlk => ?_⟩
    rcases Nat.lt_or_ge l j with hlj | hjl
    · exact hij.2 l hil hlj
    · exact h.2 l hjl hlk

/-- A stretch of one character. -/
theorem between_succ_iff : Between kind text i (i + 1) ↔ ∃ c, text[i]? = some c ∧ kind c := by
  constructor
  · exact fun h => h.2 i le_rfl i.lt_succ_self
  · refine fun h => ⟨i.le_succ, fun k hik hki => ?_⟩
    obtain rfl : k = i := by omega
    exact h

/-- A stretch that is not empty ends within the text. -/
theorem Between.le_length (h : Between kind text i j) (hij : i < j) : j ≤ text.length := by
  obtain ⟨c, hc, -⟩ := h.2 (j - 1) (by omega) (by omega)
  obtain ⟨hlt, -⟩ := List.getElem?_eq_some_iff.mp hc
  omega

/-- A stretch of one kind, by its characters. -/
theorem between_iff_forall_mem (hij : i ≤ j) (hj : j ≤ text.length) :
    Between kind text i j ↔ ∀ c ∈ (text.drop i).take (j - i), kind c := by
  constructor
  · intro h c hc
    obtain ⟨n, hn⟩ := List.mem_iff_getElem?.mp hc
    rw [List.getElem?_take] at hn
    split at hn
    next hlt =>
      rw [List.getElem?_drop] at hn
      obtain ⟨d, hd, hkind⟩ := h.2 (i + n) (by omega) (by omega)
      rw [hn, Option.some.injEq] at hd
      exact hd ▸ hkind
    next => cases hn
  · refine fun h => ⟨hij, fun k hik hkj => ?_⟩
    have hk : k < text.length := by omega
    refine ⟨text[k], List.getElem?_eq_getElem hk, h _ (List.mem_iff_getElem?.mpr ⟨k - i, ?_⟩)⟩
    rw [List.getElem?_take, if_pos (by omega), List.getElem?_drop, Nat.add_sub_cancel' hik]
    exact List.getElem?_eq_getElem hk

/-- Two places are in the same line exactly if no line feed stands between them. -/
theorem lineNumber_eq_iff (hij : i ≤ j) (hj : j ≤ text.length) :
    lineNumber text i = lineNumber text j ↔ Between (· ≠ '\n') text i j := by
  have hsplit : text.take j = text.take i ++ (text.drop i).take (j - i) := by
    rw [← List.take_add, Nat.add_sub_cancel' hij]
  rw [between_iff_forall_mem hij hj, lineNumber, lineNumber, hsplit, List.count_append,
    Nat.left_eq_add, List.count_eq_zero]
  exact ⟨fun h c hc hfeed => h (hfeed ▸ hc), fun h hmem => h _ hmem rfl⟩

/-- Behind a stretch within a line, a place is in the same line exactly if a stretch within the line
leads there. -/
theorem lineNumber_eq_iff_of_between (hij : Between (· ≠ '\n') text i j) (hk : k ≤ text.length) :
    j ≤ k ∧ lineNumber text i = lineNumber text k ↔ Between (· ≠ '\n') text j k := by
  constructor
  · rintro ⟨hjk, hsame⟩
    exact (between_iff_of_between hij hjk).mp
      ((lineNumber_eq_iff (hij.1.trans hjk) hk).mp hsame)
  · intro hjk
    refine ⟨hjk.1, (lineNumber_eq_iff (hij.1.trans hjk.1) hk).mpr ?_⟩
    exact (between_iff_of_between hij hjk.1).mpr hjk

/-- A word stands at a place exactly if its first letter does and the others behind it. -/
theorem standsAt_cons_iff {c : Char} :
    StandsAt (c :: word) text i ↔
      (∃ d, text[i]? = some d ∧ SameLetter c d) ∧ StandsAt word text (i + 1) := by
  rcases Nat.lt_or_ge i text.length with hlt | hge
  · rw [StandsAt, List.drop_eq_getElem_cons hlt, List.length_cons, List.take_succ_cons,
      List.forall₂_cons, List.getElem?_eq_getElem hlt]
    simp [StandsAt]
  · simp [StandsAt, List.drop_eq_nil_of_le hge, List.getElem?_eq_none hge]

/-- A word that stands at a place is a stretch of a kind if its letters are, in either case. -/
theorem StandsAt.between (h : StandsAt word text i)
    (hkind : ∀ c ∈ word, ∀ d, SameLetter c d → kind d) :
    Between kind text i (i + word.length) := by
  induction word generalizing i with
  | nil => exact ⟨le_rfl, fun k hik hki => absurd hki (Nat.not_lt.mpr hik)⟩
  | cons c word ih =>
    obtain ⟨⟨d, hd, hsame⟩, hrest⟩ := standsAt_cons_iff.mp h
    have hfirst : Between kind text i (i + 1) :=
      between_succ_iff.mpr ⟨d, hd, hkind c (by simp) d hsame⟩
    have hbehind := ih hrest fun e he => hkind e (by simp [he])
    rw [List.length_cons, Nat.add_comm word.length 1, ← Nat.add_assoc]
    exact (between_iff_of_between hfirst hbehind.1).mpr hbehind

/-- A word with letters in it that stands at a place is within the text. -/
theorem StandsAt.le_length (h : StandsAt word text i) (hword : word ≠ []) : i ≤ text.length := by
  have hstretch : Between (fun _ => True) text i (i + word.length) :=
    h.between fun _ _ _ _ => trivial
  have hpos := List.length_pos_iff.mpr hword
  have hend := hstretch.le_length (by omega)
  omega

end Text

/-- A character that is no letter is the same in either case. -/
theorem sameLetter_iff_eq {c d : Char} (hc : c.isAlpha = false) : SameLetter c d ↔ d = c := by
  have hcase : c.isAlpha = (decide ('A' ≤ c ∧ c ≤ 'Z') || ('a' ≤ c && c ≤ 'z')) := rfl
  simp only [hcase, Bool.or_eq_false_iff, Bool.and_eq_false_iff, decide_eq_false_iff_not,
    char_le_iff, Char.reduceToNat] at hc
  simp only [SameLetter, char_le_iff, Char.reduceToNat, ← Char.toNat_inj]
  omega

/-- Where a piece leads to: a row of pieces begins at a place if its first piece takes a stretch of
an allowed length there and the others begin where this ends. -/
theorem startSpells_drop_cons_iff {piece : Piece} {pieces : List Piece} {text : List Char}
    {i : ℕ} :
    StartSpells (piece :: pieces) (text.drop i) ↔
      ∃ j, Text.Between piece.atom.Takes text i j ∧ piece.repetition.Allows (j - i) ∧
        StartSpells pieces (text.drop j) := by
  rw [startSpells_cons_iff]
  constructor
  · rintro ⟨run, rest, htext, hlength, haccepted, hrest⟩
    obtain ⟨hallows, htakes⟩ := (piece.fits_iff run).mpr ⟨hlength, haccepted⟩
    refine ⟨i + run.length, ⟨Nat.le_add_right _ _, fun k hik hkj => ?_⟩, ?_, ?_⟩
    · have hk : k - i < run.length := by omega
      refine ⟨run[k - i], ?_, htakes _ (List.getElem_mem hk)⟩
      have hget : (text.drop i)[k - i]? = (run ++ rest)[k - i]? := by rw [htext]
      rwa [List.getElem?_drop, Nat.add_sub_cancel' hik, List.getElem?_append_left hk,
        List.getElem?_eq_getElem hk] at hget
    · rwa [Nat.add_sub_cancel_left]
    · have hbehind := congrArg (List.drop run.length) htext
      rw [List.drop_drop, List.drop_left] at hbehind
      rwa [hbehind]
  · rintro ⟨j, hstretch, hallows, hrest⟩
    have hend : i = j ∨ j ≤ text.length :=
      hstretch.1.eq_or_lt.imp_right hstretch.le_length
    have hlength : ((text.drop i).take (j - i)).length = j - i := by
      rw [List.length_take, List.length_drop]
      omega
    have htakes : ∀ c ∈ (text.drop i).take (j - i), piece.atom.Takes c := by
      rcases hend with rfl | hj
      · simp
      · exact (Text.between_iff_forall_mem hstretch.1 hj).mp hstretch
    obtain ⟨hallowed, haccepted⟩ := (piece.fits_iff _).mp ⟨by rwa [hlength], htakes⟩
    refine ⟨_, text.drop j, ?_, hallowed, haccepted, hrest⟩
    rw [← Nat.add_sub_cancel' hstretch.1, ← List.drop_drop, Nat.add_sub_cancel_left,
      List.take_append_drop]

/-- A piece that takes one character leads to the next place. -/
theorem startSpells_once_iff {atom : Atom} {pieces : List Piece} {text : List Char} {i : ℕ} :
    StartSpells (⟨atom, .once⟩ :: pieces) (text.drop i) ↔
      (∃ c, text[i]? = some c ∧ atom.Takes c) ∧ StartSpells pieces (text.drop (i + 1)) := by
  rw [startSpells_drop_cons_iff, ← Text.between_succ_iff]
  constructor
  · rintro ⟨j, hstretch, hone, hrest⟩
    have hle := hstretch.1
    obtain rfl : j = i + 1 := by
      simp only [Repetition.Allows] at hone
      omega
    exact ⟨hstretch, hrest⟩
  · rintro ⟨hstretch, hrest⟩
    exact ⟨i + 1, hstretch, by simp [Repetition.Allows], hrest⟩

/-- A piece that takes any number of characters leads to the end of any stretch of its kind. -/
theorem startSpells_anyNumber_iff {atom : Atom} {pieces : List Piece} {text : List Char} {i : ℕ} :
    StartSpells (⟨atom, .anyNumber⟩ :: pieces) (text.drop i) ↔
      ∃ j, Text.Between atom.Takes text i j ∧ StartSpells pieces (text.drop j) := by
  simp only [startSpells_drop_cons_iff, Repetition.Allows, true_and]

/-- A piece that takes at least one character leads on to the end of a stretch of its kind. -/
theorem startSpells_atLeastOne_iff {atom : Atom} {pieces : List Piece} {text : List Char}
    {i : ℕ} :
    StartSpells (⟨atom, .atLeastOnce⟩ :: pieces) (text.drop i) ↔
      ∃ j, i < j ∧ Text.Between atom.Takes text i j ∧ StartSpells pieces (text.drop j) := by
  rw [startSpells_drop_cons_iff]
  refine exists_congr fun j => ?_
  simp only [Repetition.Allows]
  constructor
  · rintro ⟨hstretch, hone, hrest⟩
    exact ⟨by omega, hstretch, hrest⟩
  · rintro ⟨hlt, hstretch, hrest⟩
    exact ⟨hstretch, by omega, hrest⟩

/-- A pattern is found in a text exactly if it begins at some place. -/
theorem foundIn_iff_exists_drop (pieces : List Piece) (text : List Char) :
    foundIn pieces text = true ↔ ∃ i, StartSpells pieces (text.drop i) := by
  rw [foundIn_iff]
  constructor
  · rintro ⟨run, ⟨front, back, rfl⟩, hspells⟩
    refine ⟨front.length, run, ?_, hspells⟩
    rw [List.append_assoc, List.drop_left]
    exact List.prefix_append run back
  · rintro ⟨i, run, hprefix, hspells⟩
    exact ⟨run, hprefix.isInfix.trans (List.drop_suffix i text).isInfix, hspells⟩

/-- A text that spells a row of pieces has only characters that one of the pieces accepts. -/
theorem Spells.exists_accepts {pieces : List Piece} {text : List Char} (h : Spells pieces text)
    {c : Char} (hc : c ∈ text) : ∃ piece ∈ pieces, piece.atom.accepts c = true := by
  induction h with
  | nil => cases hc
  | cons _ haccepted _ ih =>
    rcases List.mem_append.mp hc with hrun | hrest
    · exact ⟨_, List.mem_cons_self, haccepted c hrun⟩
    · obtain ⟨piece, hpiece, hpass⟩ := ih hrest
      exact ⟨piece, List.mem_cons_of_mem _ hpiece, hpass⟩

/-- A pattern whose pieces take no line feeds is found in a text exactly if it is found in one of
the lines. -/
theorem foundIn_iff_exists_line {pieces : List Piece}
    (hfeed : ∀ piece ∈ pieces, piece.atom.accepts '\n' = false) (text : List Char) :
    foundIn pieces text = true ↔ ∃ line ∈ Text.lines text, foundIn pieces line = true := by
  have hline : ∀ run, Spells pieces run → '\n' ∉ run := by
    intro run hspells hmem
    obtain ⟨piece, hpiece, haccepts⟩ := hspells.exists_accepts hmem
    rw [hfeed piece hpiece] at haccepts
    cases haccepts
  simp only [foundIn_iff]
  constructor
  · rintro ⟨run, hwithin, hspells⟩
    obtain ⟨line, hmem, hwithin⟩ :=
      (Text.infix_iff_exists_line (hline run hspells) text).mp hwithin
    exact ⟨line, hmem, run, hwithin, hspells⟩
  · rintro ⟨line, hmem, run, hwithin, hspells⟩
    exact ⟨run, (Text.infix_iff_exists_line (hline run hspells) text).mpr ⟨line, hmem, hwithin⟩,
      hspells⟩

/-- The pieces for a word. -/
def literals (word : List Char) : List Piece := word.map fun c => ⟨.literal c, .once⟩

/-- The piece for anything within a line. -/
def anything : Piece := ⟨.any, .anyNumber⟩

/-- The pieces for words with anything before each of them. -/
def spaced (words : List (List Char)) : List Piece :=
  words.flatMap fun word => anything :: literals word

/-- The pieces for the brackets and the brace before a body. -/
def bodyPieces : List Piece :=
  [⟨.literal '(', .once⟩, anything, ⟨.literal ')', .once⟩, ⟨.blank, .anyNumber⟩,
    ⟨.literal '\x7b', .once⟩]

/-- The pieces for a word and the bracket before a body. -/
def headerPieces (word : List Char) : List Piece := literals word ++ anything :: bodyPieces

/-- The pieces for what stands between a type and the body of what has this type. -/
def namePieces : List Piece :=
  ⟨.blank, .atLeastOnce⟩ :: ⟨.word, .atLeastOnce⟩ :: ⟨.blank, .anyNumber⟩ :: bodyPieces

/-- The pieces of the patterns of a language. -/
def Language.definitionPieces : Language → List (List Piece)
  | .python => [literals "def".toList ++ spaced ["(".toList, "):".toList]]
  | .java => [headerPieces "public".toList, headerPieces "private".toList]
  | .c => [⟨.word, .atLeastOnce⟩ :: namePieces]
  | .cpp => [⟨.word, .atLeastOnce⟩ :: namePieces, literals "void".toList ++ namePieces]
  | .javascript | .typescript | .csharp | .php =>
    [headerPieces "function".toList, literals "=>".toList ++ spaced ["=>".toList]]

/-- The patterns of a language are written with these pieces. -/
theorem Language.map_pieces_signs (language : Language) :
    language.signs.recursionPatterns.map Pattern.pieces = language.definitionPieces := by
  cases language <;> decide +kernel

/-- The pieces for a word begin where the word stands. -/
theorem startSpells_literals_append_iff {word : List Char} {pieces : List Piece}
    {text : List Char} {i : ℕ} :
    StartSpells (literals word ++ pieces) (text.drop i) ↔
      Text.StandsAt word text i ∧ StartSpells pieces (text.drop (i + word.length)) := by
  induction word generalizing i with
  | nil => simp [literals, Text.StandsAt]
  | cons c word ih =>
    rw [literals, List.map_cons, List.cons_append, startSpells_once_iff, ← literals, ih,
      Text.standsAt_cons_iff, and_assoc, List.length_cons, Nat.add_comm word.length 1,
      ← Nat.add_assoc]
    rfl

/-- Within a line, words with anything before them are found where they stand in order. -/
theorem startSpells_spaced_iff {words : List (List Char)} (hwords : [] ∉ words)
    {line : List Char} (hline : '\n' ∉ line) {i : ℕ} :
    StartSpells (spaced words) (line.drop i) ↔ Text.StandInOrder words line i := by
  induction words generalizing i with
  | nil => simp [spaced, startSpells_nil, Text.StandInOrder]
  | cons word words ih =>
    simp only [List.mem_cons, not_or] at hwords
    rw [spaced, List.flatMap_cons, List.cons_append, anything, startSpells_anyNumber_iff,
      ← anything, ← spaced, Text.StandInOrder]
    refine exists_congr fun j => ?_
    rw [startSpells_literals_append_iff, ih hwords.2]
    refine and_congr_left fun ⟨hstands, _⟩ => ⟨fun h => h.1, fun hij => ?_⟩
    -- nothing in a line is a line feed, so the stretch before the word may be any
    have hj := hstands.le_length (Ne.symm hwords.1)
    refine (Text.between_iff_forall_mem hij hj).mpr fun c hc => ?_
    rintro rfl
    exact hline (List.mem_of_mem_drop (List.mem_of_mem_take hc))

/-- Words with anything between them are found in a text exactly if a line has them in order. -/
theorem foundIn_words_iff {word : List Char} {words : List (List Char)}
    (hwords : [] ∉ word :: words)
    (hfeed : ∀ piece ∈ literals word ++ spaced words, piece.atom.accepts '\n' = false)
    (text : List Char) :
    foundIn (literals word ++ spaced words) text = true ↔
      Text.HasLineWith (word :: words) text := by
  simp only [List.mem_cons, not_or] at hwords
  rw [foundIn_iff_exists_line hfeed, Text.HasLineWith]
  refine exists_congr fun line => and_congr_right fun hmem => ?_
  have hline := Text.feed_not_mem_of_mem_lines hmem
  simp only [foundIn_iff_exists_drop, startSpells_literals_append_iff,
    startSpells_spaced_iff hwords.2 hline, Text.StandInOrder, Nat.zero_le, true_and]

/-- A piece for a character that is no letter takes this character only. -/
theorem startSpells_mark_iff {mark : Char} (hmark : mark.isAlpha = false) {pieces : List Piece}
    {text : List Char} {i : ℕ} :
    StartSpells (⟨.literal mark, .once⟩ :: pieces) (text.drop i) ↔
      text[i]? = some mark ∧ StartSpells pieces (text.drop (i + 1)) := by
  rw [startSpells_once_iff]
  refine and_congr_left fun _ => ?_
  simp only [Atom.Takes, sameLetter_iff_eq hmark, exists_eq_right]

/-- The pieces for a body begin where the bracket before a body stands. -/
theorem startSpells_bodyPieces_iff {text : List Char} {i : ℕ} :
    StartSpells bodyPieces (text.drop i) ↔ Text.OpensBody text i := by
  rw [bodyPieces, anything, startSpells_mark_iff (by decide), Text.OpensBody]
  refine and_congr_right fun hopens => ?_
  have hfirst : Text.Between (· ≠ '\n') text i (i + 1) :=
    Text.between_succ_iff.mpr ⟨'(', hopens, by decide⟩
  have hline : ∀ j, text[j]? = some ')' → (Text.Between Atom.any.Takes text (i + 1) j ↔
      i < j ∧ Text.lineNumber text i = Text.lineNumber text j) := fun j hcloses =>
    (Text.lineNumber_eq_iff_of_between hfirst (List.getElem?_eq_some_iff.mp hcloses).1.le).symm
  have hbrace : ∀ j, StartSpells [⟨.blank, .anyNumber⟩, ⟨.literal '\x7b', .once⟩] (text.drop j) ↔
      Text.BraceFollows text j := fun j => by
    simp only [startSpells_anyNumber_iff, startSpells_nil, and_true, Text.BraceFollows,
      startSpells_mark_iff (show '\x7b'.isAlpha = false by decide)]
  simp only [startSpells_anyNumber_iff, startSpells_mark_iff (show ')'.isAlpha = false by decide),
    hbrace]
  refine exists_congr fun j => ⟨?_, ?_⟩
  · rintro ⟨hstretch, hcloses, hbody⟩
    obtain ⟨hij, hsame⟩ := (hline j hcloses).mp hstretch
    exact ⟨hij, hsame, hcloses, hbody⟩
  · rintro ⟨hij, hsame, hcloses, hbody⟩
    exact ⟨(hline j hcloses).mpr ⟨hij, hsame⟩, hcloses, hbody⟩

/-- A word and the bracket before a body are found exactly if the text has them in one line. -/
theorem foundIn_headerPieces_iff {word : List Char} (hword : '\n' ∉ word) (text : List Char) :
    foundIn (headerPieces word) text = true ↔ Text.HasHeader word text := by
  simp only [foundIn_iff_exists_drop, headerPieces, anything, startSpells_literals_append_iff,
    startSpells_anyNumber_iff, startSpells_bodyPieces_iff, Text.HasHeader, ← exists_and_left]
  refine exists_congr fun i => exists_congr fun j => and_congr_right fun hstands => ?_
  rw [← and_assoc]
  refine and_congr_left fun hbody => ?_
  have hstretch : Text.Between (· ≠ '\n') text i (i + word.length) := by
    refine hstands.between fun c hc d hsame => ?_
    rintro rfl
    obtain rfl := (sameLetter_iff_eq (by decide)).mp hsame.symm
    exact hword hc
  have hj := (List.getElem?_eq_some_iff.mp hbody.1).1
  exact (Text.lineNumber_eq_iff_of_between hstretch hj.le).symm

/-- The pieces behind a type begin where a name and the bracket before a body follow. -/
theorem startSpells_namePieces_iff {text : List Char} {i : ℕ} :
    StartSpells namePieces (text.drop i) ↔ Text.NamesBody text i := by
  simp only [namePieces, startSpells_atLeastOne_iff, startSpells_anyNumber_iff,
    startSpells_bodyPieces_iff, Text.NamesBody, ← exists_and_left]

/-- Of the characters of a type only the last one counts. -/
theorem foundIn_typed_iff (text : List Char) :
    foundIn (⟨.word, .atLeastOnce⟩ :: namePieces) text = true ↔ Text.HasTypedHeader text := by
  simp only [foundIn_iff_exists_drop, startSpells_atLeastOne_iff, startSpells_namePieces_iff]
  constructor
  · rintro ⟨i, j, hij, hstretch, hnames⟩
    refine ⟨j - 1, hstretch.2 (j - 1) (by omega) (by omega), ?_⟩
    rwa [Nat.sub_add_cancel (by omega)]
  · rintro ⟨i, hfirst, hnames⟩
    exact ⟨i, i + 1, i.lt_succ_self, Text.between_succ_iff.mpr hfirst, hnames⟩

/-- A type that is spelled out is a type. -/
theorem hasTypedHeader_of_foundIn_void {text : List Char}
    (h : foundIn (literals "void".toList ++ namePieces) text = true) :
    Text.HasTypedHeader text := by
  simp only [foundIn_iff_exists_drop, startSpells_literals_append_iff,
    startSpells_namePieces_iff] at h
  obtain ⟨i, hstands, hnames⟩ := h
  have hletters : ∀ c ∈ "void".toList, ∀ d, SameLetter c d → Atom.word.Takes d := by
    intro c hc d hsame
    have hsmall : ∀ c ∈ "void".toList, 97 ≤ c.toNat ∧ c.toNat ≤ 122 := by simp
    have hletter := hsmall c hc
    simp only [SameLetter, Atom.Takes, char_le_iff, ← Char.toNat_inj, Char.reduceToNat] at hsame ⊢
    omega
  have htype := hstands.between hletters
  exact ⟨i + 3, htype.2 (i + 3) (by omega) (by simp), hnames⟩

/-- The signs of a language find a recursive definition in a text exactly if the text has what looks
like one in this language. -/
theorem Language.hasRecursion_iff_hasDefinition (language : Language) (text : List Char) :
    language.signs.hasRecursion text = true ↔ language.HasDefinition text := by
  have hpieces : language.signs.hasRecursion text = true ↔
      ∃ pieces ∈ language.definitionPieces, foundIn pieces text = true := by
    rw [← language.map_pieces_signs]
    simp only [LanguageSigns.hasRecursion, List.any_eq_true, Pattern.isFoundIn, List.mem_map,
      exists_exists_and_eq_and]
  have harrow := @foundIn_words_iff "=>".toList ["=>".toList] (by decide) (by decide) text
  have hdef := @foundIn_words_iff "def".toList ["(".toList, "):".toList] (by decide) (by decide)
    text
  have hheader : ∀ word : String, '\n' ∉ word.toList →
      (foundIn (headerPieces word.toList) text = true ↔ Text.HasHeader word.toList text) :=
    fun word hword => foundIn_headerPieces_iff hword text
  have hfunction := hheader "function" (by decide)
  have hpublic := hheader "public" (by decide)
  have hprivate := hheader "private" (by decide)
  have htyped := foundIn_typed_iff text
  have hvoid := @hasTypedHeader_of_foundIn_void text
  rw [hpieces]
  cases language with
  | python => simp only [definitionPieces, HasDefinition, List.mem_singleton, exists_eq_left, hdef]
  | java => simp only [definitionPieces, HasDefinition, List.exists_mem_cons_iff, hpublic, hprivate,
      List.not_mem_nil, false_and, exists_false, or_false]
  | c => simp only [definitionPieces, HasDefinition, List.mem_singleton, exists_eq_left, htyped]
  | cpp =>
    simp only [definitionPieces, HasDefinition, List.exists_mem_cons_iff, htyped,
      List.not_mem_nil, false_and, exists_false, or_false, or_iff_left_of_imp hvoid]
  | javascript | typescript | csharp | php =>
    simp only [definitionPieces, HasDefinition, List.exists_mem_cons_iff, hfunction, harrow,
      List.not_mem_nil, false_and, exists_false, or_false]
    exact or_comm

namespace SignTable

/-- In the table of all languages a scan reports a recursive definition exactly if the source has
what looks like one in the language that the name is resolved to: words in order in one line, or a
header. -/
theorem scan_hasRecursion_iff_hasDefinition (source : String) {language : Option String}
    {known : Language} (hknown : standardSigns.resolve language = known.id) :
    (standardSigns.scan (some source) language).hasRecursion = true ↔
      known.HasDefinition source.toList := by
  rw [scan_standardSigns hknown, hasRecursion_report, Option.getD_some, Bool.and_eq_true,
    known.hasRecursion_iff_hasDefinition, Bool.not_eq_true']
  -- an empty source has no definition anyway
  have hempty : known.HasDefinition [] → False := by
    rw [← known.hasRecursion_iff_hasDefinition]
    cases known <;> decide +kernel
  refine and_iff_right_of_imp fun hfound => ?_
  rw [List.isEmpty_eq_false_iff]
  intro hnil
  exact hempty (hnil ▸ hfound)

/-- The last letter of a type and a brace on the next line are enough. -/
theorem scan_hasRecursion_iff_hasDefinition_brace_below :
    standardSigns.resolve (some " CPP ") = Language.cpp.id ∧
      (standardSigns.scan (some "\x7d int f (n)\n\x7b") (some " CPP ")).hasRecursion = true := by
  have hknown : standardSigns.resolve (some " CPP ") = Language.cpp.id := by decide +kernel
  refine ⟨hknown, (scan_hasRecursion_iff_hasDefinition _ hknown).mpr ?_⟩
  refine ⟨4, ⟨'t', rfl, Or.inr (Or.inl (by decide))⟩, 6, 7, 8, by decide, ?_, by decide, ?_, ?_,
    rfl, 10, by decide, by decide, rfl, 12, ?_, rfl⟩
  · exact Text.between_succ_iff.mpr ⟨' ', rfl, by simp [Atom.Takes]⟩
  · exact Text.between_succ_iff.mpr ⟨'f', rfl, Or.inr (Or.inl (by decide))⟩
  · exact Text.between_succ_iff.mpr ⟨' ', rfl, by simp [Atom.Takes]⟩
  · exact Text.between_succ_iff.mpr ⟨'\n', rfl, by simp [Atom.Takes]⟩

end SignTable

end OrderOfGrowth

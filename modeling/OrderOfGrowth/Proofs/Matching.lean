import Mathlib.Data.List.Forall2
import OrderOfGrowth.Scan

/-!
# What the search for patterns finds

The matcher tries the repetitions of each piece in turn. This file proves that it misses no way
to cut a stretch of the text into runs and accepts nothing else, that the written form of a
pattern determines its pieces, and so what a scan means by a recursive definition.
-/

namespace OrderOfGrowth

/-- Some beginning of the text spells the pieces. -/
def StartSpells (pieces : List Piece) (text : List Char) : Prop :=
  ∃ run, run <+: text ∧ Spells pieces run

/-- Every text begins with the empty row of pieces. -/
theorem startSpells_nil (text : List Char) : StartSpells [] text :=
  ⟨[], List.nil_prefix, .nil⟩

/-- A text begins with a row of pieces if it begins with a run for the first piece and goes on
with the others. -/
theorem startSpells_cons_iff {piece : Piece} {pieces : List Piece} {text : List Char} :
    StartSpells (piece :: pieces) text ↔
      ∃ run rest, text = run ++ rest ∧ piece.repetition.allows run.length = true ∧
        (∀ c ∈ run, piece.atom.accepts c = true) ∧ StartSpells pieces rest := by
  constructor
  · rintro ⟨_, ⟨behind, rfl⟩, hspells⟩
    cases hspells with
    | @cons _ _ run rest hlength haccepted hspelled =>
      exact ⟨run, rest ++ behind, by simp, hlength, haccepted, rest,
        List.prefix_append rest behind, hspelled⟩
  · rintro ⟨run, _, rfl, hlength, haccepted, rest, ⟨behind, rfl⟩, hspelled⟩
    exact ⟨run ++ rest, ⟨behind, by simp⟩, .cons hlength haccepted hspelled⟩

/-- One accepted character is a run of length one. -/
theorem Piece.takesOne_iff (atom : Atom) (next : List Char → Bool) (text : List Char) :
    takesOne atom next text = true ↔
      ∃ c rest, text = c :: rest ∧ atom.accepts c = true ∧ next rest = true := by
  cases text with
  | nil => simp [takesOne]
  | cons c rest => simp [takesOne]

/-- The matcher finds every run of accepted characters, whatever comes behind it. -/
theorem Piece.takesMany_iff (atom : Atom) (next : List Char → Bool) (text : List Char) :
    takesMany atom next text = true ↔
      ∃ run rest, text = run ++ rest ∧ (∀ c ∈ run, atom.accepts c = true) ∧ next rest = true := by
  induction text with
  | nil => simp [takesMany]
  | cons c text ih =>
    rw [takesMany, Bool.or_eq_true, Bool.and_eq_true, ih]
    constructor
    · rintro (hnext | ⟨hc, run, rest, rfl, haccepted, hnext⟩)
      · exact ⟨[], c :: text, rfl, by simp, hnext⟩
      · exact ⟨c :: run, rest, rfl, by simpa [hc] using haccepted, hnext⟩
    · rintro ⟨run, rest, htext, haccepted, hnext⟩
      cases run with
      | nil =>
        left
        rw [htext]
        exact hnext
      | cons d run =>
        right
        obtain ⟨rfl, rfl⟩ := List.cons.inj htext
        exact ⟨haccepted c (by simp), run, rest, rfl, fun d hd => haccepted d (by simp [hd]), hnext⟩

/-- The matcher finds every run of an allowed length, whatever comes behind it. -/
theorem Piece.takesRun_iff (piece : Piece) (next : List Char → Bool) (text : List Char) :
    piece.takesRun next text = true ↔
      ∃ run rest, text = run ++ rest ∧ piece.repetition.allows run.length = true ∧
        (∀ c ∈ run, piece.atom.accepts c = true) ∧ next rest = true := by
  obtain ⟨atom, repetition⟩ := piece
  cases repetition with
  | once =>
    simp only [takesRun, takesOne_iff, Repetition.allows, beq_iff_eq, List.length_eq_one_iff]
    constructor
    · rintro ⟨c, rest, rfl, hc, hnext⟩
      exact ⟨[c], rest, rfl, ⟨c, rfl⟩, by simpa using hc, hnext⟩
    · rintro ⟨_, rest, rfl, ⟨c, rfl⟩, haccepted, hnext⟩
      exact ⟨c, rest, rfl, haccepted c (by simp), hnext⟩
  | atMostOnce =>
    simp only [takesRun, Bool.or_eq_true, takesOne_iff, Repetition.allows, decide_eq_true_eq]
    constructor
    · rintro (hnext | ⟨c, rest, rfl, hc, hnext⟩)
      · exact ⟨[], text, rfl, by simp, by simp, hnext⟩
      · exact ⟨[c], rest, rfl, by simp, by simpa using hc, hnext⟩
    · rintro ⟨run, rest, rfl, hlength, haccepted, hnext⟩
      match run, hlength with
      | [], _ => exact Or.inl hnext
      | [c], _ => exact Or.inr ⟨c, rest, rfl, haccepted c (by simp), hnext⟩
  | anyNumber => simp only [takesRun, takesMany_iff, Repetition.allows, true_and]
  | atLeastOnce =>
    simp only [takesRun, takesOne_iff, takesMany_iff, Repetition.allows, decide_eq_true_eq]
    constructor
    · rintro ⟨c, _, rfl, hc, run, rest, rfl, haccepted, hnext⟩
      exact ⟨c :: run, rest, rfl, by simp, by simpa [hc] using haccepted, hnext⟩
    · rintro ⟨run, rest, rfl, hlength, haccepted, hnext⟩
      match run, hlength with
      | c :: run, _ =>
        exact ⟨c, run ++ rest, rfl, haccepted c (by simp), run, rest, rfl,
          fun d hd => haccepted d (by simp [hd]), hnext⟩

/-- The matcher decides whether some beginning of the text spells the pieces. -/
theorem matchesStart_iff (pieces : List Piece) (text : List Char) :
    matchesStart pieces text = true ↔ StartSpells pieces text := by
  induction pieces generalizing text with
  | nil => simp [matchesStart, startSpells_nil]
  | cons piece pieces ih =>
    rw [matchesStart, Piece.takesRun_iff, startSpells_cons_iff]
    simp only [ih]

/-- The search decides whether some stretch of the text spells the pieces. -/
theorem foundIn_iff (pieces : List Piece) (text : List Char) :
    foundIn pieces text = true ↔ ∃ run, run <:+: text ∧ Spells pieces run := by
  induction text with
  | nil =>
    rw [foundIn, matchesStart_iff]
    simp [StartSpells]
  | cons c rest ih =>
    rw [foundIn, Bool.or_eq_true, matchesStart_iff, ih]
    simp only [StartSpells, List.infix_cons_iff]
    constructor
    · rintro (⟨run, hprefix, hspells⟩ | ⟨run, hwithin, hspells⟩)
      · exact ⟨run, Or.inl hprefix, hspells⟩
      · exact ⟨run, Or.inr hwithin, hspells⟩
    · rintro ⟨run, hprefix | hwithin, hspells⟩
      · exact Or.inl ⟨run, hprefix, hspells⟩
      · exact Or.inr ⟨run, hwithin, hspells⟩

/-- Two characters are the same up to the case of the letters from A to Z. -/
def SameLetter (c d : Char) : Prop :=
  c = d ∨ ('A' ≤ c ∧ c ≤ 'Z' ∧ d.toNat = c.toNat + 32) ∨
    ('A' ≤ d ∧ d ≤ 'Z' ∧ c.toNat = d.toNat + 32)

/-- Characters are ordered as their code points are. -/
theorem char_le_iff (c d : Char) : c ≤ d ↔ c.toNat ≤ d.toNat := by
  rw [Char.le_def, UInt32.le_iff_toNat_le]
  rfl

/-- The lower-case form moves the letters from A to Z and nothing else. -/
theorem toNat_toLower (c : Char) :
    c.toLower.toNat = if 'A' ≤ c ∧ c ≤ 'Z' then c.toNat + 32 else c.toNat := by
  by_cases h : 'A' ≤ c ∧ c ≤ 'Z'
  · have hlower : c.toLower.toNat = (c.val + ('a'.val - 'A'.val)).toNat :=
      congrArg Char.toNat (dif_pos h)
    have hlast := (char_le_iff _ _).mp h.2
    have hshift : ('a'.val - 'A'.val).toNat = 32 := by decide
    simp only [Char.reduceToNat] at hlast
    rw [hlower, if_pos h, UInt32.toNat_add, hshift, Char.toNat_val]
    omega
  · rw [if_neg h]
    exact congrArg Char.toNat (dif_neg h)

/-- Characters have the same lower-case form exactly if they are the same up to case. -/
theorem toLower_eq_toLower_iff (c d : Char) : c.toLower = d.toLower ↔ SameLetter c d := by
  rw [← Char.toNat_inj, toNat_toLower, toNat_toLower, SameLetter, ← Char.toNat_inj]
  simp only [char_le_iff, Char.reduceToNat]
  split <;> split <;> omega

/-- Being the same up to case goes both ways. -/
theorem SameLetter.symm {c d : Char} (h : SameLetter c d) : SameLetter d c := by
  rw [← toLower_eq_toLower_iff] at h ⊢
  exact Eq.symm h

namespace Atom

/-- The characters of a kind, by their names. -/
def Takes : Atom → Char → Prop
  | .literal c, d => SameLetter c d
  | .any, d => d ≠ '\n'
  | .word, d => ('A' ≤ d ∧ d ≤ 'Z') ∨ ('a' ≤ d ∧ d ≤ 'z') ∨ ('0' ≤ d ∧ d ≤ '9') ∨ d = '_'
  | .blank, d => d ∈ [' ', '\t', '\n', '\r', '\x0b', '\x0c']

/-- The test for a character decides which characters are of a kind. -/
theorem accepts_iff (atom : Atom) (c : Char) : atom.accepts c = true ↔ atom.Takes c := by
  cases atom with
  | literal d => simpa only [accepts, Takes, beq_iff_eq] using toLower_eq_toLower_iff d c
  | any => simp [accepts, Takes]
  | word =>
    have hword : isWordChar c = (((decide ('A' ≤ c ∧ c ≤ 'Z') || ('a' ≤ c && c ≤ 'z')) ||
        ('0' ≤ c && c ≤ '9')) || c == '_') := rfl
    simp only [accepts, Takes, hword, Bool.or_eq_true, Bool.and_eq_true, beq_iff_eq,
      decide_eq_true_eq, or_assoc]
  | blank => simp [accepts, Takes, isGap, or_assoc]

end Atom

namespace Repetition

/-- The lengths of the runs that a repetition mark stands for. -/
def Allows : Repetition → ℕ → Prop
  | .once, n => n = 1
  | .atMostOnce, n => n = 0 ∨ n = 1
  | .anyNumber, _ => True
  | .atLeastOnce, n => n ≠ 0

/-- The test for a length decides which lengths are allowed. -/
theorem allows_iff (repetition : Repetition) (n : ℕ) :
    repetition.allows n = true ↔ repetition.Allows n := by
  cases repetition <;> simp only [allows, Allows, beq_iff_eq, decide_eq_true_eq] <;> omega

end Repetition

/-- A run fits a piece if its length is allowed and its characters are of the kind. -/
def Piece.Fits (piece : Piece) (run : List Char) : Prop :=
  piece.repetition.Allows run.length ∧ ∀ c ∈ run, piece.atom.Takes c

/-- A run fits a piece exactly if it passes the tests of the matcher. -/
theorem Piece.fits_iff (piece : Piece) (run : List Char) :
    piece.Fits run ↔ piece.repetition.allows run.length = true ∧
      ∀ c ∈ run, piece.atom.accepts c = true := by
  simp only [Fits, Repetition.allows_iff, Atom.accepts_iff]

instance (piece : Piece) (run : List Char) : Decidable (piece.Fits run) :=
  decidable_of_iff
    (piece.repetition.allows run.length = true ∧ run.all piece.atom.accepts = true)
    (by rw [Piece.fits_iff, List.all_eq_true])

/-- A text spells a row of pieces if it can be cut into one fitting run for each piece. -/
theorem spells_iff_exists_runs (pieces : List Piece) (text : List Char) :
    Spells pieces text ↔ ∃ runs, runs.flatten = text ∧ List.Forall₂ Piece.Fits pieces runs := by
  constructor
  · intro hspells
    induction hspells with
    | nil => exact ⟨[], rfl, .nil⟩
    | @cons piece pieces run rest hlength haccepted _ ih =>
      obtain ⟨runs, rfl, hfits⟩ := ih
      exact ⟨run :: runs, rfl, .cons ((piece.fits_iff run).mpr ⟨hlength, haccepted⟩) hfits⟩
  · rintro ⟨runs, rfl, hfits⟩
    induction hfits with
    | nil => exact .nil
    | @cons piece run pieces runs hfit _ ih =>
      obtain ⟨hlength, haccepted⟩ := (piece.fits_iff run).mp hfit
      exact .cons hlength haccepted ih

/-- The characters that stand for something else in a written pattern. -/
def markCharacters : List Char :=
  ['.', '^', '$', '*', '+', '?', '\x7b', '[', '\\', '|', '(', ')']

/-- How a kind of character is written. A character that is no letter or digit stands for itself
behind a backslash, and a character without a meaning of its own also without one. -/
inductive WritesAtom : List Char → Atom → Prop where
  | plain {c : Char} (hplain : c ∉ markCharacters) : WritesAtom [c] (.literal c)
  | escaped {c : Char} (hescaped : c.isAlphanum = false) : WritesAtom ['\\', c] (.literal c)
  | any : WritesAtom ['.'] .any
  | word : WritesAtom ['\\', 'w'] .word
  | blank : WritesAtom ['\\', 's'] .blank

/-- How a number of repetitions is written. -/
inductive WritesRepetition : List Char → Repetition → Prop where
  | once : WritesRepetition [] .once
  | atMostOnce : WritesRepetition ['?'] .atMostOnce
  | anyNumber : WritesRepetition ['*'] .anyNumber
  | atLeastOnce : WritesRepetition ['+'] .atLeastOnce

/-- How a row of pieces is written. -/
inductive Writes : List Char → List Piece → Prop where
  | nil : Writes [] []
  | cons {kind count rest : List Char} {atom : Atom} {repetition : Repetition}
      {pieces : List Piece} (hatom : WritesAtom kind atom)
      (hrepetition : WritesRepetition count repetition) (hrest : Writes rest pieces) :
      Writes (kind ++ count ++ rest) (⟨atom, repetition⟩ :: pieces)

/-- The characters that stand for something else are the dot and those that the reader refuses. -/
theorem mem_markCharacters_iff {c : Char} : c ∈ markCharacters ↔ c = '.' ∨ c ∈ patternMarks := by
  simp [markCharacters, patternMarks]

/-- A kind of character is read in front of a text exactly if it is written there. -/
theorem readAtom?_eq_some_iff {text rest : List Char} {atom : Atom} :
    readAtom? text = some (atom, rest) ↔ ∃ kind, WritesAtom kind atom ∧ kind ++ rest = text := by
  constructor
  · intro h
    unfold readAtom? at h
    split at h
    · cases h
      exact ⟨_, .word, rfl⟩
    · cases h
      exact ⟨_, .blank, rfl⟩
    next c behind _ _ =>
      split_ifs at h with hletter
      cases h
      exact ⟨_, .escaped (by simpa using hletter), rfl⟩
    · cases h
      exact ⟨_, .any, rfl⟩
    next c behind _ _ _ hdot =>
      split_ifs at h with hmark
      cases h
      have hplain : c ∉ markCharacters := by
        rw [mem_markCharacters_iff]
        rintro (rfl | hc)
        · exact hdot rfl
        · exact hmark (by simpa using hc)
      exact ⟨_, .plain hplain, rfl⟩
    · cases h
  · rintro ⟨kind, hkind, rfl⟩
    cases hkind with
    | @plain c hplain =>
      rw [mem_markCharacters_iff, not_or] at hplain
      have hback : c ≠ '\\' := fun hc => hplain.2 (by simp [hc, patternMarks])
      simp [readAtom?, hback, hplain.1, hplain.2]
    | @escaped c hescaped =>
      have hword : c ≠ 'w' := fun hc => by simp [hc] at hescaped
      have hblank : c ≠ 's' := fun hc => by simp [hc] at hescaped
      simp only [List.cons_append, List.nil_append]
      rw [readAtom?, if_neg (by simp [hescaped])]
      · exact fun h => hword (by simpa using h)
      · exact fun h => hblank (by simpa using h)
    | any => rfl
    | word => rfl
    | blank => rfl

/-- A written row of pieces does not begin with a repetition mark. -/
theorem readRepetition_of_writes {text : List Char} {pieces : List Piece} (h : Writes text pieces) :
    readRepetition text = (.once, text) := by
  cases h with
  | nil => rfl
  | cons hatom _ _ =>
    cases hatom with
    | @plain c hplain =>
      have hstar : c ≠ '*' := fun hc => hplain (by simp [hc, markCharacters])
      have hplus : c ≠ '+' := fun hc => hplain (by simp [hc, markCharacters])
      have hquestion : c ≠ '?' := fun hc => hplain (by simp [hc, markCharacters])
      simp [readRepetition, hstar, hplus, hquestion]
    | escaped => rfl
    | any => rfl
    | word => rfl
    | blank => rfl

/-- A written number of repetitions is read as that number. -/
theorem readRepetition_of_writesRepetition {count rest : List Char} {repetition : Repetition}
    {pieces : List Piece} (h : WritesRepetition count repetition) (hrest : Writes rest pieces) :
    readRepetition (count ++ rest) = (repetition, rest) := by
  cases h with
  | once => exact readRepetition_of_writes hrest
  | atMostOnce => rfl
  | anyNumber => rfl
  | atLeastOnce => rfl

/-- The repetition mark that is read in front of a text is written there. -/
theorem exists_writesRepetition (text : List Char) :
    ∃ count, WritesRepetition count (readRepetition text).1 ∧
      count ++ (readRepetition text).2 = text := by
  unfold readRepetition
  split
  · exact ⟨_, .anyNumber, rfl⟩
  · exact ⟨_, .atLeastOnce, rfl⟩
  · exact ⟨_, .atMostOnce, rfl⟩
  · exact ⟨_, .once, rfl⟩

/-- A written row of pieces is read as that row. -/
theorem readPieces?_of_writes {text : List Char} {pieces : List Piece} (h : Writes text pieces) :
    readPieces? text = some pieces := by
  induction h with
  | nil => simp [readPieces?]
  | @cons kind count rest atom repetition pieces hatom hrepetition hrest ih =>
    have hread : readAtom? (kind ++ count ++ rest) = some (atom, count ++ rest) :=
      readAtom?_eq_some_iff.mpr ⟨kind, hatom, (List.append_assoc ..).symm⟩
    have hne : (kind ++ count ++ rest).isEmpty = false := by cases hatom <;> rfl
    rw [readPieces?, hne, if_neg Bool.false_ne_true]
    split
    · simp_all
    next found behind hfound =>
      obtain ⟨rfl, rfl⟩ := Prod.mk.inj (Option.some.inj (hread.symm.trans hfound))
      rw [readRepetition_of_writesRepetition hrepetition hrest, ih]
      rfl

/-- What is read as a row of pieces writes that row. -/
theorem writes_of_readPieces? (text : List Char) :
    ∀ pieces, readPieces? text = some pieces → Writes text pieces := by
  induction text using readPieces?.induct with
  | case1 text hempty =>
    intro pieces h
    obtain rfl := List.isEmpty_iff.mp hempty
    obtain rfl : [] = pieces := by simpa [readPieces?] using h
    exact .nil
  | case2 text hempty hnone =>
    intro pieces h
    rw [readPieces?, if_neg hempty] at h
    split at h <;> simp_all
  | case3 text hempty atom behind hread ih =>
    intro pieces h
    rw [readPieces?, if_neg hempty] at h
    split at h
    · cases h
    next found rest hfound =>
      obtain ⟨rfl, rfl⟩ := Prod.mk.inj (Option.some.inj (hread.symm.trans hfound))
      obtain ⟨others, hothers, rfl⟩ := Option.map_eq_some_iff.mp h
      obtain ⟨kind, hkind, htext⟩ := readAtom?_eq_some_iff.mp hread
      obtain ⟨count, hcount, hbehind⟩ := exists_writesRepetition behind
      have hwrites := Writes.cons hkind hcount (ih others hothers)
      rwa [List.append_assoc, hbehind, htext] at hwrites

namespace Pattern

/-- The written form of a pattern writes its pieces. -/
theorem writes (pattern : Pattern) : Writes pattern.source.toList pattern.pieces :=
  writes_of_readPieces? _ _ pattern.readsAs

/-- The written form of a pattern writes no other pieces. -/
theorem pieces_eq_of_writes {pattern : Pattern} {pieces : List Piece}
    (hwrites : Writes pattern.source.toList pieces) : pattern.pieces = pieces :=
  Option.some.inj (pattern.readsAs.symm.trans (readPieces?_of_writes hwrites))

/-- A text is read as a pattern exactly if it writes a row of pieces. -/
theorem isSome_ofSource?_iff {source : String} :
    (ofSource? source).isSome = true ↔ ∃ pieces, Writes source.toList pieces := by
  unfold ofSource?
  split
  next pieces h => exact ⟨fun _ => ⟨pieces, writes_of_readPieces? _ _ h⟩, fun _ => rfl⟩
  next h =>
    refine ⟨fun hsome => (by cases hsome), ?_⟩
    rintro ⟨pieces, hwrites⟩
    cases h.symm.trans (readPieces?_of_writes hwrites)

end Pattern

/-- The standard table has nothing but the signs of the languages. -/
theorem exists_signs_eq (language : Option String) :
    ∃ known : Language, standardSigns.signs language = known.signs := by
  have hlookup : standardSigns.entries.lookup (standardSigns.resolve language) =
      some (standardSigns.signs language) := (Option.some_get _).symm
  obtain ⟨known, -, hentry⟩ := List.mem_map.mp (Keyed.mem_of_lookup hlookup)
  exact ⟨known, (Prod.mk.inj hentry).2.symm⟩

/-- A recursive definition is found if a stretch of the text spells one of the patterns. -/
theorem LanguageSigns.hasRecursion_iff (signs : LanguageSigns) (text : List Char) :
    signs.hasRecursion text = true ↔
      ∃ pattern ∈ signs.recursionPatterns, ∃ run, run <:+: text ∧ Spells pattern.pieces run := by
  simp only [hasRecursion, List.any_eq_true, Pattern.isFoundIn, foundIn_iff]

namespace SignTable

/-- The recursion signal of a source with text in it comes from the whole text. -/
theorem scan_hasRecursion (table : SignTable) (language : Option String) {source : String}
    (hne : source ≠ "") :
    (table.scan (some source) language).hasRecursion =
      (table.signs (some (table.resolve language))).hasRecursion source.toList := by
  have htext : source.toList.isEmpty = false := by simpa [List.isEmpty_iff] using hne
  simp only [scan, Option.getD_some, htext]
  rfl

/-- A scan reports a recursive definition exactly if, for one of the patterns, some stretch of
the source can be cut into runs, one for each piece that the pattern writes, of lengths that the
repetition marks allow and of characters of the written kinds. The search ends on every text. -/
theorem scan_hasRecursion_iff_exists_runs (table : SignTable) (language : Option String)
    {source : String} (hne : source ≠ "") :
    (table.scan (some source) language).hasRecursion = true ↔
      ∃ pattern ∈ (table.signs (some (table.resolve language))).recursionPatterns,
        ∃ pieces stretch runs, Writes pattern.source.toList pieces ∧
          stretch <:+: source.toList ∧ runs.flatten = stretch ∧
          List.Forall₂ Piece.Fits pieces runs := by
  rw [scan_hasRecursion table language hne, LanguageSigns.hasRecursion_iff]
  constructor
  · rintro ⟨pattern, hpattern, stretch, hwithin, hspells⟩
    obtain ⟨runs, hflatten, hfits⟩ := (spells_iff_exists_runs _ _).mp hspells
    exact ⟨pattern, hpattern, pattern.pieces, stretch, runs, pattern.writes, hwithin, hflatten,
      hfits⟩
  · rintro ⟨pattern, hpattern, pieces, stretch, runs, hwrites, hwithin, hflatten, hfits⟩
    refine ⟨pattern, hpattern, stretch, hwithin, ?_⟩
    rw [Pattern.pieces_eq_of_writes hwrites, spells_iff_exists_runs]
    exact ⟨runs, hflatten, hfits⟩

/-- The dots before the first bracket reach over another one, and letters count in any case. -/
theorem scan_hasRecursion_iff_exists_runs_inner_bracket :
    "DEF f(g(n)):\n  pass" ≠ "" ∧
      (standardSigns.scan (some "DEF f(g(n)):\n  pass") (some "python")).hasRecursion = true := by
  refine ⟨by decide, ?_⟩
  refine (scan_hasRecursion_iff_exists_runs standardSigns (some "python") (by decide)).mpr ?_
  have hsigns : standardSigns.signs (some (standardSigns.resolve (some "python"))) =
      Language.python.signs := rfl
  obtain ⟨pattern, hpattern, hsource⟩ : ∃ pattern ∈ Language.python.signs.recursionPatterns,
      pattern.source = "def.*\\(.*\\):" := by
    rw [← List.mem_map, Language.sources_signs]
    exact List.mem_singleton.mpr rfl
  have hpieces : readPieces? pattern.source.toList = some
      [⟨.literal 'd', .once⟩, ⟨.literal 'e', .once⟩, ⟨.literal 'f', .once⟩, ⟨.any, .anyNumber⟩,
        ⟨.literal '(', .once⟩, ⟨.any, .anyNumber⟩, ⟨.literal ')', .once⟩,
        ⟨.literal ':', .once⟩] := by
    rw [hsource]
    decide +kernel
  refine ⟨pattern, hsigns ▸ hpattern, _, "DEF f(g(n)):".toList,
    [['D'], ['E'], ['F'], " f(g".toList, ['('], "n)".toList, [')'], [':']],
    writes_of_readPieces? _ _ hpieces, ?_, by decide, by decide +kernel⟩
  exact ⟨[], "\n  pass".toList, by decide⟩

end SignTable

end OrderOfGrowth

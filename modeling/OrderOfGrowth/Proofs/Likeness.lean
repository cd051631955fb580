import Mathlib.Data.List.Forall2
import OrderOfGrowth.Proofs.Estimate
import OrderOfGrowth.Proofs.LowerCase

/-!
# Texts that look alike

A scan and an estimate see little of a source: which words stand in the lower-case form of each
line, which lines close a block, and whether a pattern is found. Two texts that agree in these get
the same report and the same estimate. The hints are looked for in the whole text, but no line
feed is in a hint, so that they too show on the lines.

A text looks like its image under a change of characters if each line does and the pieces of the
patterns do not tell a character from its image.
-/

namespace OrderOfGrowth

/-- A change of characters that keeps line feeds apart from all others changes a text line by
line. -/
theorem Text.lines_map {f : Char → Char} (hfeed : ∀ c, f c = '\n' ↔ c = '\n')
    (text : List Char) : lines (text.map f) = (lines text).map (·.map f) := by
  have hkept : ∀ line : List Char, '\n' ∉ line → '\n' ∉ line.map f := by
    intro line hline hmem
    obtain ⟨c, hc, himage⟩ := List.mem_map.mp hmem
    exact hline ((hfeed c).mp himage ▸ hc)
  induction text using line_induction with
  | last line hline =>
    simp only [lines, splitAt_of_not_mem hline, splitAt_of_not_mem (hkept line hline),
      List.map_singleton]
  | more line rest hline ih =>
    rw [lines] at ih ⊢
    rw [List.map_append, List.map_cons, (hfeed '\n').mpr rfl,
      splitAt_append_cons (hkept line hline), ih, lines, lines, splitAt_append_cons hline,
      List.map_cons]

/-- A piece takes a run in the image of a text as it does in the text itself if it does not tell
characters from their images. -/
theorem Piece.takesRun_map {piece : Piece} {f : Char → Char}
    (hf : ∀ c, piece.atom.accepts (f c) = piece.atom.accepts c) (next : List Char → Bool)
    (text : List Char) :
    piece.takesRun next (text.map f) = piece.takesRun (fun rest => next (rest.map f)) text := by
  have hone : ∀ (next : List Char → Bool) (text : List Char),
      takesOne piece.atom next (text.map f) =
        takesOne piece.atom (fun rest => next (rest.map f)) text := by
    intro next text
    cases text with
    | nil => rfl
    | cons c text => simp only [List.map_cons, takesOne, hf]
  have hmany : ∀ text : List Char,
      takesMany piece.atom next (text.map f) =
        takesMany piece.atom (fun rest => next (rest.map f)) text := by
    intro text
    induction text with
    | nil => rfl
    | cons c text ih => rw [List.map_cons, takesMany, takesMany, hf, ih, List.map_cons]
  cases hrepetition : piece.repetition with
  | once => simp only [takesRun, hrepetition, hone]
  | atMostOnce => simp only [takesRun, hrepetition, hone]
  | anyNumber => simp only [takesRun, hrepetition, hmany]
  | atLeastOnce => simp only [takesRun, hrepetition, hone, hmany]

/-- A search finds in the image of a text what it finds in the text itself if no piece tells
characters from their images. -/
theorem foundIn_map {pieces : List Piece} {f : Char → Char}
    (hf : ∀ piece ∈ pieces, ∀ c, piece.atom.accepts (f c) = piece.atom.accepts c)
    (text : List Char) : foundIn pieces (text.map f) = foundIn pieces text := by
  have hstart : ∀ text : List Char,
      matchesStart pieces (text.map f) = matchesStart pieces text := by
    induction pieces with
    | nil => exact fun text => rfl
    | cons piece pieces ih =>
      intro text
      have hrest := ih fun other hother => hf other (List.mem_cons_of_mem piece hother)
      rw [matchesStart, Piece.takesRun_map (hf piece (by simp)), funext hrest, matchesStart]
  induction text with
  | nil => rfl
  | cons c text ih => rw [List.map_cons, foundIn, foundIn, ih, ← List.map_cons, hstart]

namespace LanguageSigns

/-- The words that are looked for in lower-case forms. -/
def words (signs : LanguageSigns) : List (List Char) :=
  signs.tokens ++ commentMarks ++ halvingHints ++ dividingHints

/-- Two lines look alike: the same words stand in their lower-case forms, and either both close a
block or none does. -/
structure LinesAlike (signs : LanguageSigns) (line other : List Char) : Prop where
  word_iff : ∀ word ∈ signs.words, word <:+: Text.lowercase line ↔ word <:+: Text.lowercase other
  closes_iff : ClosesBlock line ↔ ClosesBlock other

/-- Two texts look alike: they have as many lines, which look alike one by one, and a recursive
definition is found in both or in none. -/
structure TextsAlike (signs : LanguageSigns) (text other : List Char) : Prop where
  nil_iff : text = [] ↔ other = []
  lines : List.Forall₂ signs.LinesAlike (Text.lines text) (Text.lines other)
  hasRecursion_eq : signs.hasRecursion text = signs.hasRecursion other

variable {signs : LanguageSigns} {line other text : List Char}

/-- Lines that look alike start loops alike. -/
theorem LinesAlike.startsLoop_eq (h : signs.LinesAlike line other) :
    startsLoop signs.tokens (Text.lowercase line) =
      startsLoop signs.tokens (Text.lowercase other) := by
  have htoken : ∀ token ∈ signs.tokens,
      (token <:+: Text.lowercase line ↔ token <:+: Text.lowercase other) :=
    fun token htoken => h.word_iff token (by simp [words, htoken])
  have hslashes := h.word_iff ['/', '/'] (by simp [words, commentMarks])
  have hstar := h.word_iff ['*'] (by simp [words, commentMarks])
  rw [Bool.eq_iff_iff, startsLoop_iff, startsLoop_iff, StartsLoop, StartsLoop, hslashes, hstar]
  refine and_congr_left fun _ => exists_congr fun token => ?_
  exact and_congr_right fun hmem => htoken token hmem

/-- Lines that look alike close blocks alike. -/
theorem LinesAlike.closesBlock_eq (h : signs.LinesAlike line other) :
    closesBlock line = closesBlock other := by
  rw [Bool.eq_iff_iff, closesBlock_iff, closesBlock_iff]
  exact h.closes_iff

/-- Lines that look alike one by one lead a walk to the same place. -/
theorem overLines_eq_of_linesAlike {lines others : List (List Char)}
    (h : List.Forall₂ signs.LinesAlike lines others) :
    Walk.overLines signs.tokens lines = Walk.overLines signs.tokens others := by
  unfold Walk.overLines
  generalize Walk.start = walk
  induction h generalizing walk with
  | nil => rfl
  | cons halike _ ih =>
    rw [List.foldl_cons, List.foldl_cons, halike.startsLoop_eq, halike.closesBlock_eq]
    exact ih _

/-- A word that stands in one of several lines in lower case stands in one of the lines that look
like them. -/
theorem exists_line_iff_of_linesAlike {lines others : List (List Char)}
    (h : List.Forall₂ signs.LinesAlike lines others) {word : List Char}
    (hword : word ∈ signs.words) :
    (∃ line ∈ lines, word <:+: Text.lowercase line) ↔
      ∃ line ∈ others, word <:+: Text.lowercase line := by
  induction h with
  | nil => simp
  | cons halike _ ih =>
    rw [List.exists_mem_cons_iff, List.exists_mem_cons_iff, ih, halike.word_iff word hword]

/-- Texts that look alike mention the same words. -/
theorem TextsAlike.occursIn_eq (h : signs.TextsAlike text other) {word : List Char}
    (hword : word ∈ signs.words) (hfeed : '\n' ∉ word) :
    Text.occursIn word (Text.lowercase text) = Text.occursIn word (Text.lowercase other) := by
  rw [Bool.eq_iff_iff, Text.occursIn_iff, Text.occursIn_iff, Text.infix_iff_exists_line hfeed,
    Text.infix_iff_exists_line hfeed, Text.lines_lowercase, Text.lines_lowercase]
  simpa only [List.mem_map, exists_exists_and_eq_and] using
    exists_line_iff_of_linesAlike h.lines hword

/-- Texts that look alike have the same hints at a halving. -/
theorem TextsAlike.halvingHints_eq (h : signs.TextsAlike text other) :
    halvingHints.all (Text.occursIn · (Text.lowercase text)) =
      halvingHints.all (Text.occursIn · (Text.lowercase other)) := by
  have hfeed : ∀ hint ∈ halvingHints, '\n' ∉ hint := by decide
  rw [Bool.eq_iff_iff, List.all_eq_true, List.all_eq_true]
  refine forall₂_congr fun hint hmem => ?_
  rw [h.occursIn_eq (by simp [words, hmem]) (hfeed hint hmem)]

/-- Texts that look alike have the same hints at a division. -/
theorem TextsAlike.dividingHints_eq (h : signs.TextsAlike text other) :
    dividingHints.any (Text.occursIn · (Text.lowercase text)) =
      dividingHints.any (Text.occursIn · (Text.lowercase other)) := by
  have hfeed : ∀ hint ∈ dividingHints, '\n' ∉ hint := by decide
  rw [Bool.eq_iff_iff, List.any_eq_true, List.any_eq_true]
  refine exists_congr fun hint => and_congr_right fun hmem => ?_
  rw [h.occursIn_eq (by simp [words, hmem]) (hfeed hint hmem)]

/-- A recursive definition is found in both of two texts or in none if each pattern is. -/
theorem hasRecursion_congr (hfound : ∀ pattern ∈ signs.recursionPatterns,
    foundIn pattern.pieces text = foundIn pattern.pieces other) :
    signs.hasRecursion text = signs.hasRecursion other := by
  rw [hasRecursion, hasRecursion, Bool.eq_iff_iff, List.any_eq_true, List.any_eq_true]
  refine exists_congr fun pattern => and_congr_right fun hpattern => ?_
  rw [Pattern.isFoundIn, Pattern.isFoundIn, hfound pattern hpattern]

/-- A text looks like its image under a change of characters if line feeds and braces are kept
apart from all others, the words stand in the image of a line exactly if they stand in the line,
and no piece of a pattern tells characters from their images. -/
theorem textsAlike_map {f : Char → Char}
    (hmarks : ∀ mark ∈ ['\n', '\x7b', '\x7d'], ∀ c, f c = mark ↔ c = mark)
    (hwords : ∀ line, ∀ word ∈ signs.words,
      word <:+: Text.lowercase line ↔ word <:+: Text.lowercase (line.map f))
    (hpieces : ∀ pattern ∈ signs.recursionPatterns, ∀ piece ∈ pattern.pieces, ∀ c,
      piece.atom.accepts (f c) = piece.atom.accepts c)
    (text : List Char) : signs.TextsAlike text (text.map f) where
  nil_iff := List.map_eq_nil_iff.symm
  lines := by
    have hcount : ∀ mark ∈ ['\n', '\x7b', '\x7d'], ∀ line : List Char,
        (line.map f).count mark = line.count mark := by
      intro mark hmark line
      rw [List.count_eq_countP, List.countP_map, List.count_eq_countP]
      exact List.countP_congr fun c _ => by simp [hmarks mark hmark]
    rw [Text.lines_map (hmarks '\n' (by simp)), List.forall₂_map_right_iff, List.forall₂_same]
    refine fun line _ => ⟨hwords line, ?_⟩
    rw [ClosesBlock, ClosesBlock, hcount _ (by simp), hcount _ (by simp)]
  hasRecursion_eq :=
    hasRecursion_congr fun pattern hpattern => (foundIn_map (hpieces pattern hpattern) text).symm

end LanguageSigns

/-- The rules decide alike about texts that look alike. -/
theorem ScanReport.decide_eq_of_textsAlike (report : ScanReport) {signs : LanguageSigns}
    {source other : String} (h : signs.TextsAlike source.toList other.toList) :
    report.decide source = report.decide other := by
  simp only [ScanReport.decide, h.halvingHints_eq, h.dividingHints_eq]

namespace SignTable

variable (table : SignTable) (language : Option String) {source other : String}

/-- Sources that look alike get the same report. -/
theorem scan_eq_of_textsAlike
    (h : (table.signs (some (table.resolve language))).TextsAlike source.toList other.toList) :
    table.scan (some source) language = table.scan (some other) language := by
  have hempty : source.toList.isEmpty = other.toList.isEmpty := by
    rw [Bool.eq_iff_iff, List.isEmpty_iff, List.isEmpty_iff]
    exact h.nil_iff
  simp only [scan, Option.getD_some, hempty, h.hasRecursion_eq,
    LanguageSigns.overLines_eq_of_linesAlike h.lines]

/-- Sources that look alike get the same estimate. -/
theorem classify_eq_of_textsAlike
    (h : (table.signs (some (table.resolve language))).TextsAlike source.toList other.toList) :
    table.classify (some source) language = table.classify (some other) language := by
  simp only [classify, Option.getD_some, table.scan_eq_of_textsAlike language h,
    ScanReport.decide_eq_of_textsAlike _ h]

/-- Sources that look alike in every language get the same report and the same estimate from the
standard table. -/
theorem standardSigns_eq_of_textsAlike
    (h : ∀ known : Language, known.signs.TextsAlike source.toList other.toList) :
    standardSigns.scan (some source) language = standardSigns.scan (some other) language ∧
      standardSigns.classify (some source) language =
        standardSigns.classify (some other) language := by
  obtain ⟨known, hsigns⟩ := exists_signs_eq (some (standardSigns.resolve language))
  have halike := h known
  rw [← hsigns] at halike
  exact ⟨standardSigns.scan_eq_of_textsAlike language halike,
    standardSigns.classify_eq_of_textsAlike language halike⟩

end SignTable

end OrderOfGrowth

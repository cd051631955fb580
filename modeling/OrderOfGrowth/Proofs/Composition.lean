import OrderOfGrowth.Proofs.LowerCase
import OrderOfGrowth.Proofs.Matching
import OrderOfGrowth.Proofs.Nesting

/-!
# Joined sources and more signs

A scan of two sources with a line feed between them walks over the lines of the second one from
where the first one has left off, and a scan with more signs finds a start in more lines. Either
way two walks go over the same lines from different places. What holds between the two is kept by
every line, although a loop that is open in only one of them lets a close count there alone.
-/

namespace OrderOfGrowth

/-- The lines of two texts with a line feed between them are those of the one and of the other. -/
theorem Text.lines_append_feed (text rest : List Char) :
    lines (text ++ '\n' :: rest) = lines text ++ lines rest := by
  induction text using line_induction with
  | last line hline =>
    rw [lines, splitAt_append_cons hline, lines, splitAt_of_not_mem hline]
    rfl
  | more line text hline ih =>
    have hlines : lines (line ++ '\n' :: text) = line :: lines text :=
      splitAt_append_cons hline text
    rw [hlines, List.append_assoc, List.cons_append, lines, splitAt_append_cons hline, ← lines, ih]
    rfl

namespace Walk

/-- The line of a source takes a walk one step further. -/
def overLine (tokens : List (List Char)) (walk : Walk) (line : List Char) : Walk :=
  walk.step (startsLoop tokens (Text.lowercase line)) (closesBlock line)

/-- A walk over lines goes over them one by one. -/
theorem overLines_eq_foldl (tokens lines : List (List Char)) :
    overLines tokens lines = lines.foldl (overLine tokens) start := rfl

/-- On a consistent walk a start opens a loop and a close ends one, down to none. -/
theorem Consistent.depth_step_eq_max {walk : Walk} (h : walk.Consistent) (starts closes : Bool) :
    ((walk.step starts closes).depth : ℤ) =
      max 0 (walk.depth + (starts.toInt - closes.toInt)) := by
  have hstarts : 0 ≤ starts.toInt := by cases starts <;> simp
  rw [h.depth_step]
  cases closes with
  | false =>
    simp only [Bool.false_eq_true, false_and, if_false, Bool.toInt_false]
    omega
  | true =>
    simp only [true_and, Bool.toInt_true]
    split <;> omega

/-- A walk over lines is consistent. -/
theorem overLines_consistent (tokens lines : List (List Char)) :
    (overLines tokens lines).Consistent := by
  have hfrom : ∀ walk : Walk, walk.Consistent →
      (lines.foldl (overLine tokens) walk).Consistent := by
    induction lines with
    | nil => exact fun _ hwalk => hwalk
    | cons line lines ih => exact fun _ hwalk => ih _ (hwalk.step _ _)
  exact hfrom start start_consistent

/-- A walk that has gone on behind `before` against one that has gone over the same lines from the
start: it has found their loops besides its own, and of the loops that are open at one place it has
at least as many, but no more than `before` had open at some time besides. -/
structure Continues (before alone joined : Walk) : Prop where
  alone_consistent : alone.Consistent
  joined_consistent : joined.Consistent
  loops_eq : joined.loops = before.loops + alone.loops
  depth_le : alone.depth ≤ joined.depth
  le_depth : joined.depth ≤ before.deepest + alone.depth
  deepest_le : max before.deepest alone.deepest ≤ joined.deepest
  le_deepest : joined.deepest ≤ before.deepest + alone.deepest

/-- A walk that has not gone on yet continues itself. -/
theorem Consistent.continues {before : Walk} (h : before.Consistent) :
    Continues before start before where
  alone_consistent := start_consistent
  joined_consistent := h
  loops_eq := rfl
  depth_le := Nat.zero_le _
  le_depth := h.depth_le
  deepest_le := max_le le_rfl (Nat.zero_le _)
  le_deepest := le_rfl

/-- One more line keeps what holds between a walk that goes on and one from the start. A close that
counts in the longer walk alone ends a loop that only this one has open. -/
theorem Continues.step {before alone joined : Walk} (h : Continues before alone joined)
    (starts closes : Bool) :
    Continues before (alone.step starts closes) (joined.step starts closes) := by
  obtain ⟨halone, hjoined, hloops, hdepth, hdepth', hdeepest, hdeepest'⟩ := h
  have hloopsAlone := loops_step alone starts closes
  have hloopsJoined := loops_step joined starts closes
  have hdepthAlone := halone.depth_step_eq_max starts closes
  have hdepthJoined := hjoined.depth_step_eq_max starts closes
  have hdeepestAlone := halone.deepest_step starts closes
  have hdeepestJoined := hjoined.deepest_step starts closes
  have hstarts : 0 ≤ starts.toInt := by cases starts <;> simp
  refine ⟨halone.step starts closes, hjoined.step starts closes, ?_, ?_, ?_, ?_, ?_⟩ <;> omega

/-- The lines behind a walk lead on from it as they lead from the start. -/
theorem Continues.foldl {tokens : List (List Char)} {before alone joined : Walk}
    (h : Continues before alone joined) (lines : List (List Char)) :
    Continues before (lines.foldl (overLine tokens) alone)
      (lines.foldl (overLine tokens) joined) := by
  induction lines generalizing alone joined with
  | nil => exact h
  | cons line lines ih => exact ih (h.step _ _)

/-- A walk over joined lines continues the walk over the first of them. -/
theorem overLines_append_continues (tokens lines rest : List (List Char)) :
    Continues (overLines tokens lines) (overLines tokens rest)
      (overLines tokens (lines ++ rest)) := by
  rw [overLines_eq_foldl tokens (lines ++ rest), List.foldl_append]
  exact (overLines_consistent tokens lines).continues.foldl rest

/-- A walk with more starts against one with fewer over the same lines: it is ahead in every
count. -/
structure Leads (fewer more : Walk) : Prop where
  fewer_consistent : fewer.Consistent
  more_consistent : more.Consistent
  loops_le : fewer.loops ≤ more.loops
  depth_le : fewer.depth ≤ more.depth
  deepest_le : fewer.deepest ≤ more.deepest

/-- One more line keeps a walk ahead if it starts a loop for this walk whenever it does for the
other. A close that counts in the walk ahead alone ends a loop that only this one has open. -/
theorem Leads.step {fewer more : Walk} (h : Leads fewer more) {starts others : Bool}
    (hstarts : starts = true → others = true) (closes : Bool) :
    Leads (fewer.step starts closes) (more.step others closes) := by
  obtain ⟨hfewer, hmore, hloops, hdepth, hdeepest⟩ := h
  have hloopsFewer := loops_step fewer starts closes
  have hloopsMore := loops_step more others closes
  have hdepthFewer := hfewer.depth_step_eq_max starts closes
  have hdepthMore := hmore.depth_step_eq_max others closes
  have hdeepestFewer := hfewer.deepest_step starts closes
  have hdeepestMore := hmore.deepest_step others closes
  have hle : starts.toInt ≤ others.toInt := by
    cases starts with
    | false => cases others <;> simp
    | true => rw [hstarts rfl]
  refine ⟨hfewer.step starts closes, hmore.step others closes, ?_, ?_, ?_⟩ <;> omega

/-- A line that starts a loop by some tokens does so by more of them. -/
theorem startsLoop_of_subset {tokens others : List (List Char)} (h : tokens ⊆ others)
    {line : List Char} (hstarts : startsLoop tokens line = true) :
    startsLoop others line = true := by
  simp only [startsLoop, Bool.and_eq_true, List.any_eq_true] at hstarts ⊢
  obtain ⟨hcomment, token, htoken, hoccurs⟩ := hstarts
  exact ⟨hcomment, token, h htoken, hoccurs⟩

/-- A walk by more tokens is ahead of the walk by fewer of them over the same lines. -/
theorem overLines_leads {tokens others : List (List Char)} (h : tokens ⊆ others)
    (lines : List (List Char)) : Leads (overLines tokens lines) (overLines others lines) := by
  have hfrom : ∀ fewer more : Walk, Leads fewer more →
      Leads (lines.foldl (overLine tokens) fewer) (lines.foldl (overLine others) more) := by
    induction lines with
    | nil => exact fun _ _ hleads => hleads
    | cons line lines ih =>
      exact fun _ _ hleads => ih _ _ (hleads.step (startsLoop_of_subset h) _)
  exact hfrom start start ⟨start_consistent, start_consistent, le_rfl, le_rfl, le_rfl⟩

end Walk

namespace LanguageSigns

/-- All signs of the one are signs of the other. -/
structure IsPart (fewer more : LanguageSigns) : Prop where
  loopTokens : fewer.loopTokens ⊆ more.loopTokens
  recursionPatterns : fewer.recursionPatterns ⊆ more.recursionPatterns

instance (fewer more : LanguageSigns) : Decidable (fewer.IsPart more) :=
  decidable_of_iff
    (fewer.loopTokens ⊆ more.loopTokens ∧ fewer.recursionPatterns ⊆ more.recursionPatterns)
    ⟨fun h => ⟨h.1, h.2⟩, fun h => ⟨h.loopTokens, h.recursionPatterns⟩⟩

/-- More signs have more tokens. -/
theorem IsPart.tokens_subset {fewer more : LanguageSigns} (h : fewer.IsPart more) :
    fewer.tokens ⊆ more.tokens :=
  List.map_subset _ h.loopTokens

/-- What is found by some patterns is found by more of them. -/
theorem IsPart.hasRecursion {fewer more : LanguageSigns} (h : fewer.IsPart more)
    {text : List Char} (hfound : fewer.hasRecursion text = true) :
    more.hasRecursion text = true := by
  obtain ⟨pattern, hpattern, hspelled⟩ := (hasRecursion_iff fewer text).mp hfound
  exact (hasRecursion_iff more text).mpr ⟨pattern, h.recursionPatterns hpattern, hspelled⟩

/-- What is found in a part of a text is found in the text. -/
theorem hasRecursion_of_infix (signs : LanguageSigns) {part text : List Char}
    (hpart : part <:+: text) (hfound : signs.hasRecursion part = true) :
    signs.hasRecursion text = true := by
  obtain ⟨pattern, hpattern, run, hrun, hspells⟩ := (hasRecursion_iff signs part).mp hfound
  exact (hasRecursion_iff signs text).mpr ⟨pattern, hpattern, run, hrun.trans hpart, hspells⟩

end LanguageSigns

namespace SignTable

/-- A scan of a source with text in it, by a walk over its lines. -/
theorem scan_eq_overLines (table : SignTable) (language : Option String) {source : String}
    (hne : source ≠ "") :
    let signs := table.signs (some (table.resolve language))
    let walk := Walk.overLines signs.tokens (Text.lines source.toList)
    table.scan (some source) language =
      ⟨table.resolve language, walk.loops, walk.deepest, signs.hasRecursion source.toList⟩ := by
  intro signs walk
  rw [scan_eq_after table language hne]
  simp only [walk, Walk.overLines_eq_after]
  rfl

/-- Nothing is found in a source without text. -/
theorem scan_of_empty (table : SignTable) (language : Option String) {source : Option String}
    (hempty : source.getD "" = "") :
    table.scan source language = ⟨table.resolve language, 0, 0, false⟩ := by
  unfold scan
  rw [hempty]
  rfl

/-- A scan of two sources with a line feed between them finds the loops of both. The deepest nesting
is at least that in either of them and at most both together, since loops may be open at the end of
the first one. A recursive definition in either of them is found. -/
theorem scan_joined_sources (table : SignTable) (language : Option String) {first second : String}
    (hfirst : first ≠ "") (hsecond : second ≠ "") :
    let one := table.scan (some first) language
    let other := table.scan (some second) language
    let joined := table.scan (some (first ++ "\n" ++ second)) language
    joined.loopCount = one.loopCount + other.loopCount ∧
      max one.maxNesting other.maxNesting ≤ joined.maxNesting ∧
      joined.maxNesting ≤ one.maxNesting + other.maxNesting ∧
      (one.hasRecursion = true ∨ other.hasRecursion = true → joined.hasRecursion = true) := by
  have hjoined : first ++ "\n" ++ second ≠ "" := by
    intro hempty
    simp [String.append_eq_empty_iff] at hempty
  have htext : (first ++ "\n" ++ second).toList = first.toList ++ '\n' :: second.toList := by
    simp
  intro one other joined
  have hone : one = _ := table.scan_eq_overLines language hfirst
  have hother : other = _ := table.scan_eq_overLines language hsecond
  have hboth : joined = _ := table.scan_eq_overLines language hjoined
  rw [htext, Text.lines_append_feed] at hboth
  rw [hone, hother, hboth]
  generalize table.signs (some (table.resolve language)) = signs
  have hwalk := Walk.overLines_append_continues signs.tokens (Text.lines first.toList)
    (Text.lines second.toList)
  have hloops := hwalk.loops_eq
  have hdeepest := hwalk.deepest_le
  have hsum := hwalk.le_deepest
  dsimp only
  refine ⟨by omega, by omega, by omega, ?_⟩
  rintro (hfound | hfound)
  · exact signs.hasRecursion_of_infix (List.prefix_append _ _).isInfix hfound
  · refine signs.hasRecursion_of_infix ?_ hfound
    exact ((List.suffix_cons _ _).trans (List.suffix_append _ _)).isInfix

/-- The loop that the first source leaves open has the loop of the second one inside. -/
theorem scan_joined_sources_left_open :
    "for (;;) \x7b" ≠ "" ∧ "while (true) \x7b\x7d\n\x7d" ≠ "" ∧
      (standardSigns.scan (some "for (;;) \x7b\nwhile (true) \x7b\x7d\n\x7d")
        (some "c")).loopCount = 2 ∧
      (standardSigns.scan (some "for (;;) \x7b\nwhile (true) \x7b\x7d\n\x7d")
        (some "c")).maxNesting ≤ 2 := by
  have hone : standardSigns.scan (some "for (;;) \x7b") (some "c") = ⟨"c", 1, 1, false⟩ := by
    decide +kernel
  have hother : standardSigns.scan (some "while (true) \x7b\x7d\n\x7d") (some "c") =
      ⟨"c", 1, 1, false⟩ := by decide +kernel
  have hfirst : "for (;;) \x7b" ≠ "" := by decide
  have hsecond : "while (true) \x7b\x7d\n\x7d" ≠ "" := by decide
  obtain ⟨hloops, -, hnesting, -⟩ := scan_joined_sources standardSigns (some "c") hfirst hsecond
  rw [hone, hother] at hloops hnesting
  exact ⟨hfirst, hsecond, hloops, hnesting⟩

/-- With more signs a scan of the same source finds at least as many loops and as deep a nesting,
and a recursive definition that is found with fewer signs. -/
theorem scan_more_signs {table other : SignTable} {language otherLanguage : Option String}
    (source : Option String)
    (hpart : (table.signs (some (table.resolve language))).IsPart
      (other.signs (some (other.resolve otherLanguage)))) :
    let fewer := table.scan source language
    let more := other.scan source otherLanguage
    fewer.loopCount ≤ more.loopCount ∧ fewer.maxNesting ≤ more.maxNesting ∧
      (fewer.hasRecursion = true → more.hasRecursion = true) := by
  intro fewer more
  by_cases hempty : source.getD "" = ""
  · have hfewer : fewer = _ := table.scan_of_empty language hempty
    have hmore : more = _ := other.scan_of_empty otherLanguage hempty
    rw [hfewer, hmore]
    exact ⟨le_rfl, le_rfl, id⟩
  cases source with
  | none => exact absurd rfl hempty
  | some source =>
    have hfewer : fewer = _ := table.scan_eq_overLines language hempty
    have hmore : more = _ := other.scan_eq_overLines otherLanguage hempty
    have hwalk := Walk.overLines_leads hpart.tokens_subset (Text.lines source.toList)
    rw [hfewer, hmore]
    dsimp only
    exact ⟨by exact_mod_cast hwalk.loops_le, by exact_mod_cast hwalk.deepest_le,
      hpart.hasRecursion⟩

/-- The signs of one language are part of those of another one, by which one more loop starts and
the first close counts. -/
theorem scan_more_signs_mapping :
    (standardSigns.signs (some (standardSigns.resolve (some "csharp")))).IsPart
        (standardSigns.signs (some (standardSigns.resolve (some "javascript")))) ∧
      (standardSigns.scan (some "xs.map(f)\n\x7d\nfor\n\x7d") (some "csharp")).loopCount = 1 ∧
      1 ≤ (standardSigns.scan (some "xs.map(f)\n\x7d\nfor\n\x7d")
        (some "javascript")).loopCount := by
  have hpart : (standardSigns.signs (some (standardSigns.resolve (some "csharp")))).IsPart
      (standardSigns.signs (some (standardSigns.resolve (some "javascript")))) := by
    decide +kernel
  have hfewer : (standardSigns.scan (some "xs.map(f)\n\x7d\nfor\n\x7d")
      (some "csharp")).loopCount = 1 := by decide +kernel
  have hloops := (scan_more_signs (some "xs.map(f)\n\x7d\nfor\n\x7d") hpart).1
  rw [hfewer] at hloops
  exact ⟨hpart, hfewer, hloops⟩

end SignTable

end OrderOfGrowth

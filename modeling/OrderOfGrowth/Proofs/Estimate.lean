import OrderOfGrowth.Proofs.Matching
import OrderOfGrowth.Proofs.Nesting
import OrderOfGrowth.Verdict

/-!
# What an estimate depends on

An estimate depends on a few facts about the lines and the words of a source. This file states
the facts without the walk and the search, gives each class its own condition on them, and proves
that the rules, of which the first that applies counts, decide by these conditions.
-/

namespace OrderOfGrowth

/-- A line starts a loop: in lower case it has one of the tokens and no comment mark. -/
def StartsLoop (tokens : List (List Char)) (line : List Char) : Prop :=
  (∃ token ∈ tokens, token <:+: Text.lowercase line) ∧
    ¬ ['/', '/'] <:+: Text.lowercase line ∧ ¬ ['*'] <:+: Text.lowercase line

/-- A line closes a block: it has more closing than opening braces. -/
def ClosesBlock (line : List Char) : Prop := line.count '\x7b' < line.count '\x7d'

/-- The test of a scan decides whether a line starts a loop. -/
theorem startsLoop_iff (tokens : List (List Char)) (line : List Char) :
    startsLoop tokens (Text.lowercase line) = true ↔ StartsLoop tokens line := by
  simp only [startsLoop, StartsLoop, commentMarks, List.any_cons, List.any_nil, Bool.or_false,
    Bool.and_eq_true, Bool.not_eq_true', ← Bool.not_eq_true, Bool.or_eq_true, List.any_eq_true,
    Text.occursIn_iff, not_or]
  exact and_comm

/-- The test of a scan decides whether a line closes a block. -/
theorem closesBlock_iff (line : List Char) : closesBlock line = true ↔ ClosesBlock line := by
  simp [closesBlock, ClosesBlock]

instance (tokens : List (List Char)) (line : List Char) : Decidable (StartsLoop tokens line) :=
  decidable_of_iff _ (startsLoop_iff tokens line)

instance (line : List Char) : Decidable (ClosesBlock line) :=
  decidable_of_iff _ (closesBlock_iff line)

/-- What an estimate depends on: how many lines start loops, whether loops are nested, whether
there is a recursive definition, and two kinds of words. -/
structure SourceFacts where
  loops : ℕ
  nested : Prop
  recursive : Prop
  halving : Prop
  dividing : Prop

namespace SourceFacts

/-- Two lines of a text start loops, and no line from the first of them on closes a block before
the second. -/
def Nested (tokens : List (List Char)) (text : List Char) : Prop :=
  ∃ (i j : ℕ) (first second : List Char), i < j ∧ (Text.lines text)[i]? = some first ∧
    (Text.lines text)[j]? = some second ∧ StartsLoop tokens first ∧ StartsLoop tokens second ∧
    ∀ k line, i ≤ k → k < j → (Text.lines text)[k]? = some line → ¬ ClosesBlock line

/-- A word stands in the lower-case form of a text. -/
def Mentions (text : List Char) (word : String) : Prop := word.toList <:+: Text.lowercase text

/-- The facts about a text, for the signs of a language. -/
def ofText (signs : LanguageSigns) (text : List Char) : SourceFacts where
  loops := (Text.lines text).countP fun line => StartsLoop signs.tokens line
  nested := Nested signs.tokens text
  recursive := ∃ pattern ∈ signs.recursionPatterns, ∃ run, run <:+: text ∧ Spells pattern.pieces run
  halving := Mentions text "mid" ∧ Mentions text "left" ∧ Mentions text "right"
  dividing := Mentions text "mid" ∨ Mentions text "divide" ∨ Mentions text "split"

/-- The facts that speak for a class. Nothing speaks for the linear class, which is left when
nothing speaks for another one, and nothing for the factorial class. -/
def Marks (facts : SourceFacts) : ComplexityClass → Prop
  | .constant => ¬ facts.recursive ∧ facts.loops = 0
  | .logarithmic =>
    (facts.recursive ∧ ¬ facts.nested ∧ facts.halving) ∨
      (¬ facts.recursive ∧ facts.loops = 1 ∧ facts.dividing)
  | .linearithmic => ¬ facts.recursive ∧ ¬ facts.nested ∧ facts.loops = 2
  | .quadratic => ¬ facts.recursive ∧ facts.nested ∧ facts.loops = 2
  | .cubic => ¬ facts.recursive ∧ facts.nested ∧ 3 ≤ facts.loops
  | .exponential => facts.recursive ∧ facts.nested
  | .linear | .factorial => False

end SourceFacts

/-- A report says of a source what is the case. -/
structure ScanReport.Shows (report : ScanReport) (source : String) (facts : SourceFacts) :
    Prop where
  loopCount : report.loopCount = facts.loops
  hasNestedLoop : report.hasNestedLoop = true ↔ facts.nested
  hasRecursion : report.hasRecursion = true ↔ facts.recursive
  halving : halvingHints.all (Text.occursIn · (Text.lowercase source.toList)) = true ↔ facts.halving
  dividing :
    dividingHints.any (Text.occursIn · (Text.lowercase source.toList)) = true ↔ facts.dividing
  two_le : facts.nested → 2 ≤ facts.loops

namespace ScanReport

variable {report : ScanReport} {source : String} {facts : SourceFacts}

open Classical in
/-- The rules, by the facts that a report shows. -/
theorem Shows.decide_eq (h : report.Shows source facts) :
    report.decide source =
      if facts.loops = 0 ∧ ¬ facts.recursive then .constant
      else if facts.recursive ∧ facts.nested then .exponential
      else if facts.nested ∧ 2 ≤ facts.loops then if 3 ≤ facts.loops then .cubic else .quadratic
      else if facts.recursive then if facts.halving then .logarithmic else .linear
      else if facts.loops = 1 then if facts.dividing then .logarithmic else .linear
      else if facts.loops = 2 ∧ ¬ facts.nested then .linearithmic
      else .linear := by
  have hzero : ((facts.loops : ℤ) = 0) = (facts.loops = 0) := propext (by omega)
  have hone : ((facts.loops : ℤ) = 1) = (facts.loops = 1) := propext (by omega)
  have htwo : ((facts.loops : ℤ) = 2) = (facts.loops = 2) := propext (by omega)
  have hatLeastTwo : (2 ≤ (facts.loops : ℤ)) = (2 ≤ facts.loops) := propext (by omega)
  have hatLeastThree : (3 ≤ (facts.loops : ℤ)) = (3 ≤ facts.loops) := propext (by omega)
  simp only [decide, h.loopCount, beq_iff_eq, Bool.and_eq_true, Bool.not_eq_true',
    ← Bool.not_eq_true, decide_eq_true_eq, h.hasNestedLoop, h.hasRecursion, h.halving, h.dividing,
    hzero, hone, htwo, hatLeastTwo, hatLeastThree]

/-- The facts that speak for a class lead the rules to it. -/
theorem Shows.decide_of_marks (h : report.Shows source facts) {c : ComplexityClass}
    (hmarks : facts.Marks c) : report.decide source = c := by
  rw [h.decide_eq]
  cases c with
  | constant =>
    obtain ⟨hrec, hnone⟩ := hmarks
    rw [if_pos ⟨hnone, hrec⟩]
  | logarithmic =>
    rcases hmarks with ⟨hrec, hnest, hhalf⟩ | ⟨hrec, hone, hdivide⟩
    · simp [hrec, hnest, hhalf]
    · have hnest : ¬ facts.nested := fun hnest => by have := h.two_le hnest; omega
      simp [hrec, hone, hdivide, hnest]
  | linearithmic =>
    obtain ⟨hrec, hnest, htwo⟩ := hmarks
    simp [hrec, hnest, htwo]
  | quadratic =>
    obtain ⟨hrec, hnest, htwo⟩ := hmarks
    simp [hrec, hnest, htwo]
  | cubic =>
    obtain ⟨hrec, hnest, hthree⟩ := hmarks
    rw [if_neg (by omega), if_neg (fun hboth => hrec hboth.1), if_pos ⟨hnest, by omega⟩,
      if_pos hthree]
  | exponential =>
    obtain ⟨hrec, hnest⟩ := hmarks
    simp [hrec, hnest]
  | linear => exact hmarks.elim
  | factorial => exact hmarks.elim

/-- The rules lead to the linear class or to one that the facts speak for. -/
theorem Shows.marks_decide (h : report.Shows source facts) :
    report.decide source = .linear ∨ facts.Marks (report.decide source) := by
  rw [h.decide_eq]
  split_ifs with hnone hboth hnest hthree hrec hhalf hone hdivide htwo
  · exact Or.inr ⟨hnone.2, hnone.1⟩
  · exact Or.inr hboth
  · exact Or.inr ⟨fun hrec => hboth ⟨hrec, hnest.1⟩, hnest.1, hthree⟩
  · exact Or.inr ⟨fun hrec => hboth ⟨hrec, hnest.1⟩, hnest.1, by omega⟩
  · exact Or.inr (Or.inl ⟨hrec, fun hnest => hboth ⟨hrec, hnest⟩, hhalf⟩)
  · exact Or.inl rfl
  · exact Or.inr (Or.inr ⟨hrec, hone, hdivide⟩)
  · exact Or.inl rfl
  · exact Or.inr ⟨hrec, htwo.2, htwo.1⟩
  · exact Or.inl rfl

/-- The rules decide by the facts: a class other than the linear one if they speak for it, and
the linear one if they speak for no other. -/
theorem Shows.decide_iff (h : report.Shows source facts) :
    (∀ c, c ≠ .linear → (report.decide source = c ↔ facts.Marks c)) ∧
      (report.decide source = .linear ↔ ∀ c, ¬ facts.Marks c) := by
  constructor
  · intro c hc
    refine ⟨?_, h.decide_of_marks⟩
    rintro rfl
    exact h.marks_decide.resolve_left hc
  · constructor
    · intro hlinear c hmarks
      have hc : c = .linear := (h.decide_of_marks hmarks).symm.trans hlinear
      rw [hc] at hmarks
      exact hmarks
    · intro hnone
      exact h.marks_decide.resolve_right (hnone _)

end ScanReport

/-- A hint occurs in a text exactly if the text mentions it. -/
theorem halvingHints_iff (text : List Char) :
    halvingHints.all (Text.occursIn · (Text.lowercase text)) = true ↔
      SourceFacts.Mentions text "mid" ∧ SourceFacts.Mentions text "left" ∧
        SourceFacts.Mentions text "right" := by
  simp [halvingHints, SourceFacts.Mentions, Text.occursIn_iff]

/-- One of several hints occurs in a text exactly if the text mentions it. -/
theorem dividingHints_iff (text : List Char) :
    dividingHints.any (Text.occursIn · (Text.lowercase text)) = true ↔
      SourceFacts.Mentions text "mid" ∨ SourceFacts.Mentions text "divide" ∨
        SourceFacts.Mentions text "split" := by
  simp [dividingHints, SourceFacts.Mentions, Text.occursIn_iff]

namespace SourceFacts

/-- A start at a line is a line that starts a loop. -/
theorem startsAt_iff (tokens : List (List Char)) (text : List Char) (k : ℕ) :
    startsAt tokens text k = true ↔
      ∃ line, (Text.lines text)[k]? = some line ∧ StartsLoop tokens line := by
  simp only [startsAt, Option.any_eq_true, startsLoop_iff]

/-- A close at a line is a line that closes a block. -/
theorem closesAt_iff (text : List Char) (k : ℕ) :
    closesAt text k = true ↔ ∃ line, (Text.lines text)[k]? = some line ∧ ClosesBlock line := by
  simp only [closesAt, Option.any_eq_true, closesBlock_iff]

/-- The loops that a walk finds are the lines that start loops. -/
theorem loops_after_eq_countP (tokens : List (List Char)) (text : List Char) :
    (Walk.after (startsAt tokens text) (closesAt text) (Text.lines text).length).loops =
      (Text.lines text).countP fun line => StartsLoop tokens line := by
  rw [← Walk.overLines_eq_after, Walk.loops_overLines]
  refine List.countP_congr fun line _ => ?_
  rw [startsLoop_iff, decide_eq_true_eq]

/-- Loops are nested in a walk exactly if they are nested in the text. -/
theorem two_le_deepest_iff_nested (tokens : List (List Char)) (text : List Char) :
    2 ≤ (Walk.after (startsAt tokens text) (closesAt text) (Text.lines text).length).deepest ↔
      Nested tokens text := by
  rw [Walk.two_le_deepest_after_iff]
  constructor
  · rintro ⟨i, j, hij, -, hi, hj, hopen⟩
    obtain ⟨first, hfirst, hstarts⟩ := (startsAt_iff tokens text i).mp hi
    obtain ⟨second, hsecond, hstarts'⟩ := (startsAt_iff tokens text j).mp hj
    refine ⟨i, j, first, second, hij, hfirst, hsecond, hstarts, hstarts', ?_⟩
    intro k line hik hkj hline hclose
    have hcloses := (closesAt_iff text k).mpr ⟨line, hline, hclose⟩
    rw [hopen k hik hkj] at hcloses
    exact Bool.false_ne_true hcloses
  · rintro ⟨i, j, first, second, hij, hfirst, hsecond, hstarts, hstarts', hopen⟩
    obtain ⟨hj, -⟩ := List.getElem?_eq_some_iff.mp hsecond
    refine ⟨i, j, hij, hj, (startsAt_iff tokens text i).mpr ⟨first, hfirst, hstarts⟩,
      (startsAt_iff tokens text j).mpr ⟨second, hsecond, hstarts'⟩, ?_⟩
    intro k hik hkj
    refine Bool.eq_false_iff.mpr fun hcloses => ?_
    obtain ⟨line, hline, hclose⟩ := (closesAt_iff text k).mp hcloses
    exact hopen k line hik hkj hline hclose

/-- Nested loops are at least two. -/
theorem two_le_loops_of_nested {tokens : List (List Char)} {text : List Char}
    (h : Nested tokens text) : 2 ≤ (Text.lines text).countP fun line => StartsLoop tokens line := by
  have hdeep := (two_le_deepest_iff_nested tokens text).mpr h
  have hconsistent := Walk.after_consistent (startsAt tokens text) (closesAt text)
    (Text.lines text).length
  rw [← loops_after_eq_countP]
  exact hdeep.trans hconsistent.deepest_le

end SourceFacts

namespace SignTable

/-- The report of a scan shows the facts about a source with text in it. -/
theorem scan_shows (table : SignTable) (language : Option String) {source : String}
    (hne : source ≠ "") :
    (table.scan (some source) language).Shows source
      (.ofText (table.signs (some (table.resolve language))) source.toList) := by
  rw [scan_eq_after table language hne]
  constructor
  · exact congrArg Int.ofNat (SourceFacts.loops_after_eq_countP _ source.toList)
  · refine Iff.trans ?_ (SourceFacts.two_le_deepest_iff_nested _ source.toList)
    simp only [ScanReport.hasNestedLoop, decide_eq_true_eq]
    omega
  · exact LanguageSigns.hasRecursion_iff _ source.toList
  · exact halvingHints_iff source.toList
  · exact dividingHints_iff source.toList
  · exact SourceFacts.two_le_loops_of_nested

/-- A source without text is constant. -/
theorem classify_empty (table : SignTable) {source : Option String} (language : Option String)
    (hempty : source.getD "" = "") : (table.classify source language).complexity = .constant := by
  simp [classify, scan, Estimate.ofClass, ScanReport.decide, hempty]

/-- The estimate for a source is decided by its facts, for the signs that the language is looked
up with: a source with text has a class other than the linear one exactly if the facts speak for
that class, and the linear one exactly if they speak for no class. A source without text is
constant, no source is factorial, and the rank and the description are those of the class. -/
theorem classify_iff_marks (table : SignTable) (source language : Option String) :
    let text := source.getD ""
    let facts := SourceFacts.ofText (table.signs (some (table.resolve language))) text.toList
    let estimate := table.classify source language
    (text = "" → estimate.complexity = .constant) ∧
      (text ≠ "" →
        (∀ c, c ≠ .linear → (estimate.complexity = c ↔ facts.Marks c)) ∧
          (estimate.complexity = .linear ↔ ∀ c, ¬ facts.Marks c)) ∧
      estimate.complexity ≠ .factorial ∧
      estimate.level = estimate.complexity.level ∧
      estimate.description = estimate.complexity.description := by
  intro text facts estimate
  have hdecided : text ≠ "" →
      (∀ c, c ≠ .linear → (estimate.complexity = c ↔ facts.Marks c)) ∧
        (estimate.complexity = .linear ↔ ∀ c, ¬ facts.Marks c) := by
    intro hne
    cases source with
    | none => exact absurd rfl hne
    | some source => exact (table.scan_shows language hne).decide_iff
  have hempty : text = "" → estimate.complexity = .constant := table.classify_empty language
  refine ⟨hempty, hdecided, ?_, rfl, rfl⟩
  by_cases htext : text = ""
  · simp [hempty htext]
  · exact fun hfactorial => ((hdecided htext).1 .factorial (by decide)).mp hfactorial

/-- Two loops that no brace closes are nested. -/
theorem classify_iff_marks_unclosed :
    "for a\nfor b" ≠ "" ∧
      (standardSigns.classify (some "for a\nfor b") (some "python")).complexity = .quadratic := by
  have hfound : Language.python.signs.hasRecursion "for a\nfor b".toList = false := by
    decide +kernel
  have hclose : ∀ (k : ℕ) (line : List Char), 0 ≤ k → k < 1 →
      (Text.lines "for a\nfor b".toList)[k]? = some line → ¬ ClosesBlock line := by
    intro k line _ hk hline
    obtain rfl : k = 0 := by omega
    obtain rfl : "for a".toList = line := Option.some.inj hline
    decide
  refine ⟨by decide, ?_⟩
  refine (((classify_iff_marks standardSigns (some "for a\nfor b") (some "python")).2.1
    (by decide)).1 .quadratic (by decide)).mpr ⟨?_, ?_, by decide +kernel⟩
  · exact (LanguageSigns.hasRecursion_iff _ _).not.mp (Bool.eq_false_iff.mp hfound)
  · exact ⟨0, 1, "for a".toList, "for b".toList, by decide, by decide, by decide,
      by decide +kernel, by decide +kernel, hclose⟩

end SignTable

end OrderOfGrowth

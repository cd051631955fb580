import OrderOfGrowth.Proofs.DefinitionShapes
import OrderOfGrowth.Proofs.LoopTokens

/-!
# Families of languages

Some signs of the standard table make no difference: a token with another token of the language in
it, since the shorter one is found wherever the longer one is, and the pattern for a type that is
spelled out, since it is a case of the pattern for any type. Without them the signs of C and C++ are
the same, and so are the tokens of all languages that write loops as C does.
-/

namespace OrderOfGrowth

/-- Tokens with a shorter token in them. -/
def longerTokens : List String := ["foreach", "enhanced for"]

/-- The pattern for what has a type that is spelled out. -/
def spelledOutSource : String := "void\\s+\\w+\\s*\\(.*\\)\\s*\\\x7b"

/-- Signs without the longer tokens and the pattern with a type that is spelled out. -/
def LanguageSigns.pruned (signs : LanguageSigns) : LanguageSigns where
  loopTokens := signs.loopTokens.filter (· ∉ longerTokens)
  recursionPatterns := signs.recursionPatterns.filter (·.source ≠ spelledOutSource)

namespace Language

/-- The pruned tokens of a language start the same loops as all its tokens. -/
theorem startsLoop_pruned_iff (language : Language) {line : List Char} (hline : '\n' ∉ line) :
    StartsLoop language.signs.pruned.tokens line ↔ StartsLoop language.signs.tokens line := by
  have hparts : (∀ token ∈ language.signs.pruned.tokens, HasLivePart language.signs.tokens token) ∧
      ∀ token ∈ language.signs.tokens, IsLive token →
        HasLivePart language.signs.pruned.tokens token := by
    cases language <;> decide +kernel
  constructor
  · exact StartsLoop.of_hasLivePart hline fun token htoken _ => hparts.1 token htoken
  · exact StartsLoop.of_hasLivePart hline hparts.2

/-- The pruned patterns of a language find the same recursive definitions as all its patterns. -/
theorem hasRecursion_pruned (language : Language) (text : List Char) :
    language.signs.pruned.hasRecursion text = language.signs.hasRecursion text := by
  have hcpp : cpp.signs.pruned.recursionPatterns = c.signs.recursionPatterns := by decide +kernel
  have hothers : ∀ language ∈ all, language ≠ cpp →
      language.signs.pruned.recursionPatterns = language.signs.recursionPatterns := by
    decide +kernel
  by_cases hlanguage : language = cpp
  · -- a text looks like a definition in both of them or in none
    rw [hlanguage, LanguageSigns.hasRecursion, hcpp, ← LanguageSigns.hasRecursion,
      Bool.eq_iff_iff, c.hasRecursion_iff_hasDefinition, cpp.hasRecursion_iff_hasDefinition]
    rfl
  · rw [LanguageSigns.hasRecursion, hothers language language.mem_all hlanguage,
      ← LanguageSigns.hasRecursion]

/-- The pruned signs of a language report the same as all its signs. -/
theorem report_pruned (language : Language) (name : String) (text : List Char) :
    language.signs.pruned.report name text = language.signs.report name text :=
  LanguageSigns.report_congr (fun _ hline => language.startsLoop_pruned_iff hline)
    (language.hasRecursion_pruned text) name

/-- The languages that write loops as C does. -/
def likeC : List Language := [.c, .cpp, .java, .csharp, .php]

/-- The languages that write loops as C does have the same pruned tokens. -/
theorem tokens_pruned_of_mem_likeC {language : Language} (h : language ∈ likeC) :
    language.signs.pruned.tokens = c.signs.pruned.tokens := by
  have hall : ∀ language ∈ likeC, language.signs.pruned.tokens = c.signs.pruned.tokens := by
    decide +kernel
  exact hall language h

/-- C and C++ have the same pruned signs. -/
theorem pruned_cpp : cpp.signs.pruned = c.signs.pruned := by
  have htokens : cpp.signs.pruned.loopTokens = c.signs.pruned.loopTokens := by decide +kernel
  have hpatterns : cpp.signs.pruned.recursionPatterns = c.signs.pruned.recursionPatterns := by
    decide +kernel
  cases hcpp : cpp.signs.pruned
  cases hc : c.signs.pruned
  rw [hcpp, hc] at htokens hpatterns
  exact congrArg₂ LanguageSigns.mk htokens hpatterns

end Language

namespace LanguageSigns

/-- The loops in a report and their nesting depend on the tokens only. -/
theorem counts_report_congr {signs other : LanguageSigns} (htokens : signs.tokens = other.tokens)
    (name otherName : String) (text : List Char) :
    (signs.report name text).loopCount = (other.report otherName text).loopCount ∧
      (signs.report name text).maxNesting = (other.report otherName text).maxNesting := by
  simp only [report, htokens]
  cases text.isEmpty <;> exact ⟨rfl, rfl⟩

/-- Of a report only the language depends on the name. -/
theorem report_rename (signs : LanguageSigns) (name other : String) (text : List Char) :
    signs.report other text = { signs.report name text with language := other } := by
  simp only [report]
  cases text.isEmpty <;> rfl

end LanguageSigns

namespace SignTable

/-- With the standard table a scan reports the same without the longer tokens and the pattern with a
type that is spelled out. So C and C++ get the same report up to the name of the language, and hence
the same estimate, and in all languages that write loops as C does the same loops are found, as
deeply nested. -/
theorem scan_coincides_in_family (source : Option String) :
    let report := fun known : Language => standardSigns.scan source (some known.id)
    (∀ known : Language,
      report known = known.signs.pruned.report known.id (source.getD "").toList) ∧
    (report .c).language = Language.c.id ∧
    report .cpp = { report .c with language := Language.cpp.id } ∧
    standardSigns.classify source (some Language.cpp.id) =
      standardSigns.classify source (some Language.c.id) ∧
    ∀ known ∈ Language.likeC, (report known).loopCount = (report .c).loopCount ∧
      (report known).maxNesting = (report .c).maxNesting := by
  intro report
  have hpruned : ∀ known : Language,
      report known = known.signs.pruned.report known.id (source.getD "").toList := by
    intro known
    rw [known.report_pruned]
    exact scan_standardSigns known.resolve_standardSigns source
  have hcpp : report .cpp = { report .c with language := Language.cpp.id } := by
    rw [hpruned, hpruned, Language.pruned_cpp]
    exact LanguageSigns.report_rename _ _ _ _
  refine ⟨hpruned, ?_, hcpp, ?_, fun known hknown => ?_⟩
  · exact (language_scan _ _ _).trans (Language.resolve_standardSigns .c)
  · -- the rules do not look at the name of the language
    have hsame : ∀ text, (report .cpp).decide text = (report .c).decide text := by
      intro text
      rw [hcpp]
      rfl
    exact congrArg Estimate.ofClass (hsame _)
  · rw [hpruned, hpruned]
    exact LanguageSigns.counts_report_congr (Language.tokens_pruned_of_mem_likeC hknown) _ _ _

/-- A loop over the items of a collection is one loop in Java, and in C as well. -/
theorem scan_coincides_in_family_foreach :
    Language.java ∈ Language.likeC ∧
      (standardSigns.scan (some "items.FOREACH(x -> \x7b") (some "java")).loopCount = 1 := by
  have hmem : Language.java ∈ Language.likeC := by decide
  obtain ⟨-, -, -, -, hcounts⟩ := scan_coincides_in_family (some "items.FOREACH(x -> \x7b")
  have hc : (standardSigns.scan (some "items.FOREACH(x -> \x7b")
      (some Language.c.id)).loopCount = 1 := by decide +kernel
  exact ⟨hmem, (hcounts .java hmem).1.trans hc⟩

end SignTable

end OrderOfGrowth

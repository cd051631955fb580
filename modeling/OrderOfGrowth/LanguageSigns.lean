import OrderOfGrowth.Language
import OrderOfGrowth.Pattern

/-!
# Signs of loops and recursion

For each language a table has the words that start a loop and the patterns that a recursive
definition leaves in a source. A look-up in a table never fails: a name without an entry
gets the entry of the default language, which every table has.
-/

namespace OrderOfGrowth

/-- The signs of one language. -/
structure LanguageSigns where
  loopTokens : List String
  recursionPatterns : List Pattern

namespace LanguageSigns

/-- Signs from written patterns, if all of them can be read. -/
def ofSources (loopTokens recursionPatterns : List String) : Option LanguageSigns :=
  (recursionPatterns.mapM Pattern.ofSource?).map fun patterns => ⟨loopTokens, patterns⟩

/-- Signs that are read have the given words, and patterns with the given written forms. -/
theorem of_ofSources {tokens sources : List String} {signs : LanguageSigns}
    (h : ofSources tokens sources = some signs) :
    signs.loopTokens = tokens ∧ signs.recursionPatterns.map Pattern.source = sources := by
  obtain ⟨patterns, hpatterns, rfl⟩ := Option.map_eq_some_iff.mp h
  refine ⟨rfl, ?_⟩
  change patterns.map Pattern.source = sources
  clear h
  induction sources generalizing patterns with
  | nil =>
    obtain rfl : [] = patterns := by simpa using hpatterns
    rfl
  | cons source sources ih =>
    rw [List.mapM_cons] at hpatterns
    obtain ⟨pattern, hpattern, hpatterns⟩ := Option.bind_eq_some_iff.mp hpatterns
    obtain ⟨others, hothers, hpatterns⟩ := Option.bind_eq_some_iff.mp hpatterns
    obtain rfl : pattern :: others = patterns := Option.some.inj hpatterns
    rw [List.map_cons, ih others hothers, Pattern.source_of_ofSource? hpattern]

end LanguageSigns

/-- A table of signs with a default entry. -/
structure SignTable where
  entries : Keyed LanguageSigns
  defaultLanguage : String
  hasDefault : (entries.lookup defaultLanguage).isSome = true

namespace SignTable

/-- The table of these entries, of which one must belong to the default language. -/
def ofEntries (entries : Keyed LanguageSigns) (defaultLanguage : String) :
    Except Failure SignTable :=
  if h : (entries.lookup defaultLanguage).isSome = true then .ok ⟨entries, defaultLanguage, h⟩
  else .error (.missingDefault defaultLanguage)

/-- Whether there is an entry under exactly this name. -/
def contains (table : SignTable) (language : String) : Bool := table.entries.has language

/-- The names of the entries in their order. -/
def languages (table : SignTable) : List String := table.entries.keys

/-- The name of the entry that is used for a language; no name at all counts as empty. -/
def resolve (table : SignTable) (language : Option String) : String :=
  let name := Language.normalName (language.getD "")
  if table.contains name then name else table.defaultLanguage

/-- The resolved name has an entry. -/
theorem contains_resolve (table : SignTable) (language : Option String) :
    table.contains (table.resolve language) = true := by
  unfold resolve
  dsimp only
  split
  · assumption
  · exact table.hasDefault

/-- The signs that are used for a language. -/
def signs (table : SignTable) (language : Option String) : LanguageSigns :=
  (table.entries.lookup (table.resolve language)).get (table.contains_resolve language)

end SignTable

namespace Language

/-- The words that start a loop in a language. -/
def loopTokens : Language → List String
  | .javascript | .typescript => ["for", "while", "foreach", "map", "filter", "reduce", "forEach"]
  | .python => ["for", "while", "in range", "in "]
  | .java => ["for", "while", "foreach", "enhanced for"]
  | .c | .cpp => ["for", "while"]
  | .csharp | .php => ["for", "while", "foreach"]

/-- The patterns of recursive definitions in a language. Languages without patterns of their
own use those of the standard language. -/
def recursionSources : Language → List String
  | .python => ["def.*\\(.*\\):"]
  | .java => ["public.*\\(.*\\)\\s*\\\x7b", "private.*\\(.*\\)\\s*\\\x7b"]
  | .c => ["\\w+\\s+\\w+\\s*\\(.*\\)\\s*\\\x7b"]
  | .cpp => ["\\w+\\s+\\w+\\s*\\(.*\\)\\s*\\\x7b", "void\\s+\\w+\\s*\\(.*\\)\\s*\\\x7b"]
  | .javascript | .typescript | .csharp | .php =>
    ["function.*\\(.*\\)\\s*\\\x7b", "=>.*=>"]

/-- The patterns of every language can be read. -/
theorem isSome_ofSources (language : Language) :
    (LanguageSigns.ofSources language.loopTokens language.recursionSources).isSome = true := by
  cases language <;> decide +kernel

/-- The signs of a language. -/
def signs (language : Language) : LanguageSigns :=
  (LanguageSigns.ofSources language.loopTokens language.recursionSources).get
    language.isSome_ofSources

/-- The words of the signs of a language are those of the language. -/
@[simp] theorem loopTokens_signs (language : Language) :
    language.signs.loopTokens = language.loopTokens :=
  (LanguageSigns.of_ofSources (Option.some_get _).symm).1

/-- The patterns of the signs of a language are written as those of the language. -/
@[simp] theorem sources_signs (language : Language) :
    language.signs.recursionPatterns.map Pattern.source = language.recursionSources :=
  (LanguageSigns.of_ofSources (Option.some_get _).symm).2

end Language

/-- The table of all languages. -/
def standardSigns : SignTable where
  entries := Language.all.map fun language => (language.id, language.signs)
  defaultLanguage := Language.standard.id
  hasDefault := by simp [Language.all, Keyed.lookup, Language.standard, Language.id]

end OrderOfGrowth

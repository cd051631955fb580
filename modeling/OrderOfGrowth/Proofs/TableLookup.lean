import OrderOfGrowth.Proofs.NormalNames
import OrderOfGrowth.Scan

/-!
# Looking up signs

A look-up brings the name it is asked for into normal form and compares it with the keys of the
table as they are. A scan looks up twice: once for the name that it reports, and once more, under
that name, for the signs that it uses. The second look-up finds the entry of the reported name,
with one exception: the name of the default entry need not be in normal form, and where its normal
form is a key as well, that other entry stands before it.
-/

namespace OrderOfGrowth

/-- The report, under a name, of what signs find in a source. Nothing is found in an empty one. -/
def LanguageSigns.report (signs : LanguageSigns) (name : String) (text : List Char) : ScanReport :=
  if text.isEmpty then ⟨name, 0, 0, false⟩
  else
    let walk := Walk.overLines signs.tokens (Text.lines text)
    ⟨name, walk.loops, walk.deepest, signs.hasRecursion text⟩

namespace SignTable

variable {table : SignTable}

/-- Whether the normal form of the default language's name is another key of the table. -/
def DefaultIsShadowed (table : SignTable) : Prop :=
  Language.normalName table.defaultLanguage ≠ table.defaultLanguage ∧
    table.contains (Language.normalName table.defaultLanguage) = true

instance (table : SignTable) : Decidable table.DefaultIsShadowed :=
  inferInstanceAs (Decidable (_ ∧ _))

/-- A name whose normal form is a key is resolved to its normal form. -/
theorem resolve_of_contains {name : String}
    (hkey : table.contains (Language.normalName name) = true) :
    table.resolve (some name) = Language.normalName name :=
  if_pos hkey

/-- A name whose normal form is not a key is resolved to the default language. -/
theorem resolve_of_not_contains {name : String}
    (hkey : table.contains (Language.normalName name) = false) :
    table.resolve (some name) = table.defaultLanguage :=
  if_neg (Bool.eq_false_iff.mp hkey)

/-- What a name is resolved to is in normal form or the default language. -/
theorem normalName_resolve (table : SignTable) (language : Option String) :
    Language.normalName (table.resolve language) = table.resolve language ∨
      table.resolve language = table.defaultLanguage := by
  by_cases hkey : table.contains (Language.normalName (language.getD "")) = true
  · have hresolved : table.resolve language = Language.normalName (language.getD "") := if_pos hkey
    rw [hresolved]
    exact Or.inl (Language.normalName_normalName _)
  · exact Or.inr (if_neg hkey)

/-- A key is resolved to itself exactly if it is in normal form, or if it is the default language
and its normal form is not a key. -/
theorem resolve_eq_self_iff {key : String} (hkey : table.contains key = true) :
    table.resolve (some key) = key ↔ Language.normalName key = key ∨
      (key = table.defaultLanguage ∧ table.contains (Language.normalName key) = false) := by
  cases hnormal : table.contains (Language.normalName key) with
  | true =>
    rw [resolve_of_contains hnormal]
    simp
  | false =>
    have hne : Language.normalName key ≠ key := by
      intro h
      rw [h, hkey] at hnormal
      exact absurd hnormal (by decide)
    rw [resolve_of_not_contains hnormal]
    simp [hne, eq_comm]

/-- A resolved name is resolved to itself, except that a shadowed default gives way to the entry
that shadows it. -/
theorem resolve_resolve (table : SignTable) (language : Option String) :
    table.resolve (some (table.resolve language)) =
      if table.DefaultIsShadowed ∧ table.resolve language = table.defaultLanguage then
        Language.normalName table.defaultLanguage
      else table.resolve language := by
  split
  next h =>
    rw [h.2]
    exact resolve_of_contains h.1.2
  next h =>
    rw [resolve_eq_self_iff (table.contains_resolve language)]
    rcases table.normalName_resolve language with hnormal | hdefault
    · exact Or.inl hnormal
    · by_cases hself : Language.normalName table.defaultLanguage = table.defaultLanguage
      · rw [hdefault]
        exact Or.inl hself
      · refine Or.inr ⟨hdefault, ?_⟩
        rw [hdefault, Bool.eq_false_iff]
        exact fun hcontains => h ⟨⟨hself, hcontains⟩, hdefault⟩

/-- The signs for a language stand under the name it is resolved to. -/
theorem lookup_resolve (table : SignTable) (language : Option String) :
    table.entries.lookup (table.resolve language) = some (table.signs language) :=
  (Option.some_get (table.contains_resolve language)).symm

/-- A scan reports the resolved name and what the signs for that name find. -/
theorem scan_eq_report (table : SignTable) (source language : Option String) :
    table.scan source language =
      (table.signs (some (table.resolve language))).report (table.resolve language)
        (source.getD "").toList := rfl

/-- The name in a report is the resolved one. -/
theorem language_scan (table : SignTable) (source language : Option String) :
    (table.scan source language).language = table.resolve language := by
  rw [scan_eq_report, LanguageSigns.report]
  split <;> rfl

/-- Something is found only in a source with text in it. -/
theorem hasRecursion_report (signs : LanguageSigns) (name : String) (text : List Char) :
    (signs.report name text).hasRecursion = (!text.isEmpty && signs.hasRecursion text) := by
  rw [LanguageSigns.report]
  cases text.isEmpty <;> rfl

end SignTable

/-- The table of all languages has an entry for every language under its own name. -/
theorem Language.resolve_standardSigns (language : Language) :
    standardSigns.resolve (some language.id) = language.id := by
  cases language <;> decide +kernel

/-- The entry under the name of a language has the signs of the language. -/
theorem Language.signs_standardSigns (language : Language) :
    standardSigns.signs (some language.id) = language.signs := by
  have hlookup := standardSigns.lookup_resolve (some language.id)
  have hentry : standardSigns.entries.lookup language.id = some language.signs := by
    cases language <;> rfl
  rw [language.resolve_standardSigns, hentry] at hlookup
  exact (Option.some.inj hlookup).symm

namespace SignTable

/-- In the table of all languages, a name that is resolved to a language gets a report by the signs
of the language. -/
theorem scan_standardSigns {language : Option String} {known : Language}
    (hknown : standardSigns.resolve language = known.id) (source : Option String) :
    standardSigns.scan source language =
      known.signs.report known.id (source.getD "").toList := by
  rw [scan_eq_report, hknown, known.signs_standardSigns]

/-- A look-up always ends at a key of the table. A key is found under itself exactly if it is in
normal form, or if it is the default language and its normal form is not a key. A scan uses the
signs that stand under the name in its report, unless that is the default language while its
normal form is another key: then it uses the signs under the normal form. -/
theorem scan_uses_reported_entry_unless_shadowed (table : SignTable) :
    (∀ language, table.contains (table.resolve language) = true) ∧
    (∀ key, table.contains key = true → (table.resolve (some key) = key ↔
      Language.normalName key = key ∨
        (key = table.defaultLanguage ∧ table.contains (Language.normalName key) = false))) ∧
    ∀ source language, ∃ key signs, table.entries.lookup key = some signs ∧
      table.scan source language =
        signs.report (table.scan source language).language (source.getD "").toList ∧
      key = if table.DefaultIsShadowed ∧
          (table.scan source language).language = table.defaultLanguage then
        Language.normalName table.defaultLanguage
      else (table.scan source language).language := by
  refine ⟨table.contains_resolve, fun key hkey => resolve_eq_self_iff hkey, ?_⟩
  intro source language
  refine ⟨table.resolve (some (table.resolve language)),
    table.signs (some (table.resolve language)), table.lookup_resolve _, ?_, ?_⟩
  · rw [language_scan]
    exact table.scan_eq_report source language
  · rw [language_scan]
    exact table.resolve_resolve language

/-- In the table of all languages the keys are found under themselves, and a scan uses the signs
under the name that it reports. -/
theorem scan_uses_reported_entry_standard :
    standardSigns.contains "python" = true ∧ standardSigns.resolve (some "python") = "python" ∧
      ∃ signs, standardSigns.entries.lookup "python" = some signs ∧
        standardSigns.scan (some "for") (some " Python ") =
          signs.report "python" ['f', 'o', 'r'] := by
  have hkey : standardSigns.contains "python" = true := by decide
  obtain ⟨-, hself, hscan⟩ := scan_uses_reported_entry_unless_shadowed standardSigns
  refine ⟨hkey, (hself "python" hkey).mpr (Or.inl (by decide)), ?_⟩
  obtain ⟨key, signs, hlookup, hreport, hname⟩ := hscan (some "for") (some " Python ")
  have hlanguage : (standardSigns.scan (some "for") (some " Python ")).language = "python" := by
    rw [language_scan]
    decide
  rw [hlanguage, if_neg (by decide)] at hname
  rw [hlanguage] at hreport
  exact ⟨signs, hname ▸ hlookup, hreport⟩

/-- A table with the entries JS and js and the first as its default: the key JS is not found under
itself, and what is reported as JS was looked for with the signs under js. -/
theorem exists_scan_under_unreported_entry :
    ∃ table signs, SignTable.ofEntries [("JS", ⟨["for"], []⟩),
        ("js", ⟨["while"], []⟩)] "JS" = .ok table ∧
      table.contains "JS" = true ∧ table.resolve (some "JS") ≠ "JS" ∧
      table.entries.lookup "JS" = some signs ∧
      (table.scan (some "for") (some "ruby")).language = "JS" ∧
      table.scan (some "for") (some "ruby") ≠ signs.report "JS" ['f', 'o', 'r'] := by
  refine ⟨⟨[("JS", ⟨["for"], []⟩), ("js", ⟨["while"], []⟩)], "JS", rfl⟩,
    ⟨["for"], []⟩, rfl, by decide, by decide, rfl, by decide, by decide⟩

end SignTable

end OrderOfGrowth

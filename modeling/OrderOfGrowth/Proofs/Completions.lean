import Mathlib.Data.List.Basic
import Mathlib.Tactic.SplitIfs
import OrderOfGrowth.Completion
import OrderOfGrowth.Proofs.LowerCase

/-!
# What completes a typed text

The names that complete a typed text are those that begin with its lower-case form, in their usual
order, and each of them is understood where it is used. Going on typing never brings a name back:
the lower-case form of a text begins with that of its beginning, unless a capital sigma at the end
of the beginning changes its form, and no name has a small sigma.
-/

namespace OrderOfGrowth

namespace Text

/-- If the lower-case form of a text begins a word without small sigmas, that of each beginning of
the text does so, too. -/
theorem lowerFrom_prefix_of_append {front rest word : List Char} (hsigma : 'σ' ∉ word)
    (hfinal : 'ς' ∉ word) {afterCased : Bool} (h : lowerFrom afterCased (front ++ rest) <+: word) :
    lowerFrom afterCased front <+: word := by
  induction front generalizing word afterCased with
  | nil => exact List.nil_prefix
  | cons c front ih =>
    rw [List.cons_append, lowerFrom_cons] at h
    obtain ⟨behind, rfl⟩ := (List.prefix_append _ _).trans h
    have hcapital : c ≠ 'Σ' := by
      -- it would become one of the small sigmas
      rintro rfl
      rw [lowerAt, if_pos rfl] at hsigma hfinal
      split_ifs at hsigma hfinal
      · simp at hfinal
      · simp at hsigma
    have hsame : lowerAt afterCased c (front ++ rest) = lowerAt afterCased c front := by
      rw [lowerAt, if_neg hcapital, lowerAt, if_neg hcapital]
    rw [List.prefix_append_right_inj] at h
    rw [lowerFrom_cons, ← hsame, List.prefix_append_right_inj]
    exact ih (fun hmem => hsigma (List.mem_append_right _ hmem))
      (fun hmem => hfinal (List.mem_append_right _ hmem)) h

/-- Of items with words without small sigmas those that complete a longer text are among those that
complete its beginning, in the same order. -/
theorem filter_completing_sublist {α : Type} {items : List α} {word : α → List Char}
    (hword : ∀ item ∈ items, 'σ' ∉ word item ∧ 'ς' ∉ word item) (typed more : List Char) :
    (items.filter fun item => (lowercase (typed ++ more)).isPrefixOf (word item)).Sublist
      (items.filter fun item => (lowercase typed).isPrefixOf (word item)) := by
  have hboth : (items.filter fun item => (lowercase (typed ++ more)).isPrefixOf (word item)) =
      (items.filter fun item => (lowercase typed).isPrefixOf (word item)).filter
        fun item => (lowercase (typed ++ more)).isPrefixOf (word item) := by
    rw [List.filter_filter]
    refine List.filter_congr fun item hitem => ?_
    obtain ⟨hsigma, hfinal⟩ := hword item hitem
    rw [Bool.eq_iff_iff, Bool.and_eq_true, List.isPrefixOf_iff_prefix, List.isPrefixOf_iff_prefix]
    exact ⟨fun h => ⟨h, lowerFrom_prefix_of_append hsigma hfinal h⟩, fun h => h.1⟩
  rw [hboth]
  exact List.filter_sublist

end Text

namespace Language

/-- All names of languages: the identifiers and the aliases. -/
def names : List String := all.map id ++ aliases.keys

/-- Texts that differ are strictly sorted. -/
theorem pairwise_sorted {texts : List String} (hdistinct : texts.Nodup) :
    (sorted texts).Pairwise (· < ·) := by
  have hle : (sorted texts).Pairwise (fun a b => decide (a ≤ b) = true) := by
    refine List.pairwise_mergeSort (fun a b c hab hbc => ?_) (fun a b => ?_) texts
    · exact decide_eq_true (String.le_trans (of_decide_eq_true hab) (of_decide_eq_true hbc))
    · simpa using String.le_total a b
  have hne : (sorted texts).Nodup := (List.mergeSort_perm texts _).nodup_iff.mpr hdistinct
  refine (hle.and hne).imp fun {a b} h => ?_
  obtain ⟨hab, hne⟩ := h
  by_contra hlt
  exact hne (String.le_antisymm (of_decide_eq_true hab) (String.not_lt.mp hlt))

/-- A name of a language is found in strict mode, with the language that goes by it. -/
theorem exists_ofName_of_mem_names {name : String} (h : name ∈ names) :
    ∃ language, ofName name = .ok language ∧
      (language.id = name ∨ (name, language) ∈ aliases) := by
  have hids : ∀ language : Language, ofName? language.id = some language := by
    intro language
    cases language <;> decide
  have haliases : ∀ entry ∈ aliases, ofName? entry.1 = some entry.2 := by decide
  rcases List.mem_append.mp h with hid | halias
  · obtain ⟨language, -, rfl⟩ := List.mem_map.mp hid
    exact ⟨language, by rw [ofName, hids], Or.inl rfl⟩
  · obtain ⟨⟨key, language⟩, hentry, rfl⟩ := List.mem_map.mp halias
    exact ⟨language, by rw [ofName, haliases _ hentry], Or.inr hentry⟩

end Language

/-- A label is understood as the label of its class. -/
theorem ComplexityClass.ofLabel_label (c : ComplexityClass) : ofLabel c.label = .ok c := by
  have hfound : ofLabel? c.label = some c := by cases c <;> decide
  rw [ofLabel, hfound]

namespace Completion

variable {typed name label : String}

/-- The names that complete a text are those that begin with its lower-case form. -/
theorem mem_languages_iff :
    name ∈ languages typed ↔
      name ∈ Language.names ∧ Text.lowercase typed.toList <+: name.toList := by
  rw [languages, List.mem_filter, List.isPrefixOf_iff_prefix, Language.sorted,
    List.mem_mergeSort, Language.names]

/-- The labels that complete a text are those whose lower-case form begins with that of the text. -/
theorem mem_classes_iff :
    label ∈ classes typed ↔
      label ∈ ComplexityClass.all.map ComplexityClass.label ∧
        Text.lowercase typed.toList <+: Text.lowercase label.toList := by
  rw [classes, List.mem_filter, List.isPrefixOf_iff_prefix]

/-- Going on typing leaves some of the names. -/
theorem languages_append_sublist (typed more : String) :
    (languages (typed ++ more)).Sublist (languages typed) := by
  have hnames : ∀ name ∈ Language.names, 'σ' ∉ name.toList ∧ 'ς' ∉ name.toList := by decide
  unfold languages
  rw [String.toList_append]
  exact Text.filter_completing_sublist (fun name hname => hnames name (List.mem_mergeSort.mp hname))
    typed.toList more.toList

/-- Going on typing leaves some of the labels. -/
theorem classes_append_sublist (typed more : String) :
    (classes (typed ++ more)).Sublist (classes typed) := by
  have hlabels : ∀ label ∈ ComplexityClass.all.map ComplexityClass.label,
      'σ' ∉ Text.lowercase label.toList ∧ 'ς' ∉ Text.lowercase label.toList := by decide
  unfold classes
  rw [String.toList_append]
  exact Text.filter_completing_sublist hlabels typed.toList more.toList

/-- The names of languages that complete a text are strictly sorted, and they are the identifiers
and aliases that begin with its lower-case form. The labels that complete it are, in the order of
their classes, those whose lower-case form begins with that of the text. Each of them is understood:
a name in strict mode as the language that goes by it, a label as the label of its class. Whatever
is typed behind the text, the completions are among those of the text, in the same order. -/
theorem completions_begin_as_typed (typed : String) :
    ((languages typed).Pairwise (· < ·) ∧
      (∀ name, name ∈ languages typed ↔
        (name ∈ Language.all.map Language.id ∨ name ∈ Language.aliases.keys) ∧
          Text.lowercase typed.toList <+: name.toList) ∧
      (∀ name ∈ languages typed, ∃ language, Language.ofName name = .ok language ∧
        (language.id = name ∨ (name, language) ∈ Language.aliases))) ∧
    ((classes typed).Sublist (ComplexityClass.all.map ComplexityClass.label) ∧
      (∀ label, label ∈ classes typed ↔
        label ∈ ComplexityClass.all.map ComplexityClass.label ∧
          Text.lowercase typed.toList <+: Text.lowercase label.toList) ∧
      (∀ label ∈ classes typed, ∃ c : ComplexityClass,
        c.label = label ∧ ComplexityClass.ofLabel label = .ok c)) ∧
    ∀ more : String, (languages (typed ++ more)).Sublist (languages typed) ∧
      (classes (typed ++ more)).Sublist (classes typed) := by
  refine ⟨⟨?_, fun name => ?_, fun name hname => ?_⟩,
    ⟨List.filter_sublist, fun label => mem_classes_iff, fun label hlabel => ?_⟩,
    fun more => ⟨languages_append_sublist typed more, classes_append_sublist typed more⟩⟩
  · have hdistinct : Language.names.Nodup := by decide
    exact (Language.pairwise_sorted hdistinct).sublist List.filter_sublist
  · rw [mem_languages_iff, Language.names, List.mem_append]
  · exact Language.exists_ofName_of_mem_names (mem_languages_iff.mp hname).1
  · obtain ⟨c, -, rfl⟩ := List.mem_map.mp (mem_classes_iff.mp hlabel).1
    exact ⟨c, rfl, c.ofLabel_label⟩

/-- A plus sign behind a capital C leaves the alias with two of them, and an N behind `o(` leaves
the label with a superscript; both are understood. -/
theorem completions_begin_as_typed_capitals :
    ("c++" ∈ languages "C+" ∧ ∃ language, Language.ofName "c++" = .ok language ∧
      (language.id = "c++" ∨ ("c++", language) ∈ Language.aliases)) ∧
    ("O(n²)" ∈ classes "o(N" ∧ ∃ c : ComplexityClass,
      c.label = "O(n²)" ∧ ComplexityClass.ofLabel "O(n²)" = .ok c) := by
  obtain ⟨⟨-, hname, hresolved⟩, -, -⟩ := completions_begin_as_typed "C+"
  obtain ⟨-, ⟨-, hlabel, hunderstood⟩, -⟩ := completions_begin_as_typed "o(N"
  have halias : "c++" ∈ languages "C+" := (hname _).mpr ⟨by decide, by decide⟩
  have hsquare : "O(n²)" ∈ classes "o(N" := (hlabel _).mpr ⟨by decide, by decide⟩
  exact ⟨⟨halias, hresolved _ halias⟩, hsquare, hunderstood _ hsquare⟩

end Completion

end OrderOfGrowth

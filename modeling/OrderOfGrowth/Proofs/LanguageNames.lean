import OrderOfGrowth.Proofs.Effects
import OrderOfGrowth.Proofs.Spellings
import OrderOfGrowth.Proofs.TableLookup

/-!
# Names of languages in both look-ups

A name is looked up where a language is chosen, among the identifiers and the aliases, and again
where a source is scanned, among the keys of the table of signs. Each look-up brings the name into
normal form and falls back on the standard language by itself. They agree because the keys of the
table are the identifiers, which are in normal form, and because no alias is an identifier: only for
an alias does the table, which has none, fall back where the other look-up finds a language.
-/

namespace OrderOfGrowth

/-- A record that is made with fields of its own comes behind the records that are there. -/
theorem Action.exists_log_records (level : LogLevel) (message : String) (updates : FieldUpdates)
    (around : Surroundings) (session : Session) :
    ∃ after, log level message updates around session = (.ok (), after) ∧
      after.records = session.records ++
        [.make (updateFields session.fields updates) level message] := by
  unfold log withFields
  rw [emit_eq]
  refine ⟨_, rfl, ?_⟩
  unfold recorded prepared
  split_ifs <;> rfl

namespace Language

variable {name : String} {language : Language}

/-- A language is found under a name exactly if the name is its identifier. -/
theorem ofId?_eq_some_iff : ofId? name = some language ↔ language.id = name := by
  constructor
  · intro h
    simpa using List.find?_some h
  · rintro rfl
    exact language.ofId?_id

/-- No language is found under a name that is not an identifier. -/
theorem ofId?_eq_none_iff : ofId? name = none ↔ name ∉ all.map id := by
  simp [ofId?, List.find?_eq_none]

/-- No language is found under an alias. -/
theorem ofId?_of_mem_aliases (h : name ∈ aliases.keys) : ofId? name = none := by
  have hall : ∀ key ∈ aliases.keys, ofId? key = none := by decide
  exact hall name h

/-- Whether a language goes by a name: the normal form of the name is an identifier or an alias. -/
def IsName (name : String) : Prop :=
  normalName name ∈ all.map id ∨ normalName name ∈ aliases.keys

instance (name : String) : Decidable (IsName name) := inferInstanceAs (Decidable (_ ∨ _))

/-- A language goes by a name if the normal form of the name is its identifier or its alias. -/
theorem ofName?_eq_some_iff :
    ofName? name = some language ↔
      normalName name = language.id ∨ aliases.lookup (normalName name) = some language := by
  unfold ofName?
  cases hid : ofId? (normalName name) with
  | some known =>
    have hknown := ofId?_eq_some_iff.mp hid
    have halias : aliases.lookup (normalName name) = none := by
      by_contra hne
      rw [ofId?_of_mem_aliases (Keyed.mem_keys_iff.mpr hne)] at hid
      cases hid
    change some known = some language ↔ _
    rw [← hid, ofId?_eq_some_iff, halias]
    simp [eq_comm]
  | none =>
    have hne : normalName name ≠ language.id := by
      intro h
      rw [h, ofId?_id] at hid
      cases hid
    simp [hne]

/-- No language is found under a name exactly if none goes by it. -/
theorem ofName?_eq_none_iff : ofName? name = none ↔ ¬IsName name := by
  unfold ofName? IsName
  cases hid : ofId? (normalName name) with
  | some known =>
    have hmem : normalName name ∈ all.map id := by
      rw [← ofId?_eq_some_iff.mp hid]
      exact List.mem_map_of_mem known.mem_all
    simp [hmem]
  | none =>
    rw [ofId?_eq_none_iff] at hid
    simp [hid, Keyed.mem_keys_iff]

/-- Resolves a name. An unknown name is a failure in strict mode, and else it gives the standard
language and leaves a warning. -/
def resolveIn (strict : Bool) (name : String) : Action Language :=
  if strict then Action.lift (ofName name) else resolveLogged name

variable {around : Surroundings} {session : Session}

/-- A known name is resolved alike in both modes, and nothing is logged. -/
theorem resolveIn_of_some (h : ofName? name = some language) (strict : Bool) :
    resolveIn strict name around session = (.ok language, session) := by
  unfold resolveIn ofName resolveLogged
  rw [h]
  cases strict <;> rfl

/-- An unknown name is refused in strict mode. -/
theorem resolveIn_true_of_none (h : ofName? name = none) :
    resolveIn true name around session = (.error (unsupported name), session) := by
  unfold resolveIn ofName
  rw [h]
  rfl

/-- An unknown name gives the standard language otherwise, with one warning. -/
theorem resolveIn_false_of_none (h : ofName? name = none) :
    ∃ after, resolveIn false name around session = (.ok standard, after) ∧
      after.records =
        session.records ++ [.make session.fields .warning (fallbackNotice name)] := by
  obtain ⟨after, hlog, hrecords⟩ :=
    Action.exists_log_records .warning (fallbackNotice name) [] around session
  refine ⟨after, ?_, hrecords⟩
  unfold resolveIn resolveLogged
  rw [h]
  exact Action.bind_of_eq_ok hlog

/-- Strict mode fails exactly for the names that no language goes by. -/
theorem resolveIn_true_eq_error_iff {failure : Failure} {after : Session} :
    resolveIn true name around session = (.error failure, after) ↔
      ¬IsName name ∧ failure = unsupported name ∧ after = session := by
  rw [← ofName?_eq_none_iff]
  cases h : ofName? name with
  | some known => simp [resolveIn_of_some h]
  | none => simp [resolveIn_true_of_none h, eq_comm]

/-- The keys of the table of all languages are the identifiers. -/
theorem contains_standardSigns_iff : standardSigns.contains name = true ↔ name ∈ all.map id := by
  have hkeys : standardSigns.entries.keys = all.map id := rfl
  rw [← hkeys, Keyed.mem_keys_iff, SignTable.contains, Keyed.has, Option.isSome_iff_ne_none]

/-- The table of all languages resolves a name that is no alias as the other look-up does. -/
theorem resolve_standardSigns_eq (halias : normalName name ∉ aliases.keys) :
    standardSigns.resolve (some name) = ((ofName? name).getD standard).id := by
  have hlookup : aliases.lookup (normalName name) = none :=
    not_not.mp (mt Keyed.mem_keys_iff.mpr halias)
  by_cases hid : normalName name ∈ all.map id
  · obtain ⟨known, -, hknown⟩ := List.mem_map.mp hid
    rw [SignTable.resolve_of_contains (contains_standardSigns_iff.mpr hid),
      ofName?_eq_some_iff.mpr (Or.inl hknown.symm)]
    exact hknown.symm
  · have hkey : standardSigns.contains (normalName name) = false := by
      rw [Bool.eq_false_iff]
      exact mt contains_standardSigns_iff.mp hid
    have hunknown : ¬IsName name := not_or.mpr ⟨hid, halias⟩
    rw [SignTable.resolve_of_not_contains hkey, ofName?_eq_none_iff.mpr hunknown]
    rfl

/-- Every name is resolved to an identifier, which the table of signs resolves to itself; and unless
its normal form is an alias, the table resolves the name to the same identifier. Strict mode refuses
exactly the names whose normal form is neither an identifier nor an alias. Exactly the others are
resolved alike in both modes, to the language that they identify, without a record. Exactly those
that strict mode refuses give the standard language otherwise, with a single record, a warning. -/
theorem names_resolve_in_both_layers (name : String) (around : Surroundings) (session : Session) :
    (∃ language after, resolveIn false name around session = (.ok language, after) ∧
      language.id ∈ all.map id ∧ standardSigns.resolve (some language.id) = language.id ∧
      (normalName name ∉ aliases.keys → standardSigns.resolve (some name) = language.id)) ∧
    (∀ failure after, resolveIn true name around session = (.error failure, after) ↔
      ¬IsName name ∧ failure = unsupported name ∧ after = session) ∧
    (IsName name ↔ ∃ language,
      (normalName name = language.id ∨ aliases.lookup (normalName name) = some language) ∧
      ∀ strict, resolveIn strict name around session = (.ok language, session)) ∧
    (¬IsName name ↔ ∃ after, resolveIn false name around session = (.ok .javascript, after) ∧
      after.records =
        session.records ++ [.make session.fields .warning (fallbackNotice name)]) := by
  have hid (language : Language) : language.id ∈ all.map id :=
    List.mem_map_of_mem language.mem_all
  cases h : ofName? name with
  | some known =>
    have hname : IsName name := by
      by_contra hunknown
      rw [ofName?_eq_none_iff.mpr hunknown] at h
      cases h
    have hboth (strict : Bool) := @resolveIn_of_some name known around session h strict
    refine ⟨⟨known, session, hboth false, hid known, known.resolve_standardSigns, ?_⟩,
      fun _ _ => resolveIn_true_eq_error_iff,
      iff_of_true hname ⟨known, ofName?_eq_some_iff.mp h, hboth⟩,
      iff_of_false (not_not.mpr hname) ?_⟩
    · intro halias
      rw [resolve_standardSigns_eq halias, h]
      rfl
    · -- there would be one more record than there is
      rintro ⟨after, hresolved, hrecords⟩
      obtain rfl : session = after := (Prod.mk.inj ((hboth false).symm.trans hresolved)).2
      simp at hrecords
  | none =>
    have hunknown : ¬IsName name := ofName?_eq_none_iff.mp h
    obtain ⟨after, hresolved, hrecords⟩ := @resolveIn_false_of_none name around session h
    refine ⟨⟨standard, after, hresolved, hid standard, standard.resolve_standardSigns, ?_⟩,
      fun _ _ => resolveIn_true_eq_error_iff, iff_of_false hunknown ?_,
      iff_of_true hunknown ⟨after, hresolved, hrecords⟩⟩
    · intro halias
      rw [resolve_standardSigns_eq halias, h]
      rfl
    · rintro ⟨language, -, hboth⟩
      have hrefused := @resolveIn_true_of_none name around session h
      rw [hboth true] at hrefused
      cases hrefused

/-- No language goes by the name Ruby, which the table of signs resolves to the standard language,
too. -/
theorem names_resolve_in_both_layers_ruby :
    let around : Surroundings := .usual
    let session : Session := .start ⟨[]⟩ []
    ¬IsName "\u3000RuBy\x1c" ∧ normalName "\u3000RuBy\x1c" ∉ aliases.keys ∧
      standardSigns.resolve (some "\u3000RuBy\x1c") = "javascript" ∧
      ∃ after, resolveIn false "\u3000RuBy\x1c" around session = (.ok .javascript, after) ∧
        after.records = [.make [] .warning (fallbackNotice "\u3000RuBy\x1c")] := by
  intro around session
  have hunknown : ¬IsName "\u3000RuBy\x1c" := by decide
  have halias : normalName "\u3000RuBy\x1c" ∉ aliases.keys := fun h => hunknown (Or.inr h)
  obtain ⟨⟨language, _, hresolved, -, -, htable⟩, -, -, hwarned⟩ :=
    names_resolve_in_both_layers "\u3000RuBy\x1c" around session
  obtain ⟨after, hstandard, hrecords⟩ := hwarned.mp hunknown
  obtain rfl : language = .javascript :=
    Except.ok.inj (Prod.mk.inj (hresolved.symm.trans hstandard)).1
  exact ⟨hunknown, halias, htable halias, after, hstandard, hrecords⟩

end Language

end OrderOfGrowth

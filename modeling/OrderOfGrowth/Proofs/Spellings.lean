import Mathlib.Tactic.SplitIfs
import OrderOfGrowth.Configuration
import OrderOfGrowth.Proofs.JsonLimits

/-!
# Flat and nested spellings of settings

A setting of the chart can be written with a flat key or inside the object under `chart`, and two
other settings have a short and a full key. The flat keys are moved into their places one after
another. Each move keeps what the object says about every setting, so the configuration only
depends on that: the flat or short key counts, else the nested or full one, else the standard
value. The order of the keys and the choice between the spellings of a setting leave no trace.
-/

namespace OrderOfGrowth

namespace Keyed

variable {α : Type}

/-- A key is one of the keys exactly if there is a value under it. -/
theorem mem_keys_iff {key : String} {entries : Keyed α} :
    key ∈ keys entries ↔ lookup key entries ≠ none := by
  induction entries with
  | nil => simp [keys, lookup]
  | cons entry rest ih =>
    obtain ⟨name, value⟩ := entry
    simp only [keys] at ih
    by_cases hname : name = key
    · simp [keys, lookup, hname]
    · simp [keys, lookup, hname, Ne.symm hname, ih]

/-- What is found after a value has been stored. -/
theorem lookup_store (key other : String) (value : α) (entries : Keyed α) :
    lookup other (store key value entries) =
      if other = key then some value else lookup other entries := by
  split_ifs with hkey
  · rw [hkey, lookup_store_self]
  · exact lookup_store_of_ne hkey value entries

/-- What is found after a key has been removed. -/
theorem lookup_remove (key other : String) (entries : Keyed α) :
    lookup other (remove key entries) = if other = key then none else lookup other entries := by
  split_ifs with hkey
  · rw [hkey, lookup_remove_self]
  · exact lookup_remove_of_ne hkey entries

/-- If no key occurs twice, the order of the entries does not matter. -/
theorem lookup_perm {entries other : Keyed α} (hperm : other.Perm entries)
    (hkeys : (keys entries).Nodup) (key : String) : lookup key other = lookup key entries := by
  induction hperm with
  | nil => rfl
  | cons entry hperm ih =>
    rw [keys, List.map_cons, List.nodup_cons] at hkeys
    rw [lookup, lookup, ih hkeys.2]
  | swap first second rest =>
    have hne : second.1 ≠ first.1 := by
      intro heq
      simp [keys, heq] at hkeys
    simp only [lookup]
    split_ifs with hfirst hsecond
    · exact absurd (hfirst.trans hsecond.symm) hne
    · rfl
    · rfl
    · rfl
  | trans hfirst hsecond ih₁ ih₂ =>
    have hmiddle : (keys _).Nodup := (hsecond.map Prod.fst).nodup_iff.mpr hkeys
    rw [ih₁ hmiddle, ih₂ hkeys]

end Keyed

namespace ChartSettings

/-- The settings as the members of an object. -/
def toMembers (settings : ChartSettings) : Keyed Json :=
  [("domain_size", .number settings.domainSize), ("value_ceiling", settings.valueCeiling),
   ("sample_step", .number settings.sampleStep), ("dimmed_opacity", .number settings.dimmedOpacity),
   ("open_browser", settings.openBrowser), ("output_dir", settings.outputDir)]

/-- The value of a setting of which nothing is said. -/
def standardValue (field : String) : Json := (standard.toMembers.lookup field).getD .null

/-- A value that can be compared with one and is not below it. -/
def AtLeastOne (value : Json) : Prop := ∃ q, value = .number q ∧ q.lt (.int 1) = false

/-- A value that can be compared with zero and one and lies between them. -/
def WithinOne (value : Json) : Prop :=
  ∃ q, value = .number q ∧ Quantity.le (.int 0) q = true ∧ q.le (.int 1) = true

/-- The values of the settings pass the three checks. -/
structure Allowed (value : String → Json) : Prop where
  domainSize : AtLeastOne (value "domain_size")
  sampleStep : AtLeastOne (value "sample_step")
  dimmedOpacity : WithinOne (value "dimmed_opacity")

/-- The settings have exactly these values. -/
def HasValues (settings : ChartSettings) (value : String → Json) : Prop :=
  settings.toMembers = fieldNames.map fun field => (field, value field)

/-- The size, the step and the opacity of settings are the values of their names. -/
theorem HasValues.numbers {settings : ChartSettings} {value : String → Json}
    (h : settings.HasValues value) :
    value "domain_size" = .number settings.domainSize ∧
      value "sample_step" = .number settings.sampleStep ∧
      value "dimmed_opacity" = .number settings.dimmedOpacity := by
  simp only [HasValues, toMembers, fieldNames, List.map_cons, List.map_nil, List.cons.injEq,
    Prod.mk.injEq, true_and, and_true] at h
  exact ⟨h.1.symm, h.2.2.1.symm, h.2.2.2.1.symm⟩

/-- The ceiling of settings is the value of its name. -/
theorem HasValues.valueCeiling {settings : ChartSettings} {value : String → Json}
    (h : settings.HasValues value) : settings.valueCeiling = value "value_ceiling" := by
  simp only [HasValues, toMembers, fieldNames, List.map_cons, List.map_nil, List.cons.injEq,
    Prod.mk.injEq, true_and, and_true] at h
  exact h.2.1

/-- A check for a number of at least one passes exactly such a number. -/
theorem atLeastOne_eq_ok_iff {field : String} {value : Json} {q : Quantity} :
    atLeastOne field value = .ok q ↔ value = .number q ∧ q.lt (.int 1) = false := by
  cases value with
  | number r =>
    simp only [atLeastOne, Json.number.injEq]
    split_ifs with hlow
    · simp only [false_iff, not_and, Bool.not_eq_false]
      rintro rfl
      exact hlow
    · simp only [Except.ok.injEq, iff_self_and]
      rintro rfl
      exact Bool.not_eq_true _ ▸ hlow
  | _ => simp [atLeastOne]

/-- A check for a number from zero to one passes exactly such a number. -/
theorem fractionOfOne_eq_ok_iff {value : Json} {q : Quantity} :
    fractionOfOne value = .ok q ↔
      value = .number q ∧ Quantity.le (.int 0) q = true ∧ q.le (.int 1) = true := by
  cases value with
  | number r =>
    simp only [fractionOfOne, Json.number.injEq, Bool.and_eq_true]
    split_ifs with hwithin
    · simp only [Except.ok.injEq, iff_self_and]
      rintro rfl
      exact hwithin
    · simp only [false_iff, not_and]
      rintro rfl hlow hhigh
      exact hwithin ⟨hlow, hhigh⟩
  | _ => simp [fractionOfOne]

/-- A failure that makes a configuration invalid: a value of the wrong kind or out of its range. Or
a number is out of range that has no text, and so the message that quotes it cannot be made. -/
def IsRefusal (haveTexts : Prop) (failure : Failure) : Prop :=
  (∃ problem, failure = .kind problem) ∨ (∃ problem, failure = .configuration problem) ∨
    ¬haveTexts ∧ failure = .arithmetic .tooLongInteger

/-- Where fewer values are looked at, fewer of them have no text. -/
theorem IsRefusal.mono {haveTexts allHave : Prop} {failure : Failure}
    (h : IsRefusal haveTexts failure) (himp : allHave → haveTexts) : IsRefusal allHave failure :=
  h.imp_right (.imp_right fun ⟨hnot, hlong⟩ => ⟨mt himp hnot, hlong⟩)

/-- A message that quotes a number makes a configuration invalid unless the number has no text. -/
theorem isRefusal_quoting (q : Quantity) (problem : ConfigurationProblem) :
    IsRefusal (q.isWritable = true) (.quoting q (.configuration problem)) := by
  unfold Failure.quoting
  split_ifs with hwritable
  · exact .inr (.inl ⟨problem, rfl⟩)
  · exact .inr (.inr ⟨hwritable, rfl⟩)

/-- A check for a number of at least one only fails as a refusal. -/
theorem isRefusal_of_atLeastOne {field : String} {value : Json} {failure : Failure}
    (h : atLeastOne field value = .error failure) :
    IsRefusal (value.isWritable = true) failure := by
  cases value with
  | number q =>
    simp only [atLeastOne] at h
    split_ifs at h
    obtain rfl := Except.error.inj h
    exact isRefusal_quoting q _
  | _ => exact Or.inl ⟨_, (Except.error.inj h).symm⟩

/-- A check for a number from zero to one only fails as a refusal. -/
theorem isRefusal_of_fractionOfOne {value : Json} {failure : Failure}
    (h : fractionOfOne value = .error failure) :
    IsRefusal (value.isWritable = true) failure := by
  cases value with
  | number q =>
    simp only [fractionOfOne] at h
    split_ifs at h
    obtain rfl := Except.error.inj h
    exact isRefusal_quoting q _
  | _ => exact Or.inl ⟨_, (Except.error.inj h).symm⟩

/-- What the members of an object say about a setting, or else its standard value. -/
def valueIn (members : Keyed Json) (field : String) : Json :=
  (members.lookup field).getD (standardValue field)

/-- The settings of an object: it has no other keys, its values are allowed, and the settings have
these values. -/
theorem ofMembers_eq_ok_iff {members : Keyed Json} {settings : ChartSettings} :
    ofMembers members = .ok settings ↔
      (∀ key ∈ members.keys, key ∈ fieldNames) ∧ Allowed (valueIn members) ∧
        settings.HasValues (valueIn members) := by
  unfold ofMembers
  cases hkey : members.keys.find? (!fieldNames.contains ·) with
  | some key =>
    have hunknown : key ∉ fieldNames := by simpa using List.find?_some hkey
    simp only [throw, throwThe, MonadExceptOf.throw, reduceCtorEq, false_iff, not_and]
    intro hknown
    exact absurd (hknown key (List.mem_of_find?_eq_some hkey)) hunknown
  | none =>
    have hknown : ∀ key ∈ members.keys, key ∈ fieldNames := by
      simpa using List.find?_eq_none.mp hkey
    simp only [bind_eq_ok, atLeastOne_eq_ok_iff, fractionOfOne_eq_ok_iff]
    constructor
    · rintro ⟨size, ⟨hsize, hsizeLow⟩, step, ⟨hstep, hstepLow⟩, opacity, ⟨hopacity, hlow, hhigh⟩,
        hsettings⟩
      obtain rfl := Except.ok.inj hsettings
      refine ⟨hknown, ⟨⟨size, hsize, hsizeLow⟩, ⟨step, hstep, hstepLow⟩,
        ⟨opacity, hopacity, hlow, hhigh⟩⟩, ?_⟩
      rw [HasValues, toMembers, ← hsize, ← hstep, ← hopacity]
      rfl
    · rintro ⟨-, ⟨⟨size, hsize, hsizeLow⟩, ⟨step, hstep, hstepLow⟩,
        ⟨opacity, hopacity, hlow, hhigh⟩⟩, hvalues⟩
      refine ⟨size, ⟨hsize, hsizeLow⟩, step, ⟨hstep, hstepLow⟩, opacity,
        ⟨hopacity, hlow, hhigh⟩, ?_⟩
      simp only [HasValues, toMembers, fieldNames, List.map_cons, List.map_nil, List.cons.injEq,
        Prod.mk.injEq, true_and, hsize, hstep, hopacity, Json.number.injEq] at hvalues
      obtain ⟨rfl, hceiling, rfl, rfl, hopen, houtput, -⟩ := hvalues
      change Except.ok (⟨settings.domainSize, valueIn members "value_ceiling", settings.sampleStep,
        settings.dimmedOpacity, valueIn members "open_browser",
        valueIn members "output_dir"⟩ : ChartSettings) = .ok settings
      rw [← hceiling, ← hopen, ← houtput]

/-- An object is no settings only by a refusal. -/
theorem isRefusal_of_ofMembers {members : Keyed Json} {failure : Failure}
    (h : ofMembers members = .error failure) :
    IsRefusal (∀ field ∈ fieldNames, (valueIn members field).isWritable = true) failure := by
  unfold ofMembers at h
  cases hkey : members.keys.find? (!fieldNames.contains ·) with
  | some key =>
    rw [hkey] at h
    exact Or.inl ⟨_, (Except.error.inj h).symm⟩
  | none =>
    rw [hkey] at h
    rcases bind_eq_error.mp h with hsize | ⟨size, -, h⟩
    · exact (isRefusal_of_atLeastOne hsize).mono fun hall => hall "domain_size" (by decide)
    rcases bind_eq_error.mp h with hstep | ⟨step, -, h⟩
    · exact (isRefusal_of_atLeastOne hstep).mono fun hall => hall "sample_step" (by decide)
    rcases bind_eq_error.mp h with hopacity | ⟨opacity, -, h⟩
    · exact (isRefusal_of_fractionOfOne hopacity).mono fun hall =>
        hall "dimmed_opacity" (by decide)
    · cases h

/-- Allowed values are the values of some settings. -/
theorem Allowed.exists_hasValues {value : String → Json} (h : Allowed value) :
    ∃ settings : ChartSettings, settings.HasValues value := by
  obtain ⟨⟨size, hsize, -⟩, ⟨step, hstep, -⟩, ⟨opacity, hopacity, -⟩⟩ := h
  refine ⟨⟨size, value "value_ceiling", step, opacity, value "open_browser",
    value "output_dir"⟩, ?_⟩
  rw [HasValues, toMembers, ← hsize, ← hstep, ← hopacity]
  rfl

/-- Whether settings have some values depends on the values of settings only. -/
theorem hasValues_congr {settings : ChartSettings} {value other : String → Json}
    (h : ∀ field ∈ fieldNames, value field = other field) :
    settings.HasValues value ↔ settings.HasValues other := by
  have hmap : fieldNames.map (fun field => (field, value field)) =
      fieldNames.map fun field => (field, other field) :=
    List.map_congr_left fun field hfield => by rw [h field hfield]
  rw [HasValues, HasValues, hmap]

/-- Whether values are allowed depends on the values of settings only. -/
theorem allowed_congr {value other : String → Json}
    (h : ∀ field ∈ fieldNames, value field = other field) : Allowed value ↔ Allowed other := by
  have hsize := h "domain_size" (by decide)
  have hstep := h "sample_step" (by decide)
  have hopacity := h "dimmed_opacity" (by decide)
  constructor
  · rintro ⟨h₁, h₂, h₃⟩
    exact ⟨hsize ▸ h₁, hstep ▸ h₂, hopacity ▸ h₃⟩
  · rintro ⟨h₁, h₂, h₃⟩
    exact ⟨hsize ▸ h₁, hstep ▸ h₂, hopacity ▸ h₃⟩

/-- The standard settings are those of an object that says nothing. -/
theorem ofMembers_nil : ofMembers [] = .ok standard := rfl

end ChartSettings

namespace Configuration

/-- If there is a value under `chart`, it is an object. -/
def HasChartObject (members : Keyed Json) : Prop :=
  ∀ value, members.lookup "chart" = some value → ∃ chart, value = .object chart

/-- The members of the object under `chart`. -/
def nested (members : Keyed Json) : Keyed Json :=
  match members.lookup "chart" with
  | some (.object chart) => chart
  | _ => []

/-- What is said about a setting of the chart: under its flat key, or else inside `chart`. -/
def flatOrNested (members : Keyed Json) (field : String) : Option Json :=
  (members.lookup field).or ((nested members).lookup field)

/-- What is said under a short key, or else under the full one. -/
def shortOrFull (short full : String) (members : Keyed Json) : Option Json :=
  (members.lookup short).or (members.lookup full)

/-- Some fields have been moved from their flat keys into the chart, and nothing else has
changed. -/
structure Moved (fields : List String) (before after : Keyed Json) : Prop where
  object : HasChartObject after
  flat : ∀ key ≠ "chart",
    after.lookup key = if key ∈ fields then none else before.lookup key
  nested : ∀ key, (nested after).lookup key =
    if key ∈ fields then flatOrNested before key else (nested before).lookup key

/-- A value that is moved is stored among the members of the chart. -/
theorem moveIntoChart_of_lookup {key : String} {value : Json} {members : Keyed Json}
    (hchart : HasChartObject members) (hkey : key ≠ "chart")
    (hvalue : members.lookup key = some value) :
    moveIntoChart key members =
      .ok ((members.remove key).store "chart" (.object ((nested members).store key value))) := by
  unfold moveIntoChart nested
  rw [hvalue]
  dsimp only
  rw [Keyed.lookup_remove_of_ne hkey.symm]
  cases hlookup : members.lookup "chart" with
  | none => rfl
  | some found =>
    obtain ⟨chart, rfl⟩ := hchart found hlookup
    rfl

/-- One more field can always be moved. -/
theorem Moved.step {fields : List String} {before middle : Keyed Json} {key : String}
    (hmoved : Moved fields before middle) (hkey : key ≠ "chart") :
    ∃ after, moveIntoChart key middle = .ok after ∧ Moved (fields ++ [key]) before after := by
  cases hvalue : middle.lookup key with
  | none =>
    refine ⟨middle, by rw [moveIntoChart, hvalue], hmoved.object, ?_, ?_⟩
    · intro other hother
      have hflat := hmoved.flat other hother
      by_cases heq : other = key
      · simp [heq, hvalue]
      · simpa [heq] using hflat
    · intro other
      have hnested := hmoved.nested other
      have hflat := hmoved.flat key hkey
      by_cases heq : other = key
      · subst heq
        by_cases hmem : other ∈ fields
        · simpa [hmem] using hnested
        · rw [if_neg hmem, hvalue] at hflat
          simpa [hmem, flatOrNested, ← hflat] using hnested
      · simpa [heq] using hnested
  | some value =>
    have hflat := hmoved.flat key hkey
    have hmem : key ∉ fields := by
      intro hmem
      rw [if_pos hmem, hvalue] at hflat
      cases hflat
    rw [if_neg hmem, hvalue] at hflat
    refine ⟨_, moveIntoChart_of_lookup hmoved.object hkey hvalue, ?_, ?_, ?_⟩
    · intro found hfound
      rw [Keyed.lookup_store_self] at hfound
      exact ⟨_, (Option.some.inj hfound).symm⟩
    · intro other hother
      rw [Keyed.lookup_store_of_ne hother, Keyed.lookup_remove, hmoved.flat other hother]
      by_cases heq : other = key <;> simp [heq]
    · intro other
      have hstored : Configuration.nested ((middle.remove key).store "chart"
          (.object ((Configuration.nested middle).store key value))) =
          (Configuration.nested middle).store key value := by
        rw [Configuration.nested, Keyed.lookup_store_self]
      rw [hstored, Keyed.lookup_store, hmoved.nested other]
      by_cases heq : other = key
      · simp [heq, flatOrNested, ← hflat]
      · simp [heq]

/-- Any fields can be moved one after another. -/
theorem Moved.fold {fields done : List String} {before middle : Keyed Json}
    (hmoved : Moved done before middle) (hfields : "chart" ∉ fields) :
    ∃ after, fields.foldlM (fun members key => moveIntoChart key members) middle = .ok after ∧
      Moved (done ++ fields) before after := by
  induction fields generalizing done middle with
  | nil => exact ⟨middle, rfl, by simpa using hmoved⟩
  | cons key fields ih =>
    simp only [List.mem_cons, not_or] at hfields
    obtain ⟨next, hnext, hstep⟩ := hmoved.step (Ne.symm hfields.1)
    obtain ⟨after, hafter, hend⟩ := ih hstep hfields.2
    refine ⟨after, ?_, by simpa using hend⟩
    rw [List.foldlM_cons, hnext]
    exact hafter

/-- What is found after a short key has given way to the full one. -/
theorem lookup_rename {short full : String} (hne : short ≠ full) (members : Keyed Json)
    (key : String) :
    (rename short full members).lookup key =
      if key = short then none
      else if key = full then shortOrFull short full members
      else members.lookup key := by
  unfold rename shortOrFull
  cases hshort : members.lookup short with
  | none =>
    by_cases hkey : key = short
    · simp [hkey, hshort]
    · by_cases hfull : key = full
      · subst hfull
        simp [hkey]
      · simp [hkey, hfull]
  | some value =>
    dsimp only
    rw [Keyed.lookup_store, Keyed.lookup_remove]
    by_cases hfull : key = full
    · simp [hfull, hne.symm]
    · simp [hfull]

/-- All flat and short keys are in their places, with what was said about every setting. -/
structure Unflattened (members after : Keyed Json) : Prop where
  object : HasChartObject after
  language : after.lookup "default_language" = shortOrFull "language" "default_language" members
  memoryLimit :
    after.lookup "memory_limit_bytes" = shortOrFull "memory_limit" "memory_limit_bytes" members
  debug : after.lookup "debug" = members.lookup "debug"
  setting : ∀ field ∈ ChartSettings.fieldNames,
    (nested after).lookup field = flatOrNested members field
  others : ∀ key ∉ fieldNames,
    after.lookup key = if key ∈ flatKeys then none else members.lookup key
  nestedOthers : ∀ key ∉ ChartSettings.fieldNames,
    (nested after).lookup key = (nested members).lookup key

/-- Before the first move nothing has been moved. -/
theorem Moved.refl {members : Keyed Json} (hchart : HasChartObject members) :
    Moved [] members members := by
  refine ⟨hchart, ?_, ?_⟩ <;> simp

/-- The keys can always be put in their places. -/
theorem exists_unflattened {members : Keyed Json} (hchart : HasChartObject members) :
    ∃ after, unflatten members = .ok after ∧ Unflattened members after := by
  let named := rename "language" "default_language" members
  let renamed := rename "memory_limit" "memory_limit_bytes" named
  have hnamed (key : String) : named.lookup key = _ :=
    lookup_rename (by decide) members key
  have hrenamed (key : String) : renamed.lookup key = _ :=
    lookup_rename (by decide) named key
  have hsame : ∀ key ∉ ["language", "default_language", "memory_limit", "memory_limit_bytes"],
      renamed.lookup key = members.lookup key := by
    intro key hkey
    simp only [List.mem_cons, List.not_mem_nil, or_false, not_or] at hkey
    simp [hrenamed, hnamed, hkey]
  have hobject : HasChartObject renamed := by
    intro value hvalue
    rw [hsame "chart" (by decide)] at hvalue
    exact hchart value hvalue
  have hnested : nested renamed = nested members := by
    rw [nested, nested, hsame "chart" (by decide)]
  obtain ⟨after, hafter, hmoved⟩ :=
    (Moved.refl hobject).fold (by decide : "chart" ∉ ChartSettings.fieldNames)
  rw [List.nil_append] at hmoved
  refine ⟨after, hafter, hmoved.object, ?_, ?_, ?_, ?_, ?_, ?_⟩
  · rw [hmoved.flat _ (by decide), if_neg (by decide)]
    simp [hrenamed, hnamed]
  · rw [hmoved.flat _ (by decide), if_neg (by decide)]
    simp [hrenamed, hnamed, shortOrFull]
  · rw [hmoved.flat _ (by decide), if_neg (by decide), hsame _ (by decide)]
  · intro field hfield
    have hother : ∀ field ∈ ChartSettings.fieldNames,
        field ∉ ["language", "default_language", "memory_limit", "memory_limit_bytes"] := by
      decide
    rw [hmoved.nested, if_pos hfield, flatOrNested, flatOrNested, hnested,
      hsame field (hother field hfield)]
  · intro key hkey
    simp only [fieldNames, List.mem_cons, List.not_mem_nil, or_false, not_or] at hkey
    rw [hmoved.flat key hkey.2.2.1]
    simp only [flatKeys, List.mem_append, List.mem_cons, List.not_mem_nil, or_false, hrenamed,
      hnamed]
    by_cases hfield : key ∈ ChartSettings.fieldNames
    · simp [hfield]
    · by_cases hlimit : key = "memory_limit"
      · simp [hlimit]
      · by_cases hlanguage : key = "language"
        · simp [hlanguage]
        · simp [hfield, hlimit, hlanguage, hkey]
  · intro key hkey
    rw [hmoved.nested, if_neg hkey, hnested]

/-- An object has no keys but those of settings, in any of their spellings. -/
def IsKnown (members : Keyed Json) : Prop :=
  (∀ key ∈ members.keys, key ∈ flatKeys ∨ key ∈ fieldNames) ∧
    ∀ key ∈ (nested members).keys, key ∈ ChartSettings.fieldNames

/-- Putting the keys in their places brings no unknown key in and takes none away. -/
theorem Unflattened.known_iff {members after : Keyed Json} (h : Unflattened members after) :
    ((∀ key ∈ after.keys, key ∈ fieldNames) ∧
      ∀ key ∈ (nested after).keys, key ∈ ChartSettings.fieldNames) ↔ IsKnown members := by
  unfold IsKnown
  refine and_congr (forall_congr' fun key => ?_) (forall_congr' fun key => ?_)
  · rw [Keyed.mem_keys_iff, Keyed.mem_keys_iff]
    by_cases hkey : key ∈ fieldNames
    · simp [hkey]
    · rw [h.others key hkey]
      by_cases hflat : key ∈ flatKeys <;> simp [hkey, hflat]
  · rw [Keyed.mem_keys_iff, Keyed.mem_keys_iff]
    by_cases hkey : key ∈ ChartSettings.fieldNames
    · simp [hkey]
    · rw [h.nestedOthers key hkey]

/-- The settings of the chart are those of the object under `chart`, which may be missing. -/
theorem chartOf_eq_ok_iff {members : Keyed Json} (hchart : HasChartObject members)
    {entry : ChartEntry} :
    chartOf members = .ok entry ↔
      ∃ settings, ChartSettings.ofMembers (nested members) = .ok settings ∧
        entry = .settings settings := by
  unfold chartOf nested
  cases hlookup : members.lookup "chart" with
  | none => simp [ChartSettings.ofMembers_nil, eq_comm]
  | some value =>
    obtain ⟨chart, rfl⟩ := hchart value hlookup
    dsimp only
    cases hsettings : ChartSettings.ofMembers chart with
    | ok settings => simp [eq_comm]
    | error failure => cases failure <;> simp

/-- The settings of the chart only fail as an invalid configuration, or for a number without a
text. -/
theorem problem_or_long_of_chartOf {members : Keyed Json} (hchart : HasChartObject members)
    {failure : Failure} (h : chartOf members = .error failure) :
    (∃ problem, failure = .configuration problem) ∨
      (¬∀ field ∈ ChartSettings.fieldNames,
        (ChartSettings.valueIn (nested members) field).isWritable = true) ∧
      failure = .arithmetic .tooLongInteger := by
  unfold chartOf at h
  cases hlookup : members.lookup "chart" with
  | none =>
    rw [hlookup] at h
    cases h
  | some value =>
    obtain ⟨chart, rfl⟩ := hchart value hlookup
    have hnested : nested members = chart := by rw [nested, hlookup]
    rw [hlookup] at h
    dsimp only at h
    cases hsettings : ChartSettings.ofMembers chart with
    | ok settings =>
      rw [hsettings] at h
      cases h
    | error cause =>
      rw [hsettings] at h
      obtain ⟨problem, rfl⟩ | ⟨problem, rfl⟩ | ⟨hlong, rfl⟩ :=
        ChartSettings.isRefusal_of_ofMembers hsettings
      · exact .inl ⟨_, (Except.error.inj h).symm⟩
      · exact .inl ⟨_, (Except.error.inj h).symm⟩
      · exact .inr ⟨hnested ▸ hlong, (Except.error.inj h).symm⟩

/-- There are no unknown keys exactly if all keys are known. -/
theorem isEmpty_unknownKeys_iff (keys : List String) :
    (unknownKeys keys).isEmpty = true ↔ ∀ key ∈ keys, key ∈ fieldNames := by
  rw [List.isEmpty_iff_length_eq_zero, unknownKeys, Language.sorted, List.length_mergeSort,
    List.length_eq_zero_iff, List.filter_eq_nil_iff]
  simp

/-- The value that counts for a setting of the chart. -/
def effective (members : Keyed Json) (field : String) : Json :=
  (flatOrNested members field).getD (ChartSettings.standardValue field)

/-- A configuration has the values that an object says by its flat or short keys, or else by its
nested or full ones, and the standard values where it says nothing. -/
structure Merges (members : Keyed Json) (config : Configuration) : Prop where
  defaultLanguage :
    config.defaultLanguage = (shortOrFull "language" "default_language" members).getD .null
  debug : config.debug = (members.lookup "debug").getD (.bool false)
  memoryLimit : config.memoryLimit =
    (shortOrFull "memory_limit" "memory_limit_bytes" members).getD (.int standardMemoryLimit)
  chart : ∃ settings, config.chart = .settings settings ∧ settings.HasValues (effective members)

/-- The object inside `chart` has the values that count once the keys are in their places. -/
theorem Unflattened.valueIn_eq {members after : Keyed Json} (h : Unflattened members after) :
    ∀ field ∈ ChartSettings.fieldNames,
      ChartSettings.valueIn (nested after) field = effective members field := by
  intro field hfield
  rw [ChartSettings.valueIn, effective, h.setting field hfield]

/-- The configuration of an object: its keys are known, its values are allowed, and the
configuration has these values. -/
theorem ofMembers_eq_ok_iff {members : Keyed Json} (hchart : HasChartObject members)
    {config : Configuration} :
    ofMembers members = .ok config ↔
      IsKnown members ∧ ChartSettings.Allowed (effective members) ∧ Merges members config := by
  obtain ⟨after, hafter, hplaced⟩ := exists_unflattened hchart
  have hvalues := hplaced.valueIn_eq
  unfold ofMembers
  rw [hafter, bind_eq_ok]
  simp only [Except.ok.injEq, exists_eq_left', bind_eq_ok, chartOf_eq_ok_iff hplaced.object,
    ChartSettings.ofMembers_eq_ok_iff, ChartSettings.allowed_congr hvalues,
    ChartSettings.hasValues_congr hvalues, ← hplaced.known_iff]
  constructor
  · rintro ⟨_, ⟨settings, ⟨hnested, hallowed, hholds⟩, rfl⟩, hconfig⟩
    split_ifs at hconfig with hunknown
    · obtain rfl := Except.ok.inj hconfig
      refine ⟨⟨(isEmpty_unknownKeys_iff _).mp hunknown, hnested⟩, hallowed,
        ?_, ?_, ?_, settings, rfl, hholds⟩
      · rw [← hplaced.language]
      · rw [← hplaced.debug]
      · rw [← hplaced.memoryLimit]
  · rintro ⟨⟨hknown, hnested⟩, hallowed, hmerges⟩
    obtain ⟨settings, hsettings, hholds⟩ := hmerges.chart
    refine ⟨_, ⟨settings, ⟨hnested, hallowed, hholds⟩, rfl⟩, ?_⟩
    rw [if_pos ((isEmpty_unknownKeys_iff _).mpr hknown), hplaced.language, hplaced.debug,
      hplaced.memoryLimit, ← hmerges.defaultLanguage, ← hmerges.debug, ← hmerges.memoryLimit,
      ← hsettings]
    rfl

/-- The settings of an object whose numbers have texts have texts. -/
theorem isWritable_effective {members : Keyed Json} (h : (Json.object members).isWritable = true) :
    ∀ field ∈ ChartSettings.fieldNames, (effective members field).isWritable = true := by
  have hfound {entries : Keyed Json} (hentries : Json.haveWritable entries = true) {key : String}
      {value : Json} (hvalue : entries.lookup key = some value) : value.isWritable = true :=
    Json.haveWritable_iff.mp hentries _ (Keyed.mem_of_lookup hvalue)
  have hnested : Json.haveWritable (nested members) = true := by
    unfold nested
    split
    next chart hchart => exact hfound h hchart
    · rfl
  have hstandard : ∀ field ∈ ChartSettings.fieldNames,
      (ChartSettings.standardValue field).isWritable = true := by decide +kernel
  intro field hfield
  unfold effective flatOrNested
  cases hflat : members.lookup field with
  | some value => exact hfound h hflat
  | none =>
    cases hinner : (nested members).lookup field with
    | some value => exact hfound hnested hinner
    | none => exact hstandard field hfield

/-- An object only fails to be a configuration as an invalid one, unless it has a number without a
text. -/
theorem problem_or_long_of_ofMembers {members : Keyed Json} (hchart : HasChartObject members)
    {failure : Failure} (h : ofMembers members = .error failure) :
    (∃ problem, failure = .configuration problem) ∨
      (Json.object members).isWritable = false ∧ failure = .arithmetic .tooLongInteger := by
  obtain ⟨after, hafter, hplaced⟩ := exists_unflattened hchart
  unfold ofMembers at h
  rw [hafter] at h
  rcases bind_eq_error.mp h with hplace | ⟨_, hplace, h⟩
  · cases hplace
  obtain rfl := Except.ok.inj hplace
  rcases bind_eq_error.mp h with hentry | ⟨entry, -, h⟩
  · refine (problem_or_long_of_chartOf hplaced.object hentry).imp_right (.imp_left fun hlong => ?_)
    rw [← Bool.not_eq_true]
    intro hwritable
    refine hlong fun field hfield => ?_
    rw [hplaced.valueIn_eq field hfield]
    exact isWritable_effective hwritable field hfield
  dsimp only at h
  split_ifs at h
  · cases h
  · exact .inl ⟨_, (Except.error.inj h).symm⟩

/-- Two objects say the same about every setting, whatever the spelling and the order of keys. -/
structure SaysSame (members other : Keyed Json) : Prop where
  language :
    shortOrFull "language" "default_language" other =
      shortOrFull "language" "default_language" members
  memoryLimit :
    shortOrFull "memory_limit" "memory_limit_bytes" other =
      shortOrFull "memory_limit" "memory_limit_bytes" members
  debug : other.lookup "debug" = members.lookup "debug"
  setting : ∀ field ∈ ChartSettings.fieldNames,
    flatOrNested other field = flatOrNested members field

/-- Objects that say the same are merged into the same configuration. -/
theorem SaysSame.merges {members other : Keyed Json} (h : SaysSame members other)
    {config : Configuration} (hmerges : Merges members config) : Merges other config := by
  obtain ⟨settings, hsettings, hholds⟩ := hmerges.chart
  refine ⟨?_, ?_, ?_, settings, hsettings, ?_⟩
  · rw [hmerges.defaultLanguage, h.language]
  · rw [hmerges.debug, h.debug]
  · rw [hmerges.memoryLimit, h.memoryLimit]
  · refine (ChartSettings.hasValues_congr fun field hfield => ?_).mp hholds
    rw [effective, effective, h.setting field hfield]

/-- Objects that say the same have the same allowed values. -/
theorem SaysSame.allowed {members other : Keyed Json} (h : SaysSame members other)
    (hallowed : ChartSettings.Allowed (effective members)) :
    ChartSettings.Allowed (effective other) := by
  refine (ChartSettings.allowed_congr fun field hfield => ?_).mp hallowed
  rw [effective, effective, h.setting field hfield]

/-- Two objects in which the same is found say the same. -/
theorem SaysSame.of_lookup {members other : Keyed Json}
    (h : ∀ key, other.lookup key = members.lookup key) : SaysSame members other := by
  have hnested : nested other = nested members := by rw [nested, nested, h]
  refine ⟨?_, ?_, h "debug", fun field _ => ?_⟩
  · rw [shortOrFull, shortOrFull, h, h]
  · rw [shortOrFull, shortOrFull, h, h]
  · rw [flatOrNested, flatOrNested, h, hnested]

/-- An object in which the same is found as in one without unknown keys has none either. -/
theorem IsKnown.of_lookup {members other : Keyed Json} (hknown : IsKnown members)
    (h : ∀ key, other.lookup key = members.lookup key) : IsKnown other := by
  have hnested : nested other = nested members := by rw [nested, nested, h]
  refine ⟨fun key hkey => hknown.1 key ?_, hnested ▸ hknown.2⟩
  rwa [Keyed.mem_keys_iff, h, ← Keyed.mem_keys_iff] at hkey

/-- Objects that say the same are the same configuration, if they have no unknown keys. -/
theorem SaysSame.ofMembers_eq_ok {members other : Keyed Json} (h : SaysSame members other)
    (hchart : HasChartObject members) (hother : HasChartObject other) (hknown : IsKnown other)
    {config : Configuration} (hconfig : ofMembers members = .ok config) :
    ofMembers other = .ok config := by
  obtain ⟨-, hallowed, hmerges⟩ := (ofMembers_eq_ok_iff hchart).mp hconfig
  exact (ofMembers_eq_ok_iff hother).mpr ⟨hknown, h.allowed hallowed, h.merges hmerges⟩

/-- Objects in which the same is found are the same configuration. -/
theorem ofMembers_eq_ok_of_lookup {members other : Keyed Json} (hchart : HasChartObject members)
    (h : ∀ key, other.lookup key = members.lookup key) {config : Configuration}
    (hconfig : ofMembers members = .ok config) : ofMembers other = .ok config := by
  have hother : HasChartObject other := fun value hvalue => hchart value (h "chart" ▸ hvalue)
  have hknown := ((ofMembers_eq_ok_iff hchart).mp hconfig).1
  exact (SaysSame.of_lookup h).ofMembers_eq_ok hchart hother (hknown.of_lookup h) hconfig

/-- An object whose value under `chart`, if there is one, is an object is a configuration exactly if
it has no unknown key, on the outside or inside `chart`, and its values are allowed; otherwise it is
an invalid configuration, unless it has a whole number of too many digits for a message, which no
object has that is read from a text. Each setting has the value under its flat or short key, else
the one under its nested or full key, else the standard value. The order of the keys does not
matter, nor does the spelling in which a value is given. -/
theorem ofJson_merges_spellings {members : Keyed Json} (hchart : HasChartObject members) :
    (IsKnown members ∧ ChartSettings.Allowed (effective members) →
      ∃ config, ofJson (.object members) = .ok config ∧ Merges members config) ∧
    (¬(IsKnown members ∧ ChartSettings.Allowed (effective members)) →
      (∃ problem, ofJson (.object members) = .error (.configuration problem)) ∨
        (Json.object members).isWritable = false ∧
          ofJson (.object members) = .error (.arithmetic .tooLongInteger)) ∧
    (∀ levels text, Json.read levels text = .ok (.object members) →
      (Json.object members).isWritable = true) ∧
    (∀ other, other.Perm members → members.keys.Nodup →
      ∀ config, ofJson (.object other) = .ok config ↔ ofJson (.object members) = .ok config) ∧
    ∀ other, HasChartObject other → IsKnown other → SaysSame members other →
      ∀ config, ofJson (.object members) = .ok config → ofJson (.object other) = .ok config := by
  have hiff (config : Configuration) :
      ofMembers members = .ok config ↔ IsKnown members ∧
        ChartSettings.Allowed (effective members) ∧ Merges members config :=
    ofMembers_eq_ok_iff hchart
  refine ⟨?_, ?_, fun _ _ => Json.isWritable_of_read, ?_, ?_⟩
  · rintro ⟨hknown, hallowed⟩
    obtain ⟨settings, hholds⟩ := hallowed.exists_hasValues
    have hmerges : Merges members ⟨_, _, .settings settings, _⟩ :=
      ⟨rfl, rfl, rfl, settings, rfl, hholds⟩
    exact ⟨_, (hiff _).mpr ⟨hknown, hallowed, hmerges⟩, hmerges⟩
  · intro hnot
    cases hresult : ofMembers members with
    | ok config =>
      obtain ⟨hknown, hallowed, -⟩ := (hiff config).mp hresult
      exact absurd ⟨hknown, hallowed⟩ hnot
    | error failure =>
      refine (problem_or_long_of_ofMembers hchart hresult).imp ?_ (.imp_right ?_)
      · rintro ⟨problem, rfl⟩
        exact ⟨problem, hresult⟩
      · rintro rfl
        exact hresult
  · intro other hperm hkeys config
    have hlookup := Keyed.lookup_perm hperm hkeys
    have hother : HasChartObject other :=
      fun value hvalue => hchart value (hlookup "chart" ▸ hvalue)
    exact ⟨ofMembers_eq_ok_of_lookup hother fun key => (hlookup key).symm,
      ofMembers_eq_ok_of_lookup hchart hlookup⟩
  · intro other hother hknown hsame config
    exact hsame.ofMembers_eq_ok hchart hother hknown

/-- Of a size that is given flat and nested the flat one counts, beside a nested step and a limit
in both of its spellings. -/
theorem ofJson_merges_spellings_flat_beside_nested :
    let members : Keyed Json :=
      [("memory_limit_bytes", .int 5),
       ("chart", .object [("domain_size", .int 7), ("sample_step", .int 3)]),
       ("domain_size", .int 51), ("memory_limit", .int 1024)]
    HasChartObject members ∧
      ∃ config, ofJson (.object members) = .ok config ∧ config.memoryLimit = .int 1024 ∧
        ∃ settings, config.chart = .settings settings ∧ settings.domainSize = .int 51 ∧
          settings.sampleStep = .int 3 := by
  intro members
  have hchart : HasChartObject members := by
    intro value hvalue
    exact ⟨_, (Option.some.inj hvalue).symm⟩
  have hallowed : ChartSettings.Allowed (effective members) :=
    ⟨⟨.int 51, rfl, by decide +kernel⟩, ⟨.int 3, rfl, by decide +kernel⟩,
      ⟨standardOpacity, rfl, by decide +kernel, by decide +kernel⟩⟩
  have hknown : IsKnown members := by
    unfold IsKnown
    decide
  obtain ⟨config, hconfig, hmerges⟩ := (ofJson_merges_spellings hchart).1 ⟨hknown, hallowed⟩
  obtain ⟨settings, hsettings, hholds⟩ := hmerges.chart
  have hsize : some (Json.number settings.domainSize) = some (.int 51) :=
    congrArg (Keyed.lookup "domain_size") hholds
  have hstep : some (Json.number settings.sampleStep) = some (.int 3) :=
    congrArg (Keyed.lookup "sample_step") hholds
  exact ⟨hchart, config, hconfig, hmerges.memoryLimit, settings, hsettings,
    Json.number.inj (Option.some.inj hsize), Json.number.inj (Option.some.inj hstep)⟩

end Configuration

end OrderOfGrowth

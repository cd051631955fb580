import OrderOfGrowth.Options
import OrderOfGrowth.Proofs.QuantityOrder
import OrderOfGrowth.Proofs.Spellings

/-!
# Which configurations are valid

A configuration is valid if it has settings for charts, its size, step and opacity lie in their
ranges, and its memory limit is a number that is not negative. The check of size and step lets the
undefined double pass, a value under `chart` that is no object stays as it is, and the memory limit
is not checked at all, so an object can become a configuration that is not valid. This file says
exactly when it does.
-/

namespace OrderOfGrowth

/-- A quantity lies somewhere unless it is the undefined double. -/
theorem Quantity.place?_ne_none_iff {q : Quantity} :
    q.place? ≠ none ↔ q ≠ .float .undefined := by
  rcases q with n | (negative | _ | _) | b <;> simp [place?]

/-- A quantity that is not below a whole number is at least that number, unless it is the undefined
double. -/
theorem Quantity.int_le_iff_of_not_lt {n : ℤ} {q : Quantity} (h : q.lt (.int n) = false) :
    (int n).le q = true ↔ q ≠ .float .undefined := by
  rw [← place?_ne_none_iff]
  constructor
  · intro hle
    obtain ⟨p, hp, -⟩ := int_le_iff.mp hle
    simp [hp]
  · intro hplace
    exact le_of_not_lt hplace (by simp [place?]) h

/-- The settings for charts lie in their ranges. -/
structure ChartSettings.InRange (settings : ChartSettings) : Prop where
  domainSize : (Quantity.int 1).le settings.domainSize = true
  sampleStep : (Quantity.int 1).le settings.sampleStep = true
  opacityLow : (Quantity.int 0).le settings.dimmedOpacity = true
  opacityHigh : settings.dimmedOpacity.le (.int 1) = true

namespace Configuration

variable {members : Keyed Json} {config : Configuration}

/-- A memory limit: a number that is not negative. -/
def IsLimit (value : Json) : Prop := ∃ q, value = .number q ∧ (Quantity.int 0).le q = true

/-- A configuration that a command can rely on: settings for charts that lie in their ranges, and a
memory limit. -/
structure IsValid (config : Configuration) : Prop where
  chart : ∃ settings, config.chart = .settings settings ∧ settings.InRange
  memoryLimit : IsLimit config.memoryLimit

/-- The memory limit that an object gives in one of its spellings, else the standard one. -/
def givenLimit (members : Keyed Json) : Json :=
  (shortOrFull "memory_limit" "memory_limit_bytes" members).getD (.int standardMemoryLimit)

/-- There is a value under `chart`, and it is no object. -/
structure HasOtherChart (members : Keyed Json) (value : Json) : Prop where
  lookup_eq : members.lookup "chart" = some value
  ne_object : ∀ chart, value ≠ .object chart

/-- Some setting of the chart is given under its flat key. -/
def HasFlatSetting (members : Keyed Json) : Prop :=
  ∃ field ∈ ChartSettings.fieldNames, field ∈ members.keys

instance (members : Keyed Json) : Decidable (HasFlatSetting members) :=
  inferInstanceAs (Decidable (∃ field ∈ ChartSettings.fieldNames, field ∈ members.keys))

/-- What is wrong with putting a setting into a value that is no object. -/
def placingProblem : Json → KindProblem
  | .list _ => .indexList
  | value => .assignItem value.kind

/-- The members with the two short keys in their places. -/
def renamed (members : Keyed Json) : Keyed Json :=
  rename "memory_limit" "memory_limit_bytes" (rename "language" "default_language" members)

/-- Renaming the short keys leaves all but their four keys alone. -/
theorem lookup_renamed_of_not_mem {key : String}
    (hkey : key ∉ ["language", "default_language", "memory_limit", "memory_limit_bytes"]) :
    (renamed members).lookup key = members.lookup key := by
  simp only [List.mem_cons, List.not_mem_nil, or_false, not_or] at hkey
  rw [renamed, lookup_rename (by decide), lookup_rename (by decide)]
  simp [hkey]

/-- An object has an object under `chart`, or nothing, unless it has another value there. -/
theorem not_hasChartObject_iff :
    ¬HasChartObject members ↔ ∃ value, HasOtherChart members value := by
  unfold HasChartObject
  push Not
  exact exists_congr fun value => ⟨fun ⟨hvalue, hother⟩ => ⟨hvalue, hother⟩,
    fun h => ⟨h.lookup_eq, h.ne_object⟩⟩

namespace HasOtherChart

variable {value : Json}

/-- A flat key fails beside a value under `chart` that is no object; a missing one moves nothing. -/
theorem moveIntoChart_eq {key : String} (h : HasOtherChart members value) (hkey : key ≠ "chart") :
    moveIntoChart key members =
      if key ∈ members.keys then .error (.kind (placingProblem value)) else .ok members := by
  unfold moveIntoChart
  cases hmoved : members.lookup key with
  | none => rw [if_neg (by simp [Keyed.mem_keys_iff, hmoved])]
  | some moved =>
    rw [if_pos (by simp [Keyed.mem_keys_iff, hmoved])]
    dsimp only
    rw [Keyed.lookup_remove_of_ne hkey.symm, h.lookup_eq, Option.getD_some]
    cases value with
    | object chart => exact absurd rfl (h.ne_object chart)
    | _ => rfl

/-- The first flat key that is to be moved fails, and if there is none the members stay. -/
theorem foldlM_moveIntoChart_eq {fields : List String} (h : HasOtherChart members value)
    (hfields : "chart" ∉ fields) :
    fields.foldlM (fun members key => moveIntoChart key members) members =
      if ∃ field ∈ fields, field ∈ members.keys then .error (.kind (placingProblem value))
      else .ok members := by
  induction fields with
  | nil => simp [pure, Except.pure]
  | cons key fields ih =>
    simp only [List.mem_cons, not_or] at hfields
    rw [List.foldlM_cons, h.moveIntoChart_eq (Ne.symm hfields.1)]
    by_cases hmem : key ∈ members.keys
    · rw [if_pos hmem, if_pos ⟨key, List.mem_cons_self, hmem⟩]
      rfl
    · -- Nothing is moved, so the next key meets the same members.
      rw [if_neg hmem]
      change fields.foldlM _ members = _
      simpa [hmem] using ih hfields.2

/-- Renaming the short keys leaves the value under `chart` alone. -/
theorem renamed (h : HasOtherChart members value) : HasOtherChart (renamed members) value :=
  ⟨(lookup_renamed_of_not_mem (by decide)).trans h.lookup_eq, h.ne_object⟩

/-- With a flat setting nothing is put in its place; without one only the short keys are. -/
theorem unflatten_eq (h : HasOtherChart members value) :
    unflatten members = if HasFlatSetting members
      then .error (.kind (placingProblem value)) else .ok (Configuration.renamed members) := by
  refine (h.renamed.foldlM_moveIntoChart_eq (by decide)).trans (if_congr ?_ rfl rfl)
  have hothers : ∀ field ∈ ChartSettings.fieldNames,
      field ∉ ["language", "default_language", "memory_limit", "memory_limit_bytes"] := by decide
  refine exists_congr fun field => and_congr_right fun hfield => ?_
  rw [Keyed.mem_keys_iff, Keyed.mem_keys_iff, lookup_renamed_of_not_mem (hothers field hfield)]

/-- The value becomes the chart of the configuration as it is. -/
theorem chartOf_eq (h : HasOtherChart members value) : chartOf members = .ok (.other value) := by
  unfold chartOf
  rw [h.lookup_eq]
  cases value with
  | object chart => exact absurd rfl (h.ne_object chart)
  | _ => rfl

/-- A value under `chart` that is no object becomes the chart of the configuration. -/
theorem of_ofMembers (hother : HasOtherChart members value) (h : ofMembers members = .ok config) :
    config.chart = .other value ∧ config.memoryLimit = givenLimit members := by
  obtain ⟨placed, hplaced, h⟩ := bind_eq_ok.mp h
  obtain ⟨entry, hentry, h⟩ := bind_eq_ok.mp h
  dsimp only at h
  split_ifs at h
  obtain rfl := Except.ok.inj h
  rw [hother.unflatten_eq] at hplaced
  split_ifs at hplaced
  obtain rfl := Except.ok.inj hplaced
  rw [hother.renamed.chartOf_eq] at hentry
  refine ⟨(Except.ok.inj hentry).symm, ?_⟩
  dsimp only [givenLimit]
  rw [Configuration.renamed, lookup_rename (by decide), if_neg (by decide), if_pos rfl]
  simp [shortOrFull, lookup_rename (by decide : "language" ≠ "default_language")]

end HasOtherChart

/-- The memory limit of a configuration is the one that its object gives, whatever that is. -/
theorem memoryLimit_of_ofMembers (h : ofMembers members = .ok config) :
    config.memoryLimit = givenLimit members := by
  by_cases hchart : HasChartObject members
  · obtain ⟨-, -, hmerges⟩ := (ofMembers_eq_ok_iff hchart).mp h
    exact hmerges.memoryLimit
  · obtain ⟨value, hother⟩ := not_hasChartObject_iff.mp hchart
    exact (hother.of_ofMembers h).2

/-- A configuration has settings for charts exactly if its object has no other value under
`chart`. -/
theorem hasChartObject_iff_of_ofMembers (h : ofMembers members = .ok config) :
    HasChartObject members ↔ ∃ settings, config.chart = .settings settings := by
  constructor
  · intro hchart
    obtain ⟨-, -, hmerges⟩ := (ofMembers_eq_ok_iff hchart).mp h
    obtain ⟨settings, hsettings, -⟩ := hmerges.chart
    exact ⟨settings, hsettings⟩
  · rintro ⟨settings, hsettings⟩
    by_contra hchart
    obtain ⟨value, hother⟩ := not_hasChartObject_iff.mp hchart
    rw [(hother.of_ofMembers h).1] at hsettings
    cases hsettings

/-- The settings of a configuration have the values that count in its object, which pass the
checks. -/
theorem hasValues_of_ofMembers {settings : ChartSettings} (h : ofMembers members = .ok config)
    (hsettings : config.chart = .settings settings) :
    ChartSettings.Allowed (effective members) ∧ settings.HasValues (effective members) := by
  have hchart := (hasChartObject_iff_of_ofMembers h).mpr ⟨settings, hsettings⟩
  obtain ⟨-, hallowed, hmerges⟩ := (ofMembers_eq_ok_iff hchart).mp h
  obtain ⟨found, hfound, hholds⟩ := hmerges.chart
  obtain rfl := ChartEntry.settings.inj (hsettings.symm.trans hfound)
  exact ⟨hallowed, hholds⟩

end Configuration

namespace ChartSettings

variable {settings : ChartSettings} {value : String → Json}

/-- Settings with allowed values lie in their ranges unless the size or the step is the undefined
double, and their opacity always does. -/
theorem Allowed.inRange_iff (hallowed : Allowed value) (h : settings.HasValues value) :
    (settings.InRange ↔ value "domain_size" ≠ .number (.float .undefined) ∧
      value "sample_step" ≠ .number (.float .undefined)) ∧
    (Quantity.int 0).le settings.dimmedOpacity = true ∧
      settings.dimmedOpacity.le (.int 1) = true := by
  obtain ⟨⟨size, hsize, hsizeLow⟩, ⟨step, hstep, hstepLow⟩, ⟨opacity, hopacity, hlow, hhigh⟩⟩ :=
    hallowed
  obtain ⟨hsize', hstep', hopacity'⟩ := h.numbers
  obtain rfl := Json.number.inj (hsize.symm.trans hsize')
  obtain rfl := Json.number.inj (hstep.symm.trans hstep')
  obtain rfl := Json.number.inj (hopacity.symm.trans hopacity')
  rw [hsize, hstep]
  refine ⟨⟨fun hrange => ⟨?_, ?_⟩, fun ⟨hsize, hstep⟩ => ⟨?_, ?_, hlow, hhigh⟩⟩, hlow, hhigh⟩
  · simpa using (Quantity.int_le_iff_of_not_lt hsizeLow).mp hrange.domainSize
  · simpa using (Quantity.int_le_iff_of_not_lt hstepLow).mp hrange.sampleStep
  · exact (Quantity.int_le_iff_of_not_lt hsizeLow).mpr (by simpa using hsize)
  · exact (Quantity.int_le_iff_of_not_lt hstepLow).mpr (by simpa using hstep)

end ChartSettings

/-- A memory limit that is asked for is not negative and counts; else the configured one does,
whatever it is. -/
theorem Options.memoryLimit_eq_ok_iff {asked : Option Int} {config : Configuration} {limit : Json} :
    memoryLimit asked config = .ok limit ↔
      match asked with
      | some n => 0 ≤ n ∧ limit = .int n
      | none => limit = config.memoryLimit := by
  cases asked with
  | none =>
    change Except.ok config.memoryLimit = .ok limit ↔ _
    simp [eq_comm]
  | some n =>
    have hlow : (Quantity.int n).lt (.int 0) = true ↔ n < 0 := by
      simp [Quantity.lt, Quantity.place?, Place.lt]
    unfold memoryLimit requireNonNegative
    simp only [Option.map_some]
    split_ifs with h
    · simp [bind, Except.bind, hlow.mp h]
    · have hn : 0 ≤ n := by
        rw [hlow] at h
        omega
      simp [bind, Except.bind, pure, Except.pure, hn, eq_comm]

namespace Configuration

/-- A configuration that an object describes is valid exactly if the object has no other value than
an object under `chart`, neither the size nor the step that count is the undefined double, and the
memory limit that counts is one. The opacity is always in its range. A command that asks for a
memory limit gets that one, which is not negative, and any other gets what the object gives. -/
theorem isValid_iff_of_ofJson {members : Keyed Json} {config : Configuration}
    (h : ofJson (.object members) = .ok config) :
    (config.IsValid ↔ HasChartObject members ∧
      effective members "domain_size" ≠ .number (.float .undefined) ∧
      effective members "sample_step" ≠ .number (.float .undefined) ∧
      IsLimit (givenLimit members)) ∧
    (∀ settings, config.chart = .settings settings →
      (Quantity.int 0).le settings.dimmedOpacity = true ∧
        settings.dimmedOpacity.le (.int 1) = true) ∧
    ∀ asked limit, Options.memoryLimit asked config = .ok limit ↔
      match asked with
      | some n => 0 ≤ n ∧ limit = .int n
      | none => limit = givenLimit members := by
  have hconfig : ofMembers members = .ok config := h
  have hlimit := memoryLimit_of_ofMembers hconfig
  refine ⟨⟨?_, ?_⟩, ?_, ?_⟩
  · rintro ⟨⟨settings, hsettings, hrange⟩, hvalid⟩
    obtain ⟨hallowed, hholds⟩ := hasValues_of_ofMembers hconfig hsettings
    obtain ⟨hsize, hstep⟩ := (hallowed.inRange_iff hholds).1.mp hrange
    exact ⟨(hasChartObject_iff_of_ofMembers hconfig).mpr ⟨settings, hsettings⟩, hsize, hstep,
      hlimit ▸ hvalid⟩
  · rintro ⟨hchart, hsize, hstep, hvalid⟩
    obtain ⟨settings, hsettings⟩ := (hasChartObject_iff_of_ofMembers hconfig).mp hchart
    obtain ⟨hallowed, hholds⟩ := hasValues_of_ofMembers hconfig hsettings
    exact ⟨⟨settings, hsettings, (hallowed.inRange_iff hholds).1.mpr ⟨hsize, hstep⟩⟩,
      hlimit ▸ hvalid⟩
  · intro settings hsettings
    obtain ⟨hallowed, hholds⟩ := hasValues_of_ofMembers hconfig hsettings
    exact (hallowed.inRange_iff hholds).2
  · intro asked limit
    rw [Options.memoryLimit_eq_ok_iff, hlimit]

/-- A nested step and a limit under its short key make a valid configuration. -/
theorem isValid_iff_of_ofJson_nested_step :
    ∃ config, ofJson (.object
        [("chart", .object [("sample_step", .int 3)]), ("memory_limit", .int 1024)]) =
          .ok config ∧ config.IsValid := by
  have hread : (ofJson (.object [("chart", .object [("sample_step", .int 3)]),
      ("memory_limit", .int 1024)])).isOk = true := by
    decide +kernel
  obtain ⟨config, hconfig⟩ := isOk_iff_exists.mp hread
  refine ⟨config, hconfig, (isValid_iff_of_ofJson hconfig).1.mpr ⟨?_, ?_, ?_, ?_⟩⟩
  · intro value hvalue
    exact ⟨_, (Option.some.inj hvalue).symm⟩
  · exact fun hundefined => nomatch hundefined
  · exact fun hundefined => nomatch hundefined
  · exact ⟨.int 1024, rfl, by decide +kernel⟩

/-- A negative memory limit becomes that of a configuration, and of every command that does not ask
for another one. -/
theorem exists_negative_memoryLimit :
    ∃ config, ofJson (.object [("memory_limit", .int (-5))]) = .ok config ∧
      Options.memoryLimit none config = .ok (.int (-5)) ∧ ¬config.IsValid := by
  have hread : (ofJson (.object [("memory_limit", .int (-5))])).isOk = true := by decide +kernel
  obtain ⟨config, hconfig⟩ := isOk_iff_exists.mp hread
  have hlimit : config.memoryLimit = .int (-5) := memoryLimit_of_ofMembers hconfig
  refine ⟨config, hconfig, congrArg Except.ok hlimit, fun hvalid => ?_⟩
  obtain ⟨q, hq, hlow⟩ := hvalid.memoryLimit
  obtain rfl := Json.number.inj (hlimit.symm.trans hq)
  exact absurd hlow (by decide +kernel)

end Configuration

end OrderOfGrowth

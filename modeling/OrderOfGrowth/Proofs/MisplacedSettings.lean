import OrderOfGrowth.Proofs.CheckedSettings

/-!
# How objects fail to be configurations

A value of the wrong kind inside the chart, a value out of its range and an unknown key make a
configuration invalid, and an invalid configuration is how an object fails. There is one gap: a
setting under its flat key is put into the value under `chart` before anything is checked, and if
that value is no object the failure is about its kind. This file says which objects are
configurations, which are invalid ones and which fall into the gap.
-/

namespace OrderOfGrowth

namespace Configuration

variable {members : Keyed Json} {value : Json}

/-- The short keys are renamed to known ones, so the same keys are unknown. -/
theorem renamed_known_iff (hflat : ¬HasFlatSetting members) :
    (∀ key ∈ (renamed members).keys, key ∈ fieldNames) ↔
      ∀ key ∈ members.keys, key ∈ flatKeys ∨ key ∈ fieldNames := by
  refine forall_congr' fun key => ?_
  by_cases hknown : key ∈ fieldNames
  · simp [hknown]
  -- A short key is gone after the renaming, but it counts as a flat one; other keys stay.
  by_cases hshort : key = "language" ∨ key = "memory_limit"
  · have hgone : (renamed members).lookup key = none := by
      rw [renamed, lookup_rename (by decide), lookup_rename (by decide)]
      rcases hshort with rfl | rfl <;> simp
    have hmem : key ∈ flatKeys := by
      rcases hshort with rfl | rfl <;> decide
    simp [Keyed.mem_keys_iff, hgone, hmem]
  · have hsame : (renamed members).lookup key = members.lookup key := by
      refine lookup_renamed_of_not_mem fun hmem => ?_
      simp only [fieldNames, List.mem_cons, List.not_mem_nil, or_false, not_or] at hknown hmem
      tauto
    rw [Keyed.mem_keys_iff, Keyed.mem_keys_iff, hsame]
    refine imp_congr_right fun hgiven => ?_
    have hnotFlat : key ∉ flatKeys := by
      intro hmem
      simp only [flatKeys, List.mem_append, List.mem_cons, List.not_mem_nil, or_false] at hmem
      rcases hmem with hmem | hmem
      · exact hshort hmem
      · exact hflat ⟨key, hmem, Keyed.mem_keys_iff.mpr hgiven⟩
    simp [hknown, hnotFlat]

/-- An object with a value under `chart` that is no object: it is a configuration or an invalid one
without flat settings, and has a value of the wrong kind with them. -/
theorem HasOtherChart.ofMembers_cases (h : HasOtherChart members value) :
    (HasFlatSetting members → ofMembers members = .error (.kind (placingProblem value))) ∧
    (¬HasFlatSetting members → IsKnown members → ∃ config, ofMembers members = .ok config) ∧
    (¬HasFlatSetting members → ¬IsKnown members →
      ∃ problem, ofMembers members = .error (.configuration problem)) := by
  have hknown (hflat : ¬HasFlatSetting members) :
      (unknownKeys (Configuration.renamed members).keys).isEmpty = true ↔ IsKnown members := by
    have hnested : nested members = [] := by
      unfold nested
      rw [h.lookup_eq]
      cases value with
      | object chart => exact absurd rfl (h.ne_object chart)
      | _ => rfl
    rw [isEmpty_unknownKeys_iff, renamed_known_iff hflat, IsKnown, hnested]
    simp [Keyed.keys]
  refine ⟨fun hflat => ?_, fun hflat hmembers => ?_, fun hflat hmembers => ?_⟩
  · rw [ofMembers, h.unflatten_eq, if_pos hflat]
    rfl
  · rw [ofMembers, h.unflatten_eq, if_neg hflat]
    simp only [bind, Except.bind, h.renamed.chartOf_eq, if_pos ((hknown hflat).mpr hmembers)]
    exact ⟨_, rfl⟩
  · rw [ofMembers, h.unflatten_eq, if_neg hflat]
    simp only [bind, Except.bind, h.renamed.chartOf_eq, if_neg (mt (hknown hflat).mp hmembers)]
    exact ⟨_, rfl⟩

/-- The objects that fail otherwise than as invalid configurations: they give a setting of the chart
under its flat key beside a value under `chart` that is no object. -/
def IsMisplaced (members : Keyed Json) : Prop := HasFlatSetting members ∧ ¬HasChartObject members

/-- An object whose value under `chart`, if there is one, is an object is a configuration exactly if
its keys are known and its values allowed. -/
theorem exists_ofMembers_iff (hchart : HasChartObject members) :
    (∃ config, ofMembers members = .ok config) ↔
      IsKnown members ∧ ChartSettings.Allowed (effective members) := by
  constructor
  · rintro ⟨config, hconfig⟩
    obtain ⟨hknown, hallowed, -⟩ := (ofMembers_eq_ok_iff hchart).mp hconfig
    exact ⟨hknown, hallowed⟩
  · rintro ⟨hknown, hallowed⟩
    obtain ⟨settings, hholds⟩ := hallowed.exists_hasValues
    have hmerges : Merges members ⟨_, _, .settings settings, _⟩ :=
      ⟨rfl, rfl, rfl, settings, rfl, hholds⟩
    exact ⟨_, (ofMembers_eq_ok_iff hchart).mpr ⟨hknown, hallowed, hmerges⟩⟩

/-- A number of an object is quoted by a message but has too many digits for it. -/
def IsTooLong (members : Keyed Json) : Prop :=
  (Json.object members).isWritable = false ∧
    ofJson (.object members) = .error (.arithmetic .tooLongInteger)

/-- An object that does not give a flat setting beside a value under `chart` that is no object is a
configuration if its keys are known and, unless that value is no object, its values allowed, and
otherwise an invalid configuration, or one of its numbers is too long. -/
theorem ofMembers_of_not_misplaced (h : ¬IsMisplaced members) :
    ((∃ config, ofMembers members = .ok config) ↔
      IsKnown members ∧ (HasChartObject members → ChartSettings.Allowed (effective members))) ∧
    ((∃ config, ofMembers members = .ok config) ∨
      (∃ problem, ofMembers members = .error (.configuration problem)) ∨ IsTooLong members) := by
  by_cases hchart : HasChartObject members
  · rw [exists_ofMembers_iff hchart]
    refine ⟨by simp [hchart], ?_⟩
    rw [← exists_ofMembers_iff hchart]
    cases hresult : ofMembers members with
    | ok config => exact .inl ⟨config, rfl⟩
    | error failure =>
      refine .inr ((problem_or_long_of_ofMembers hchart hresult).imp ?_ ?_)
      · rintro ⟨problem, rfl⟩
        exact ⟨problem, rfl⟩
      · rintro ⟨hlong, rfl⟩
        exact ⟨hlong, hresult⟩
  · have hflat : ¬HasFlatSetting members := fun hflat => h ⟨hflat, hchart⟩
    obtain ⟨value, hother⟩ := not_hasChartObject_iff.mp hchart
    obtain ⟨-, hvalid, hinvalid⟩ := hother.ofMembers_cases
    by_cases hknown : IsKnown members
    · have hconfig := hvalid hflat hknown
      exact ⟨by simp [hchart, hknown, hconfig], .inl hconfig⟩
    · obtain ⟨problem, hproblem⟩ := hinvalid hflat hknown
      refine ⟨?_, .inr (.inl ⟨problem, hproblem⟩)⟩
      simp [hknown, hproblem]

/-- An object that gives a flat setting beside a value under `chart` that is no object has a value
of the wrong kind there. -/
theorem ofMembers_of_misplaced (h : IsMisplaced members) :
    ∃ value, members.lookup "chart" = some value ∧
      ofMembers members = .error (.kind (placingProblem value)) := by
  obtain ⟨hflat, hchart⟩ := h
  obtain ⟨value, hother⟩ := not_hasChartObject_iff.mp hchart
  exact ⟨value, hother.lookup_eq, hother.ofMembers_cases.1 hflat⟩

/-- An object is a configuration or an invalid one exactly if it does not give a flat setting beside
a value under `chart` that is no object; if it does, the failure is that a member cannot be put
into that value. Of the other objects those are configurations that have known keys and, unless
the value under `chart` is no object, allowed values. Only an object that is not read from a text
can have a number that is too long for the message about it. -/
theorem ofJson_valid_or_invalid_iff (members : Keyed Json) :
    ((∃ config, ofJson (.object members) = .ok config) ∨
      (∃ problem, ofJson (.object members) = .error (.configuration problem)) ∨
        IsTooLong members ↔ ¬IsMisplaced members) ∧
    (∀ levels text, Json.read levels text = .ok (.object members) → ¬IsTooLong members) ∧
    (IsMisplaced members → ∃ value, members.lookup "chart" = some value ∧
      ofJson (.object members) = .error (.kind (placingProblem value))) ∧
    ((∃ config, ofJson (.object members) = .ok config) ↔
      ¬IsMisplaced members ∧ IsKnown members ∧
        (HasChartObject members → ChartSettings.Allowed (effective members))) := by
  change ((∃ config, ofMembers members = .ok config) ∨
    (∃ problem, ofMembers members = .error (.configuration problem)) ∨ IsTooLong members ↔ _) ∧ _ ∧
    (_ → ∃ value, _ ∧ ofMembers members = _) ∧ ((∃ config, ofMembers members = .ok config) ↔ _)
  have hshort (levels : ℕ) (text : List Char)
      (hread : Json.read levels text = .ok (.object members)) : ¬IsTooLong members := by
    rintro ⟨hlong, -⟩
    rw [Json.isWritable_of_read hread] at hlong
    cases hlong
  by_cases hmisplaced : IsMisplaced members
  · obtain ⟨value, hvalue, hfailure⟩ := ofMembers_of_misplaced hmisplaced
    refine ⟨?_, hshort, fun _ => ⟨value, hvalue, hfailure⟩, ?_⟩
    · have hother : ¬IsTooLong members := fun htoo => by cases hfailure.symm.trans htoo.2
      simp [hfailure, hmisplaced, hother]
    · simp [hfailure, hmisplaced]
  · obtain ⟨hiff, hcases⟩ := ofMembers_of_not_misplaced hmisplaced
    refine ⟨iff_of_true hcases hmisplaced, hshort, fun h => absurd h hmisplaced, ?_⟩
    simpa [hmisplaced] using hiff

/-- A size beside a chart that is null is neither a configuration nor an invalid one. -/
theorem ofJson_size_beside_null :
    let members : Keyed Json := [("chart", .null), ("domain_size", .int 5)]
    ofJson (.object members) = .error (.kind (.assignItem "NoneType")) ∧
      (¬∃ config, ofJson (.object members) = .ok config) ∧
      ¬∃ problem, ofJson (.object members) = .error (.configuration problem) := by
  intro members
  have hfailure : ofJson (.object members) = .error (.kind (.assignItem "NoneType")) := rfl
  exact ⟨hfailure, by simp [hfailure], by simp [hfailure]⟩

end Configuration

end OrderOfGrowth

import OrderOfGrowth.Proofs.JsonText
import OrderOfGrowth.Proofs.SourceRoutes

/-!
# Machine-readable output is a document

What `analyze` prints for a machine is the payload, one member a line. It is a document in the
standard grammar of JSON, and one for no other value, exactly if the running time is missing or
finite. The check of the running time lets an infinite and an undefined one pass, for neither is
below zero, and the grammar has no text for them.
-/

namespace OrderOfGrowth

/-- A measurement that passes its check is not changed. -/
theorem requireNonNegative_eq_ok {name : String} {value found : Option Quantity}
    (h : requireNonNegative name value = .ok found) : found = value := by
  unfold requireNonNegative at h
  split at h
  · split_ifs at h
    exact (Except.ok.inj h).symm
  · exact (Except.ok.inj h).symm

namespace Command

variable {around : Surroundings} {session after : Session}

/-- Measurements that pass carry the running time that is given and a whole amount of memory. -/
theorem quantities_of_measure {options : Options} {subject : Subject} {measured : Measurements}
    (h : measure options subject around session = (.ok measured, after)) :
    measured.runtime = subject.runtime.map .float ∧
      ∃ memory : Option ℤ, measured.memory = memory.map .int := by
  obtain ⟨runtime, _, hruntime, h⟩ := Action.bind_eq_ok_iff.mp h
  obtain ⟨memory, _, -, h⟩ := Action.bind_eq_ok_iff.mp h
  obtain ⟨_, _, -, h⟩ := Action.bind_eq_ok_iff.mp h
  obtain ⟨rfl, -⟩ := Action.pure_eq_ok_iff.mp h
  exact ⟨requireNonNegative_eq_ok (Action.lift_eq_ok_iff.mp hruntime).1, memory, rfl⟩

/-- Setting a command up prints nothing. -/
theorem output_prepare {setup : Setup} {language : Option String} {options : Options}
    (h : prepare setup language around session = (.ok options, after)) :
    after.output = session.output := by
  obtain ⟨begun, hbegun, hsame⟩ := samePrinted_frame.resolve h
  exact hsame.trans (Action.output_configureLogging hbegun)

/-- A successful run of `analyze` for a machine prints the text for the source that it reads once
the measurements have been checked. -/
theorem run_prints_machineText {arguments : List String} {setup : Setup} {request : AnalyzeRequest}
    (hread : Request.read arguments = some (.analyze setup request))
    (hjson : request.asJson = true) (hrun : run arguments around session = (0, after)) :
    ∃ options begun measured checked source,
      prepare setup request.subject.language around session = (.ok options, begun) ∧
        measure options request.subject around begun = (.ok measured, checked) ∧
        (Source.read request.subject.source around checked).1 = .ok source ∧
        after.output = session.output ++ machineText measured request.detailed source := by
  have hperform := perform_of_run_eq_zero hread hrun
  obtain ⟨options, begun, hbegun, htimed⟩ := Action.bind_eq_ok_iff.mp hperform
  have hshown : Action.shown (Action.timed "analyze_command" options.language
      (analyze options request) around begun) = some after.output := by
    rw [← Action.shown_bind_pure _ (), htimed]
    rfl
  rw [Action.shown_timed, shown_analyze hjson, Action.ignoresFields_measure] at hshown
  cases hmeasure : measure options request.subject around begun with
  | mk outcome checked =>
    rw [hmeasure] at hshown
    cases outcome with
    | error failure => cases hshown
    | ok measured =>
      dsimp only at hshown
      rw [Action.ignoresFields_read] at hshown
      cases hsource : (Source.read request.subject.source around checked).1 with
      | error failure =>
        rw [hsource] at hshown
        cases hshown
      | ok source =>
        rw [hsource] at hshown
        dsimp only at hshown
        rw [Action.shown_print] at hshown
        split_ifs at hshown
        refine ⟨options, begun, measured, checked, source, hbegun, hmeasure, hsource, ?_⟩
        rw [← output_prepare hbegun]
        exact (Option.some.inj hshown).symm

/-- The names of the members of the payload are different. -/
theorem nodup_payload (report : ScanReport) (estimate : Estimate) (measured : Measurements)
    (detailed : Bool) :
    ((payload report estimate measured detailed).map Prod.fst).Nodup := by
  unfold payload
  cases detailed <;> simp

/-- No value of the payload has an inner structure. -/
theorem isPlain_payload {report : ScanReport} {estimate : Estimate} {measured : Measurements}
    {detailed : Bool} :
    ∀ member ∈ payload report estimate measured detailed, member.2.IsPlain := by
  have hoption (q : Option Quantity) : (Json.ofOption q).IsPlain := by
    cases q with
    | none => exact Json.isPlain_null
    | some q => exact Json.isPlain_number q
  unfold payload
  cases detailed <;> simp [hoption, Json.int, Json.bool]

/-- No value of the payload is an infinite or undefined number but the running time. -/
theorem hasText_payload_iff {report : ScanReport} {c : ComplexityClass} {measured : Measurements}
    {runtime : Option Binary64} {memory : Option ℤ} {detailed : Bool}
    (hruntime : measured.runtime = runtime.map .float)
    (hmemory : measured.memory = memory.map .int) :
    (∀ member ∈ payload report (.ofClass c) measured detailed, member.2.HasText) ↔
      ∀ x ∈ runtime, x.isFinite = true := by
  have hlevel : (Json.number (Estimate.ofClass c).level).HasText := by
    cases c <;> trivial
  have htime : (Json.ofOption (runtime.map .float)).HasText ↔ ∀ x ∈ runtime, x.isFinite = true := by
    cases runtime with
    | none => simp [Json.ofOption]
    | some x => simp [Json.ofOption]
  have hbytes : (Json.ofOption (memory.map .int)).HasText := by
    cases memory with
    | none => exact Json.hasText_null
    | some n => exact Json.hasText_int n
  unfold payload
  rw [hruntime, hmemory]
  cases detailed <;> simp [hlevel, htime, hbytes, Json.int, Json.bool]

/-- The text for a machine is a document for the payload if the running time is missing or finite,
and for no value else. -/
theorem isDocument_machineText_iff {measured : Measurements} {runtime : Option Binary64}
    {memory : Option ℤ} {detailed : Bool} {source : String} {value : Json}
    (hruntime : measured.runtime = runtime.map .float)
    (hmemory : measured.memory = memory.map .int) :
    Json.IsDocument (machineText measured detailed source) value ↔
      (∀ x ∈ runtime, x.isFinite = true) ∧
        value = .object (payload (Analysis.findings measured.language source).1
          (Analysis.findings measured.language source).2 measured detailed) := by
  have hmembers : payload (Analysis.findings measured.language source).1
      (Analysis.findings measured.language source).2 measured detailed ≠ [] :=
    List.cons_ne_nil _ _
  exact (Json.isDocument_writeLines_iff hmembers isPlain_payload).trans
    (and_congr_left' (hasText_payload_iff hruntime hmemory))

/-- A successful run of `analyze` for a machine prints a text that is a document exactly if the
running time that it is given is missing or finite. The document then stands for one value alone,
the payload for the source that is read, in which no name occurs twice. -/
theorem run_analyze_prints_document_iff {arguments : List String} {setup : Setup}
    {request : AnalyzeRequest} (hread : Request.read arguments = some (.analyze setup request))
    (hjson : request.asJson = true) (hrun : run arguments around session = (0, after)) :
    ∃ options begun measured checked source printed,
      let report := standardSigns.scan (some source) (some measured.language)
      let estimate := standardSigns.classify (some source) (some measured.language)
      let members := payload report estimate measured request.detailed
      prepare setup request.subject.language around session = (.ok options, begun) ∧
        measure options request.subject around begun = (.ok measured, checked) ∧
        (Source.read request.subject.source around checked).1 = .ok source ∧
        after.output = session.output ++ printed ∧
        (members.map Prod.fst).Nodup ∧
        ∀ value, Json.IsDocument printed value ↔
          (∀ x ∈ request.subject.runtime, x.isFinite = true) ∧ value = .object members := by
  obtain ⟨options, begun, measured, checked, source, hbegun, hmeasured, hsource, houtput⟩ :=
    run_prints_machineText hread hjson hrun
  obtain ⟨hruntime, memory, hmemory⟩ := quantities_of_measure hmeasured
  exact ⟨options, begun, measured, checked, source, _, hbegun, hmeasured, hsource, houtput,
    nodup_payload _ _ _ _, fun value => isDocument_machineText_iff hruntime hmemory⟩

/-- One tenth is no binary fraction, and the document still stands for the double nearest to it. -/
theorem run_analyze_prints_document_iff_tenth :
    let arguments := ["analyze", "a.py", "--json", "--detailed", "--runtime", "0.1"]
    let around : Surroundings := .usual
    let session : Session := .start
      ⟨[(["work"], .directory), (["work", "a.py"], .file (Text.utf8 "for a\n".toList))]⟩ []
    (run arguments around session).1 = 0 ∧
      ∃ members, ("runtime_ms", .number (.float (.ofQuotient false 1 10))) ∈ members ∧
        ∀ value, Json.IsDocument (run arguments around session).2.output value ↔
          value = .object members := by
  intro arguments around session
  have hexit : (run arguments around session).1 = 0 := by decide +kernel
  have hread : Request.read arguments = some (.analyze ⟨none, false, false, none⟩
      ⟨⟨"a.py", none, some (.ofQuotient false 1 10), none, none, none⟩, true, true⟩) := rfl
  obtain ⟨after, hrun⟩ : ∃ after, run arguments around session = (0, after) :=
    ⟨_, eq_mk_of_fst_eq hexit⟩
  obtain ⟨_, _, measured, _, _, printed, -, hmeasured, -, houtput, -, hdocument⟩ :=
    run_analyze_prints_document_iff hread rfl hrun
  obtain ⟨hruntime, -⟩ := quantities_of_measure hmeasured
  have hprinted : after.output = printed := houtput
  have hfinite : ∀ x ∈ some (Binary64.ofQuotient false 1 10), x.isFinite = true := by
    rintro _ ⟨⟩
    decide +kernel
  rw [hrun, hprinted]
  refine ⟨rfl, _, ?_, fun value => (hdocument value).trans (and_iff_right hfinite)⟩
  simp [payload, hruntime, Json.ofOption]

/-- An undefined running time is not below zero, but there is no document for it. -/
theorem exists_output_no_document :
    let arguments := ["analyze", "a.js", "--json", "--runtime", "nan"]
    let around : Surroundings := .usual
    let session : Session := .start
      ⟨[(["work"], .directory), (["work", "a.js"], .file (Text.utf8 "x\n".toList))]⟩ []
    (run arguments around session).1 = 0 ∧
      ∀ value, ¬Json.IsDocument (run arguments around session).2.output value := by
  intro arguments around session
  have hexit : (run arguments around session).1 = 0 := by decide +kernel
  have hread : Request.read arguments = some (.analyze ⟨none, false, false, none⟩
      ⟨⟨"a.js", none, some .undefined, none, none, none⟩, false, true⟩) := rfl
  obtain ⟨after, hrun⟩ : ∃ after, run arguments around session = (0, after) :=
    ⟨_, eq_mk_of_fst_eq hexit⟩
  obtain ⟨_, _, measured, _, source, -, hmeasured, -, houtput⟩ :=
    run_prints_machineText hread rfl hrun
  obtain ⟨hruntime, memory, hmemory⟩ := quantities_of_measure hmeasured
  have hprinted : after.output = machineText measured false source := houtput
  rw [hrun]
  refine ⟨rfl, fun value hdocument => ?_⟩
  rw [hprinted, isDocument_machineText_iff hruntime hmemory] at hdocument
  exact absurd (hdocument.1 .undefined rfl) (by decide)

end Command

end OrderOfGrowth

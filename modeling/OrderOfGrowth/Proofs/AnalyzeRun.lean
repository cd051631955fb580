import OrderOfGrowth.Proofs.Effects
import OrderOfGrowth.Proofs.Encoding
import OrderOfGrowth.Proofs.TableLookup

/-!
# What the command for estimates prints

A run of `analyze` reads its configuration, chooses a language, checks the measurements, reads
the source and prints. Without a log file nothing before the printing touches the files or the
output, so all that is read is read from the files the run began with. This file follows a
successful run from its command line to its output.
-/

namespace OrderOfGrowth

/-- Without a log file there is still none, and neither the files nor the output have changed. -/
def Session.Undisturbed (before after : Session) : Prop :=
  before.logFile = none →
    after.logFile = none ∧ after.files = before.files ∧ after.output = before.output

/-- Nothing that happens before a command prints or writes disturbs a session. -/
theorem Session.undisturbed_frame : Session.Frame Session.Undisturbed where
  refl _ hlog := ⟨hlog, rfl, rfl⟩
  trans hfirst hsecond hlog := by
    obtain ⟨hlog', hfiles, houtput⟩ := hfirst hlog
    obtain ⟨hlog'', hfiles', houtput'⟩ := hsecond hlog'
    exact ⟨hlog'', hfiles'.trans hfiles, houtput'.trans houtput⟩
  fields _ _ hlog := ⟨hlog, rfl, rfl⟩
  input _ hlog := ⟨hlog, rfl, rfl⟩
  record around level message session hlog := by
    unfold Action.prepared Action.recorded Action.withLogLine
    by_cases hconsole : session.console.isNone
    · simp [hconsole]
    · simp [hconsole, hlog]

namespace Language

/-- The language that is asked for by name, else the configured one. Empty names count as
none. -/
def chosen (asked : Option String) (configured : Json) : Option Language :=
  if asked.getD "" ≠ "" then some (resolve (asked.getD ""))
  else
    match configured with
    | .string name => if name ≠ "" then some (resolve name) else none
    | _ => none

/-- The language that counts for a source: the chosen one, else that of the ending of its path,
else JavaScript. -/
def settled (asked : Option String) (configured : Json) (path : String) : Language :=
  (chosen asked configured).getD ((ofPath? path).getD .javascript)

/-- No language has the empty name. -/
theorem id_ne_empty (language : Language) : language.id ≠ "" := by
  cases language <;> decide

variable {around : Surroundings} {session after : Session}

/-- Resolving a name with a record gives the same language as without. -/
theorem resolveLogged_eq_ok {name : String} {language : Language}
    (h : resolveLogged name around session = (.ok language, after)) : language = resolve name := by
  unfold resolveLogged at h
  unfold resolve
  cases hname : ofName? name with
  | some known =>
    rw [hname] at h
    obtain ⟨rfl, -⟩ := Action.pure_eq_ok_iff.mp h
    rfl
  | none =>
    rw [hname] at h
    obtain ⟨_, _, -, hpure⟩ := Action.bind_eq_ok_iff.mp h
    obtain ⟨rfl, -⟩ := Action.pure_eq_ok_iff.mp hpure
    rfl

end Language

/-- A configuration is loaded from the files at hand. -/
theorem Configuration.load_eq_ok {around : Surroundings} {session after : Session}
    {given : Option String} {value : Json}
    (h : load given around session = (.ok value, after)) :
    search around session.files (candidates around given) = .ok value := by
  obtain ⟨_, _, ⟨⟩, h⟩ := Action.bind_eq_ok_iff.mp h
  obtain ⟨_, _, ⟨⟩, h⟩ := Action.bind_eq_ok_iff.mp h
  split_ifs at h
  · exact (Action.lift_eq_ok_iff.mp h).1
  · exact absurd h Action.fail_ne_ok

namespace Options

variable {around : Surroundings} {session after : Session}

/-- The language that is chosen counts what is asked for before what is configured. A configured
value that is given but no name makes the choice fail. -/
theorem chooseLanguage_eq_ok {asked : Option String} {config : Configuration}
    {language : Option Language}
    (h : chooseLanguage asked config around session = (.ok language, after)) :
    language = Language.chosen asked config.defaultLanguage := by
  unfold chooseLanguage at h
  unfold Language.chosen
  by_cases hasked : asked.getD "" ≠ ""
  · rw [if_pos hasked] at h ⊢
    obtain ⟨_, _, -, h⟩ := Action.bind_eq_ok_iff.mp h
    obtain ⟨found, _, hfound, hpure⟩ := Action.bind_eq_ok_iff.mp h
    obtain ⟨rfl, -⟩ := Action.pure_eq_ok_iff.mp hpure
    rw [Language.resolveLogged_eq_ok hfound]
  rw [if_neg hasked] at h ⊢
  by_cases hgiven : config.defaultLanguage.isGiven = true
  · rw [if_pos hgiven] at h
    obtain ⟨_, _, -, h⟩ := Action.bind_eq_ok_iff.mp h
    cases hconfigured : config.defaultLanguage with
    | string name =>
      rw [hconfigured] at h hgiven
      have hname : name ≠ "" := by
        rintro rfl
        simp [Json.isGiven] at hgiven
      obtain ⟨found, _, hfound, hpure⟩ := Action.bind_eq_ok_iff.mp h
      obtain ⟨rfl, -⟩ := Action.pure_eq_ok_iff.mp hpure
      rw [Language.resolveLogged_eq_ok hfound]
      exact (if_pos hname).symm
    | _ =>
      rw [hconfigured] at h
      exact absurd h Action.fail_ne_ok
  · rw [if_neg hgiven] at h
    obtain ⟨rfl, -⟩ := Action.pure_eq_ok_iff.mp h
    cases hconfigured : config.defaultLanguage with
    | string name =>
      rw [hconfigured] at hgiven
      have hname : ¬ name ≠ "" := by
        intro hne
        simp [Json.isGiven, hne] at hgiven
      exact (if_neg hname).symm
    | _ => rfl

/-- Options that can be made without a log file come from the configuration that the files at hand
hold, and making them writes nothing. -/
theorem resolve_eq_ok {language config : Option String} {debug verbose : Bool}
    {logFile : Option String} {options : Options} (hlog : logFile.getD "" = "")
    (h : resolve language config debug verbose logFile around session = (.ok options, after)) :
    ∃ value configured,
      Configuration.search around session.files (Configuration.candidates around config) =
        .ok value ∧
      Configuration.ofJson value = .ok configured ∧
      options.language = (Language.chosen language configured.defaultLanguage).map Language.id ∧
      after.logFile = none ∧ after.files = session.files ∧ after.output = session.output := by
  obtain ⟨_, begun, hbegun, h⟩ := Action.bind_eq_ok_iff.mp h
  rw [Action.configureLogging_eq hlog] at hbegun
  obtain ⟨-, rfl⟩ := Prod.mk.inj hbegun
  obtain ⟨_, logged, hlogged, h⟩ := Action.bind_eq_ok_iff.mp h
  obtain ⟨value, loaded, hloaded, h⟩ := Action.bind_eq_ok_iff.mp h
  obtain ⟨configured, _, hread, h⟩ := Action.bind_eq_ok_iff.mp h
  obtain ⟨hconfigured, rfl⟩ := Action.lift_eq_ok_iff.mp hread
  obtain ⟨chosen, settled, hchosen, h⟩ := Action.bind_eq_ok_iff.mp h
  obtain ⟨_, ended, hended, h⟩ := Action.bind_eq_ok_iff.mp h
  obtain ⟨rfl, rfl⟩ := Action.pure_eq_ok_iff.mp h
  have hframe := Session.undisturbed_frame
  obtain ⟨hlog₁, hfiles₁, houtput₁⟩ := (hframe.log _ _ _).of_eq hlogged rfl
  obtain ⟨hlog₂, hfiles₂, houtput₂⟩ := (hframe.load config).of_eq hloaded hlog₁
  obtain ⟨hlog₃, hfiles₃, houtput₃⟩ := (hframe.chooseLanguage _ _).of_eq hchosen hlog₂
  obtain ⟨hlog₄, hfiles₄, houtput₄⟩ := (hframe.log _ _ _).of_eq hended hlog₃
  have hsearch := Configuration.load_eq_ok hloaded
  have hlanguage := chooseLanguage_eq_ok hchosen
  rw [hfiles₁] at hsearch
  refine ⟨value, configured, hsearch, hconfigured, ?_, hlog₄, ?_, ?_⟩
  · rw [hlanguage]
    cases debug <;> rfl
  · rw [hfiles₄, hfiles₃, hfiles₂, hfiles₁]
  · rw [houtput₄, houtput₃, houtput₂, houtput₁]

/-- The language for the source file at a path is the settled one. -/
theorem languageFor_chosen {asked : Option String} {configured : Json} {path : String}
    (hpath : path ≠ inputPath) :
    languageFor ((Language.chosen asked configured).map Language.id) path =
      (Language.settled asked configured path).id := by
  unfold languageFor Language.settled
  cases Language.chosen asked configured with
  | some language => exact if_pos (Language.id_ne_empty language)
  | none =>
    rw [if_neg hpath]
    rfl

end Options

/-- A stored text is the text that its bytes encode, with unified line ends. -/
theorem textOfBytes_eq_ok_iff {bytes : List UInt8} {stored : String} :
    textOfBytes bytes = .ok stored ↔
      ∃ text, Text.utf8 text = bytes ∧ String.ofList (Text.unifyNewlines text) = stored := by
  unfold textOfBytes
  constructor
  · intro h
    cases hdecoded : Text.decode bytes with
    | error problem =>
      rw [hdecoded] at h
      cases h
    | ok text =>
      rw [hdecoded] at h
      exact ⟨text, Text.decode_eq_ok_iff.mp hdecoded, Except.ok.inj h⟩
  · rintro ⟨text, hbytes, rfl⟩
    rw [Text.decode_eq_ok_iff.mpr hbytes]
    rfl

/-- The text of a source file is the text that its bytes encode, with unified line ends. -/
theorem Source.ofFile_eq_ok {tree : FileTree} {current : Standpoint} {path source : String}
    (h : ofFile tree current path = .ok source) :
    ∃ text, tree.read current (Path.ofText path).text = .ok (Text.utf8 text) ∧
      source = String.ofList (Text.unifyNewlines text) := by
  unfold ofFile at h
  cases hread : tree.read current (Path.ofText path).text with
  | error problem =>
    rw [hread] at h
    cases problem <;> cases h
  | ok bytes =>
    rw [hread] at h
    dsimp only at h
    cases htext : textOfBytes bytes with
    | error problem =>
      rw [htext] at h
      cases h
    | ok found =>
      rw [htext] at h
      obtain rfl := Except.ok.inj h
      obtain ⟨text, rfl, rfl⟩ := textOfBytes_eq_ok_iff.mp htext
      exact ⟨text, rfl, rfl⟩

/-- Examining a source file gives the estimate for its text, under the name of the entry whose
signs were used. -/
theorem Analysis.examine_eq_ok {around : Surroundings} {session after : Session}
    {language path : String} {report : ScanReport} {estimate : Estimate} (hpath : path ≠ inputPath)
    (h : examine language path around session = (.ok (report, estimate), after)) :
    ∃ text, session.files.read around.current (Path.ofText path).text = .ok (Text.utf8 text) ∧
      estimate = standardSigns.classify (some (String.ofList (Text.unifyNewlines text)))
        (some language) ∧
      report.language = standardSigns.resolve (some language) := by
  obtain ⟨source, hsource, rfl, rfl⟩ := read_of_examine h
  rw [Action.read_eq_ofFile hpath] at hsource
  dsimp only at hsource
  obtain ⟨text, hread, rfl⟩ := Source.ofFile_eq_ok hsource
  exact ⟨text, hread, rfl, standardSigns.language_scan _ _⟩

namespace Command

variable {around : Surroundings} {session after : Session}

/-- Measurements that pass carry the language of their subject. -/
theorem measure_eq_ok {options : Options} {subject : Subject} {measured : Measurements}
    (h : measure options subject around session = (.ok measured, after)) :
    measured.language = Options.languageFor options.language subject.source := by
  obtain ⟨_, _, -, h⟩ := Action.bind_eq_ok_iff.mp h
  obtain ⟨_, _, -, h⟩ := Action.bind_eq_ok_iff.mp h
  obtain ⟨_, _, -, h⟩ := Action.bind_eq_ok_iff.mp h
  obtain ⟨rfl, -⟩ := Action.pure_eq_ok_iff.mp h
  rfl

/-- Machine-readable output of the command is the payload for the estimate of the text of the
source file, which is read from the files at hand. -/
theorem analyze_eq_ok {options : Options} {request : AnalyzeRequest}
    (hjson : request.asJson = true) (hfile : request.subject.source ≠ inputPath)
    (hlog : session.logFile = none) {found : Estimate}
    (h : analyze options request around session = (.ok found, after)) :
    ∃ text report measured,
      let language := Options.languageFor options.language request.subject.source
      let estimate := standardSigns.classify
        (some (String.ofList (Text.unifyNewlines text))) (some language)
      session.files.read around.current (Path.ofText request.subject.source).text =
        .ok (Text.utf8 text) ∧
      report.language = standardSigns.resolve (some language) ∧
      after.output = session.output ++
        (Json.writeLines (payload report estimate measured request.detailed) ++ ['\n']) := by
  obtain ⟨measured, checked, hmeasured, h⟩ := Action.bind_eq_ok_iff.mp h
  obtain ⟨⟨report, estimate⟩, examined, hexamined, h⟩ := Action.bind_eq_ok_iff.mp h
  dsimp only at h
  rw [if_pos hjson] at h
  obtain ⟨_, printed, hprinted, h⟩ := Action.bind_eq_ok_iff.mp h
  obtain ⟨-, rfl⟩ := Action.print_eq_ok_iff.mp hprinted
  obtain ⟨-, rfl⟩ := Action.pure_eq_ok_iff.mp h
  have hframe := Session.undisturbed_frame
  obtain ⟨hlog₁, hfiles₁, houtput₁⟩ := (hframe.measure _ _).of_eq hmeasured hlog
  obtain ⟨-, -, houtput₂⟩ := (hframe.examine _ _).of_eq hexamined hlog₁
  obtain ⟨text, hread, rfl, hreport⟩ := Analysis.examine_eq_ok hfile hexamined
  rw [hfiles₁] at hread
  rw [measure_eq_ok hmeasured] at hreport ⊢
  exact ⟨text, report, measured, hread, hreport, by rw [houtput₂, houtput₁]⟩

/-- A run that ends with the exit code 0 has done what was asked for. -/
theorem perform_of_run_eq_zero {arguments : List String} {request : Request}
    (hread : Request.read arguments = some request)
    (hrun : run arguments around session = (0, after)) :
    perform request around session = (.ok (), after) := by
  unfold run at hrun
  rw [hread] at hrun
  dsimp only at hrun
  cases hanswer : answer request around session with
  | mk outcome ended =>
    rw [hanswer] at hrun
    cases outcome with
    | error failure => cases hrun
    | ok code =>
      obtain ⟨rfl, rfl⟩ := Prod.mk.inj hrun
      obtain ⟨performed, between, hattempt, hanswer⟩ := Action.bind_eq_ok_iff.mp hanswer
      have hperform := Action.attempt_eq_ok_iff.mp hattempt
      cases performed with
      | ok _ =>
        obtain ⟨-, rfl⟩ := Action.pure_eq_ok_iff.mp hanswer
        exact hperform
      | error cause =>
        obtain ⟨_, _, -, hanswer⟩ := Action.bind_eq_ok_iff.mp hanswer
        exact absurd (Action.pure_eq_ok_iff.mp hanswer).1 (by decide)

/-- The estimate as the first members of the machine-readable result. -/
def estimateMembers (estimate : Estimate) (language : String) : List (String × Json) :=
  [("complexity", .string estimate.complexity.label),
   ("level", .number estimate.level),
   ("description", .string estimate.description),
   ("language", .string language)]

/-- The payload begins with the estimate, and no later member has one of its names. -/
theorem payload_eq_estimateMembers (report : ScanReport) (estimate : Estimate)
    (measured : Measurements) (detailed : Bool) :
    ∃ others, payload report estimate measured detailed =
        estimateMembers estimate report.language ++ others ∧
      ∀ name ∈ others.map Prod.fst,
        name ∉ (estimateMembers estimate report.language).map Prod.fst := by
  unfold payload estimateMembers
  refine ⟨("runtime_ms", .ofOption measured.runtime) ::
    ("memory_bytes", .ofOption measured.memory) :: _, rfl, ?_⟩
  cases detailed <;> simp

/-- A successful run of `analyze` on a file, with any options but a log file, prints the estimate
for the text of the file in the settled language: the one asked for, else the one configured, else
that of the ending of the path, else JavaScript. The configuration and the text are those of the
files the run began with. -/
theorem run_analyze_prints_settled_estimate {arguments : List String} {setup : Setup}
    {request : AnalyzeRequest}
    (hread : Request.read arguments = some (.analyze setup request))
    (hjson : request.asJson = true) (hfile : request.subject.source ≠ inputPath)
    (hlog : setup.logFile.getD "" = "") (hrun : run arguments around session = (0, after)) :
    ∃ value config text others,
      let language :=
        Language.settled request.subject.language config.defaultLanguage request.subject.source
      let estimate := standardSigns.classify
        (some (String.ofList (Text.unifyNewlines text))) (some language.id)
      let members := estimateMembers estimate language.id
      Configuration.search around session.files
          (Configuration.candidates around setup.config) = .ok value ∧
        Configuration.ofJson value = .ok config ∧
        session.files.read around.current (Path.ofText request.subject.source).text =
          .ok (Text.utf8 text) ∧
        language.id ∈ Language.all.map Language.id ∧
        (∀ name ∈ others.map Prod.fst, name ∉ members.map Prod.fst) ∧
        after.output = session.output ++ (Json.writeLines (members ++ others) ++ ['\n']) := by
  have hperform := perform_of_run_eq_zero hread hrun
  obtain ⟨options, resolved, hresolved, hperform⟩ := Action.bind_eq_ok_iff.mp hperform
  obtain ⟨value, config, hsearch, hconfig, hlanguage, hlog₁, hfiles₁, houtput₁⟩ :=
    Options.resolve_eq_ok hlog hresolved
  obtain ⟨_, _, htimed, hended⟩ := Action.bind_eq_ok_iff.mp hperform
  obtain ⟨-, rfl⟩ := Action.pure_eq_ok_iff.mp hended
  obtain ⟨analyzed, message, hanalyzed, rfl⟩ := Action.timed_eq_ok htimed
  obtain ⟨text, report, measured, htext, hreport, houtput₂⟩ :=
    analyze_eq_ok hjson hfile (by exact hlog₁) hanalyzed
  have hsettled : Options.languageFor options.language request.subject.source =
      (Language.settled request.subject.language config.defaultLanguage
        request.subject.source).id := by
    rw [hlanguage, Options.languageFor_chosen hfile]
  rw [hsettled] at hreport houtput₂
  rw [Language.resolve_standardSigns] at hreport
  obtain ⟨others, hpayload, hothers⟩ :=
    payload_eq_estimateMembers report _ measured request.detailed
  rw [hpayload, hreport] at houtput₂
  rw [hreport] at hothers
  refine ⟨value, config, text, others, hsearch, hconfig, ?_, ?_, hothers, ?_⟩
  · rw [← hfiles₁]
    exact htext
  · exact List.mem_map_of_mem (Language.mem_all _)
  · rw [← houtput₁, ← houtput₂]
    -- the record at the end of the run comes after the printing
    dsimp only
    rw [Action.output_recorded, Action.output_prepared]

/-- Two loops that end their lines in the way of another system, in a file without a known ending:
the language is the one asked for, and the lines are still two. -/
theorem run_analyze_prints_settled_estimate_carriage_returns :
    let arguments := ["analyze", "loops.txt", "--language", "Py", "--json"]
    let around : Surroundings := .usual
    let files : FileTree :=
      ⟨[(["work"], .directory),
        (["work", "loops.txt"], .file (Text.utf8 "for a\r\nfor b".toList))]⟩
    let estimate := standardSigns.classify (some "for a\nfor b") (some "python")
    (run arguments around (.start files [])).1 = 0 ∧
      ∃ others, (run arguments around (.start files [])).2.output =
        Json.writeLines (estimateMembers estimate "python" ++ others) ++ ['\n'] := by
  intro arguments around files estimate
  have hexit : (run arguments around (.start files [])).1 = 0 := by decide +kernel
  have hread : Request.read arguments = some (.analyze ⟨none, false, false, none⟩
      ⟨⟨"loops.txt", some "Py", none, none, none, none⟩, false, true⟩) := rfl
  obtain ⟨value, config, text, others, -, -, htext, -, -, houtput⟩ :=
    run_analyze_prints_settled_estimate hread rfl (by decide) rfl (Prod.ext hexit rfl)
  have hfile : files.read around.current (Path.ofText "loops.txt").text =
      .ok (Text.utf8 "for a\r\nfor b".toList) := rfl
  have hbytes : Text.utf8 text = Text.utf8 "for a\r\nfor b".toList :=
    Except.ok.inj (htext.symm.trans hfile)
  obtain rfl := Text.utf8_injective hbytes
  have hlines : String.ofList (Text.unifyNewlines "for a\r\nfor b".toList) = "for a\nfor b" := by
    decide +kernel
  have hlanguage : Language.settled (some "Py") config.defaultLanguage "loops.txt" = .python := by
    change Language.resolve "Py" = .python
    decide +kernel
  dsimp only at houtput
  rw [hlines, hlanguage] at houtput
  refine ⟨hexit, others, ?_⟩
  rw [houtput]
  rfl

end Command

end OrderOfGrowth

import OrderOfGrowth.Proofs.ChartPage
import OrderOfGrowth.Proofs.Publishing
import OrderOfGrowth.Proofs.Spellings

/-!
# Writing a chart

A run of `visualize` checks its measurements, reads the source, may make the directory for charts,
and makes the whole page before it opens the file for it. A page that is made can be stored, so
once the file has been opened only its device can fail, and the report that is printed in the end.
This file follows a run to its end, whether it fails or not.
-/

namespace OrderOfGrowth

/-- Settings from the members of an object have a domain that was checked. -/
theorem ChartSettings.domainSize_of_ofMembers {members : Keyed Json} {settings : ChartSettings}
    (h : ofMembers members = .ok settings) : settings.domainSize.lt (.int 1) = false := by
  obtain ⟨-, ⟨⟨size, hsize, hlow⟩, -, -⟩, hvalues⟩ := ofMembers_eq_ok_iff.mp h
  obtain rfl := Json.number.inj (hvalues.numbers.1.symm.trans hsize)
  exact hlow

/-- A configuration that is read from a value has settings with a checked domain, if it has settings
at all. -/
theorem Configuration.domainSize_of_ofJson {value : Json} {config : Configuration}
    {settings : ChartSettings} (h : ofJson value = .ok config)
    (hchart : config.chart = .settings settings) : settings.domainSize.lt (.int 1) = false := by
  cases value with
  | object members =>
    obtain ⟨unflattened, -, h⟩ := bind_eq_ok.mp h
    obtain ⟨entry, hentry, h⟩ := bind_eq_ok.mp h
    dsimp only at h
    split_ifs at h
    obtain rfl := Except.ok.inj h
    obtain rfl : entry = .settings settings := hchart
    unfold chartOf at hentry
    split at hentry
    · -- nothing is said about the chart
      obtain rfl := ChartEntry.settings.inj (Except.ok.inj hentry)
      rfl
    · split at hentry
      · obtain rfl := ChartEntry.settings.inj (Except.ok.inj hentry)
        exact ChartSettings.domainSize_of_ofMembers ‹_›
      · cases hentry
      · cases hentry
    · cases hentry
  | _ => cases h

namespace Command

variable {options : Options} {request : VisualizeRequest} {around : Surroundings}
  {session after : Session}

/-- The settings for charts have passed the check of the size of their domain. -/
def DomainChecked (options : Options) : Prop :=
  ∀ settings, options.config.chart = .settings settings → settings.domainSize.lt (.int 1) = false

/-- What a command is set up with before it runs: options whose domain has been checked, and a log
file that is there, if there is one. -/
theorem prepare_eq_ok {setup : Setup} {language : Option String}
    (h : prepare setup language around session = (.ok options, after)) :
    DomainChecked options ∧ after.LogStands := by
  obtain ⟨_, begun, hbegun, h⟩ := Action.bind_eq_ok_iff.mp h
  obtain ⟨_, logged, hlogged, h⟩ := Action.bind_eq_ok_iff.mp h
  obtain ⟨value, loaded, hloaded, h⟩ := Action.bind_eq_ok_iff.mp h
  obtain ⟨configured, _, hread, h⟩ := Action.bind_eq_ok_iff.mp h
  obtain ⟨hconfigured, rfl⟩ := Action.lift_eq_ok_iff.mp hread
  obtain ⟨chosen, settled, hchosen, h⟩ := Action.bind_eq_ok_iff.mp h
  obtain ⟨_, ended, hended, h⟩ := Action.bind_eq_ok_iff.mp h
  obtain ⟨rfl, rfl⟩ := Action.pure_eq_ok_iff.mp h
  have hframe := Session.onlyLogs_frame
  have honly := ((((hframe.log _ _ _).of_eq hlogged).trans ((hframe.load _).of_eq hloaded)).trans
    ((hframe.chooseLanguage _ _).of_eq hchosen)).trans ((hframe.log _ _ _).of_eq hended)
  refine ⟨fun settings hchart => ?_, (honly (Session.logStands_of_configureLogging hbegun)).1⟩
  apply Configuration.domainSize_of_ofJson hconfigured
  rw [← hchart]
  dsimp only
  split_ifs <;> rfl

/-- The path that is chosen for a chart: the one asked for if it is not empty; if none is asked for,
that of the chart in the configured directory, if there is one. Else none is chosen, and the chart
goes to a temporary file. -/
def destination (options : Options) (request : VisualizeRequest) (around : Surroundings) :
    Except Failure (Option String) :=
  match request.output with
  | some path => .ok (if path = "" then none else some path)
  | none => (options.config.outputDirectory around).map fun directory =>
      directory.map fun directory => (directory.join [chartFileName]).text

/-- The chart that a request asks for in a session: the one for the class of the source that is read
there, with the measurements that are checked before. -/
def Draws (options : Options) (request : VisualizeRequest) (around : Surroundings)
    (session : Session) (chart : Chart) : Prop :=
  ∃ measured checked source,
    measure options request.subject around session = (.ok measured, checked) ∧
      (Source.read request.subject.source around checked).1 = .ok source ∧
      chartFor options measured
        (standardSigns.classify (some source) (some measured.language)) = .ok chart

/-- A run leaves the page of the chart that is asked for at the path that is asked for, as far as
a fault of the device of the file allows. -/
def WritesChart (options : Options) (request : VisualizeRequest) (around : Surroundings)
    (session after : Session) (path : String) (fault : Option WriteFault) : Prop :=
  ∃ chart page wanted location, Draws options request around session chart ∧
    chart.page Chart.standardTitle = .ok page ∧ destination options request around = .ok wanted ∧
    session.IsPathFor around wanted path location ∧ around.writeFault location = fault ∧
    session.WritesFile after around.current path location
      (WriteFault.bytesKept fault (Text.utf8 page))

/-- What a run gives that has opened the file of its chart: the path, unless the device has a fault
or the report on the chart cannot be printed. -/
def announced (screen : Terminal.Screen) (path : String) (opened : Bool)
    (fault : Option WriteFault) : Except Failure String :=
  match fault with
  | some fault => .error (.file (.device fault.message))
  | none =>
    match Text.surrogateRun? (Report.visualization screen path opened) with
    | none => .ok path
    | some run => .error (.unencodable run)

/-- A chart is made for the class of an estimate, with curves over the domain of the settings. -/
theorem chartFor_eq_ok {measured : Measurements} {estimate : Estimate} {chart : Chart}
    (h : chartFor options measured estimate = .ok chart) :
    ∃ settings size, options.config.chart = .settings settings ∧
      settings.domainSize.truncate = .ok size ∧ Curve.family size = .ok chart.curves ∧
      chart.complexity = estimate.complexity := by
  obtain ⟨settings, hsettings, h⟩ := bind_eq_ok.mp h
  obtain ⟨size, hsize, h⟩ := bind_eq_ok.mp h
  obtain ⟨family, hfamily, h⟩ := bind_eq_ok.mp h
  obtain rfl := Except.ok.inj h
  refine ⟨settings, size, ?_, hsize, hfamily, rfl⟩
  cases hentry : options.config.chart with
  | settings found =>
    rw [hentry] at hsettings
    rw [Except.ok.inj hsettings]
  | other value =>
    rw [hentry] at hsettings
    cases hsettings

/-- The page of a chart that was made for checked options can be stored. -/
theorem isStorable_page_of_chartFor {measured : Measurements} {estimate : Estimate} {chart : Chart}
    {page : List Char} (hchecked : DomainChecked options)
    (hchart : chartFor options measured estimate = .ok chart)
    (hpage : chart.page Chart.standardTitle = .ok page) : Text.IsStorable page := by
  obtain ⟨settings, size, hentry, hsize, hcurves, -⟩ := chartFor_eq_ok hchart
  have hpositive := Quantity.pos_of_truncate (hchecked settings hentry) hsize
  exact Chart.isStorable_page_of_points (by decide) hpositive hcurves hpage

/-- A path that ends in a name is not empty. -/
theorem text_join_ne_empty (directory : Path) {name : String} (hname : name ≠ "") :
    (directory.join [name]).text ≠ "" := by
  have hjoined : ∀ names : List (List Char),
      Text.joinWith ['/'] (names ++ [name.toList]) ≠ [] := by
    intro names
    cases names with
    | nil => simpa [Text.joinWith] using hname
    | cons first rest =>
      rw [List.cons_append, Text.joinWith_cons (by simp)]
      simp
  intro h
  unfold Path.text Path.join at h
  rw [if_neg (by simp)] at h
  have hempty := congrArg String.toList h
  rw [String.toList_ofList, List.map_append] at hempty
  exact hjoined _ (List.append_eq_nil_iff.mp hempty).2

/-- The path that is chosen in a run is the one that a chart is to be written to. -/
theorem destination_of_chartPath {asked : Option String}
    (h : chartPath options request.output around session = (.ok asked, after)) :
    destination options request around = .ok (asked.filter (· ≠ "")) := by
  unfold chartPath at h
  unfold destination
  cases houtput : request.output with
  | some path =>
    rw [houtput] at h
    obtain ⟨rfl, -⟩ := Action.pure_eq_ok_iff.mp h
    by_cases hempty : path = "" <;> simp [hempty, Option.filter]
  | none =>
    rw [houtput] at h
    obtain ⟨_, _, ⟨⟩, h⟩ := Action.bind_eq_ok_iff.mp h
    obtain ⟨configured, _, hlifted, h⟩ := Action.bind_eq_ok_iff.mp h
    obtain ⟨hconfigured, -⟩ := Action.lift_eq_ok_iff.mp hlifted
    rw [hconfigured]
    cases configured with
    | none =>
      obtain ⟨rfl, -⟩ := Action.pure_eq_ok_iff.mp h
      rfl
    | some directory =>
      obtain ⟨_, _, -, h⟩ := Action.bind_eq_ok_iff.mp h
      obtain ⟨rfl, -⟩ := Action.pure_eq_ok_iff.mp h
      have hpath : (directory.join [chartFileName]).text ≠ "" :=
        text_join_ne_empty directory (by decide)
      simp [Except.map, Option.filter, hpath]

/-- Choosing the path for a chart changes no file. -/
theorem keeps_chartPath (options : Options) (asked : Option String) :
    Action.Keeps Session.OnlyLogs (chartPath options asked) := by
  have hframe := Session.onlyLogs_frame
  unfold chartPath
  cases asked with
  | some path => exact hframe.pure _
  | none =>
    apply hframe.bind hframe.surroundings
    intro around
    apply hframe.bind (hframe.lift _)
    intro configured
    cases configured with
    | none => exact hframe.pure _
    | some directory =>
      apply hframe.bind _ fun _ => hframe.pure _
      intro _ session
      cases hmade : session.files.ensureDirectories around.current directory.names.length
          directory with
      | error problem =>
        rw [Action.onFiles_of_eq_error hmade]
        exact hframe.refl _
      | ok files =>
        rw [Action.onFiles_of_eq_ok hmade]
        exact Session.onlyLogs_of_keepsOutside subset_rfl
          (FileTree.keepsOutside_ensureDirectories hmade)

/-- What follows once the chart has been made. -/
def publishAndPrint (chart : Chart) (asked : Option String) (openPage : Bool) : Action String := do
  let written ← chart.publish asked openPage
  Action.print (Report.visualization (← Action.surroundings).screen written openPage)
  return written

/-- Printing the report on a chart gives its path, if the report can be printed. -/
theorem publishAndPrint_of_publish {chart : Chart} {asked : Option String} {openPage : Bool}
    {path : String} {fault : Option WriteFault}
    (h : chart.publish asked openPage around session = (WriteFault.outcome fault path, after)) :
    ∃ ended, publishAndPrint chart asked openPage around session =
        (announced around.screen path openPage fault, ended) ∧ after.OnlyLogs ended := by
  unfold publishAndPrint announced
  cases fault with
  | some fault =>
    exact ⟨after, Action.bind_of_eq_error h, Session.onlyLogs_frame.refl after⟩
  | none =>
    rw [Action.bind_of_eq_ok h, Action.bind_of_eq_ok rfl]
    dsimp only
    generalize Report.visualization around.screen path openPage = text
    have hkeeps := Action.keeps_print text
    cases hrun : Text.surrogateRun? text with
    | none =>
      have hprint : Action.print text around after = _ := Action.print_eq_ok_iff.mpr ⟨hrun, rfl⟩
      exact ⟨_, Action.bind_of_eq_ok hprint, hkeeps.of_eq hprint⟩
    | some run =>
      have hprint : Action.print text around after = _ :=
        Action.print_eq_error_iff.mpr ⟨run, hrun, rfl, rfl⟩
      exact ⟨_, Action.bind_of_eq_error hprint, hkeeps.of_eq hprint⟩

/-- Publishing a chart and printing a report on it fails with every file as it was, or it writes the
page as far as the device allows. -/
theorem publishAndPrint_cases {chart : Chart} {asked : Option String} {openPage : Bool}
    {outcome : Except Failure String} (hstands : session.LogStands)
    (h : publishAndPrint chart asked openPage around session = (outcome, after)) :
    (∃ failure, outcome = .error failure ∧
      ((∀ page, chart.page Chart.standardTitle = .ok page → Text.IsStorable page) →
        session.OnlyLogs after)) ∨
      ∃ page path location, chart.page Chart.standardTitle = .ok page ∧
        session.IsPathFor around (asked.filter (· ≠ "")) path location ∧
        outcome = announced around.screen path openPage (around.writeFault location) ∧
        session.WritesFile after around.current path location
          (WriteFault.bytesKept (around.writeFault location) (Text.utf8 page)) := by
  cases hpublish : chart.publish asked openPage around session with
  | mk published between =>
  rcases Chart.publish_cases hstands hpublish with
    ⟨failure, rfl, honly⟩ | ⟨page, path, location, hpage, hpath, rfl, hwrites⟩
  · obtain ⟨rfl, rfl⟩ := Prod.mk.inj ((Action.bind_of_eq_error hpublish).symm.trans h)
    exact Or.inl ⟨failure, rfl, honly⟩
  · obtain ⟨ended, heq, honly⟩ := publishAndPrint_of_publish hpublish
    obtain ⟨rfl, rfl⟩ := Prod.mk.inj (heq.symm.trans h)
    exact Or.inr ⟨page, path, location, hpage, hpath, rfl, hwrites.before_onlyLogs honly⟩

/-- A run of `visualize` fails with every file as it was, or it writes the page of the chart that is
asked for, as far as the device of the file allows. -/
theorem visualize_cases {outcome : Except Failure String} (hstands : session.LogStands)
    (h : visualize options request around session = (outcome, after)) :
    (∃ failure, outcome = .error failure ∧ (DomainChecked options → session.OnlyLogs after)) ∨
      ∃ path opened fault, outcome = announced around.screen path opened fault ∧
        WritesChart options request around session after path fault := by
  have hframe := Session.onlyLogs_frame
  unfold visualize at h
  rcases hframe.bind_cases (hframe.refl session) (hframe.measure _ _) h with
    ⟨failure, houtcome, honly⟩ | ⟨measured, checked, hmeasured, honly, h⟩
  · exact Or.inl ⟨failure, houtcome, fun _ => honly⟩
  rcases hframe.bind_cases honly (hframe.estimate _ _) h with
    ⟨failure, houtcome, honly⟩ | ⟨estimate, _, hestimate, honly, h⟩
  · exact Or.inl ⟨failure, houtcome, fun _ => honly⟩
  rcases hframe.bind_cases honly (keeps_chartPath _ _) h with
    ⟨failure, houtcome, honly⟩ | ⟨asked, _, hasked, honly, h⟩
  · exact Or.inl ⟨failure, houtcome, fun _ => honly⟩
  rcases hframe.bind_cases honly (hframe.lift _) h with
    ⟨failure, houtcome, honly⟩ | ⟨chart, _, hlifted, honly, h⟩
  · exact Or.inl ⟨failure, houtcome, fun _ => honly⟩
  obtain ⟨hchart, rfl⟩ := Action.lift_eq_ok_iff.mp hlifted
  rcases hframe.bind_cases honly (hframe.lift _) h with
    ⟨failure, houtcome, honly⟩ | ⟨openPage, ready, -, honly, h⟩
  · exact Or.inl ⟨failure, houtcome, fun _ => honly⟩
  obtain ⟨source, hsource, hclass⟩ := Analysis.read_of_estimate hestimate
  rw [hclass] at hchart
  rcases publishAndPrint_cases (honly hstands).1 h with
    ⟨failure, houtcome, honly'⟩ | ⟨page, path, location, hpage, hpath, houtcome, hwrites⟩
  · refine Or.inl ⟨failure, houtcome, fun hchecked => honly.trans (honly' ?_)⟩
    exact fun page hpage => isStorable_page_of_chartFor hchecked hchart hpage
  · exact Or.inr ⟨path, openPage, _, houtcome, chart, page, _, location,
      ⟨measured, checked, source, hmeasured, hsource, hchart⟩, hpage,
      destination_of_chartPath hasked, hpath.after_onlyLogs hstands honly, rfl,
      hwrites.after_onlyLogs hstands honly⟩

/-- The chart that is asked for does not depend on the fields of records. -/
theorem Draws.of_fields {fields : Keyed String} {chart : Chart}
    (h : Draws options request around { session with fields := fields } chart) :
    Draws options request around session chart := by
  obtain ⟨measured, _, source, hmeasured, hsource, hchart⟩ := h
  rw [Action.ignoresFields_measure] at hmeasured
  obtain ⟨hfirst, rfl⟩ := Prod.mk.inj hmeasured
  rw [Action.ignoresFields_read] at hsource
  exact ⟨measured, _, source, Prod.ext hfirst rfl, hsource, hchart⟩

/-- A timed run of `visualize` fails with every file as it was, or it writes the page of the chart
that is asked for, as far as the device of the file allows. -/
theorem timed_visualize_cases {outcome : Except Failure String} (hstands : session.LogStands)
    (h : Action.timed "visualize_command" options.language (visualize options request) around
      session = (outcome, after)) :
    (∃ failure, outcome = .error failure ∧ (DomainChecked options → session.OnlyLogs after)) ∨
      ∃ path opened fault, outcome = announced around.screen path opened fault ∧
        WritesChart options request around session after path fault := by
  have hframe := Session.onlyLogs_frame
  obtain ⟨level, message, htimed⟩ := Action.timed_eq "visualize_command" options.language
    (visualize options request) around session
  dsimp only at htimed
  rw [htimed] at h
  obtain ⟨rfl, rfl⟩ := Prod.mk.inj h
  have hbegin := hframe.fields session
    (updateFields session.fields [("language", options.language)])
  cases hvisualize : visualize options request around
      { session with fields := updateFields session.fields [("language", options.language)] } with
  | mk outcome ended =>
    have hend := (hframe.record around level message ended).trans
      (hframe.fields _ session.fields)
    rcases visualize_cases (hbegin hstands).1 hvisualize with
      ⟨failure, houtcome, honly⟩ | ⟨path, opened, fault, houtcome, hchart⟩
    · exact Or.inl ⟨failure, houtcome, fun hchecked =>
        hbegin.trans ((honly hchecked).trans hend)⟩
    · obtain ⟨chart, page, wanted, location, hdraws, hpage, hwanted, hpath, hfault, hwrites⟩ :=
        hchart
      exact Or.inr ⟨path, opened, fault, houtcome, chart, page, wanted, location, hdraws.of_fields,
        hpage, hwanted, hpath, hfault,
        (hwrites.before_onlyLogs hend).after_onlyLogs hstands hbegin⟩

/-- A timed run of `visualize` that gives a path has written the page of the chart that is asked for
there. -/
theorem writesChart_of_timed_visualize {path : String} (hstands : session.LogStands)
    (h : Action.timed "visualize_command" options.language (visualize options request) around
      session = (.ok path, after)) :
    WritesChart options request around session after path none := by
  rcases timed_visualize_cases hstands h with ⟨_, hfailed, -⟩ | ⟨_, opened, fault, heq, hwrites⟩
  · cases hfailed
  unfold announced at heq
  split at heq
  · cases heq
  · split at heq
    · obtain rfl := Except.ok.inj heq
      exact hwrites
    · cases heq

/-- A timed run of `visualize` whose stages succeed up to the texts of the page, and whose file can
be opened, writes the page as far as the device allows. -/
theorem timed_visualize_of_target (session : Session) {measured : Measurements}
    {checked estimated ready between : Session} {estimate : Estimate} {asked : Option String}
    {openPage : Bool} {path : String} {location : Location}
    (hchecked : DomainChecked options)
    (hmeasured : measure options request.subject around
      { session with fields := updateFields session.fields [("language", options.language)] } =
        (.ok measured, checked))
    (hestimate : Analysis.estimate measured.language request.subject.source around checked =
      (.ok estimate, estimated))
    (hasked : chartPath options request.output around estimated = (.ok asked, ready))
    (hmade : (chartFor options measured estimate >>= fun chart =>
      chart.pageParts Chart.standardTitle).isOk = true)
    (hopen : shouldOpen options request.openPage = .ok openPage)
    (hpath : Chart.targetPath asked around ready = (.ok path, between))
    (hstands : between.LogStands)
    (htarget : between.files.target around.current path = .ok location) :
    ∃ page after, Action.timed "visualize_command" options.language (visualize options request)
        around session =
          (announced around.screen path openPage (around.writeFault location), after) ∧
      between.WritesFile after around.current path location
        (WriteFault.bytesKept (around.writeFault location) (Text.utf8 page)) := by
  obtain ⟨parts, hparts⟩ := isOk_iff_exists.mp hmade
  obtain ⟨chart, hchart, hparts⟩ := bind_eq_ok.mp hparts
  have hpage : chart.page Chart.standardTitle = .ok parts.text := map_eq_ok.mpr ⟨parts, hparts, rfl⟩
  obtain ⟨published, hpublished, hwrites⟩ := Chart.publish_of_target hstands hpage
    (isStorable_page_of_chartFor hchecked hchart hpage) hpath htarget openPage
  obtain ⟨ended, hended, honly⟩ := publishAndPrint_of_publish hpublished
  have hlift : Action.lift (chartFor options measured estimate) around ready =
    (.ok chart, ready) := Action.lift_eq_ok_iff.mpr ⟨hchart, rfl⟩
  have hlift' : Action.lift (shouldOpen options request.openPage) around ready =
    (.ok openPage, ready) := Action.lift_eq_ok_iff.mpr ⟨hopen, rfl⟩
  obtain ⟨level, message, htimed⟩ := Action.timed_eq "visualize_command" options.language
    (visualize options request) around session
  have hlast := (Session.onlyLogs_frame.record around level message ended).trans
    (Session.onlyLogs_frame.fields _ session.fields)
  unfold publishAndPrint at hended
  unfold visualize at htimed ⊢
  rw [Action.bind_of_eq_ok hmeasured, Action.bind_of_eq_ok hestimate, Action.bind_of_eq_ok hasked,
    Action.bind_of_eq_ok hlift, Action.bind_of_eq_ok hlift', hended] at htimed
  exact ⟨_, _, htimed, (hwrites.before_onlyLogs honly).before_onlyLogs hlast⟩

/-- An empty source with a page asked for by name, in a chart of a single size, where there is a
page already: its file gets as much of the new page as its device keeps. -/
theorem timed_visualize_empty_source (fault : Option WriteFault) :
    let settings : ChartSettings := ⟨.int 1, .int 100, .int 1, .int 1, .bool false, .null⟩
    let options : Options :=
      ⟨some "python", .bool false, ⟨.null, .bool false, .settings settings, .int 0⟩⟩
    let request : VisualizeRequest :=
      ⟨⟨"a.py", none, none, none, none, none⟩, some "page.html", none⟩
    let around : Surroundings := { Surroundings.usual with writeFault := fun _ => fault }
    let session : Session := .start ⟨[(["work"], .directory), (["work", "a.py"], .file []),
      (["work", "page.html"], .file [0x2D])]⟩ []
    DomainChecked options ∧ session.LogStands ∧
      ∃ page after, Action.timed "visualize_command" options.language (visualize options request)
          around session = (WriteFault.outcome fault "page.html", after) ∧
        after.files.contentAt? ["work", "page.html"] =
          some (WriteFault.bytesKept fault (Text.utf8 page)) := by
  intro settings options request around session
  have hchecked : DomainChecked options := by
    rintro _ ⟨⟩
    rfl
  have hstands : session.LogStands := fun _ hlocation => nomatch hlocation
  let begun : Session := { session with fields := [("language", "python")] }
  have hmeasured : measure options request.subject around begun =
    (.ok ⟨"python", none, none, .int 0⟩, begun) := rfl
  have hread : Source.read "a.py" around begun =
      (Source.ofFile session.files (.free ["work"]) "a.py", begun) :=
    Action.read_eq_ofFile (by decide)
  have hempty : Source.ofFile session.files (.free ["work"]) "a.py" = .ok "" := by decide +kernel
  have hclass : standardSigns.classify (some "") (some "python") = .ofClass .constant := by
    decide +kernel
  obtain ⟨estimated, hestimate⟩ : ∃ estimated, Analysis.estimate "python" "a.py" around begun =
      (.ok (.ofClass .constant), estimated) := by
    have hfirst := Analysis.fst_estimate "python" "a.py" around begun
    rw [hread, hempty] at hfirst
    exact ⟨_, eq_mk_of_fst_eq (hfirst.trans (congrArg Except.ok hclass))⟩
  obtain ⟨hready, hlogs, hkept⟩ :=
    (Session.onlyLogs_frame.estimate _ _).of_eq hestimate fun _ hlocation => nomatch hlocation
  have hbegun : session.files.target (.free ["work"]) "page.html" = .ok ["work", "page.html"] := by
    decide +kernel
  have htarget : estimated.files.target around.current "page.html" = .ok ["work", "page.html"] :=
    hkept.target_eq_ok nofun (by decide +kernel) hbegun
  have hasked : chartPath options request.output around estimated =
    (.ok (some "page.html"), estimated) := rfl
  have hopen : shouldOpen options request.openPage = .ok false := rfl
  obtain ⟨page, after, hrun, hwrites⟩ := timed_visualize_of_target session hchecked hmeasured
    hestimate hasked (by decide +kernel) hopen rfl hready htarget
  have hprinted : announced .usual "page.html" false fault =
      WriteFault.outcome fault "page.html" := by
    have hreport : Text.surrogateRun? (Report.visualization .usual "page.html" false) = none := by
      decide +kernel
    cases fault with
    | some fault => rfl
    | none =>
      unfold announced
      rw [hreport]
      rfl
  exact ⟨hchecked, hstands, page, after, hrun.trans (congrArg (·, after) hprinted),
    hwrites.content fun hmem => nomatch hlogs hmem⟩

end Command

end OrderOfGrowth

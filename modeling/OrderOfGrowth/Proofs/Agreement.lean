import OrderOfGrowth.Proofs.AnalyzeRun
import OrderOfGrowth.Proofs.ChartRun
import OrderOfGrowth.Proofs.Pictures
import OrderOfGrowth.Proofs.SingleWidth

/-!
# The two commands agree

`analyze` scans a source and decides its class. `visualize` classifies the source, looks for the
curve of the class by its label, and marks the line of that curve. Both check the same measurements
first and read the same source, so what one of them reports the other one shows: in the first line
of the chart, which alone is marked, and in the card with the label and the description.
-/

namespace OrderOfGrowth

/-- Lines in sequence give their texts in sequence. -/
theorem Terminal.textOfLines_append (lines more : List (List Char)) :
    textOfLines (lines ++ more) = textOfLines lines ++ textOfLines more :=
  List.flatMap_append

namespace Report

open Terminal

variable {screen : Screen} {columns : ℕ}

/-- The report on measurements is made of lines. -/
theorem metrics_eq_ok {runtime memory : Option Quantity} {limit : Json} {text : List Char}
    (h : metrics screen runtime memory limit = .ok text) : ∃ lines, text = textOfLines lines := by
  obtain ⟨note, -, h⟩ := bind_eq_ok.mp h
  obtain ⟨runtimeText, -, h⟩ := bind_eq_ok.mp h
  obtain ⟨memoryText, -, h⟩ := bind_eq_ok.mp h
  exact ⟨_, (Except.ok.inj h).symm⟩

/-- A line inside of a panel. -/
def panelLine (columns : ℕ) (line : List Char) : List Char :=
  framed (indented (padRight (panelWidth columns) line))

/-- The name of a source as it stands in a report, before its tags are read. -/
def sourceMarkup (source : String) : List Char :=
  styled "bold blue" ("Source: ".toList ++ escapeMarkup source.toList)

/-- The lines of a report above its branches. -/
def headLines (columns : ℕ) (heading : List Char) : List (List Char) :=
  titledEdge (columns - 2) "COMPLEXITY ANALYSIS" ::
    ([] :: wrap (panelWidth columns) heading).map (panelLine columns)

/-- The lines of a branch above others. -/
def branchText (columns : ℕ) (text : List Char) : List (List Char) :=
  (Tree.hang "├── " "│   " (wrap (panelWidth columns - 4) text)).map (panelLine columns)

/-- What a report says about a class. -/
def classTexts (c : ComplexityClass) : List (List Char) :=
  ["Complexity: ".toList ++ c.label.toList, "Description: ".toList ++ c.description.toList]

/-- The lines of a report that name a class. -/
def classLines (columns : ℕ) (c : ComplexityClass) : List (List Char) :=
  (classTexts c).flatMap (branchText columns)

/-- On all but the narrowest screens the label and the description of a class stand in a line
each. -/
theorem classLines_of_le (h : 40 ≤ columns) (c : ComplexityClass) :
    classLines columns c =
      (classTexts c).map fun text => panelLine columns ("├── ".toList ++ text) := by
  have hall : ∀ c ∈ ComplexityClass.all, ∀ text ∈ classTexts c,
      IsSingleWidth text ∧ text.length ≤ 30 := by decide +kernel
  have hline : ∀ text ∈ classTexts c,
      branchText columns text = [panelLine columns ("├── ".toList ++ text)] := by
    intro text htext
    obtain ⟨hsingle, hlength⟩ := hall c c.mem_all text htext
    have hfits : text.length ≤ panelWidth columns - 4 := by
      unfold panelWidth
      omega
    rw [branchText, hsingle.wrap_of_length_le hfits]
    rfl
  unfold classLines
  rw [List.flatMap_congr hline]
  simp [classTexts]

/-- A text that is shown on every screen when the tags of a style have been read. -/
structure IsShown (style : String) (text : List Char) : Prop where
  tags : ((tagsFrom 0 0 (styled style text)).foldlM applyTag []).isOk = true
  visible : visibleFrom false 0 (styled style text) = text
  colons : text.count ':' ≤ 1

instance (style : String) (text : List Char) : Decidable (IsShown style text) :=
  decidable_of_iff
    (((tagsFrom 0 0 (styled style text)).foldlM applyTag []).isOk = true ∧
      visibleFrom false 0 (styled style text) = text ∧ text.count ':' ≤ 1)
    ⟨fun h => ⟨h.1, h.2.1, h.2.2⟩, fun h => ⟨h.tags, h.visible, h.colons⟩⟩

/-- A text that is shown on every screen. -/
theorem IsShown.render_eq {style : String} {text : List Char} (h : IsShown style text)
    (screen : Screen) : render screen (styled style text) = .ok text := by
  obtain ⟨opened, hopened⟩ := isOk_iff_exists.mp h.tags
  have hpictures : screen.HasNoPictures (visibleFrom false 0 (styled style text)) :=
    h.visible.symm ▸ .of_count_le_one h.colons
  rw [render_eq_of_tags hopened hpictures, h.visible]

/-- The label and the description of a class are shown on every screen. -/
theorem isShown_class (c : ComplexityClass) :
    IsShown (Readout.levelColour c.level) ("Complexity: ".toList ++ c.label.toList) ∧
      IsShown "cyan" ("Description: ".toList ++ c.description.toList) := by
  have hall : ∀ c ∈ ComplexityClass.all,
      IsShown (Readout.levelColour c.level) ("Complexity: ".toList ++ c.label.toList) ∧
        IsShown "cyan" ("Description: ".toList ++ c.description.toList) := by decide +kernel
  exact hall c c.mem_all

/-- The tree of an estimate has the label and the description of the class as its first branches,
and more branches below them. -/
theorem classificationTree_eq_ok {c : ComplexityClass} {source : String}
    {shown : Option ScanReport} {tree : Tree}
    (h : classificationTree screen (.ofClass c) source shown = .ok tree) :
    ∃ heading third others, render screen (sourceMarkup source) = .ok heading ∧
      tree = .node heading ((classTexts c).map Tree.leaf ++ third :: others) := by
  obtain ⟨level, -, h⟩ := bind_eq_ok.mp h
  obtain ⟨heading, hheading, h⟩ := bind_eq_ok.mp h
  obtain ⟨first, hfirst, h⟩ := bind_eq_ok.mp h
  obtain ⟨second, hsecond, h⟩ := bind_eq_ok.mp h
  obtain ⟨third, -, h⟩ := bind_eq_ok.mp h
  obtain ⟨_, hlabel, rfl⟩ := map_eq_ok.mp hfirst
  obtain rfl := Except.ok.inj (((isShown_class c).1.render_eq screen).symm.trans hlabel)
  obtain ⟨_, hdescription, rfl⟩ := map_eq_ok.mp hsecond
  obtain rfl := Except.ok.inj (((isShown_class c).2.render_eq screen).symm.trans hdescription)
  cases shown with
  | none =>
    obtain rfl := Except.ok.inj h
    exact ⟨heading, third, [], hheading, rfl⟩
  | some found =>
    obtain ⟨signals, -, h⟩ := bind_eq_ok.mp h
    obtain rfl := Except.ok.inj h
    exact ⟨heading, third, [signals], hheading, rfl⟩

/-- Branches without branches of their own, and more branches below them. -/
theorem branchLines_leaves {width : ℕ} {next : Tree} {rest : List Tree}
    (labels : List (List Char)) :
    Tree.branchLines width (labels.map Tree.leaf ++ next :: rest) =
      labels.flatMap (fun label => Tree.hang "├── " "│   " (wrap (width - 4) label)) ++
        Tree.branchLines width (next :: rest) := by
  induction labels with
  | nil => rfl
  | cons label labels ih =>
    rw [List.map_cons, List.cons_append, Tree.branchLines, Tree.leaf, Tree.lines, Tree.branchLines,
      ih, List.append_nil, List.flatMap_cons, List.append_assoc]
    · simp

/-- The report on an estimate names the class below the source. -/
theorem classification_eq_ok {c : ComplexityClass} {source : String} {shown : Option ScanReport}
    {text : List Char} (h : classification screen (.ofClass c) source shown = .ok text) :
    ∃ heading others, render screen (sourceMarkup source) = .ok heading ∧
      text = textOfLines
        (headLines screen.columns heading ++ classLines screen.columns c ++ others) := by
  obtain ⟨tree, htree, h⟩ := bind_eq_ok.mp h
  obtain rfl := Except.ok.inj h
  obtain ⟨heading, third, others, hheading, rfl⟩ := classificationTree_eq_ok htree
  refine ⟨heading,
    (Tree.branchLines (panelWidth screen.columns) (third :: others) ++ [[]]).map
      (panelLine screen.columns) ++ [lowerEdge (screen.columns - 2)], hheading, ?_⟩
  rw [Tree.lines, branchLines_leaves]
  change textOfLines (_ :: List.map (panelLine screen.columns) ([] :: (_ ++ _) ++ [[]]) ++ [_]) = _
  simp only [headLines, classLines, List.map_append, List.map_cons, List.map_nil, List.map_flatMap,
    List.cons_append, List.append_assoc, List.nil_append]
  rfl

end Report

namespace Chart

/-- The lines of the card for an estimate in a page. -/
def cardLines (c : ComplexityClass) : List (List Char) :=
  ["            <div class=\"label\">Complexity</div>".toList,
   "            <div class=\"value\">".toList ++ c.label.toList ++ "</div>".toList,
   "            <div class=\"note\">".toList ++ c.description.toList ++ "</div>".toList]

/-- The line of a page with the lines of a chart as data. -/
def dataLine (datasets : List Dataset) : List Char :=
  "        const datasets = ".toList ++ Json.write (.list (datasets.map Dataset.toJson)) ++
    ";".toList

/-- A page shows a class: a card has its label and its description, and of the lines of the chart
the first one has its label with the mark, which no other line has. -/
def ShowsClass (page : List Char) (c : ComplexityClass) : Prop :=
  ∃ lines first others, page = lines.flatMap (· ++ ['\n']) ∧ cardLines c <:+: lines ∧
    dataLine (first :: others) ∈ lines ∧ first.label = c.label ++ highlightMark ∧
    ∀ other ∈ others, ¬ highlightMark.toList <:+ other.label.toList

/-- A label has no characters that need an entity. -/
theorem escapeEntities_label (c : ComplexityClass) :
    Text.escapeEntities c.label.toList = c.label.toList := by
  cases c <;> decide

/-- A description has no characters that need an entity. -/
theorem escapeEntities_description (c : ComplexityClass) :
    Text.escapeEntities c.description.toList = c.description.toList := by
  cases c <;> decide

/-- The page of a chart shows the class of the chart. -/
theorem showsClass_page {chart : Chart} {size : Int} {title : String} {page : List Char}
    (hcurves : Curve.family size = .ok chart.curves) (h : chart.page title = .ok page) :
    ShowsClass page chart.complexity := by
  obtain ⟨parts, hparts, rfl⟩ := map_eq_ok.mp h
  obtain ⟨datasets, _, _, _, hdatasets, -, -, -, -, -, rfl⟩ := pageParts_eq_ok.mp hparts
  obtain ⟨first, others, rfl, hfirst, hothers⟩ := datasets_eq_cons hcurves hdatasets
  refine ⟨_, first, others, rfl, ?_, ?_, hfirst, hothers⟩
  · rw [escapeEntities_label, escapeEntities_description]
    exact ⟨List.take 21 (PageParts.lines _), List.drop 24 (PageParts.lines _), rfl⟩
  · exact List.mem_of_getElem? (i := 43) rfl

end Chart

namespace Command

variable {options : Options} {around : Surroundings} {session after : Session}

/-- What is printed on a request reports a class: as the first members of the machine-readable
result, or in the lines below the source. -/
def Reports (screen : Terminal.Screen) (request : AnalyzeRequest) (c : ComplexityClass)
    (printed : List Char) : Prop :=
  if request.asJson then
    ∃ language others, printed =
      Json.writeLines (estimateMembers (.ofClass c) language ++ others) ++ ['\n']
  else
    ∃ heading others,
      Terminal.render screen (Report.sourceMarkup request.subject.source) = .ok heading ∧
        printed = Terminal.textOfLines (Report.headLines screen.columns heading ++
          Report.classLines screen.columns c ++ others)

/-- Nothing has been printed between two sessions. -/
def SamePrinted (before after : Session) : Prop := after.output = before.output

/-- Nothing that happens before a command prints or writes is printed. -/
theorem samePrinted_frame : Session.Frame SamePrinted where
  refl _ := rfl
  trans hfirst hsecond := hsecond.trans hfirst
  fields _ _ := rfl
  input _ := rfl
  record around level message session := by
    rw [SamePrinted, Action.output_recorded, Action.output_prepared]

/-- What is printed for people ends in lines behind the report on the class. -/
theorem report_eq_ok {path : String} {found : ScanReport} {c : ComplexityClass}
    {measured : Measurements} {detailed : Bool}
    (h : report path found (.ofClass c) measured detailed around session = (.ok (), after)) :
    ∃ heading others,
      Terminal.render around.screen (Report.sourceMarkup path) = .ok heading ∧
        after.output = session.output ++ Terminal.textOfLines
          (Report.headLines around.screen.columns heading ++
            Report.classLines around.screen.columns c ++ others) := by
  obtain ⟨_, _, ⟨⟩, h⟩ := Action.bind_eq_ok_iff.mp h
  obtain ⟨text, _, hlifted, h⟩ := Action.bind_eq_ok_iff.mp h
  obtain ⟨htext, rfl⟩ := Action.lift_eq_ok_iff.mp hlifted
  obtain ⟨_, titled, hprinted, h⟩ := Action.bind_eq_ok_iff.mp h
  obtain ⟨-, rfl⟩ := Action.print_eq_ok_iff.mp hprinted
  obtain ⟨heading, others, hheading, rfl⟩ := Report.classification_eq_ok htext
  suffices hrest : ∃ more, after.output = session.output ++ Terminal.textOfLines
      (Report.headLines around.screen.columns heading ++
        Report.classLines around.screen.columns c ++ others) ++ Terminal.textOfLines more by
    obtain ⟨more, hmore⟩ := hrest
    rw [List.append_assoc, ← Terminal.textOfLines_append, List.append_assoc _ others] at hmore
    exact ⟨heading, others ++ more, hheading, hmore⟩
  by_cases hmetrics : (measured.runtime.isSome || measured.memory.isSome) = true
  · rw [if_pos hmetrics] at h
    obtain ⟨shown, _, hlifted, h⟩ := Action.bind_eq_ok_iff.mp h
    obtain ⟨hshown, rfl⟩ := Action.lift_eq_ok_iff.mp hlifted
    obtain ⟨_, _, hprinted, h⟩ := Action.bind_eq_ok_iff.mp h
    obtain ⟨-, rfl⟩ := Action.print_eq_ok_iff.mp hprinted
    obtain ⟨-, rfl⟩ := Action.print_eq_ok_iff.mp h
    obtain ⟨lines, rfl⟩ := Report.metrics_eq_ok hshown
    refine ⟨lines ++ [Terminal.rule around.screen.columns], ?_⟩
    rw [Terminal.textOfLines_append lines, ← List.append_assoc]
    rfl
  · rw [if_neg hmetrics] at h
    obtain ⟨-, rfl⟩ := Action.print_eq_ok_iff.mp h
    exact ⟨[Terminal.rule around.screen.columns], rfl⟩

/-- A successful run of `analyze` gives the estimate for the source that it reads and reports its
class, whatever it prints besides. -/
theorem analyze_reports {request : AnalyzeRequest} {estimate : Estimate}
    (h : analyze options request around session = (.ok estimate, after)) :
    ∃ measured checked source printed,
      measure options request.subject around session = (.ok measured, checked) ∧
        (Source.read request.subject.source around checked).1 = .ok source ∧
        estimate = standardSigns.classify (some source) (some measured.language) ∧
        after.output = session.output ++ printed ∧
        Reports around.screen request estimate.complexity printed := by
  obtain ⟨measured, checked, hmeasured, h⟩ := Action.bind_eq_ok_iff.mp h
  obtain ⟨⟨found, made⟩, examined, hexamined, h⟩ := Action.bind_eq_ok_iff.mp h
  obtain ⟨source, hsource, -, rfl⟩ := Analysis.read_of_examine hexamined
  have hbefore : examined.output = session.output :=
    samePrinted_frame.trans ((samePrinted_frame.measure _ _).of_eq hmeasured)
      ((samePrinted_frame.examine _ _).of_eq hexamined)
  dsimp only at h
  cases hjson : request.asJson with
  | true =>
    rw [if_pos hjson] at h
    obtain ⟨_, _, hprinted, h⟩ := Action.bind_eq_ok_iff.mp h
    obtain ⟨rfl, rfl⟩ := Action.pure_eq_ok_iff.mp h
    obtain ⟨-, rfl⟩ := Action.print_eq_ok_iff.mp hprinted
    obtain ⟨others, hpayload, -⟩ :=
      payload_eq_estimateMembers found _ measured request.detailed
    refine ⟨measured, checked, source, _, hmeasured, hsource, rfl,
      congrArg (· ++ _) hbefore, ?_⟩
    rw [Reports, if_pos hjson]
    exact ⟨found.language, others, by rw [hpayload]; rfl⟩
  | false =>
    rw [if_neg (by rw [hjson]; decide)] at h
    obtain ⟨_, _, hprinted, h⟩ := Action.bind_eq_ok_iff.mp h
    obtain ⟨rfl, rfl⟩ := Action.pure_eq_ok_iff.mp h
    obtain ⟨heading, others, hheading, houtput⟩ := report_eq_ok hprinted
    rw [hbefore] at houtput
    refine ⟨measured, checked, source, _, hmeasured, hsource, rfl, houtput, ?_⟩
    rw [Reports, if_neg (by rw [hjson]; decide)]
    exact ⟨heading, others, hheading, rfl⟩

/-- What `analyze` gives and reports about a source and what `visualize` shows of it, in the same
session and with the same options and measurements, is the same class. The first line of the chart
and no other one is marked, and it has the label that is reported. The card has that label too, and
the description that is reported. -/
theorem analyze_and_visualize_agree {asked : AnalyzeRequest} {drawn : VisualizeRequest}
    {analyzed visualized : Session} {estimate : Estimate} {path : String}
    (hstands : session.LogStands) (hsubject : asked.subject = drawn.subject)
    (hanalyze : Action.timed "analyze_command" options.language (analyze options asked) around
      session = (.ok estimate, analyzed))
    (hvisualize : Action.timed "visualize_command" options.language (visualize options drawn) around
      session = (.ok path, visualized)) :
    ∃ c printed page, estimate = .ofClass c ∧ analyzed.output = session.output ++ printed ∧
      Reports around.screen asked c printed ∧
      session.WritesPage visualized around.current path page ∧ Chart.ShowsClass page c := by
  obtain ⟨between, message, hreported, rfl⟩ := Action.timed_eq_ok hanalyze
  obtain ⟨measured, checked, source, printed, hmeasured, hsource, hestimate, houtput, hreports⟩ :=
    analyze_reports hreported
  obtain ⟨chart, page, _, location, ⟨measured', checked', source', hmeasured', hsource', hchart⟩,
    hpage, -, -, -, hwrites⟩ := writesChart_of_timed_visualize hstands hvisualize
  -- the language is a field in the session of the one run, which reads what the other one reads
  rw [hsubject, Action.ignoresFields_measure, hmeasured'] at hmeasured
  obtain ⟨hfirst, rfl⟩ := Prod.mk.inj hmeasured
  obtain rfl := Except.ok.inj hfirst
  rw [hsubject, Action.ignoresFields_read, hsource'] at hsource
  obtain rfl := Except.ok.inj hsource
  obtain ⟨_, size, -, -, hcurves, hclass⟩ := chartFor_eq_ok hchart
  rw [← hestimate] at hclass
  refine ⟨estimate.complexity, printed, page, ?_, ?_, hreports, ⟨location, hwrites⟩,
    hclass ▸ Chart.showsClass_page hcurves hpage⟩
  · rw [hestimate]
    rfl
  · dsimp only
    rw [Action.output_recorded, Action.output_prepared]
    exact houtput

/-- An empty source, of which a report for people is printed and a page is drawn. -/
theorem analyze_and_visualize_agree_empty_source :
    let settings : ChartSettings := ⟨.int 1, .int 100, .int 1, .int 1, .bool false, .null⟩
    let options : Options :=
      ⟨some "python", .bool false, ⟨.null, .bool false, .settings settings, .int 0⟩⟩
    let subject : Subject := ⟨"a.py", none, none, none, none, none⟩
    let asked : AnalyzeRequest := ⟨subject, false, false⟩
    let drawn : VisualizeRequest := ⟨subject, some "page.html", none⟩
    let session : Session := .start ⟨[(["work"], .directory), (["work", "a.py"], .file []),
      (["work", "page.html"], .file [0x2D])]⟩ []
    session.LogStands ∧ asked.subject = drawn.subject ∧
      ∃ analyzed visualized,
        Action.timed "analyze_command" options.language (analyze options asked) .usual session =
            (.ok (.ofClass .constant), analyzed) ∧
          Action.timed "visualize_command" options.language (visualize options drawn) .usual
            session = (.ok "page.html", visualized) ∧
          ∃ c printed page, .ofClass .constant = Estimate.ofClass c ∧
            analyzed.output = session.output ++ printed ∧ Reports .usual asked c printed ∧
            session.WritesPage visualized Surroundings.usual.current "page.html" page ∧
            Chart.ShowsClass page c := by
  intro settings options subject asked drawn session
  obtain ⟨-, hstands, _, visualized, hvisualize, -⟩ := timed_visualize_empty_source none
  obtain ⟨analyzed, hanalyze⟩ : ∃ analyzed, Action.timed "analyze_command" options.language
      (analyze options asked) .usual session = (.ok (.ofClass .constant), analyzed) :=
    ⟨_, eq_mk_of_fst_eq (by decide +kernel)⟩
  have hsubject : asked.subject = drawn.subject := rfl
  obtain ⟨c, printed, page, hestimate, houtput, hreports, hwrites, hshows⟩ :=
    analyze_and_visualize_agree hstands hsubject hanalyze hvisualize
  exact ⟨hstands, hsubject, analyzed, visualized, hanalyze, hvisualize, c, printed, page,
    hestimate, houtput, hreports, hwrites, hshows⟩

end Command

end OrderOfGrowth

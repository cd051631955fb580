import OrderOfGrowth.Proofs.Agreement
import OrderOfGrowth.Proofs.EscapedText
import OrderOfGrowth.Proofs.SingleWidth

/-!
# Texts from outside in reports

The name of a source and the message of a failure are escaped before they are printed, and between
the tags around them they can always be shown. This file follows both to the lines of a report on
any screen: a text that fits into its line and has no pictures stands there as it is exactly if
escaping has kept its brackets and the backslashes at its end. A text that has changed may be longer
than its line, so what is compared is what is visible in the first line, or in all of them.
-/

namespace OrderOfGrowth

namespace Terminal

variable {screen : Screen} {text : List Char}

/-- A text without opening brackets can be shown. -/
theorem exists_render_of_notMem (h : '[' ∉ text) : ∃ shown, render screen text = .ok shown := by
  have htags : (tagsFrom 0 0 text).foldlM applyTag [] = .ok [] := by
    rw [tagsFrom_of_notMem h]
    rfl
  exact exists_render_of_tags htags

/-- A style in its normal form, which is neither a closing tag nor one with parameters. -/
structure IsNormalStyle (style : List Char) : Prop where
  normal : normalStyle style = .ok style
  trimmed : Text.trim style = style
  nonempty : style.isEmpty = false
  notClosing : style.head? ≠ some '/'
  notHandler : style.head? ≠ some '@'
  bare : '=' ∉ style

/-- A tag that opens a style in its normal form. -/
theorem applyTag_opening {style : List Char} (h : IsNormalStyle style) (opened : List OpenTag)
    (position : ℕ) : applyTag opened (style, position) = .ok (⟨style, []⟩ :: opened) := by
  have htake : style.takeWhile (· != '=') = style :=
    List.takeWhile_eq_self_iff.mpr fun c hc => by
      simpa using fun heq : c = '=' => h.bare (heq ▸ hc)
  have hdrop : style.dropWhile (· != '=') = [] :=
    List.dropWhile_eq_nil_iff.mpr fun c hc => by
      simpa using fun heq : c = '=' => h.bare (heq ▸ hc)
  unfold applyTag
  simp only [htake, hdrop]
  split
  · exact absurd rfl h.notClosing
  · rw [h.normal]
    rfl

/-- A tag that closes the style that has been opened last. -/
theorem applyTag_closing {style : List Char} (h : IsNormalStyle style) (opened : List OpenTag)
    (position : ℕ) : applyTag (⟨style, []⟩ :: opened) ('/' :: style, position) = .ok opened := by
  have htake : ('/' :: style).takeWhile (· != '=') = '/' :: style :=
    List.takeWhile_eq_self_iff.mpr (List.forall_mem_cons.mpr ⟨by decide, fun c hc => by
      simpa using fun heq : c = '=' => h.bare (heq ▸ hc)⟩)
  have hclose : OpenTag.close ⟨style, []⟩ = .ok () := by
    unfold OpenTag.close
    dsimp only
    split
    · exact absurd rfl h.notHandler
    · rfl
  unfold applyTag
  simp only [htake, h.trimmed, h.nonempty, h.normal]
  simp [hclose, bind, Except.bind, pure, Except.pure]

/-- The style of the name of a source. -/
theorem isNormalStyle_boldBlue : IsNormalStyle "bold blue".toList :=
  ⟨by decide +kernel, by decide, by decide, by decide, by decide, by decide⟩

/-- The style of a failure. -/
theorem isNormalStyle_boldRed : IsNormalStyle "bold red".toList :=
  ⟨by decide +kernel, by decide, by decide, by decide, by decide, by decide⟩

/-- A style that is opened once, and then closed or not, can be shown. -/
theorem foldlM_applyTag_boldBlue (count position : ℕ) :
    ∃ opened, (("bold blue".toList, 0) :: tagsFrom count position closingTag).foldlM applyTag [] =
      .ok opened := by
  have hslash : "/bold blue".toList = '/' :: "bold blue".toList := by decide
  rw [List.foldlM_cons, applyTag_opening isNormalStyle_boldBlue, tagsFrom_closingTag, hslash]
  split_ifs
  · exact ⟨[], bind_eq_ok.mpr ⟨_, rfl,
      bind_eq_ok.mpr ⟨_, applyTag_closing isNormalStyle_boldBlue [] position, rfl⟩⟩⟩
  · exact ⟨_, rfl⟩

/-- A name is shown with characters of one place if it is made of them. -/
theorem isSingleWidth_shownBeforeTag {text : List Char} (h : IsSingleWidth text) :
    IsSingleWidth (shownBeforeTag text) := by
  intro d hd
  have hbackslash : charWidth '\\' = 1 := charWidth_of_ascii (by decide)
  have hclosing : IsSingleWidth closingTag := isSingleWidth_of_ascii (by decide)
  rcases mem_shownFrom hd with rfl | hd | ⟨k, hd⟩
  · exact hbackslash
  · exact h d hd
  · rw [visibleFrom_closingTag, List.mem_append] at hd
    rcases hd with hd | hd
    · exact List.eq_of_mem_replicate hd ▸ hbackslash
    · split_ifs at hd
      · cases hd
      · exact hclosing d hd

/-- And so is a message. -/
theorem isSingleWidth_shownLast {text : List Char} (h : IsSingleWidth text) :
    IsSingleWidth (shownLast text) := by
  intro d hd
  have hbackslash : charWidth '\\' = 1 := charWidth_of_ascii (by decide)
  rcases mem_shownFrom hd with rfl | hd | ⟨k, hd⟩
  · exact hbackslash
  · exact h d hd
  · exact List.eq_of_mem_replicate hd ▸ hbackslash

/-- The start of a text that fits into some places has characters of the text and blanks. -/
theorem mem_takeWidth {c : Char} {limit : ℕ} (h : c ∈ takeWidth limit text) :
    c ∈ text ∨ c = ' ' := by
  have hclusters : ∀ (clusters : List (List Char)) (limit : ℕ), c ∈ takeClusters limit clusters →
      c ∈ clusters.flatten ∨ c = ' ' := by
    intro clusters
    induction clusters with
    | nil => exact fun _ h => nomatch h
    | cons cluster rest ih =>
      intro limit h
      rw [List.flatten_cons, List.mem_append]
      rw [takeClusters] at h
      split_ifs at h
      · rcases List.mem_append.mp h with hfirst | hrest
        · exact .inl (.inl hfirst)
        · exact (ih _ hrest).imp .inr id
      · exact .inr (List.eq_of_mem_replicate h)
  unfold takeWidth at h
  split_ifs at h
  · cases h
  · have hmem := hclusters _ _ h
    rwa [flatten_clusters] at hmem

/-- The upper edge of a panel has a line end only if the title has one. -/
theorem feed_notMem_titledEdge {title : String} (h : '\n' ∉ title.toList) (width : ℕ) :
    '\n' ∉ titledEdge width title := by
  have hrule (width : ℕ) : '\n' ∉ rule width := fun hmem =>
    absurd (List.eq_of_mem_replicate hmem) (by decide)
  have hbody : '\n' ∉ takeWidth (width - 2) (' ' :: (title.toList ++ [' '])) := fun hmem => by
    simpa [h] using mem_takeWidth hmem
  unfold titledEdge upperEdge
  split_ifs
  · simp [hrule]
  · simp [hrule, hbody]

end Terminal

namespace Report

open Terminal

variable {screen : Screen}

/-- The name of a source is shown between the tags of its style. -/
theorem sourceMarkup_eq (name : String) :
    sourceMarkup name =
      "[bold blue]Source: ".toList ++ (escapedFrom 0 name.toList ++ closingTag) := by
  have hopening : "[bold blue]Source: ".toList =
    '[' :: "bold blue".toList ++ ']' :: "Source: ".toList := by decide
  have hclosing : closingTag = '[' :: '/' :: "bold blue".toList ++ [']'] := by decide
  rw [hopening, hclosing]
  simp [sourceMarkup, styled, escapedFrom, escapeMarkup]

/-- The tags around the name of a source can be applied, whatever the name is. -/
theorem exists_tags_sourceMarkup (name : String) :
    ∃ opened, (tagsFrom 0 0 (sourceMarkup name)).foldlM applyTag [] = .ok opened := by
  have htags (rest : List Char) : tagsFrom 0 0 ("[bold blue]Source: ".toList ++ rest) =
      ("bold blue".toList, 0) :: tagsFrom 0 19 rest := by
    have hbody : tagBody? ("bold blue]Source: ".toList ++ rest) = some "bold blue".toList := rfl
    have hplain :
      '\\' ∉ "bold blue]Source: ".toList ∧ '[' ∉ "bold blue]Source: ".toList := by decide
    exact (tagsFrom_tag hbody rfl 0).trans (by rw [tagsFrom_append_of_notMem hplain]; rfl)
  obtain ⟨last, place, hbehind⟩ :=
    tagsFrom_escapedFrom_append isApart_closingTag 0 19 name.toList
  rw [sourceMarkup_eq, htags, hbehind]
  exact foldlM_applyTag_boldBlue last place

/-- A name without pictures is shown between its tags. -/
theorem render_sourceMarkup {name : String} (hpictures : screen.HasNoPictures name.toList) :
    render screen (sourceMarkup name) = .ok ("Source: ".toList ++ shownBeforeTag name.toList) := by
  have hvisible : visibleFrom false 0 (sourceMarkup name) =
      "Source: ".toList ++ shownBeforeTag name.toList := by
    rw [sourceMarkup_eq, shownBeforeTag, ← visibleFrom_escapedFrom_append isApart_closingTag]
    rfl
  have hcolons : "Source:".toList.count ':' ≤ 1 := by decide
  have hwhole : screen.HasNoPictures ("Source: ".toList ++ shownBeforeTag name.toList) :=
    .append_blank hcolons hpictures.shownBeforeTag
  obtain ⟨opened, hopened⟩ := exists_tags_sourceMarkup name
  rw [← hvisible] at hwhole ⊢
  exact render_eq_of_tags hopened hwhole

/-- The tags of the heading of a failure can be applied, whatever its message is, and what is
visible is the heading and the message. -/
theorem tags_failureMarkup {heading : List Char} (hheading : '\\' ∉ heading ∧ '[' ∉ heading)
    (message : String) :
    (tagsFrom 0 0 (styled "bold red" heading ++ ' ' :: escapeMarkup message.toList)).foldlM
        applyTag [] = .ok [] ∧
      visibleFrom false 0 (styled "bold red" heading ++ ' ' :: escapeMarkup message.toList) =
        heading ++ ' ' :: shownLast message.toList := by
  -- the tags around the heading, and none behind them
  have hmarkup : styled "bold red" heading ++ ' ' :: escapeMarkup message.toList =
      '[' :: ("bold red]".toList ++ (heading ++ '[' :: ("/bold red]".toList ++
        ' ' :: escapeMarkup message.toList))) := by
    have hopening : "bold red]".toList = "bold red".toList ++ [']'] := by decide
    have hclosing : "/bold red]".toList = '/' :: "bold red".toList ++ [']'] := by decide
    rw [hopening, hclosing]
    simp [styled]
  have hopening (rest : List Char) : tagBody? ("bold red]".toList ++ rest) =
    some "bold red".toList := rfl
  have hclosing (rest : List Char) : tagBody? ("/bold red]".toList ++ rest) =
    some ('/' :: "bold red".toList) := rfl
  have hbehind (position : ℕ) : tagsFrom 0 position (' ' :: escapeMarkup message.toList) = [] :=
    (tagsFrom_cons_of_ne (by decide) (by decide) 0 position).trans (tagsFrom_escapeMarkup _ _)
  refine ⟨?_, ?_⟩
  · have htags : ∃ position, tagsFrom 0 0 (styled "bold red" heading ++
        ' ' :: escapeMarkup message.toList) =
          [("bold red".toList, 0), ('/' :: "bold red".toList, position)] := by
      rw [hmarkup, tagsFrom_tag (hopening _) rfl, tagsFrom_append_of_notMem (by decide),
        tagsFrom_append_of_notMem hheading, tagsFrom_tag (hclosing _) rfl,
        tagsFrom_append_of_notMem (by decide), hbehind]
      exact ⟨_, rfl⟩
    obtain ⟨position, htags⟩ := htags
    rw [htags]
    exact bind_eq_ok.mpr ⟨_, applyTag_opening isNormalStyle_boldRed [] 0,
      bind_eq_ok.mpr ⟨_, applyTag_closing isNormalStyle_boldRed [] position, rfl⟩⟩
  · have hskipped (rest : List Char) :
      visibleFrom false 0 ('[' :: ("bold red]".toList ++ rest)) = visibleFrom false 0 rest := rfl
    have hskipped' (rest : List Char) :
      visibleFrom false 0 ('[' :: ("/bold red]".toList ++ rest)) = visibleFrom false 0 rest := rfl
    have hmessage : escapeMarkup message.toList = escapedFrom 0 message.toList ++ [] :=
      (List.append_nil _).symm
    rw [hmarkup, hskipped, visibleFrom_append_of_notMem hheading, hskipped', hmessage,
      ← List.singleton_append, visibleFrom_append_of_notMem (by decide),
      visibleFrom_escapedFrom_append isApart_nil]
    rfl

/-- A message without pictures is shown behind the heading of its failure. -/
theorem render_failureMarkup (request : Request) {message : String}
    (hpictures : screen.HasNoPictures message.toList) :
    render screen (styled "bold red" ("Error in " ++ request.command ++ ":").toList ++
        ' ' :: escapeMarkup message.toList) =
      .ok (("Error in " ++ request.command ++ ": ").toList ++ shownLast message.toList) := by
  have hcommand : ('\\' ∉ ("Error in " ++ request.command ++ ":").toList ∧
      '[' ∉ ("Error in " ++ request.command ++ ":").toList) ∧
        ("Error in " ++ request.command ++ ":").toList.count ':' ≤ 1 := by
    cases request <;> simp only [Request.command] <;> decide
  have hspace (heading : String) : (heading ++ ": ").toList = (heading ++ ":").toList ++ [' '] := by
    simp
  rw [hspace, List.append_assoc, List.singleton_append]
  generalize ("Error in " ++ request.command ++ ":").toList = heading at hcommand
  obtain ⟨hheading, hcolons⟩ := hcommand
  obtain ⟨htags, hvisible⟩ := tags_failureMarkup hheading message
  have hwhole : screen.HasNoPictures (heading ++ ' ' :: shownLast message.toList) :=
    .append_blank hcolons hpictures.shownLast
  rw [← hvisible] at hwhole ⊢
  exact render_eq_of_tags htags hwhole

/-- A label without opening brackets can be shown. -/
theorem exists_label_of_notMem {markup : List Char} (h : '[' ∉ markup) :
    ∃ tree, label screen markup = .ok tree := by
  obtain ⟨shown, hshown⟩ : ∃ shown, render screen markup = .ok shown := exists_render_of_notMem h
  exact ⟨_, by rw [label, hshown]; rfl⟩

/-- A whole number in base ten has no brackets. -/
theorem bracket_notMem_integerText (n : Int) : '[' ∉ integerText n := by
  have hdigits (n : ℕ) : '[' ∉ digits n := fun h =>
    absurd (Nat.isDigit_of_mem_toDigits (by decide) (by decide) h) (by decide)
  unfold integerText
  split_ifs
  · simp [hdigits]
  · exact hdigits _

/-- The findings of a scan can be shown if the name of their language has no opening brackets. -/
theorem exists_signals {found : ScanReport} (h : '[' ∉ found.language.toList) :
    ∃ tree, signals screen found = .ok tree := by
  have hheading : IsShown "magenta" "Signals".toList := by decide +kernel
  have hplain (start : String) {markup : List Char} (hstart : '[' ∉ start.toList)
      (hmarkup : '[' ∉ markup) : ∃ tree, label screen (start.toList ++ markup) = .ok tree :=
    exists_label_of_notMem (by simp [hstart, hmarkup])
  have hyesNo : '[' ∉ yesNo found.hasRecursion := by
    cases found.hasRecursion <;> decide
  obtain ⟨language, hlanguage⟩ := hplain "Language patterns: " (by decide) h
  obtain ⟨loops, hloops⟩ :=
    hplain "Loops: " (by decide) (bracket_notMem_integerText found.loopCount)
  obtain ⟨nesting, hnesting⟩ :=
    hplain "Max nesting: " (by decide) (bracket_notMem_integerText found.maxNesting)
  obtain ⟨recursion, hrecursion⟩ := hplain "Recursion signal: " (by decide) hyesNo
  exact ⟨_, by rw [signals, hheading.render_eq, hlanguage, hloops, hnesting, hrecursion]; rfl⟩

/-- The rank of a class can be shown. -/
theorem exists_rank (screen : Screen) (c : ComplexityClass) :
    ∃ level, Readout.level c.level = .ok level ∧
      ∃ tree, label screen (styled "cyan" ("Level: ".toList ++ level.toList)) = .ok tree := by
  have hall : ∀ c ∈ ComplexityClass.all, (do
      let level ← Readout.level c.level
      (tagsFrom 0 0 (styled "cyan" ("Level: ".toList ++ level.toList))).foldlM applyTag
        []).isOk = true := by
    decide +kernel
  obtain ⟨opened, hopened⟩ := isOk_iff_exists.mp (hall c c.mem_all)
  obtain ⟨level, hlevel, hopened⟩ := bind_eq_ok.mp hopened
  obtain ⟨shown, hshown⟩ : ∃ shown,
      render screen (styled "cyan" ("Level: ".toList ++ level.toList)) = .ok shown :=
    exists_render_of_tags hopened
  exact ⟨level, hlevel, _, by rw [label, hshown]; rfl⟩

/-- A report on a class can be made for every name of a source. -/
theorem exists_classification (c : ComplexityClass) (name : String) {report : Option ScanReport}
    (hreport : ∀ found ∈ report, '[' ∉ found.language.toList) :
    ∃ text, classification screen (.ofClass c) name report = .ok text := by
  obtain ⟨level, hlevel, third, hthird⟩ := exists_rank screen c
  obtain ⟨hfirst, hsecond⟩ := isShown_class c
  have hcomplexity := congrArg (Except.map Tree.leaf) (hfirst.render_eq screen)
  have hdescription := congrArg (Except.map Tree.leaf) (hsecond.render_eq screen)
  obtain ⟨opened, hopened⟩ := exists_tags_sourceMarkup name
  obtain ⟨heading, hheading⟩ : ∃ heading, render screen (sourceMarkup name) = .ok heading :=
    exists_render_of_tags hopened
  have htree : ∃ tree, classificationTree screen (.ofClass c) name report = .ok tree := by
    cases report with
    | none =>
      exact ⟨_, bind_eq_ok.mpr ⟨level, hlevel, bind_eq_ok.mpr ⟨heading, hheading,
        bind_eq_ok.mpr ⟨_, hcomplexity, bind_eq_ok.mpr ⟨_, hdescription,
          bind_eq_ok.mpr ⟨third, hthird, rfl⟩⟩⟩⟩⟩⟩
    | some found =>
      obtain ⟨branch, hbranch⟩ := exists_signals (hreport found rfl)
      exact ⟨_, bind_eq_ok.mpr ⟨level, hlevel, bind_eq_ok.mpr ⟨heading, hheading,
        bind_eq_ok.mpr ⟨_, hcomplexity, bind_eq_ok.mpr ⟨_, hdescription,
          bind_eq_ok.mpr ⟨third, hthird, bind_eq_ok.mpr ⟨branch, hbranch, rfl⟩⟩⟩⟩⟩⟩⟩
  obtain ⟨tree, htree⟩ := htree
  exact ⟨_, bind_eq_ok.mpr ⟨tree, htree, rfl⟩⟩

/-- What is visible of a line inside of a panel. -/
theorem visible_panelLine (columns : ℕ) (line : List Char) :
    visible (panelLine columns line) = '│' :: visible line ++ ['│'] := by
  have hspaces (count : ℕ) : visible (List.replicate count ' ') = [] :=
    visible_eq_nil fun c hc => List.eq_of_mem_replicate hc ▸ by decide
  have hpadded : visible (padRight (panelWidth columns) line) = visible line := by
    rw [padRight, visible_append, hspaces, List.append_nil]
  have hedge : visible ['│'] = ['│'] := by decide
  have hblanks : visible [' ', ' '] = [] := by decide
  have hsplit : panelLine columns line =
      ['│'] ++ [' ', ' '] ++ padRight (panelWidth columns) line ++ [' ', ' '] ++ ['│'] := by
    simp [panelLine, framed, indented]
  rw [hsplit, visible_append, visible_append, visible_append, visible_append, hedge, hblanks,
    hpadded, List.append_nil, List.append_nil]
  rfl

/-- A line inside of a panel has a line end only if the text in it has one. -/
theorem feed_notMem_panelLine {columns : ℕ} {line : List Char} (h : '\n' ∉ line) :
    '\n' ∉ panelLine columns line := by
  simp [panelLine, framed, indented, padRight, h]

/-- The third line of a report on a class is the first line of the heading. -/
theorem third_line_classification {c : ComplexityClass} {name : String}
    {report : Option ScanReport} {text first : List Char} {others : List (List Char)}
    (hpictures : screen.HasNoPictures name.toList)
    (htext : classification screen (.ofClass c) name report = .ok text)
    (hwrap : wrap (panelWidth screen.columns) ("Source: ".toList ++ shownBeforeTag name.toList) =
      first :: others)
    (hfirst : '\n' ∉ first) :
    (Text.lines text)[2]? = some (panelLine screen.columns first) := by
  obtain ⟨heading, behind, hheading, rfl⟩ := classification_eq_ok htext
  obtain rfl := Except.ok.inj ((render_sourceMarkup hpictures).symm.trans hheading)
  have hedge : '\n' ∉ titledEdge (screen.columns - 2) "COMPLEXITY ANALYSIS" :=
    feed_notMem_titledEdge (by decide) _
  have hblank : '\n' ∉ panelLine screen.columns [] := feed_notMem_panelLine List.not_mem_nil
  rw [headLines, hwrap]
  simp only [textOfLines, List.map_cons, List.cons_append, List.flatMap_cons, List.append_assoc,
    Text.lines, Text.splitAt_append_cons hedge, List.nil_append,
    Text.splitAt_append_cons hblank, Text.splitAt_append_cons (feed_notMem_panelLine hfirst)]
  rfl

/-- The line of a source in a report on a class is its name as it is exactly if the name keeps its
brackets and does not end with two backslashes. -/
theorem source_line_iff {c : ComplexityClass} {name : String} {report : Option ScanReport}
    {text : List Char} (hname : IsSingleWidth name.toList)
    (hpictures : screen.HasNoPictures name.toList)
    (hlength : ("Source: " ++ name).length ≤ panelWidth screen.columns)
    (htext : classification screen (.ofClass c) name report = .ok text) :
    (Text.lines text)[2]? = some (panelLine screen.columns ("Source: " ++ name).toList) ↔
      KeepsBrackets name.toList ∧ ¬['\\', '\\'] <:+ name.toList := by
  have hline : ("Source: " ++ name).toList = "Source: ".toList ++ name.toList := by simp
  have hstart : IsSingleWidth "Source: ".toList := isSingleWidth_of_ascii (by decide)
  have hshown : IsSingleWidth ("Source: ".toList ++ shownBeforeTag name.toList) :=
    isSingleWidth_append.mpr ⟨hstart, isSingleWidth_shownBeforeTag hname⟩
  obtain ⟨first, others, hwrap, hsubset, hprefix⟩ :=
    hshown.exists_first_line (panelWidth screen.columns)
  have hfeed : '\n' ∉ first := fun h => hshown.notMem (by decide) (hsubset h)
  rw [third_line_classification hpictures htext hwrap hfeed, Option.some.injEq, hline]
  constructor
  · intro hequal
    -- what is visible of the name is what is visible of the heading behind its start
    have hvisible := congrArg visible hequal
    rw [visible_panelLine, visible_panelLine] at hvisible
    have hfirst := (List.cons.inj (List.append_cancel_right hvisible)).2
    rw [hfirst, visible_append, visible_append, List.prefix_append_right_inj] at hprefix
    exact keeps_of_shownBeforeTag (by decide) (by decide) hprefix
  · rintro ⟨hbrackets, hend⟩
    have hfits : ("Source: ".toList ++ name.toList).length ≤ panelWidth screen.columns := by
      rw [← hline, String.length_toList]
      exact hlength
    rw [shownBeforeTag_eq_self hbrackets hend] at hwrap hshown
    rw [hshown.wrap_of_length_le hfits] at hwrap
    rw [(List.cons.inj hwrap).1]

/-- The line of a failure is its message as it is exactly if the message keeps its brackets and does
not end with a single backslash. -/
theorem failure_line_iff {request : Request} {cause : Failure} {text : List Char}
    (hmessage : IsSingleWidth cause.message.toList)
    (hpictures : screen.HasNoPictures cause.message.toList)
    (hlength : ("Error in " ++ request.command ++ ": " ++ cause.message).length ≤ screen.columns)
    (htext : failure screen request.command cause = .ok text) :
    text = ("Error in " ++ request.command ++ ": " ++ cause.message ++ "\n").toList ↔
      KeepsBrackets cause.message.toList ∧
        (['\\'] <:+ cause.message.toList → ['\\', '\\'] <:+ cause.message.toList) := by
  obtain ⟨shown, hshown, htext⟩ := bind_eq_ok.mp htext
  obtain rfl := Except.ok.inj ((render_failureMarkup request hpictures).symm.trans hshown)
  obtain rfl := Except.ok.inj htext
  have hstart : IsSingleWidth ("Error in " ++ request.command ++ ": ").toList := by
    apply isSingleWidth_of_ascii
    cases request <;> simp only [Request.command] <;> decide
  generalize "Error in " ++ request.command ++ ": " = start at hlength hstart
  have hline : (start ++ cause.message ++ "\n").toList =
    start.toList ++ cause.message.toList ++ ['\n'] := by simp
  have hsingle : IsSingleWidth (start.toList ++ shownLast cause.message.toList) :=
    isSingleWidth_append.mpr ⟨hstart, isSingleWidth_shownLast hmessage⟩
  rw [hline]
  constructor
  · intro hequal
    have hlines (lines : List (List Char)) :
        visible (textOfLines lines) = visible lines.flatten := by
      induction lines with
      | nil => rfl
      | cons line lines ih =>
        have hfeed : visible ['\n'] = [] := by decide
        rw [textOfLines, List.flatMap_cons, ← textOfLines, visible_append, visible_append, ih,
          hfeed, List.append_nil, List.flatten_cons, visible_append]
    have hvisible := congrArg visible hequal
    have hfeed : visible ['\n'] = [] := by decide
    rw [hlines, hsingle.visible_flatten_wrap, visible_append, visible_append, visible_append, hfeed,
      List.append_nil, List.append_cancel_left_eq] at hvisible
    exact keeps_of_shownLast (by decide) (by decide) hvisible.symm
  · rintro ⟨hbrackets, hend⟩
    have hfits : (start.toList ++ cause.message.toList).length ≤ screen.columns := by
      rw [← String.toList_append, String.length_toList]
      exact hlength
    rw [shownLast_eq_self hbrackets hend] at hsingle ⊢
    rw [hsingle.wrap_of_length_le hfits]
    simp [textOfLines]

/-- A name and a message from outside that have no pictures, take one place for each character and
fit into their lines are reported, and they are shown as they are unless they have a backslash in
front of a bracket that begins no tag, or end in backslashes that are lost or doubled: two or more
behind a name, and a single one behind a message. -/
theorem outside_text_shown_iff (screen : Screen) (c : ComplexityClass) (name : String)
    {report : Option ScanReport} (hreport : ∀ found ∈ report, '[' ∉ found.language.toList)
    (request : Request) (cause : Failure) :
    (IsSingleWidth name.toList → screen.HasNoPictures name.toList →
      ("Source: " ++ name).length ≤ panelWidth screen.columns →
      ∃ text, classification screen (.ofClass c) name report = .ok text ∧
        ((Text.lines text)[2]? = some (panelLine screen.columns ("Source: " ++ name).toList) ↔
          KeepsBrackets name.toList ∧ ¬['\\', '\\'] <:+ name.toList)) ∧
    (IsSingleWidth cause.message.toList → screen.HasNoPictures cause.message.toList →
      ("Error in " ++ request.command ++ ": " ++ cause.message).length ≤ screen.columns →
      ∃ text, failure screen request.command cause = .ok text ∧
        (text = ("Error in " ++ request.command ++ ": " ++ cause.message ++ "\n").toList ↔
          KeepsBrackets cause.message.toList ∧
            (['\\'] <:+ cause.message.toList → ['\\', '\\'] <:+ cause.message.toList))) := by
  refine ⟨fun hname hpictures hlength => ?_, fun hmessage hpictures hlength => ?_⟩
  · obtain ⟨text, htext⟩ := exists_classification c name hreport
    exact ⟨text, htext, source_line_iff hname hpictures hlength htext⟩
  · have htext : ∃ text, failure screen request.command cause = .ok text :=
      ⟨_, bind_eq_ok.mpr ⟨_, render_failureMarkup request hpictures, rfl⟩⟩
    obtain ⟨text, htext⟩ := htext
    exact ⟨text, htext, failure_line_iff hmessage hpictures hlength htext⟩

/-- A name in brackets with a single backslash at its end is shown as it is, and so is a message
about a file with brackets in its name. -/
theorem outside_text_shown_iff_brackets :
    let cause : Failure := .source (.missing "[a].js")
    let screen : Screen := .usual
    IsSingleWidth "[a]\\".toList ∧ screen.HasNoPictures "[a]\\".toList ∧
      ("Source: " ++ "[a]\\").length ≤ panelWidth screen.columns ∧
      IsSingleWidth cause.message.toList ∧ screen.HasNoPictures cause.message.toList ∧
      ("Error in " ++ Request.languages.command ++ ": " ++ cause.message).length ≤
        screen.columns ∧
      (∃ text, classification screen (.ofClass .linear) "[a]\\" none = .ok text ∧
        (Text.lines text)[2]? = some (panelLine screen.columns "Source: [a]\\".toList)) ∧
      failure screen Request.languages.command cause =
        .ok "Error in languages: Source file not found: [a].js\n".toList := by
  intro cause screen
  have hname : IsSingleWidth "[a]\\".toList := isSingleWidth_of_ascii (by decide)
  have hlength : ("Source: " ++ "[a]\\").length ≤ panelWidth screen.columns := by decide
  have hmessage : IsSingleWidth cause.message.toList := isSingleWidth_of_ascii (by decide)
  have hfits : ("Error in " ++ Request.languages.command ++ ": " ++ cause.message).length ≤
    screen.columns := by decide
  have hpictures (text : List Char) : screen.HasNoPictures text := fun _ _ _ => rfl
  have hbrackets : KeepsBrackets "[a]\\".toList := by
    have hchars : "[a]\\".toList = ['[', 'a', ']', '\\'] := by decide
    have hempty : KeepsBrackets [] := keepsBrackets_backslashes 0
    simp [hchars, keepsBrackets_cons, hempty]
  have hplain : KeepsBrackets cause.message.toList := keepsBrackets_of_notMem (by decide)
  have hreport : ∀ found ∈ (none : Option ScanReport), '[' ∉ found.language.toList := nofun
  obtain ⟨hsource, hfailure⟩ :=
    outside_text_shown_iff screen .linear "[a]\\" hreport .languages cause
  obtain ⟨text, htext, hline⟩ := hsource hname (hpictures _) hlength
  obtain ⟨shown, hshown, hwhole⟩ := hfailure hmessage (hpictures _) hfits
  refine ⟨hname, hpictures _, hlength, hmessage, hpictures _, hfits,
    ⟨text, htext, hline.mpr ⟨hbrackets, by decide⟩⟩, ?_⟩
  rw [hshown, hwhole.mpr ⟨hplain, by decide⟩]
  rfl

/-- A name loses the backslash in front of a bracket that begins no tag, and a message gets a second
one at its end. -/
theorem outside_text_changed :
    let cause : Failure := .source (.missing "a\\")
    let screen : Screen := .usual
    (IsSingleWidth "a\\[1]".toList ∧ screen.HasNoPictures "a\\[1]".toList ∧
      ("Source: " ++ "a\\[1]").length ≤ panelWidth screen.columns ∧
      ∃ text, classification screen (.ofClass .constant) "a\\[1]" none = .ok text ∧
        (Text.lines text)[2]? = some (panelLine screen.columns "Source: a[1]".toList)) ∧
    IsSingleWidth cause.message.toList ∧ screen.HasNoPictures cause.message.toList ∧
      ("Error in analyze: " ++ cause.message).length ≤ screen.columns ∧
      failure screen "analyze" cause =
        .ok "Error in analyze: Source file not found: a\\\\\n".toList := by
  intro cause screen
  have hpictures (text : List Char) : screen.HasNoPictures text := fun _ _ _ => rfl
  refine ⟨⟨isSingleWidth_of_ascii (by decide), hpictures _, by decide, ?_⟩,
    isSingleWidth_of_ascii (by decide), hpictures _, by decide, by decide +kernel⟩
  have hreport : ∀ found ∈ (none : Option ScanReport), '[' ∉ found.language.toList := nofun
  obtain ⟨text, htext⟩ := exists_classification .constant "a\\[1]" hreport
  have hwrap : wrap (panelWidth screen.columns)
      ("Source: ".toList ++ shownBeforeTag "a\\[1]".toList) = ["Source: a[1]".toList] := by
    decide +kernel
  exact ⟨text, htext, third_line_classification (hpictures _) htext hwrap (by decide)⟩

end Report

end OrderOfGrowth

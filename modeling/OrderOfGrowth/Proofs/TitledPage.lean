import Mathlib.Data.List.Infix
import OrderOfGrowth.Proofs.ChartPage
import OrderOfGrowth.Proofs.LowerCase

/-!
# The title of a page

The title is the one text of a page that can be chosen freely. It stands in two elements, the title
and the heading, with entities in place of the characters that mean something on a page. A reader
who looks for the first opening tag of an element and then for the first closing tag finds exactly
this text in both of them: what stands in front has no such tag, and the text has no bracket at all.
All that lies around the two elements is the same under every title, and so no title can end its
element, begin another one or add a tag or a quotation mark to the page.
-/

namespace OrderOfGrowth

namespace Text

variable {mark front back content : List Char} {name : String} {c : Char}

/-- A word without line feeds stands in lines with a text behind them exactly if it stands in one of
the lines or in this text. -/
theorem infix_flatMap_append_iff {word : List Char} (hword : '\n' ∉ word)
    (lines : List (List Char)) (rest : List Char) :
    word <:+: lines.flatMap (· ++ ['\n']) ++ rest ↔
      (∃ line ∈ lines, word <:+: line) ∨ word <:+: rest := by
  induction lines with
  | nil => simp
  | cons line lines ih =>
    rw [List.flatMap_cons, List.append_assoc, List.append_assoc, List.singleton_append,
      infix_append_cons_iff hword, ih]
    simp [or_assoc]

/-- A text cut at the first place where a mark stands, with what is in front of the mark and what is
behind it. -/
def cutAt? (mark : List Char) : List Char → Option (List Char × List Char)
  | [] => if mark = [] then some ([], []) else none
  | c :: rest =>
    if mark.isPrefixOf (c :: rest) then some ([], (c :: rest).drop mark.length)
    else (cutAt? mark rest).map fun (front, back) => (c :: front, back)

/-- A text that begins with a mark is cut there. -/
theorem cutAt?_self_append (hmark : mark ≠ []) (back : List Char) :
    cutAt? mark (mark ++ back) = some ([], back) := by
  cases mark with
  | nil => exact absurd rfl hmark
  | cons m mark =>
    rw [List.cons_append, cutAt?, ← List.cons_append,
      if_pos (List.isPrefixOf_iff_prefix.mpr (List.prefix_append _ _)), List.drop_left]

/-- A text that does not begin with a mark is cut behind its first character. -/
theorem cutAt?_cons_of_not_prefix {rest : List Char} (h : ¬mark <+: c :: rest) :
    cutAt? mark (c :: rest) = (cutAt? mark rest).map fun (front, back) => (c :: front, back) := by
  rw [cutAt?, if_neg fun hprefix => h (List.isPrefixOf_iff_prefix.mp hprefix)]

/-- A text is cut at a mark that does not stand earlier, not even in part of itself. -/
theorem cutAt?_append (h : ¬mark <:+: front ++ mark.dropLast) (back : List Char) :
    cutAt? mark (front ++ (mark ++ back)) = some (front, back) := by
  have hmark : mark ≠ [] := by
    rintro rfl
    exact h List.nil_infix
  induction front with
  | nil => exact cutAt?_self_append hmark back
  | cons c front ih =>
    have hrest : ¬mark <:+: front ++ mark.dropLast := fun hlater =>
      h (hlater.trans (List.suffix_cons c _).isInfix)
    rw [List.cons_append, cutAt?_cons_of_not_prefix, ih hrest]
    · rfl
    · -- the mark would end before the last character of the one that is there
      intro hprefix
      have hlonger : c :: (front ++ mark.dropLast) <+: c :: (front ++ (mark ++ back)) := by
        rw [List.cons_prefix_cons, List.prefix_append_right_inj]
        exact ⟨rfl, mark.dropLast_prefix.trans (List.prefix_append _ _)⟩
      refine h (List.prefix_of_prefix_length_le hprefix hlonger ?_).isInfix
      rw [List.length_cons, List.length_append, List.length_dropLast]
      omega

/-- A text without the first character of a mark is in front of it. -/
theorem cutAt?_append_of_not_mem (h : c ∉ front) (mark back : List Char) :
    cutAt? (c :: mark) (front ++ (c :: mark ++ back)) = some (front, back) := by
  induction front with
  | nil => exact cutAt?_self_append (List.cons_ne_nil c mark) back
  | cons d front ih =>
    rw [List.mem_cons, not_or] at h
    rw [List.cons_append, cutAt?_cons_of_not_prefix, ih h.2]
    · rfl
    · exact fun hprefix => h.1 (List.cons_prefix_cons.mp hprefix).1

/-- The tag that opens an element. -/
def openingTag (name : String) : List Char := '<' :: name.toList ++ ['>']

/-- The tag that closes an element. -/
def closingTag (name : String) : List Char := '<' :: '/' :: name.toList ++ ['>']

/-- An element with its content. -/
def element (name : String) (content : List Char) : List Char :=
  openingTag name ++ content ++ closingTag name

/-- The first element with a name on a page, up to the first tag that closes it: what is in front of
it, its content, and what is behind it. -/
def cutElement? (name : String) (page : List Char) :
    Option (List Char × List Char × List Char) := do
  let (front, rest) ← cutAt? (openingTag name) page
  let (content, back) ← cutAt? (closingTag name) rest
  return (front, content, back)

/-- An element is found behind a text without its tag if its content has no bracket. -/
theorem cutElement?_append
    (hfront : ¬openingTag name <:+: front ++ (openingTag name).dropLast) (hcontent : '<' ∉ content)
    (back : List Char) :
    cutElement? name (front ++ (element name content ++ back)) = some (front, content, back) := by
  unfold cutElement? element
  rw [List.append_assoc, List.append_assoc, cutAt?_append hfront, Option.bind_eq_bind,
    Option.bind_some]
  dsimp only
  rw [closingTag, List.cons_append, cutAt?_append_of_not_mem hcontent]
  rfl

end Text

open Text

namespace PageParts

/-- The page on nothing. -/
def blank : PageParts := ⟨[], [], [], [], [], [], [], []⟩

/-- The lines in front of the title of every page. -/
def linesAboveTitle : List (List Char) := blank.lines.take 5

/-- The lines between the title and the heading of every page, after what is left of the line of the
title. -/
def linesAboveHeading : List (List Char) := [] :: (blank.lines.drop 6).take 12

/-- The lines below the heading of a page, after what is left of the line of the heading. -/
def linesBelowHeading (parts : PageParts) : List (List Char) := [] :: parts.lines.drop 19

/-- What a line with the title or the heading begins with. -/
def indentation : List Char := List.replicate 4 ' '

/-- What is in front of an indented element below some lines. -/
def beforeIndented (lines : List (List Char)) : List Char :=
  lines.flatMap (· ++ ['\n']) ++ indentation

/-- The title and the heading are two of the lines of a page. -/
theorem lines_eq (parts : PageParts) :
    parts.lines = linesAboveTitle ++ (indentation ++ element "title" parts.title) ::
      (linesAboveHeading.tail ++ (indentation ++ element "h1" parts.title) ::
        parts.linesBelowHeading.tail) := by
  have hline {name first last : String} (hfirst : first.toList = indentation ++ openingTag name)
      (hlast : last.toList = closingTag name) :
      indentation ++ element name parts.title = first.toList ++ parts.title ++ last.toList := by
    rw [hfirst, hlast, element, ← List.append_assoc, ← List.append_assoc]
  have htitle := @hline "title" "    <title>" "</title>" (by decide) (by decide)
  have hheading := @hline "h1" "    <h1>" "</h1>" (by decide) (by decide)
  rw [htitle, hheading]
  rfl

/-- A page has its title in two elements. -/
theorem text_eq (parts : PageParts) :
    parts.text = beforeIndented linesAboveTitle ++ (element "title" parts.title ++
      (beforeIndented linesAboveHeading ++ (element "h1" parts.title ++
        parts.linesBelowHeading.flatMap (· ++ ['\n'])))) := by
  have hrest {lines : List (List Char)} : ([] :: lines).flatMap (· ++ ['\n']) =
      '\n' :: lines.flatMap (· ++ ['\n']) := rfl
  have hheading : linesAboveHeading = [] :: linesAboveHeading.tail := rfl
  have hbelow : parts.linesBelowHeading = [] :: parts.linesBelowHeading.tail := rfl
  rw [text, lines_eq, hheading, hbelow, List.tail_cons, List.tail_cons]
  -- what the lines say makes no difference, and they would be looked into otherwise
  generalize linesAboveTitle = above
  generalize linesAboveHeading.tail = between
  generalize parts.linesBelowHeading.tail = below
  simp only [beforeIndented, hrest, List.flatMap_append, List.flatMap_cons, List.append_assoc,
    List.cons_append, List.nil_append]

/-- An opening tag is the first of its kind behind lines that do not have it. -/
theorem not_infix_beforeIndented {lines : List (List Char)} {name : String}
    (hname : '\n' ∉ openingTag name)
    (hindented : ¬openingTag name <:+: indentation ++ (openingTag name).dropLast)
    (hlines : ∀ line ∈ lines, ¬openingTag name <:+: line) :
    ¬openingTag name <:+: beforeIndented lines ++ (openingTag name).dropLast := by
  rw [beforeIndented, List.append_assoc, infix_flatMap_append_iff hname]
  rintro (⟨line, hline, hstands⟩ | hstands)
  · exact hlines line hline hstands
  · exact hindented hstands

/-- The opening tag of the title is the first of its kind on a page. -/
theorem not_infix_aboveTitle :
    ¬openingTag "title" <:+: beforeIndented linesAboveTitle ++ (openingTag "title").dropLast := by
  refine not_infix_beforeIndented (by decide) (by decide) ?_
  unfold linesAboveTitle lines
  simp only [List.take_succ_cons, List.take_zero, List.forall_mem_cons]
  and_intros <;> first | (rw [String.toList_ofList]; decide +kernel) | simp

/-- The opening tag of the heading is the first of its kind behind the title. -/
theorem not_infix_aboveHeading :
    ¬openingTag "h1" <:+: beforeIndented linesAboveHeading ++ (openingTag "h1").dropLast := by
  refine not_infix_beforeIndented (by decide) (by decide) ?_
  unfold linesAboveHeading lines
  simp only [List.drop_succ_cons, List.drop_zero, List.take_succ_cons, List.take_zero,
    List.forall_mem_cons]
  and_intros <;> first | (rw [String.toList_ofList]; decide +kernel) | simp [openingTag]

end PageParts

namespace Chart

open PageParts

/-- The title of a page is all that its parts take from the title. -/
theorem pageParts_eq_map (chart : Chart) (title : String) :
    chart.pageParts title = (chart.pageParts "").map fun parts =>
      { parts with title := escapeEntities title.toList } := by
  unfold pageParts
  simp only [map_bind_eq]
  rfl

/-- What a page shows of a chart can be made: its lines and its ceiling as they are written, and its
measurements and limit as people read them. -/
structure IsShowable (chart : Chart) : Prop where
  datasets : ∃ lines, chart.datasets = .ok lines ∧
    (Json.list (lines.map Dataset.toJson)).isWritable = true
  memoryNote : ∃ text, Readout.memoryNote chart.memoryLimit = .ok text
  runtime : ∃ text, Readout.runtime chart.runtime = .ok text
  memory : ∃ text, Readout.memory (Json.ofOption chart.memory) = .ok text
  ceiling : chart.ceiling.isWritable = true

/-- A chart has the parts of a page if what the page shows can be made. -/
theorem IsShowable.exists_pageParts {chart : Chart} (h : chart.IsShowable) (title : String) :
    ∃ parts, chart.pageParts title = .ok parts := by
  obtain ⟨lines, hlines, hwritten⟩ := h.datasets
  obtain ⟨note, hnote⟩ := h.memoryNote
  obtain ⟨runtime, hruntime⟩ := h.runtime
  obtain ⟨memory, hmemory⟩ := h.memory
  exact ⟨_, pageParts_eq_ok.mpr ⟨lines, note, runtime, memory, hlines, hwritten, hnote, hruntime,
    hmemory, h.ceiling, rfl⟩⟩

/-- What the page shows can be made of a chart that has the parts of a page. -/
theorem isShowable_of_pageParts {chart : Chart} {title : String} {parts : PageParts}
    (h : chart.pageParts title = .ok parts) : chart.IsShowable := by
  obtain ⟨lines, note, runtime, memory, hlines, hwritten, hnote, hruntime, hmemory, hceiling, -⟩ :=
    pageParts_eq_ok.mp h
  exact ⟨⟨lines, hlines, hwritten⟩, ⟨note, hnote⟩, ⟨runtime, hruntime⟩, ⟨memory, hmemory⟩, hceiling⟩

/-- If what a page shows of a chart can be made, then so can the page, under every title, and the
pages are the same but for the contents of two elements, which are the first title and the first
heading behind it: what is found there is the escaped title, from which every reader of entities
gets the title back. No title adds an angle bracket or a quotation mark. Otherwise no page can be
made, and for the same reason under all titles. -/
theorem page_differs_only_in_title (chart : Chart) :
    (¬chart.IsShowable → ∃ failure, ∀ title, chart.page title = .error failure) ∧
    (chart.IsShowable → ∃ front middle back, ∀ title,
      let text := escapeEntities title.toList
      let rest := middle ++ (element "h1" text ++ back)
      let page := front ++ (element "title" text ++ rest)
      chart.page title = .ok page ∧
      cutElement? "title" page = some (front, text, rest) ∧
      cutElement? "h1" rest = some (middle, text, back) ∧
      (∀ mark ∈ ['<', '>', '"', '\''], page.count mark =
        (front ++ (element "title" [] ++ (middle ++ (element "h1" [] ++ back)))).count mark) ∧
      ∀ reader : EntityReader, reader.read text = title.toList) := by
  constructor
  · intro hnone
    cases hparts : chart.pageParts "" with
    | error failure =>
      refine ⟨failure, fun title => ?_⟩
      rw [page, pageParts_eq_map, hparts]
      rfl
    | ok parts => exact absurd (isShowable_of_pageParts hparts) hnone
  · intro hshowable
    obtain ⟨parts, hparts⟩ := hshowable.exists_pageParts ""
    refine ⟨beforeIndented linesAboveTitle, beforeIndented linesAboveHeading,
      parts.linesBelowHeading.flatMap (· ++ ['\n']), fun title => ?_⟩
    intro text rest page
    have hmarks : ∀ mark ∈ ['<', '>', '"', '\''], text.count mark = 0 := by
      intro mark hmark
      exact List.count_eq_zero.mpr (not_mem_escapeEntities _ (by simpa using hmark))
    have hbracket : '<' ∉ text := not_mem_escapeEntities _ (Or.inl rfl)
    refine ⟨?_, cutElement?_append not_infix_aboveTitle hbracket rest,
      cutElement?_append not_infix_aboveHeading hbracket _, fun mark hmark => ?_,
      fun reader => reader.read_escapeEntities _⟩
    · rw [Chart.page, pageParts_eq_map, hparts]
      exact congrArg Except.ok (text_eq _)
    · simp only [page, rest, element, List.count_append, hmarks mark hmark, List.count_nil]

/-- A title with a closing tag, a written entity and a quotation mark is found whole in both places.
-/
theorem page_differs_only_in_title_closing_tag :
    let chart : Chart := ⟨.cubic, [], none, none, .null, .number (.int 100), .int 1, .int 1⟩
    let text := "&lt;/title&gt;&amp;lt;&quot;".toList
    chart.IsShowable ∧ ∃ front middle back page, chart.page "</title>&lt;\"" = .ok page ∧
      cutElement? "title" page = some (front, text, middle ++ (element "h1" text ++ back)) ∧
      cutElement? "h1" (middle ++ (element "h1" text ++ back)) = some (middle, text, back) ∧
      readEntities text = "</title>&lt;\"".toList := by
  intro chart text
  have hshowable : chart.IsShowable := ⟨⟨_, rfl, rfl⟩, ⟨_, rfl⟩, ⟨_, rfl⟩, ⟨_, rfl⟩, rfl⟩
  have htext : escapeEntities "</title>&lt;\"".toList = text := by decide
  obtain ⟨front, middle, back, hpages⟩ := (page_differs_only_in_title chart).2 hshowable
  obtain ⟨hpage, htitle, hheading, -, hread⟩ := hpages "</title>&lt;\""
  rw [htext] at hpage htitle hheading hread
  exact ⟨hshowable, front, middle, back, _, hpage, htitle, hheading, hread .standard⟩

end Chart

end OrderOfGrowth

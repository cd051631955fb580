import OrderOfGrowth.Proofs.CurveTable
import OrderOfGrowth.Proofs.Effects

/-!
# Spellings of labels

A class is found by its label after the blanks around the text have been taken off and a caret with
a two or a three has been replaced by a superscript. Which texts become a label in this way is found
by going backwards: the texts that a replacement turns into a word can be listed along the word, as
each of its characters is itself, unless the replacement would have taken it, or it is what a pair
was replaced by. What comes out for the eight labels are their spellings and nothing else. The table
of curves then takes exactly these texts, and marks the column of the class that they name.
-/

namespace OrderOfGrowth

namespace Text

variable {first second replacement : Char} {text word : List Char} {c : Char}

/-- The texts in which replacing every occurrence of two characters leaves a word. -/
def preimages (first second replacement : Char) : List Char → List (List Char)
  | [] => [[]]
  | c :: word =>
    let rests := preimages first second replacement word
    (if c = replacement then rests.map fun rest => first :: second :: rest else []) ++
      (rests.filter fun rest => ¬(c = first ∧ rest.head? = some second)).map (c :: ·)

/-- What a word with a first character is left from: the character was there, and did not begin a
pair, or it has replaced a pair. -/
theorem replacePair_eq_cons_iff :
    replacePair first second replacement text = c :: word ↔
      (∃ rest, text = first :: second :: rest ∧ c = replacement ∧
        replacePair first second replacement rest = word) ∨
      ∃ rest, text = c :: rest ∧ ¬(c = first ∧ rest.head? = some second) ∧
        replacePair first second replacement rest = word := by
  match text with
  | [] => simp [replacePair]
  | [a] =>
    simp only [replacePair, List.cons.injEq, List.nil_eq, reduceCtorEq, and_false, false_and,
      exists_false, false_or]
    constructor
    · rintro ⟨rfl, rfl⟩
      exact ⟨[], ⟨rfl, rfl⟩, by simp, rfl⟩
    · rintro ⟨_, ⟨rfl, rfl⟩, -, rfl⟩
      exact ⟨rfl, rfl⟩
  | a :: b :: rest =>
    rw [replacePair]
    split_ifs with hpair
    · obtain ⟨rfl, rfl⟩ := hpair
      rw [List.cons.injEq]
      constructor
      · rintro ⟨rfl, hrest⟩
        exact Or.inl ⟨rest, rfl, rfl, hrest⟩
      · rintro (⟨_, ⟨⟩, rfl, hrest⟩ | ⟨_, ⟨⟩, hfree, -⟩)
        · exact ⟨rfl, hrest⟩
        · exact absurd ⟨rfl, rfl⟩ hfree
    · rw [List.cons.injEq]
      constructor
      · rintro ⟨rfl, hrest⟩
        refine Or.inr ⟨b :: rest, rfl, ?_, hrest⟩
        rwa [List.head?_cons, Option.some.injEq]
      · rintro (⟨_, ⟨⟩, -, -⟩ | ⟨_, ⟨⟩, -, hrest⟩)
        · exact absurd ⟨rfl, rfl⟩ hpair
        · exact ⟨rfl, hrest⟩

/-- The texts that are listed for a word are those in which replacing leaves the word. -/
theorem mem_preimages_iff :
    text ∈ preimages first second replacement word ↔
      replacePair first second replacement text = word := by
  induction word generalizing text with
  | nil =>
    rw [preimages, List.mem_singleton]
    constructor
    · rintro rfl
      rfl
    · -- replacing leaves something of every text that has something
      fun_cases replacePair first second replacement text <;> simp_all
  | cons c word ih =>
    rw [replacePair_eq_cons_iff, preimages, List.mem_append]
    refine or_congr ?_ ?_
    · split_ifs with hreplaced
      · simp [hreplaced, ih, eq_comm, and_comm]
      · simp [hreplaced]
    · simp only [List.mem_map, List.mem_filter, ih, decide_eq_true_eq, and_assoc]
      constructor
      · rintro ⟨rest, hrest, hfree, rfl⟩
        exact ⟨rest, rfl, hfree, hrest⟩
      · rintro ⟨rest, rfl, hfree, hrest⟩
        exact ⟨rest, hrest, hfree, rfl⟩

end Text

namespace ComplexityClass

/-- A text with a caret and a digit in place of each superscript. -/
def withCaret (superscript digit : Char) (text : List Char) : List Char :=
  text.flatMap fun c => if c = superscript then ['^', digit] else [c]

/-- A spelling of a class: its label, or its label with the superscript two or the superscript three
written with a caret. -/
def IsSpelling (c : ComplexityClass) (text : List Char) : Prop :=
  text = c.label.toList ∨ text = withCaret '²' '2' c.label.toList ∨
    text = withCaret '³' '3' c.label.toList

instance (c : ComplexityClass) (text : List Char) : Decidable (c.IsSpelling text) :=
  inferInstanceAs (Decidable (_ ∨ _ ∨ _))

/-- The texts in which the two replacements leave the label of a class. -/
def labelPreimages (c : ComplexityClass) : List (List Char) :=
  (Text.preimages '^' '3' '³' c.label.toList).flatMap (Text.preimages '^' '2' '²')

/-- They are the spellings of the class. -/
theorem mem_labelPreimages_iff {c : ComplexityClass} {text : List Char} :
    text ∈ c.labelPreimages ↔ c.IsSpelling text := by
  have hspelled : ∀ text ∈ c.labelPreimages, c.IsSpelling text := by cases c <;> decide
  have hlisted : c.label.toList ∈ c.labelPreimages ∧
      withCaret '²' '2' c.label.toList ∈ c.labelPreimages ∧
      withCaret '³' '3' c.label.toList ∈ c.labelPreimages := by cases c <;> decide
  refine ⟨hspelled text, ?_⟩
  rintro (rfl | rfl | rfl)
  · exact hlisted.1
  · exact hlisted.2.1
  · exact hlisted.2.2

example : quadratic.labelPreimages = ["O(n^2)".toList, "O(n²)".toList] := by decide

/-- A text in its usual spelling is the label of a class exactly if it is a spelling of the class
between blanks. -/
theorem normalLabel_eq_label_iff {text : List Char} {c : ComplexityClass} :
    normalLabel text = c.label.toList ↔ c.IsSpelling (Text.trim text) := by
  rw [← mem_labelPreimages_iff, labelPreimages, List.mem_flatMap]
  simp only [Text.mem_preimages_iff, exists_eq_right']
  rfl

/-- The class that is found for a text is the one that the text is a spelling of. -/
theorem ofLabel?_eq_some_iff {label : String} {c : ComplexityClass} :
    ofLabel? label = some c ↔ c.IsSpelling (Text.trim label.toList) := by
  rw [← normalLabel_eq_label_iff, ofLabel?]
  constructor
  · intro h
    have hlabels := List.find?_some h
    exact (beq_iff_eq.mp hlabels).symm
  · intro h
    rw [h]
    cases hfound : all.find? (·.label.toList == c.label.toList) with
    | none => exact absurd (beq_self_eq_true _) (List.find?_eq_none.mp hfound c c.mem_all)
    | some d =>
      have hlabels := List.find?_some hfound
      rw [label_injective (String.toList_injective (beq_iff_eq.mp hlabels))]

/-- No class is found for a text that is no spelling. -/
theorem ofLabel?_eq_none_iff {label : String} :
    ofLabel? label = none ↔ ∀ c : ComplexityClass, ¬c.IsSpelling (Text.trim label.toList) := by
  simp only [← ofLabel?_eq_some_iff, Option.eq_none_iff_forall_ne_some, ne_eq]

/-- A text is taken for a class exactly if it is a spelling of the class. -/
theorem ofLabel_eq_ok_iff {label : String} {c : ComplexityClass} :
    ofLabel label = .ok c ↔ c.IsSpelling (Text.trim label.toList) := by
  rw [← ofLabel?_eq_some_iff, ofLabel]
  cases ofLabel? label <;> simp

/-- A text is refused exactly if it is no spelling, and then it is named. -/
theorem ofLabel_eq_error_iff {label : String} {failure : Failure} :
    ofLabel label = .error failure ↔
      (∀ c : ComplexityClass, ¬c.IsSpelling (Text.trim label.toList)) ∧
        failure = .unknownClass label := by
  rw [← ofLabel?_eq_none_iff, ofLabel]
  cases ofLabel? label <;> simp [eq_comm]

end ComplexityClass

/-- The header of the class whose label is highlighted is marked, and no other one. -/
theorem Report.classHeader_some_label (c d : ComplexityClass) :
    classHeader (some c.label) d =
      if d = c then d.label.toList ++ highlightMark.toList else d.label.toList := by
  unfold classHeader
  by_cases h : d = c
  · rw [if_pos h, if_pos (by rw [h])]
  · rw [if_neg h, if_neg]
    exact fun hlabels => h (ComplexityClass.label_injective (Option.some.inj hlabels).symm)

namespace Command

variable {options : Options} {request : CurvesRequest} {label : String}
  {highlighted : Option String} {size : Quantity} {failure : Failure}

/-- The rows of the table of all curves up to a size that a request asks for. -/
def curvesRows (options : Options) (request : CurvesRequest) (size : Quantity) :
    Except Failure (List (List (List Char))) := do
  let family ← Curve.family (← size.truncate)
  let chart ← options.config.chart.require "value_ceiling"
  let displayed ← family.mapM (·.displayed chart.valueCeiling (.int request.step))
  Report.curveRows displayed

/-- The report on all curves up to a size that a request asks for, with a label highlighted. -/
def curvesText (screen : Terminal.Screen) (options : Options) (request : CurvesRequest)
    (size : Quantity) (highlighted : Option String) : Except Failure (List Char) := do
  let family ← Curve.family (← size.truncate)
  let chart ← options.config.chart.require "value_ceiling"
  Report.curveReport screen family highlighted (.int request.step) chart.valueCeiling

/-- Prints the table of all curves up to a size with a label highlighted. -/
def printTable (options : Options) (request : CurvesRequest) (size : Quantity)
    (highlighted : Option String) : Action Unit := do
  let screen := (← Action.surroundings).screen
  let rows ← Action.lift (curvesRows options request size)
  Action.print (Terminal.textOfLines ((Report.classTable highlighted rows).lines screen.columns))

/-- What is highlighted makes no difference to the rows of a report. -/
theorem curvesText_eq_map (screen : Terminal.Screen) :
    curvesText screen options request size highlighted =
      (curvesRows options request size).map fun rows =>
        Terminal.textOfLines ((Report.classTable highlighted rows).lines screen.columns) := by
  unfold curvesText curvesRows
  simp only [map_bind_eq]
  refine bind_congr_of_ok fun count _ => bind_congr_of_ok fun family hfamily =>
    bind_congr_of_ok fun chart _ => ?_
  rw [Report.curveReport_eq_map hfamily, map_bind_eq]

/-- A text is highlighted as the label of the class that it is a spelling of. -/
theorem highlightedLabel_of_isSpelling {c : ComplexityClass} (hlabel : label ≠ "")
    (h : c.IsSpelling (Text.trim label.toList)) :
    highlightedLabel (some label) = .ok (some c.label) := by
  unfold highlightedLabel
  rw [Option.getD_some, if_neg hlabel, ComplexityClass.ofLabel?_eq_some_iff.mpr h]

/-- A text that is no spelling cannot be highlighted. -/
theorem highlightedLabel_eq_error (hlabel : label ≠ "")
    (h : ∀ c : ComplexityClass, ¬c.IsSpelling (Text.trim label.toList)) :
    highlightedLabel (some label) = .error (.argument (.highlight label)) := by
  unfold highlightedLabel
  rw [Option.getD_some, if_neg hlabel, ComplexityClass.ofLabel?_eq_none_iff.mpr h]

/-- A request whose size is refused prints nothing. -/
theorem curves_of_domainSize_eq_error
    (h : domainSize options request.domainSize = .error failure) :
    curves options request = Action.fail failure := by
  unfold curves
  rw [h]
  rfl

/-- A request whose highlighted class is refused prints nothing. -/
theorem curves_of_highlightedLabel_eq_error
    (hsize : domainSize options request.domainSize = .ok size)
    (h : highlightedLabel request.highlight = .error failure) :
    curves options request = Action.fail failure := by
  unfold curves
  rw [hsize, h]
  rfl

/-- A request that is not refused prints the table. -/
theorem curves_eq_printTable (hsize : domainSize options request.domainSize = .ok size)
    (h : highlightedLabel request.highlight = .ok highlighted) :
    curves options request = printTable options request size highlighted := by
  have htext : curves options request = Action.surroundings >>= fun around =>
      Action.lift (curvesText around.screen options request size highlighted) >>= Action.print := by
    unfold curves
    rw [hsize, h]
    rfl
  rw [htext]
  refine congrArg (Action.surroundings >>= ·) (funext fun around => ?_)
  rw [curvesText_eq_map, Action.lift_map_bind]

/-- The eight labels name their classes in exactly two spellings, between any blanks: as they are,
and with a caret and a digit in place of a superscript two or three. All other texts are refused. A
request for the table of curves is refused for a text that is no spelling, with the same message.
Otherwise it prints the table that it prints without a highlighted class, but for the mark at the
header of the class that the text is a spelling of. -/
theorem curves_highlights_spellings :
    (∀ label c, ComplexityClass.ofLabel label = .ok c ↔
      c.IsSpelling (Text.trim label.toList)) ∧
    (∀ label failure, ComplexityClass.ofLabel label = .error failure ↔
      (∀ c : ComplexityClass, ¬c.IsSpelling (Text.trim label.toList)) ∧
        failure = .unknownClass label) ∧
    (∀ label, (Failure.argument (.highlight label)).message =
      (Failure.unknownClass label).message) ∧
    (∀ c d : ComplexityClass, Report.classHeader (some c.label) d =
      if d = c then d.label.toList ++ highlightMark.toList else d.label.toList) ∧
    ∀ (options : Options) (request : CurvesRequest) (label : String),
      request.highlight = some label → label ≠ "" →
      (∀ failure, domainSize options request.domainSize = .error failure →
        curves options request = Action.fail failure) ∧
      ∀ size, domainSize options request.domainSize = .ok size →
        curves options { request with highlight := none } =
            printTable options request size none ∧
        ((∀ c : ComplexityClass, ¬c.IsSpelling (Text.trim label.toList)) →
          curves options request = Action.fail (.argument (.highlight label))) ∧
        ∀ c : ComplexityClass, c.IsSpelling (Text.trim label.toList) →
          curves options request = printTable options request size (some c.label) := by
  refine ⟨fun _ _ => ComplexityClass.ofLabel_eq_ok_iff,
    fun _ _ => ComplexityClass.ofLabel_eq_error_iff, fun _ => rfl,
    Report.classHeader_some_label, fun options request label hhighlight hlabel => ?_⟩
  refine ⟨fun _ => curves_of_domainSize_eq_error, fun size hsize => ⟨?_, fun hnone => ?_,
    fun c hc => ?_⟩⟩
  · exact @curves_eq_printTable options { request with highlight := none } none size hsize rfl
  · refine curves_of_highlightedLabel_eq_error hsize ?_
    rw [hhighlight]
    exact highlightedLabel_eq_error hlabel hnone
  · refine curves_eq_printTable hsize ?_
    rw [hhighlight]
    exact highlightedLabel_of_isSpelling hlabel hc

/-- A caret and a two between blanks are taken for the quadratic class, and a caret and a four are
refused. -/
theorem curves_highlights_spellings_carets :
    let options : Options := ⟨none, .null, ⟨.null, .null, .settings .standard, .null⟩⟩
    let caret (label : String) : CurvesRequest := ⟨some label, some 3, 1⟩
    curves options (caret "\t O(n^2)\u3000") =
        printTable options (caret "\t O(n^2)\u3000") (.int 3) (some "O(n²)") ∧
      curves options (caret "O(n^4)") = Action.fail (.argument (.highlight "O(n^4)")) := by
  intro options caret
  obtain ⟨-, -, -, -, hcurves⟩ := curves_highlights_spellings
  obtain ⟨-, hspelled⟩ := hcurves options (caret "\t O(n^2)\u3000") _ rfl (by decide)
  obtain ⟨-, hother⟩ := hcurves options (caret "O(n^4)") _ rfl (by decide)
  refine ⟨(hspelled (.int 3) rfl).2.2 .quadratic (by decide), (hother (.int 3) rfl).2.1 ?_⟩
  intro c
  cases c <;> decide

end Command

end OrderOfGrowth

import OrderOfGrowth.Proofs.CurveOrder
import OrderOfGrowth.Proofs.Storable

/-!
# What a chart shows

The family of curves has one curve for each class, so the curve of the estimated class is there to
be highlighted, and it is the only one whose line is marked. The page names the estimate in its
first card and has the lines of the chart as data. A chart with points has a number as its ceiling,
and then its page can be stored.
-/

namespace OrderOfGrowth

open Text

/-- The label of a class can be stored. -/
theorem isStorable_label (c : ComplexityClass) : IsStorable c.label.toList := by
  cases c <;> decide

/-- The description of a class can be stored. -/
theorem isStorable_description (c : ComplexityClass) : IsStorable c.description.toList := by
  cases c <;> decide

namespace Curve

variable {size : Int} {curves : List Curve}

/-- A curve is made with its class and its number of sizes. -/
theorem ofClass_eq_ok {c : ComplexityClass} {curve : Curve} (h : ofClass c size = .ok curve) :
    curve.complexity = c ∧ curve.size = size := by
  unfold ofClass at h
  cases hpoints : (List.range size.toNat).mapM (pointAt c) with
  | error failure =>
    rw [hpoints] at h
    cases h
  | ok points =>
    rw [hpoints] at h
    obtain rfl := Except.ok.inj h
    exact ⟨rfl, rfl⟩

/-- A family has one curve for each class, in ascending order. -/
theorem map_complexity_family (h : family size = .ok curves) :
    curves.map complexity = ComplexityClass.all := by
  have hclasses := map_eq_of_mapM h (fun _ _ hcurve => (ofClass_eq_ok hcurve).1)
  rwa [List.map_id'] at hclasses

/-- A curve has the label of a class as its name exactly if it is of the class. -/
theorem name_beq_label (curve : Curve) (c : ComplexityClass) :
    (curve.name == c.label) = true ↔ curve.complexity = c := by
  rw [beq_iff_eq]
  exact ⟨ComplexityClass.label_injective, congrArg ComplexityClass.label⟩

/-- The curve of a class is found in a family by its label, and the others are those of the other
classes. -/
theorem split_family (h : family size = .ok curves) (c : ComplexityClass) :
    ∃ highlighted others, split curves c = (some highlighted, others) ∧
      ofClass c size = .ok highlighted ∧
      others.map complexity = ComplexityClass.all.filter (· != c) := by
  have hclasses := map_complexity_family h
  have hsome : (find? curves c.label).isSome = true := by
    have hmem : c ∈ curves.map complexity := hclasses ▸ c.mem_all
    obtain ⟨curve, hcurve, rfl⟩ := List.mem_map.mp hmem
    exact List.find?_isSome.mpr ⟨curve, hcurve, (curve.name_beq_label _).mpr rfl⟩
  obtain ⟨highlighted, hfound⟩ := Option.isSome_iff_exists.mp hsome
  have hname : highlighted.complexity = c := by
    have hfirst : curves.find? (·.name == c.label) = some highlighted := hfound
    have hlabel := List.find?_some hfirst
    exact (highlighted.name_beq_label c).mp hlabel
  obtain ⟨d, -, hd⟩ := exists_of_mem_mapM h (List.mem_of_find?_eq_some hfound)
  obtain ⟨hclass, hsize⟩ := ofClass_eq_ok hd
  refine ⟨highlighted, curves.filter (!·.isSame highlighted), ?_, ?_, ?_⟩
  · rw [split, hfound]
  · rw [← hname, hclass]
    exact hd
  · have hsame : ∀ curve ∈ curves, (!curve.isSame highlighted) = (curve.complexity != c) := by
      intro curve hcurve
      obtain ⟨e, -, he⟩ := exists_of_mem_mapM h hcurve
      rw [isSame, hname, (ofClass_eq_ok he).2, hsize, beq_self_eq_true, Bool.and_true]
      rfl
    rw [List.filter_congr hsame, ← hclasses, List.filter_map]
    rfl

end Curve

namespace Chart

/-- The labels of a chart's lines: the class that is shown comes first and is marked, and all other
classes follow in ascending order. -/
theorem map_label_datasets {chart : Chart} {size : Int} {datasets : List Dataset}
    (hcurves : Curve.family size = .ok chart.curves) (h : chart.datasets = .ok datasets) :
    datasets.map Dataset.label = (chart.complexity.label ++ highlightMark) ::
      (ComplexityClass.all.filter (· != chart.complexity)).map ComplexityClass.label := by
  obtain ⟨highlighted, others, hsplit, hhighlighted, hothers⟩ :=
    Curve.split_family hcurves chart.complexity
  unfold Chart.datasets at h
  rw [hsplit] at h
  obtain ⟨first, hfirst, h⟩ := bind_eq_ok.mp h
  obtain ⟨rest, hrest, h⟩ := bind_eq_ok.mp h
  obtain rfl := Except.ok.inj h
  obtain ⟨points, -, hfirst⟩ := bind_eq_ok.mp hfirst
  obtain ⟨colour, -, hfirst⟩ := bind_eq_ok.mp hfirst
  obtain rfl := Except.ok.inj hfirst
  have hdimmed : rest.map Dataset.label = others.map Curve.name := by
    apply map_eq_of_mapM hrest
    intro curve line hline
    obtain ⟨points, -, hline⟩ := bind_eq_ok.mp hline
    obtain ⟨colour, -, hline⟩ := bind_eq_ok.mp hline
    obtain rfl := Except.ok.inj hline
    rfl
  have hname : highlighted.name = chart.complexity.label :=
    congrArg ComplexityClass.label (Curve.ofClass_eq_ok hhighlighted).1
  rw [List.map_cons, hdimmed, hname, ← hothers, List.map_map]
  rfl

/-- The label of no class ends like a marked one. -/
theorem not_highlightMark_suffix_label (c : ComplexityClass) :
    ¬ highlightMark.toList <:+ c.label.toList := by
  cases c <;> decide

/-- The first line of a chart is the one of the class that is shown, and it alone is marked. -/
theorem datasets_eq_cons {chart : Chart} {size : Int} {datasets : List Dataset}
    (hcurves : Curve.family size = .ok chart.curves) (h : chart.datasets = .ok datasets) :
    ∃ first others, datasets = first :: others ∧
      first.label = chart.complexity.label ++ highlightMark ∧
      ∀ other ∈ others, ¬ highlightMark.toList <:+ other.label.toList := by
  have hlabels := map_label_datasets hcurves h
  obtain ⟨first, others, rfl, hfirst, hothers⟩ := List.map_eq_cons_iff.mp hlabels
  refine ⟨first, others, rfl, hfirst, ?_⟩
  intro other hother
  have hlabel : other.label ∈ others.map Dataset.label := List.mem_map_of_mem hother
  rw [hothers] at hlabel
  obtain ⟨c, -, hc⟩ := List.mem_map.mp hlabel
  rw [← hc]
  exact not_highlightMark_suffix_label c

/-- The ceiling of a chart with points is a number. -/
theorem ceiling_eq_number {chart : Chart} {size : Int} {datasets : List Dataset} (hsize : 0 < size)
    (hcurves : Curve.family size = .ok chart.curves) (h : chart.datasets = .ok datasets) :
    ∃ q, chart.ceiling = .number q := by
  obtain ⟨highlighted, others, hsplit, hhighlighted, -⟩ :=
    Curve.split_family hcurves chart.complexity
  have hlength := (Curve.points_of_ofClass hhighlighted).1
  have hpoints : highlighted.points.isEmpty = false := by
    rw [List.isEmpty_eq_false_iff, ← List.length_pos_iff]
    omega
  unfold Chart.datasets at h
  rw [hsplit] at h
  obtain ⟨first, hfirst, -⟩ := bind_eq_ok.mp h
  obtain ⟨shown, hshown, -⟩ := bind_eq_ok.mp hfirst
  obtain ⟨capped, hcapped, -⟩ := bind_eq_ok.mp hshown
  unfold Curve.cappedBySetting at hcapped
  cases hceiling : chart.ceiling with
  | number q => exact ⟨q, rfl⟩
  | _ =>
    rw [hceiling] at hcapped
    simp [hpoints] at hcapped

/-- The texts of a line of a chart can be stored. -/
theorem isStorable_of_mem_datasets {chart : Chart} {datasets : List Dataset}
    (h : chart.datasets = .ok datasets) {line : Dataset} (hline : line ∈ datasets) :
    IsStorable line.label.toList ∧ IsStorable line.colour.toList := by
  have hname (curve : Curve) : IsStorable curve.name.toList := isStorable_label curve.complexity
  have hhighlighted : ∀ curve found, chart.highlightedLine curve = .ok found →
      IsStorable found.label.toList ∧ IsStorable found.colour.toList := by
    intro curve found hfound
    obtain ⟨points, -, hfound⟩ := bind_eq_ok.mp hfound
    obtain ⟨colour, hcolour, hfound⟩ := bind_eq_ok.mp hfound
    obtain rfl := Except.ok.inj hfound
    refine ⟨?_, isStorable_rgba hcolour⟩
    rw [String.toList_append]
    exact isStorable_append.mpr ⟨hname curve, by decide⟩
  have hdimmed : ∀ curve found, chart.dimmedLine curve = .ok found →
      IsStorable found.label.toList ∧ IsStorable found.colour.toList := by
    intro curve found hfound
    obtain ⟨points, -, hfound⟩ := bind_eq_ok.mp hfound
    obtain ⟨colour, hcolour, hfound⟩ := bind_eq_ok.mp hfound
    obtain rfl := Except.ok.inj hfound
    exact ⟨hname curve, isStorable_rgba hcolour⟩
  unfold Chart.datasets at h
  rcases hsplit : Curve.split chart.curves chart.complexity with ⟨_ | highlighted, others⟩ <;>
    rw [hsplit] at h
  · obtain ⟨curve, -, hcurve⟩ := exists_of_mem_mapM h hline
    exact hdimmed curve line hcurve
  · obtain ⟨first, hfirst, h⟩ := bind_eq_ok.mp h
    obtain ⟨rest, hrest, h⟩ := bind_eq_ok.mp h
    obtain rfl := Except.ok.inj h
    rcases List.mem_cons.mp hline with rfl | hmem
    · exact hhighlighted highlighted line hfirst
    · obtain ⟨curve, -, hcurve⟩ := exists_of_mem_mapM hrest hmem
      exact hdimmed curve line hcurve

end Chart

/-- A line of a chart as an object can be stored if its texts can. -/
theorem Dataset.isStorable_toJson {line : Dataset} (hlabel : IsStorable line.label.toList)
    (hcolour : IsStorable line.colour.toList) : IsStorable line.toJson.write := by
  have hpoint (point : Point) : IsStorable (Dataset.pointObject point).write := by
    apply Json.isStorable_write_object
    simp only [List.forall_mem_cons]
    exact ⟨⟨by decide, Json.isStorable_write_number _⟩, ⟨by decide, Json.isStorable_write_number _⟩,
      fun _ hmember => absurd hmember List.not_mem_nil⟩
  have hpoints : IsStorable (Json.write (.list (line.points.map pointObject))) := by
    apply Json.isStorable_write_list
    intro item hitem
    obtain ⟨point, -, rfl⟩ := List.mem_map.mp hitem
    exact hpoint point
  apply Json.isStorable_write_object
  simp only [List.forall_mem_cons]
  exact ⟨⟨by decide, Json.isStorable_writeString hlabel⟩, ⟨by decide, hpoints⟩,
    ⟨by decide, Json.isStorable_writeString hcolour⟩,
    ⟨by decide, Json.isStorable_writeString hcolour⟩,
    ⟨by decide, Json.isStorable_write_number _⟩, ⟨by decide, Json.isStorable_write_number _⟩,
    ⟨by decide, Json.isStorable_write_number _⟩, fun _ hmember => absurd hmember List.not_mem_nil⟩

namespace PageParts

variable {parts : PageParts}

/-- Parts of a page that can all be stored. -/
structure AreStorable (parts : PageParts) : Prop where
  title : IsStorable parts.title
  complexity : IsStorable parts.complexity
  description : IsStorable parts.description
  runtime : IsStorable parts.runtime
  memory : IsStorable parts.memory
  memoryNote : IsStorable parts.memoryNote
  datasets : IsStorable parts.datasets
  ceiling : IsStorable parts.ceiling

set_option maxRecDepth 2000 in
/-- The lines of a page can be stored if its parts can. -/
theorem AreStorable.lines (h : parts.AreStorable) : ∀ line ∈ parts.lines, IsStorable line := by
  unfold PageParts.lines
  simp only [List.forall_mem_cons, isStorable_append, h.title, h.complexity, h.description,
    h.runtime, h.memory, h.memoryNote, h.datasets, h.ceiling, and_true]
  -- what is left are the fixed texts
  and_intros <;> first | (rw [String.toList_ofList]; decide +kernel) | simp

/-- A page can be stored if its parts can. -/
theorem AreStorable.text (h : parts.AreStorable) : IsStorable parts.text := by
  unfold PageParts.text
  rw [isStorable_flatMap]
  intro line hline
  exact isStorable_append.mpr ⟨h.lines line hline, by decide⟩

end PageParts

namespace Chart

/-- A value that can be written is passed on. -/
theorem writable_eq_ok {value written : Json} :
    writable value = .ok written ↔ value.isWritable = true ∧ value = written := by
  unfold writable
  split_ifs with h <;> simp [h]

/-- The parts of a page are those of a chart whose lines and ceiling can be written and whose
measurements and limit can be read. -/
theorem pageParts_eq_ok {chart : Chart} {title : String} {parts : PageParts} :
    chart.pageParts title = .ok parts ↔ ∃ lines note runtime memory,
      chart.datasets = .ok lines ∧ (Json.list (lines.map Dataset.toJson)).isWritable = true ∧
      Readout.memoryNote chart.memoryLimit = .ok note ∧
      Readout.runtime chart.runtime = .ok runtime ∧
      Readout.memory (Json.ofOption chart.memory) = .ok memory ∧
      chart.ceiling.isWritable = true ∧
      parts = {
        title := escapeEntities title.toList
        complexity := escapeEntities chart.complexity.label.toList
        description := escapeEntities chart.complexity.description.toList
        runtime := runtime.toList
        memory := memory.toList
        memoryNote := note.toList
        datasets := Json.write (.list (lines.map Dataset.toJson))
        ceiling := chart.ceiling.display } := by
  unfold pageParts
  simp only [bind_eq_ok, writable_eq_ok]
  constructor
  · rintro ⟨lines, hlines, _, ⟨hwritten, rfl⟩, note, hnote, runtime, hruntime, memory, hmemory, _,
      ⟨hceiling, rfl⟩, h⟩
    exact ⟨lines, note, runtime, memory, hlines, hwritten, hnote, hruntime, hmemory, hceiling,
      (Except.ok.inj h).symm⟩
  · rintro ⟨lines, note, runtime, memory, hlines, hwritten, hnote, hruntime, hmemory, hceiling, rfl⟩
    exact ⟨lines, hlines, _, ⟨hwritten, rfl⟩, note, hnote, runtime, hruntime, memory, hmemory, _,
      ⟨hceiling, rfl⟩, rfl⟩

/-- The page of a chart can be stored if its title and the text of its ceiling can. -/
theorem isStorable_page {chart : Chart} {title : String} {page : List Char}
    (htitle : IsStorable title.toList) (hceiling : IsStorable chart.ceiling.display)
    (h : chart.page title = .ok page) : IsStorable page := by
  obtain ⟨parts, hparts, rfl⟩ := map_eq_ok.mp h
  obtain ⟨lines, note, runtime, memory, hlines, -, hnote, hruntime, hmemory, -, rfl⟩ :=
    pageParts_eq_ok.mp hparts
  apply PageParts.AreStorable.text
  refine ⟨isStorable_escapeEntities htitle, isStorable_escapeEntities (isStorable_label _),
    isStorable_escapeEntities (isStorable_description _), Readout.isStorable_runtime hruntime,
    Readout.isStorable_memory hmemory, Readout.isStorable_memoryNote hnote, ?_, hceiling⟩
  apply Json.isStorable_write_list
  intro item hitem
  obtain ⟨line, hline, rfl⟩ := List.mem_map.mp hitem
  obtain ⟨hlabel, hcolour⟩ := isStorable_of_mem_datasets hlines hline
  exact Dataset.isStorable_toJson hlabel hcolour

/-- The page of a chart with points can be stored. -/
theorem isStorable_page_of_points {chart : Chart} {title : String} {page : List Char} {size : Int}
    (htitle : IsStorable title.toList) (hsize : 0 < size)
    (hcurves : Curve.family size = .ok chart.curves) (h : chart.page title = .ok page) :
    IsStorable page := by
  obtain ⟨parts, hparts, -⟩ := map_eq_ok.mp h
  obtain ⟨lines, _, _, _, hlines, -⟩ := pageParts_eq_ok.mp hparts
  obtain ⟨q, hq⟩ := ceiling_eq_number hsize hcurves hlines
  apply isStorable_page htitle _ h
  rw [hq]
  exact isStorable_quantity q

end Chart

end OrderOfGrowth

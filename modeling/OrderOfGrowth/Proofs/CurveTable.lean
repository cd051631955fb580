import OrderOfGrowth.Proofs.ChartDrawing
import OrderOfGrowth.Proofs.Thinning

/-!
# The table and the chart

The table of curves and the lines of a chart are made apart from each other: the table counts its
rows by the first curve and looks up all others by the number of the row, and the chart puts the
highlighted curve first. Both show the same values, since a curve is held under the ceiling and
thinned out in the same way for both, and all curves of a family have the same number of points. The
table has to round its values, which the chart need not do, so a whole number beyond the doubles
that is a ceiling can be drawn but not printed.
-/

namespace OrderOfGrowth

/-- Only a whole number that is too large for a double has no two places. -/
theorem Quantity.twoPlaces_eq_error {q : Quantity} {failure : Failure}
    (h : q.twoPlaces = .error failure) :
    failure = .arithmetic .integerTooLarge ∧ ∃ n, q = .int n := by
  cases q with
  | int n =>
    unfold twoPlaces toDouble Binary64.ofInt at h
    dsimp only at h
    split_ifs at h
    · cases h
    · exact ⟨(Except.error.inj h).symm, n, rfl⟩
  | float x => cases h
  | truth b => cases h

namespace Curve

variable {c : ComplexityClass} {size : ℤ} {curve : Curve} {ceiling : Quantity} {step i : ℕ}

/-- The points of a curve at every `step`-th size, held under a ceiling. -/
def sampled (curve : Curve) (ceiling : Quantity) (step : ℕ) : List Point :=
  everyNth step (curve.capped ceiling)

/-- What is displayed with a whole step of at least one are the points at its multiples. -/
theorem displayed_eq_sampled (curve : Curve) (ceiling : Quantity) (hstep : 0 < step) :
    curve.displayed (.number ceiling) (.int step) = .ok (curve.sampled ceiling step) := by
  rw [displayed_number, thin_int _ (by exact_mod_cast hstep), Int.toNat_natCast]
  rfl

/-- The sampled points of a curve are its points at the multiples of the step, under the ceiling. -/
theorem getElem?_sampled_eq (curve : Curve) (ceiling : Quantity) (hstep : 0 < step) (i : ℕ) :
    (curve.sampled ceiling step)[i]? =
      curve.points[i * step]?.map fun p => ⟨p.x, p.y.cap ceiling⟩ := by
  rw [sampled, getElem?_everyNth hstep, capped, List.getElem?_map]

/-- An index counts among the sampled points exactly if its multiple of the step is a size. -/
theorem lt_length_sampled_iff (h : ofClass c size = .ok curve) (hstep : 0 < step) :
    i < (curve.sampled ceiling step).length ↔ i * step < size.toNat := by
  rw [sampled, lt_length_everyNth_iff hstep, capped, List.length_map, (points_of_ofClass h).1]

/-- A curve is sampled as often as the step goes into its sizes, rounded up. -/
theorem length_sampled (h : ofClass c size = .ok curve) (hsize : 0 ≤ size) (hstep : 0 < step) :
    ((curve.sampled ceiling step).length : ℤ) = ⌈(size / step : ℚ)⌉ := by
  have hcount : ((curve.capped ceiling).length : ℤ) = size := by
    rw [capped, List.length_map, (points_of_ofClass h).1, Int.toNat_of_nonneg hsize]
  rw [sampled, length_everyNth hstep, ← hcount]
  rfl

/-- Every sampled point lies at the multiple of the step that its index says, and has there the
count of the class under the ceiling. -/
theorem getElem?_sampled (h : ofClass c size = .ok curve) (hstep : 0 < step)
    (hi : i < (curve.sampled ceiling step).length) :
    ∃ y, (curve.sampled ceiling step)[i]? =
      some ⟨i * step, (Quantity.float y).cap ceiling⟩ := by
  obtain ⟨hlength, hpoints⟩ := points_of_ofClass h
  have hsize : i * step < curve.points.length :=
    hlength ▸ (lt_length_sampled_iff h hstep).mp hi
  obtain ⟨y, -, hpoint⟩ := hpoints (i * step) hsize
  refine ⟨y, ?_⟩
  rw [curve.getElem?_sampled_eq ceiling hstep, List.getElem?_eq_getElem hsize, hpoint]
  simp

end Curve

/-- A line of a chart belongs to a class if it has the label of the class, marked or not. -/
def Dataset.IsOf (line : Dataset) (c : ComplexityClass) : Prop :=
  line.label = c.label ∨ line.label = c.label ++ highlightMark

/-- A line belongs to at most one class. -/
theorem Dataset.IsOf.unique {line : Dataset} {c d : ComplexityClass} (hc : line.IsOf c)
    (hd : line.IsOf d) : c = d := by
  have hmarked : ∀ {a b : ComplexityClass}, a.label ≠ b.label ++ highlightMark := by
    intro a b h
    apply Chart.not_highlightMark_suffix_label a
    rw [h, String.toList_append]
    exact List.suffix_append _ _
  rcases hc with hc | hc <;> rcases hd with hd | hd
  · exact ComplexityClass.label_injective (hc.symm.trans hd)
  · exact absurd (hc.symm.trans hd) hmarked
  · exact absurd (hd.symm.trans hc) hmarked
  · have htexts := congrArg String.toList (hc.symm.trans hd)
    rw [String.toList_append, String.toList_append] at htexts
    have hlabels := String.toList_injective (List.append_cancel_right htexts)
    exact ComplexityClass.label_injective hlabels

namespace Chart

variable {chart : Chart} {size : ℤ} {lines : List Dataset}

/-- A line of a chart is that of a curve of the family: it belongs to its class and shows its
displayed points. -/
theorem exists_curve_of_mem_datasets (hcurves : Curve.family size = .ok chart.curves)
    (h : chart.datasets = .ok lines) {line : Dataset} (hline : line ∈ lines) :
    ∃ c curve, Curve.ofClass c size = .ok curve ∧ line.IsOf c ∧
      curve.displayed chart.ceiling chart.step = .ok line.points := by
  obtain ⟨highlighted, others, hsplit, hhighlighted, -⟩ :=
    Curve.split_family hcurves chart.complexity
  unfold datasets at h
  rw [hsplit] at h
  obtain ⟨first, hfirst, h⟩ := bind_eq_ok.mp h
  obtain ⟨rest, hrest, h⟩ := bind_eq_ok.mp h
  obtain rfl := Except.ok.inj h
  rcases List.mem_cons.mp hline with rfl | hmem
  · obtain ⟨points, hpoints, hfirst⟩ := bind_eq_ok.mp hfirst
    obtain ⟨colour, -, hfirst⟩ := bind_eq_ok.mp hfirst
    obtain rfl := Except.ok.inj hfirst
    obtain ⟨hclass, -⟩ := Curve.ofClass_eq_ok hhighlighted
    exact ⟨_, highlighted, hhighlighted, Or.inr (by rw [← hclass]; rfl), hpoints⟩
  · obtain ⟨curve, hcurve, hdimmed⟩ := exists_of_mem_mapM hrest hmem
    obtain ⟨c, -, hc⟩ := exists_of_mem_mapM hcurves (Curve.subset_of_split hsplit hcurve)
    obtain ⟨points, hpoints, hdimmed⟩ := bind_eq_ok.mp hdimmed
    obtain ⟨colour, -, hdimmed⟩ := bind_eq_ok.mp hdimmed
    obtain rfl := Except.ok.inj hdimmed
    obtain ⟨hclass, -⟩ := Curve.ofClass_eq_ok hc
    exact ⟨c, curve, hc, Or.inl (by rw [← hclass]; rfl), hpoints⟩

/-- Every class has a line in a chart of the family. -/
theorem exists_line_of_class (hcurves : Curve.family size = .ok chart.curves)
    (h : chart.datasets = .ok lines) (c : ComplexityClass) : ∃ line ∈ lines, line.IsOf c := by
  have hlabels := map_label_datasets hcurves h
  have hmem : c.label ∈ lines.map Dataset.label ∨
      c.label ++ highlightMark ∈ lines.map Dataset.label := by
    rw [hlabels]
    by_cases hc : c = chart.complexity
    · exact Or.inr (hc ▸ List.mem_cons_self)
    · refine Or.inl (List.mem_cons_of_mem _ (List.mem_map_of_mem ?_))
      exact List.mem_filter.mpr ⟨c.mem_all, by simpa using hc⟩
  rcases hmem with hmem | hmem
  all_goals obtain ⟨line, hline, hlabel⟩ := List.mem_map.mp hmem
  · exact ⟨line, hline, Or.inl hlabel⟩
  · exact ⟨line, hline, Or.inr hlabel⟩

end Chart

/-- The header of a class, marked if its label is highlighted. -/
def Report.classHeader (highlighted : Option String) (c : ComplexityClass) : List Char :=
  if highlighted = some c.label then c.label.toList ++ highlightMark.toList else c.label.toList

/-- The table of all classes with given rows. -/
def Report.classTable (highlighted : Option String) (rows : List (List (List Char))) :
    Terminal.Table where
  title := "Reference Growth Curves".toList
  headers := ['n'] :: ComplexityClass.all.map (classHeader highlighted)
  alignRight := true
  rows := rows

@[simp]
theorem Report.classTable_rows (highlighted : Option String) (rows : List (List (List Char))) :
    (classTable highlighted rows).rows = rows := rfl

/-- What a table of curves shows, held to the lines of a chart: the columns are those of the classes
in ascending order, at most one of them is marked, and every row shows what all lines have at its
index. -/
structure Terminal.Table.ShowsLines (table : Terminal.Table) (highlighted : Option String)
    (size step : ℤ) (lines : List Dataset) : Prop where
  headers : table.headers = ['n'] :: ComplexityClass.all.map (Report.classHeader highlighted)
  marked : ∀ c : ComplexityClass, highlighted = some c.label →
    table.headers.countP (highlightMark.toList.isSuffixOf ·) = 1
  unmarked : (∀ c : ComplexityClass, highlighted ≠ some c.label) →
    table.headers.countP (highlightMark.toList.isSuffixOf ·) = 0
  length : (table.rows.length : ℤ) = ⌈(size / step : ℚ)⌉
  length_lines : ∀ line ∈ lines, line.points.length = table.rows.length
  rows : ∀ (i : ℕ) row, table.rows[i]? = some row → ∃ cells,
    row = integerText (i * step) :: cells ∧
      List.Forall₂ (fun c cell => ∀ line ∈ lines, line.IsOf c →
          ∃ y, line.points[i]? = some ⟨i * step, y⟩ ∧ y.twoPlaces = .ok cell)
        ComplexityClass.all cells

namespace Report

variable {curves : List Curve} {highlighted : Option String} {size : ℤ} {ceiling : Quantity}
  {step : ℕ}

/-- There is a row for each point of the first curve, with its size and the cells of all curves. -/
theorem curveRows_eq_ok {displayed : List (List Point)} {rows : List (List (List Char))}
    (h : curveRows displayed = .ok rows) :
    rows.length = (displayed.headD []).length ∧ ∀ i row, rows[i]? = some row →
      ∃ point cells, (displayed.headD [])[i]? = some point ∧
        row = integerText point.x :: cells ∧
        List.Forall₂ (fun points cell => curveCell i points = .ok cell) displayed cells := by
  obtain ⟨hlength, hrows⟩ := List.forall₂_iff_get.mp (mapM_eq_ok.mp h)
  rw [List.length_zipIdx] at hlength
  refine ⟨hlength.symm, fun i row hrow => ?_⟩
  obtain ⟨hi, rfl⟩ := List.getElem?_eq_some_iff.mp hrow
  have hstep := hrows i (by rw [List.length_zipIdx, hlength]; exact hi) hi
  rw [List.get_eq_getElem, List.getElem_zipIdx] at hstep
  obtain ⟨cells, hcells, hstep⟩ := bind_eq_ok.mp hstep
  refine ⟨_, cells, List.getElem?_eq_getElem (hlength ▸ hi), ?_, ?_⟩
  · exact (Except.ok.inj hstep).symm
  · simpa using mapM_eq_ok.mp hcells

/-- Rows that cannot be made have a cell that cannot be made. -/
theorem curveRows_eq_error {displayed : List (List Point)} {failure : Failure}
    (h : curveRows displayed = .error failure) :
    ∃ i < (displayed.headD []).length, ∃ points ∈ displayed,
      curveCell i points = .error failure := by
  obtain ⟨⟨point, i⟩, hmem, hrow⟩ := exists_of_mapM_eq_error h
  obtain ⟨-, hi, -⟩ := List.mem_zipIdx hmem
  rcases bind_eq_error.mp hrow with hcells | ⟨_, -, hcells⟩
  · exact ⟨i, by simpa using hi, exists_of_mapM_eq_error hcells⟩
  · cases hcells

/-- The headers of a family are those of the classes. -/
theorem map_curveHeader_family (hcurves : Curve.family size = .ok curves) :
    curves.map (curveHeader highlighted) = ComplexityClass.all.map (classHeader highlighted) := by
  rw [← Curve.map_complexity_family hcurves, List.map_map]
  rfl

/-- The header of the class whose label is highlighted is the one that is marked. -/
theorem countP_classHeader (c : ComplexityClass) :
    (['n'] :: ComplexityClass.all.map (classHeader (some c.label))).countP
      (highlightMark.toList.isSuffixOf ·) = 1 := by
  cases c <;> decide

/-- No header is marked if what is highlighted is not the label of a class. -/
theorem countP_classHeader_of_ne (h : ∀ c : ComplexityClass, highlighted ≠ some c.label) :
    (['n'] :: ComplexityClass.all.map (classHeader highlighted)).countP
      (highlightMark.toList.isSuffixOf ·) = 0 := by
  have hplain : classHeader highlighted = fun c => c.label.toList :=
    funext fun c => if_neg (h c)
  rw [hplain]
  decide

/-- All curves of a family are sampled as often as the first one. -/
theorem length_headD_sampled (hcurves : Curve.family size = .ok curves) (hstep : 0 < step)
    {curve : Curve} (hcurve : curve ∈ curves) :
    ((curves.map (·.sampled ceiling step)).headD []).length =
      (curve.sampled ceiling step).length := by
  cases curves with
  | nil => cases hcurve
  | cons first rest =>
    obtain ⟨c, -, hfirst⟩ := exists_of_mem_mapM hcurves List.mem_cons_self
    obtain ⟨d, -, hd⟩ := exists_of_mem_mapM hcurves hcurve
    have hindex : ∀ i, i < (first.sampled ceiling step).length ↔
        i < (curve.sampled ceiling step).length := fun i =>
      (Curve.lt_length_sampled_iff hfirst hstep).trans (Curve.lt_length_sampled_iff hd hstep).symm
    exact le_antisymm (le_of_forall_lt fun i hi => (hindex i).mp hi)
      (le_of_forall_lt fun i hi => (hindex i).mpr hi)

/-- The cell of a curve at an index that counts has the two places of its value there. -/
theorem curveCell_sampled {c : ComplexityClass} {curve : Curve} {i : ℕ}
    (h : Curve.ofClass c size = .ok curve) (hstep : 0 < step)
    (hi : i < (curve.sampled ceiling step).length) :
    ∃ y, (curve.sampled ceiling step)[i]? = some ⟨i * step, y⟩ ∧
      curveCell i (curve.sampled ceiling step) = y.twoPlaces ∧
      ∀ failure, y.twoPlaces = .error failure → y = ceiling := by
  obtain ⟨y, hy⟩ := Curve.getElem?_sampled h hstep hi
  refine ⟨_, hy, by rw [curveCell, hy], fun failure hfailure => ?_⟩
  unfold Quantity.cap at hfailure ⊢
  split_ifs at hfailure ⊢
  · rfl
  · -- the count itself is a double
    obtain ⟨-, n, hn⟩ := Quantity.twoPlaces_eq_error hfailure
    cases hn

/-- The report on a family is the table of all classes with the rows that can be made of what is
displayed. What is highlighted makes no difference to the rows. -/
theorem curveReport_eq_map (hcurves : Curve.family size = .ok curves) (screen : Terminal.Screen)
    (highlighted : Option String) (step : Quantity) (ceiling : Json) :
    curveReport screen curves highlighted step ceiling =
      (curves.mapM (·.displayed ceiling step) >>= curveRows).map fun rows =>
        Terminal.textOfLines ((classTable highlighted rows).lines screen.columns) := by
  unfold curveReport curveTable
  rw [map_curveHeader_family hcurves]
  cases curves.mapM fun curve => curve.displayed ceiling step with
  | error failure => rfl
  | ok displayed =>
    simp only [bind, Except.bind]
    cases curveRows displayed <;> rfl

/-- The report on a family, up to its rows. -/
theorem curveReport_family (hcurves : Curve.family size = .ok curves) (hstep : 0 < step)
    (screen : Terminal.Screen) :
    curveReport screen curves highlighted (.int step) (.number ceiling) =
      (curveRows (curves.map (·.sampled ceiling step))).map fun rows =>
        Terminal.textOfLines ((classTable highlighted rows).lines screen.columns) := by
  have hdisplayed : curves.mapM (·.displayed (.number ceiling) (.int step)) =
      .ok (curves.map (·.sampled ceiling step)) := by
    refine mapM_eq_ok.mpr (List.forall₂_map_right_iff.mpr (List.forall₂_same.mpr ?_))
    exact fun curve _ => curve.displayed_eq_sampled ceiling hstep
  rw [curveReport_eq_map hcurves, hdisplayed]
  rfl

/-- The rows of a family: one for each multiple of the step below the size, with the cells of all
classes there. -/
theorem curveRows_family {rows : List (List (List Char))}
    (hcurves : Curve.family size = .ok curves) (hsize : 0 ≤ size) (hstep : 0 < step)
    (h : curveRows (curves.map (·.sampled ceiling step)) = .ok rows) :
    (rows.length : ℤ) = ⌈(size / step : ℚ)⌉ ∧
      ∀ (i : ℕ) row, rows[i]? = some row → ∃ cells, row = integerText (i * step) :: cells ∧
        List.Forall₂ (fun c cell => ∀ curve, Curve.ofClass c size = .ok curve →
          curveCell i (curve.sampled ceiling step) = .ok cell) ComplexityClass.all cells := by
  obtain ⟨first, rest, rfl⟩ : ∃ first rest, curves = first :: rest := by
    cases curves with
    | nil => cases Curve.map_complexity_family hcurves
    | cons first rest => exact ⟨first, rest, rfl⟩
  obtain ⟨c, -, hfirst⟩ := exists_of_mem_mapM hcurves List.mem_cons_self
  obtain ⟨hlength, hrows⟩ := curveRows_eq_ok h
  rw [List.map_cons, List.headD_cons] at hlength
  refine ⟨by rw [hlength, Curve.length_sampled hfirst hsize hstep], fun i row hrow => ?_⟩
  obtain ⟨point, cells, hpoint, rfl, hcells⟩ := hrows i row hrow
  rw [List.map_cons, List.headD_cons] at hpoint
  obtain ⟨hi, -⟩ := List.getElem?_eq_some_iff.mp hpoint
  obtain ⟨y, hy⟩ := Curve.getElem?_sampled hfirst hstep hi
  obtain rfl := Option.some.inj (hy.symm.trans hpoint)
  rw [List.forall₂_map_left_iff] at hcells
  refine ⟨cells, rfl, forall₂_trans (mapM_eq_ok.mp hcurves) hcells ?_⟩
  intro d curve cell hcurve hcell other hother
  obtain rfl := Except.ok.inj (hcurve.symm.trans hother)
  exact hcell

end Report

/-- The lines of a chart of a family whose ceiling is a number and whose step is whole and at least
one. -/
structure Chart.Samples (chart : Chart) (size : ℤ) (ceiling : Quantity) (step : ℕ)
    (lines : List Dataset) : Prop where
  family : Curve.family size = .ok chart.curves
  ceiling_eq : chart.ceiling = .number ceiling
  step_eq : chart.step = .int step
  step_pos : 0 < step
  drawn : chart.datasets = .ok lines

namespace Chart.Samples

variable {chart : Chart} {size : ℤ} {step : ℕ} {ceiling : Quantity} {lines : List Dataset}
  {rows : List (List (List Char))}

/-- The points of a line are those of the curve of its class, sampled. -/
theorem exists_curve (h : chart.Samples size ceiling step lines) {line : Dataset}
    (hline : line ∈ lines) :
    ∃ c curve, Curve.ofClass c size = .ok curve ∧ line.IsOf c ∧
      line.points = curve.sampled ceiling step := by
  obtain ⟨c, curve, hcurve, hof, hpoints⟩ :=
    exists_curve_of_mem_datasets h.family h.drawn hline
  rw [h.ceiling_eq, h.step_eq, curve.displayed_eq_sampled ceiling h.step_pos] at hpoints
  exact ⟨c, curve, hcurve, hof, (Except.ok.inj hpoints).symm⟩

/-- A line of a class shows the curve of this class. -/
theorem exists_curve_of_isOf (h : chart.Samples size ceiling step lines) {line : Dataset}
    (hline : line ∈ lines) {c : ComplexityClass} (hof : line.IsOf c) :
    ∃ curve, Curve.ofClass c size = .ok curve ∧ line.points = curve.sampled ceiling step := by
  obtain ⟨d, curve, hcurve, hd, hpoints⟩ := h.exists_curve hline
  obtain rfl := hd.unique hof
  exact ⟨curve, hcurve, hpoints⟩

/-- The table of a family shows the lines of a chart of the family. -/
theorem showsLines (h : chart.Samples size ceiling step lines) (highlighted : Option String)
    (hsize : 0 ≤ size)
    (hrows : Report.curveRows (chart.curves.map (·.sampled ceiling step)) = .ok rows) :
    (Report.classTable highlighted rows).ShowsLines highlighted size step lines := by
  obtain ⟨hlength, hcells⟩ := Report.curveRows_family h.family hsize h.step_pos hrows
  have hsame : ∀ {c curve}, Curve.ofClass c size = .ok curve →
      (curve.sampled ceiling step).length = rows.length := by
    intro c curve hcurve
    exact_mod_cast (Curve.length_sampled hcurve hsize h.step_pos).trans hlength.symm
  refine ⟨rfl, ?_, Report.countP_classHeader_of_ne, by simpa using hlength, ?_, ?_⟩
  · rintro c rfl
    exact Report.countP_classHeader c
  · intro line hline
    obtain ⟨c, curve, hcurve, -, hpoints⟩ := h.exists_curve hline
    rw [hpoints, hsame hcurve, Report.classTable_rows]
  · intro i row hrow
    obtain ⟨cells, rfl, hcells⟩ := hcells i row hrow
    refine ⟨cells, rfl, hcells.imp fun c cell hcell line hline hof => ?_⟩
    obtain ⟨curve, hcurve, hpoints⟩ := h.exists_curve_of_isOf hline hof
    have hi : i < (curve.sampled ceiling step).length :=
      hsame hcurve ▸ (List.getElem?_eq_some_iff.mp hrow).1
    obtain ⟨y, hy, hrendered, -⟩ := Report.curveCell_sampled hcurve h.step_pos hi
    exact ⟨y, hpoints ▸ hy, hrendered ▸ hcell curve hcurve⟩

/-- Where the rows of a family cannot be made, a line of a chart of the family has a value without
two places. It is the ceiling. -/
theorem exists_point_of_curveRows_eq_error (h : chart.Samples size ceiling step lines)
    {failure : Failure}
    (hrows : Report.curveRows (chart.curves.map (·.sampled ceiling step)) = .error failure) :
    ceiling.twoPlaces = .error failure ∧ ∃ line ∈ lines, ∃ p ∈ line.points, p.y = ceiling := by
  obtain ⟨i, hi, points, hmem, hcell⟩ := Report.curveRows_eq_error hrows
  obtain ⟨curve, hcurve, rfl⟩ := List.mem_map.mp hmem
  obtain ⟨c, -, hc⟩ := exists_of_mem_mapM h.family hcurve
  rw [Report.length_headD_sampled h.family h.step_pos hcurve] at hi
  obtain ⟨y, hy, hrendered, hreached⟩ := Report.curveCell_sampled hc h.step_pos hi
  rw [hrendered] at hcell
  obtain rfl := hreached failure hcell
  obtain ⟨line, hline, hof⟩ := exists_line_of_class h.family h.drawn c
  obtain ⟨other, hother, hpoints⟩ := h.exists_curve_of_isOf hline hof
  obtain rfl := Except.ok.inj (hc.symm.trans hother)
  exact ⟨hcell, line, hline, _, hpoints ▸ List.mem_of_getElem? hy, rfl⟩

end Chart.Samples

/-- A table that shows lines has two places for every value of a line of a class. -/
theorem Terminal.Table.ShowsLines.exists_cell {table : Terminal.Table}
    {highlighted : Option String} {size step : ℤ} {lines : List Dataset}
    (h : table.ShowsLines highlighted size step lines) {line : Dataset} (hline : line ∈ lines)
    {c : ComplexityClass} (hof : line.IsOf c) {p : Point} (hp : p ∈ line.points) :
    ∃ cell, p.y.twoPlaces = .ok cell := by
  obtain ⟨i, hi, rfl⟩ := List.getElem_of_mem hp
  have hrow : i < table.rows.length := h.length_lines line hline ▸ hi
  obtain ⟨cells, -, hcells⟩ := h.rows i _ (List.getElem?_eq_getElem hrow)
  obtain ⟨cell, hcell⟩ := exists_of_forall₂ hcells c.mem_all
  obtain ⟨y, hy, hrendered⟩ := hcell line hline hof
  rw [List.getElem?_eq_getElem hi] at hy
  exact ⟨cell, by rw [Option.some.inj hy]; exact hrendered⟩

namespace Report

/-- The table of curves shows what a chart of the same curves draws, on any screen, with any class
highlighted in either of them and any opacity that has a text: its rows are the multiples of the
step below the size, and the cell of a class has the two places of the value that the line of the
class has at the index of the row. The report is printed exactly if all values that are drawn have
two places. All that can fail is that the ceiling is a whole number beyond the doubles. -/
theorem curveReport_shows_datasets {size step : ℤ} (hsize : 1 ≤ size) (hstep : 1 ≤ step) :
    (size ≤ 2 ^ 256 → ∃ curves, Curve.family size = .ok curves) ∧
    ∀ (screen : Terminal.Screen) (chart : Chart) (ceiling : Quantity)
      (highlighted : Option String),
      Curve.family size = .ok chart.curves → chart.step = .int step →
      chart.ceiling = .number ceiling → chart.opacity.isWritable = true →
      let printed := curveReport screen chart.curves highlighted chart.step chart.ceiling
      ∃ lines, chart.datasets = .ok lines ∧ (∀ c, ∃ line ∈ lines, line.IsOf c) ∧
        ((∃ text, printed = .ok text) ↔
          ∀ line ∈ lines, ∀ p ∈ line.points, ∃ cell, p.y.twoPlaces = .ok cell) ∧
        (∀ text, printed = .ok text → ∃ table : Terminal.Table,
          text = Terminal.textOfLines (table.lines screen.columns) ∧
            table.ShowsLines highlighted size step lines) ∧
        ∀ failure, printed = .error failure → failure = .arithmetic .integerTooLarge ∧
          ceiling.twoPlaces = .error failure := by
  lift step to ℕ using by omega
  have hpos : 0 < step := by exact_mod_cast hstep
  refine ⟨Curve.exists_family,
    fun screen chart ceiling highlighted hcurves hwhole hceiling hopacity => ?_⟩
  have hlow : chart.step.lt (.int 1) = false := by
    rw [hwhole, Quantity.int_lt_one_eq_false hstep]
  obtain ⟨lines, hlines, -, -⟩ := Chart.exists_datasets hcurves (by omega) hceiling hlow
    (by rw [hwhole]; exact fun _ => nofun) hopacity
  have hsamples : chart.Samples size ceiling step lines :=
    ⟨hcurves, hceiling, hwhole, hpos, hlines⟩
  refine ⟨lines, hlines, Chart.exists_line_of_class hcurves hlines, ?_⟩
  rw [hwhole, hceiling, curveReport_family hcurves hpos]
  cases hrows : curveRows (chart.curves.map (·.sampled ceiling step)) with
  | ok rows =>
    have hshows := hsamples.showsLines highlighted (by omega) hrows
    rw [Except.map]
    refine ⟨iff_of_true ⟨_, rfl⟩ ?_, ?_, fun _ hfailed => nomatch hfailed⟩
    · intro line hline p hp
      obtain ⟨c, -, -, hof, -⟩ := hsamples.exists_curve hline
      exact hshows.exists_cell hline hof hp
    · intro text htext
      exact ⟨_, (Except.ok.inj htext).symm, hshows⟩
  | error failure =>
    obtain ⟨hfailed, line, hline, p, hp, hreached⟩ :=
      hsamples.exists_point_of_curveRows_eq_error hrows
    rw [Except.map]
    refine ⟨iff_of_false nofun fun hall => ?_, nofun, ?_⟩
    · obtain ⟨cell, hcell⟩ := hall line hline p hp
      rw [hreached, hfailed] at hcell
      cases hcell
    · rintro _ ⟨⟩
      exact ⟨(Quantity.twoPlaces_eq_error hfailed).1, hfailed⟩

/-- Every second of three sizes gives two rows under the ceiling one thousand. -/
theorem curveReport_shows_datasets_two_of_three :
    ∃ (chart : Chart) (lines : List Dataset) (table : Terminal.Table),
      Curve.family 3 = .ok chart.curves ∧ chart.step = .int 2 ∧
      chart.ceiling = .number (.int 1000) ∧ chart.datasets = .ok lines ∧
      curveReport .usual chart.curves (some "O(n)") chart.step chart.ceiling =
        .ok (Terminal.textOfLines (table.lines Terminal.Screen.usual.columns)) ∧
      table.rows.length = 2 ∧ table.ShowsLines (some "O(n)") 3 2 lines := by
  obtain ⟨hexists, hshows⟩ := @curveReport_shows_datasets 3 2 (by decide) (by decide)
  obtain ⟨curves, hcurves⟩ := hexists (by decide)
  let chart : Chart :=
    ⟨.cubic, curves, none, none, .null, .number (.int 1000), .int 2, .int 1⟩
  obtain ⟨lines, hlines, -, -, hprinted, hfailed⟩ :=
    hshows .usual chart (.int 1000) (some "O(n)") hcurves rfl rfl rfl
  have hplaces : (Quantity.int 1000).twoPlaces.isOk = true := by decide +kernel
  cases hreport : curveReport .usual chart.curves (some "O(n)") chart.step chart.ceiling with
  | ok text =>
    obtain ⟨table, rfl, htable⟩ := hprinted text hreport
    have hlength : ((table.rows.length : ℕ) : ℤ) = 2 := by
      rw [htable.length]
      norm_num
    exact ⟨chart, lines, table, hcurves, rfl, rfl, hlines, hreport, by exact_mod_cast hlength,
      htable⟩
  | error failure =>
    rw [(hfailed failure hreport).2] at hplaces
    cases hplaces

/-- A whole number below all doubles is drawn as a ceiling, but cannot be printed. -/
theorem exists_ceiling_drawn_not_printed :
    ∃ (chart : Chart) (lines : List Dataset), Curve.family 1 = .ok chart.curves ∧
      chart.step = .int 1 ∧ chart.ceiling = .number (.int (-(2 ^ 1024))) ∧
      chart.datasets = .ok lines ∧
      curveReport .usual chart.curves none chart.step chart.ceiling =
        .error (.arithmetic .integerTooLarge) := by
  have hfailed : (Curve.family 1 >>= fun curves =>
      curveReport .usual curves none (.int 1) (.number (.int (-(2 ^ 1024))))) =
        .error (.arithmetic .integerTooLarge) := by
    decide +kernel
  obtain ⟨curves, hcurves⟩ := @Curve.exists_family 1 (by decide)
  rw [hcurves] at hfailed
  obtain ⟨lines, hlines, -⟩ := @Chart.exists_datasets
    ⟨.cubic, curves, none, none, .null, .number (.int (-(2 ^ 1024))), .int 1, .int 1⟩ 1 _ hcurves
    (by decide) rfl (Quantity.int_lt_one_eq_false le_rfl) (fun _ => nofun) rfl
  exact ⟨_, lines, hcurves, rfl, rfl, hlines, hfailed⟩

end Report

end OrderOfGrowth

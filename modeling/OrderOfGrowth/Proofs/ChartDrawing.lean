import OrderOfGrowth.Proofs.ChartRun
import OrderOfGrowth.Proofs.Thinning

/-!
# Drawing with accepted settings

Settings that were accepted give a positive number of sizes, so every curve of the family begins at
the size zero, and so does what is left of it when it has been thinned out. A whole step always
leaves something. A step that is a double passes the check of the settings but cannot thin anything
out, so then nothing is drawn.
-/

namespace OrderOfGrowth

/-- Thinning keeps the first item. -/
theorem everyNth_cons {α : Type} (step : Nat) (first : α) (rest : List α) :
    everyNth step (first :: rest) = first :: everyNth step (rest.drop (step - 1)) := by
  rw [everyNth]

/-- A step of at least one that is no double thins out any items, and keeps the first one. -/
theorem thin_cons {α : Type} {first : α} {rest : List α} {step : Quantity}
    (hlow : step.lt (.int 1) = false) (hwhole : ∀ x, step ≠ .float x) :
    ∃ others, thin (first :: rest) step = .ok (first :: others) := by
  unfold thin
  rw [if_neg (by simp [hlow])]
  cases step with
  | int n => exact ⟨_, congrArg Except.ok (everyNth_cons _ _ _)⟩
  | truth b => exact ⟨_, congrArg Except.ok (everyNth_cons _ _ _)⟩
  | float x => exact absurd rfl (hwhole x)

/-- A double thins nothing out, even if it is at least one. -/
theorem thin_float {α : Type} (items : List α) {x : Binary64}
    (hlow : (Quantity.float x).lt (.int 1) = false) :
    thin items (.float x) = .error (.kind .step) := by
  unfold thin
  rw [if_neg (by simp [hlow])]

namespace ComplexityClass

/-- The red, green and blue of the colour of a class. -/
def channels : ComplexityClass → ℤ × ℤ × ℤ
  | constant => (0, 255, 0)
  | logarithmic => (255, 136, 0)
  | linear => (136, 255, 0)
  | linearithmic => (255, 255, 255)
  | quadratic => (0, 170, 136)
  | cubic => (255, 0, 170)
  | exponential => (0, 170, 255)
  | factorial => (170, 85, 0)

/-- The colour of a class with an opacity, as style sheets have it. -/
def shade (c : ComplexityClass) (opacity : List Char) : String :=
  let (red, green, blue) := c.channels
  String.ofList ("rgba(".toList ++ integerText red ++ ", ".toList ++ integerText green ++
    ", ".toList ++ integerText blue ++ ", ".toList ++ opacity ++ ")".toList)

/-- The colour of a class is its shade with the opacity that is asked for, if that has a text. -/
theorem rgba_colour (c : ComplexityClass) (alpha : Quantity) :
    Colour.rgba c.colour alpha = alpha.written.map c.shade := by
  have hchannels : ∀ c ∈ all,
      let body := c.colour.toList.dropWhile (· == '#')
      Colour.channel (body.take 2) = .ok c.channels.1 ∧
        Colour.channel ((body.drop 2).take 2) = .ok c.channels.2.1 ∧
        Colour.channel ((body.drop 4).take 2) = .ok c.channels.2.2 := by decide +kernel
  obtain ⟨hred, hgreen, hblue⟩ := hchannels c c.mem_all
  unfold Colour.rgba shade
  generalize c.channels = channels at hred hgreen hblue ⊢
  dsimp only
  rw [hred, hgreen, hblue]
  cases alpha.written with
  | error failure => rfl
  | ok opacity =>
    refine congrArg (fun text => Except.ok (String.ofList text)) ?_
    simp [Text.joinWith]

/-- The colour of a class is its shade with an opacity that has a text. -/
theorem rgba_colour_of_isWritable (c : ComplexityClass) {alpha : Quantity}
    (h : alpha.isWritable = true) : Colour.rgba c.colour alpha = .ok (c.shade alpha.text) := by
  rw [rgba_colour, Quantity.written_eq_ok.mpr ⟨h, rfl⟩]
  rfl

end ComplexityClass

namespace Curve

variable {c : ComplexityClass} {size : Int} {curve : Curve}

/-- The curves of all classes exist up to two to the 256 points. -/
theorem exists_family (hsize : size ≤ 2 ^ 256) : ∃ curves, family size = .ok curves :=
  exists_mapM fun c _ => exists_ofClass c hsize

/-- A curve with points begins at the size zero. -/
theorem points_eq_cons (hsize : 0 < size) (h : ofClass c size = .ok curve) :
    ∃ first rest, curve.points = first :: rest ∧ first.x = 0 := by
  obtain ⟨hlength, hpoints⟩ := points_of_ofClass h
  have hpos : 0 < curve.points.length := by omega
  obtain ⟨y, -, hfirst⟩ := hpoints 0 hpos
  refine ⟨curve.points[0], curve.points.drop 1, (List.getElem_cons_drop hpos).symm, ?_⟩
  rw [hfirst]
  rfl

/-- Under a ceiling that is a number the points of a curve are held and then thinned out. -/
theorem displayed_number (curve : Curve) (ceiling step : Quantity) :
    curve.displayed (.number ceiling) step = thin (curve.capped ceiling) step := rfl

/-- With a step of at least one that is no double, what is displayed of a curve with points begins
at the size zero. -/
theorem exists_displayed {ceiling step : Quantity} (hsize : 0 < size)
    (h : ofClass c size = .ok curve) (hlow : step.lt (.int 1) = false)
    (hwhole : ∀ x, step ≠ .float x) :
    ∃ first rest, curve.displayed (.number ceiling) step = .ok (first :: rest) ∧ first.x = 0 := by
  obtain ⟨first, rest, hpoints, hzero⟩ := points_eq_cons hsize h
  rw [displayed_number, capped, hpoints, List.map_cons]
  obtain ⟨others, hthin⟩ := thin_cons hlow hwhole
  exact ⟨_, others, hthin, hzero⟩

/-- All curves but the highlighted one come from the given curves. -/
theorem subset_of_split {curves others : List Curve} {highlighted : Option Curve}
    (h : split curves c = (highlighted, others)) : others ⊆ curves := by
  unfold split at h
  split at h
  · obtain ⟨-, rfl⟩ := Prod.mk.inj h
    exact List.filter_subset_self _
  · obtain ⟨-, rfl⟩ := Prod.mk.inj h
    exact List.Subset.refl curves

end Curve

/-- A line has points, and the first of them is at the size zero. -/
def Dataset.StartsAtZero (line : Dataset) : Prop :=
  ∃ first rest, line.points = first :: rest ∧ first.x = 0

namespace Chart

variable {chart : Chart} {size : Int} {ceiling : Quantity}

/-- A curve whose displayed points begin at the size zero has a line that does, thick or thin. -/
theorem exists_line {curve : Curve} {first : Point} {rest : List Point}
    (hopacity : chart.opacity.isWritable = true)
    (hshown : curve.displayed chart.ceiling chart.step = .ok (first :: rest))
    (hzero : first.x = 0) :
    (∃ line, chart.highlightedLine curve = .ok line ∧ line.StartsAtZero) ∧
      ∃ line, chart.dimmedLine curve = .ok line ∧ line.StartsAtZero := by
  unfold highlightedLine dimmedLine
  rw [hshown, ComplexityClass.rgba_colour_of_isWritable _ rfl,
    ComplexityClass.rgba_colour_of_isWritable _ hopacity]
  exact ⟨⟨_, rfl, first, rest, rfl, hzero⟩, ⟨_, rfl, first, rest, rfl, hzero⟩⟩

/-- A chart of a family with points is drawn if its ceiling is a number and its step is at least one
and no double: there is a line for every class, and all lines begin at the size zero. -/
theorem exists_datasets (hcurves : Curve.family size = .ok chart.curves) (hsize : 0 < size)
    (hceiling : chart.ceiling = .number ceiling) (hlow : chart.step.lt (.int 1) = false)
    (hwhole : ∀ x, chart.step ≠ .float x) (hopacity : chart.opacity.isWritable = true) :
    ∃ datasets, chart.datasets = .ok datasets ∧ datasets.length = ComplexityClass.all.length ∧
      ∀ line ∈ datasets, line.StartsAtZero := by
  have hlines : ∀ c curve, Curve.ofClass c size = .ok curve →
      (∃ line, chart.highlightedLine curve = .ok line ∧ line.StartsAtZero) ∧
        ∃ line, chart.dimmedLine curve = .ok line ∧ line.StartsAtZero := by
    intro c curve hcurve
    obtain ⟨first, rest, hshown, hzero⟩ := Curve.exists_displayed hsize hcurve hlow hwhole
    rw [← hceiling] at hshown
    exact exists_line hopacity hshown hzero
  obtain ⟨highlighted, others, hsplit, hhighlighted, -⟩ :=
    Curve.split_family hcurves chart.complexity
  have hothers : ∀ curve ∈ others,
      ∃ line, chart.dimmedLine curve = .ok line ∧ line.StartsAtZero := by
    intro curve hcurve
    obtain ⟨c, -, hc⟩ := exists_of_mem_mapM hcurves (Curve.subset_of_split hsplit hcurve)
    exact (hlines c curve hc).2
  obtain ⟨⟨marked, hmarked, hstart⟩, -⟩ := hlines _ _ hhighlighted
  obtain ⟨rest, hrest⟩ := exists_mapM fun curve hcurve =>
    (hothers curve hcurve).imp fun _ hline => hline.1
  have hdrawn : chart.datasets = .ok (marked :: rest) := by
    unfold datasets
    rw [hsplit]
    dsimp only
    rw [hmarked, hrest]
    rfl
  refine ⟨marked :: rest, hdrawn, ?_, ?_⟩
  · have hlabels := congrArg List.length (map_label_datasets hcurves hdrawn)
    rw [List.length_map] at hlabels
    rw [hlabels]
    cases chart.complexity <;> rfl
  · intro line hline
    rcases List.mem_cons.mp hline with rfl | hmem
    · exact hstart
    · obtain ⟨curve, hcurve, hfound⟩ := exists_of_mem_mapM hrest hmem
      obtain ⟨known, hknown, hzero⟩ := hothers curve hcurve
      obtain rfl := Except.ok.inj (hknown.symm.trans hfound)
      exact hzero

/-- A chart whose step is a double is not drawn. -/
theorem datasets_of_float_step {x : Binary64} (hcurves : Curve.family size = .ok chart.curves)
    (hceiling : chart.ceiling = .number ceiling) (hstep : chart.step = .float x)
    (hlow : chart.step.lt (.int 1) = false) : chart.datasets = .error (.kind .step) := by
  obtain ⟨highlighted, others, hsplit, -⟩ := Curve.split_family hcurves chart.complexity
  rw [hstep] at hlow
  unfold datasets
  rw [hsplit]
  dsimp only
  unfold highlightedLine
  rw [hceiling, hstep, Curve.displayed_number, thin_float _ hlow]
  rfl

end Chart

/-- Settings from the members of an object have a step that was checked. -/
theorem ChartSettings.sampleStep_of_ofMembers {members : Keyed Json} {settings : ChartSettings}
    (h : ofMembers members = .ok settings) : settings.sampleStep.lt (.int 1) = false := by
  obtain ⟨-, ⟨-, ⟨step, hstep, hlow⟩, -⟩, hvalues⟩ := ofMembers_eq_ok_iff.mp h
  obtain rfl := Json.number.inj (hvalues.numbers.2.1.symm.trans hstep)
  exact hlow

/-- A quantity from zero to one has a text. -/
theorem Quantity.isWritable_of_fraction {q : Quantity} (hlow : Quantity.le (.int 0) q = true)
    (hhigh : q.le (.int 1) = true) : q.isWritable = true := by
  cases q with
  | int n =>
    have hfrom : 0 ≤ n := by simpa [le, place?, Place.le, Place.lt] using hlow
    have hto : (n : ℚ) ≤ 1 := by simpa [le, place?, Place.le, Place.lt] using hhigh
    have hone : n ≤ 1 := by exact_mod_cast hto
    obtain rfl | rfl : n = 0 ∨ n = 1 := by omega
    · decide
    · decide
  | float x => rfl
  | truth b => rfl

/-- Settings from the members of an object have an opacity that has a text. -/
theorem ChartSettings.isWritable_dimmedOpacity {members : Keyed Json} {settings : ChartSettings}
    (h : ofMembers members = .ok settings) : settings.dimmedOpacity.isWritable = true := by
  obtain ⟨-, ⟨-, -, opacity, hopacity, hlow, hhigh⟩, hvalues⟩ := ofMembers_eq_ok_iff.mp h
  obtain rfl := Json.number.inj (hvalues.numbers.2.2.symm.trans hopacity)
  exact Quantity.isWritable_of_fraction hlow hhigh

namespace Command

/-- The curves for the domain of settings. -/
def curvesFor (settings : ChartSettings) : Except Failure (List Curve) :=
  settings.domainSize.truncate >>= Curve.family

/-- The chart for settings that shows given curves. -/
def chartOf (settings : ChartSettings) (measured : Measurements) (estimate : Estimate)
    (curves : List Curve) : Chart :=
  ⟨estimate.complexity, curves, measured.runtime, measured.memory, measured.memoryLimit,
    settings.valueCeiling, settings.sampleStep, settings.dimmedOpacity⟩

/-- What is drawn for settings are their curves, if these can be computed. -/
theorem datasets_chartFor {options : Options} {settings : ChartSettings} (measured : Measurements)
    (estimate : Estimate) (hentry : options.config.chart = .settings settings) :
    chartFor options measured estimate >>= Chart.datasets =
      curvesFor settings >>= fun curves =>
        (chartOf settings measured estimate curves).datasets := by
  unfold chartFor curvesFor
  rw [hentry]
  change ((settings.domainSize.truncate >>= fun size => Curve.family size >>= _) >>= _) = _
  cases settings.domainSize.truncate with
  | error failure => rfl
  | ok size =>
    change ((Curve.family size >>= _) >>= _) = (Curve.family size >>= _)
    cases Curve.family size <;> rfl

/-- The curves of settings can be computed if the domain has a whole part of up to two to the
256. -/
theorem exists_curvesFor {settings : ChartSettings} {size : Int}
    (hsize : settings.domainSize.truncate = .ok size) (hsmall : size ≤ 2 ^ 256) :
    ∃ curves, curvesFor settings = .ok curves := by
  obtain ⟨curves, hcurves⟩ := Curve.exists_family hsmall
  exact ⟨curves, bind_eq_ok.mpr ⟨size, hsize, hcurves⟩⟩

/-- With settings that were accepted and a ceiling that is a number, a chart is drawn exactly if its
curves can be computed, as they can for any whole part of the domain up to two to the 256, and its
step is no double. Then it has a line for every class, and all lines begin at the size zero. A step
that is a double is all that stops it if the curves can be computed. -/
theorem chartFor_draws_accepted_settings {options : Options} {members : Keyed Json}
    {settings : ChartSettings} {ceiling : Quantity} (measured : Measurements) (estimate : Estimate)
    (haccepted : ChartSettings.ofMembers members = .ok settings)
    (hentry : options.config.chart = .settings settings)
    (hceiling : settings.valueCeiling = .number ceiling) :
    ((∃ datasets, chartFor options measured estimate >>= Chart.datasets = .ok datasets) ↔
      (∃ curves, curvesFor settings = .ok curves) ∧ ∀ x, settings.sampleStep ≠ .float x) ∧
    (∀ size, settings.domainSize.truncate = .ok size → size ≤ 2 ^ 256 →
      ∃ curves, curvesFor settings = .ok curves) ∧
    (∀ datasets, chartFor options measured estimate >>= Chart.datasets = .ok datasets →
      datasets.length = ComplexityClass.all.length ∧ ∀ line ∈ datasets, line.StartsAtZero) ∧
    ∀ curves x, curvesFor settings = .ok curves → settings.sampleStep = .float x →
      chartFor options measured estimate >>= Chart.datasets = .error (.kind .step) := by
  have hlow := ChartSettings.sampleStep_of_ofMembers haccepted
  have hsmall : ∀ size, settings.domainSize.truncate = .ok size → size ≤ 2 ^ 256 →
      ∃ curves, curvesFor settings = .ok curves := fun _ => exists_curvesFor
  rw [datasets_chartFor measured estimate hentry]
  cases hfound : curvesFor settings with
  | error failure =>
    rw [hfound] at hsmall
    have hnone : (Except.error failure >>= fun curves =>
        (chartOf settings measured estimate curves).datasets) = .error failure := rfl
    rw [hnone]
    exact ⟨iff_of_false nofun (fun h => nomatch h.1), hsmall, nofun, fun _ _ h => nomatch h⟩
  | ok curves =>
    rw [hfound] at hsmall
    obtain ⟨size, hsize, hcurves⟩ := bind_eq_ok.mp hfound
    have hpositive :=
      Quantity.pos_of_truncate (ChartSettings.domainSize_of_ofMembers haccepted) hsize
    have hchart : (Except.ok curves >>= fun curves =>
        (chartOf settings measured estimate curves).datasets) =
          (chartOf settings measured estimate curves).datasets := rfl
    rw [hchart]
    by_cases hstep : ∃ x, settings.sampleStep = .float x
    · obtain ⟨x, hx⟩ := hstep
      have hfailed : (chartOf settings measured estimate curves).datasets =
          .error (.kind .step) := Chart.datasets_of_float_step hcurves hceiling hx hlow
      rw [hfailed]
      exact ⟨iff_of_false nofun (fun h => h.2 x hx), hsmall, nofun, fun _ _ _ _ => rfl⟩
    · have hwhole : ∀ x, settings.sampleStep ≠ .float x := not_exists.mp hstep
      have hexists : ∃ datasets, (chartOf settings measured estimate curves).datasets =
          .ok datasets ∧ _ := Chart.exists_datasets hcurves hpositive hceiling hlow hwhole
          (ChartSettings.isWritable_dimmedOpacity haccepted)
      obtain ⟨datasets, hdrawn, hlines⟩ := hexists
      rw [hdrawn]
      refine ⟨iff_of_true ⟨_, rfl⟩ ⟨⟨_, rfl⟩, hwhole⟩, hsmall, ?_,
        fun _ x _ hx => absurd hx (hwhole x)⟩
      rintro _ ⟨⟩
      exact hlines

/-- Two and a half sizes are drawn as two. -/
theorem chartFor_draws_accepted_settings_half_size :
    ∃ settings, ChartSettings.ofMembers
        [("domain_size", .number (.float (.ofQuotient false 5 2))), ("sample_step", .int 3)] =
          .ok settings ∧
      ∀ options measured estimate, options.config.chart = .settings settings →
        ∃ datasets, chartFor options measured estimate >>= Chart.datasets = .ok datasets ∧
          datasets.length = ComplexityClass.all.length ∧ ∀ line ∈ datasets, line.StartsAtZero := by
  have hread : (ChartSettings.ofMembers
      [("domain_size", .number (.float (.ofQuotient false 5 2))),
        ("sample_step", .int 3)]).isOk = true := by decide +kernel
  obtain ⟨settings, haccepted⟩ := isOk_iff_exists.mp hread
  obtain ⟨-, -, hvalues⟩ := ChartSettings.ofMembers_eq_ok_iff.mp haccepted
  obtain ⟨hdomain, hstep, -⟩ := hvalues.numbers
  have hceiling : settings.valueCeiling = .number (.int standardCeiling) := hvalues.valueCeiling
  have hcurves : (curvesFor settings).isOk = true := by
    rw [curvesFor, ← Json.number.inj hdomain]
    decide +kernel
  have hwhole : ∀ x, settings.sampleStep ≠ .float x := by
    intro x hx
    rw [← Json.number.inj hstep] at hx
    cases hx
  refine ⟨settings, haccepted, fun options measured estimate hentry => ?_⟩
  obtain ⟨hdrawn, -, hlines, -⟩ :=
    chartFor_draws_accepted_settings measured estimate haccepted hentry hceiling
  obtain ⟨datasets, hdatasets⟩ := hdrawn.mpr ⟨isOk_iff_exists.mp hcurves, hwhole⟩
  exact ⟨datasets, hdatasets, hlines datasets hdatasets⟩

/-- The double two is accepted as a step, but no chart of one size is drawn with it. -/
theorem exists_accepted_settings_not_drawn :
    ∃ settings curves, ChartSettings.ofMembers
        [("domain_size", .int 1), ("sample_step", .number (.float (.ofQuotient false 2 1)))] =
          .ok settings ∧
      settings.valueCeiling = .int standardCeiling ∧ curvesFor settings = .ok curves ∧
      ∀ options measured estimate, options.config.chart = .settings settings →
        chartFor options measured estimate >>= Chart.datasets = .error (.kind .step) := by
  have hread : (ChartSettings.ofMembers
      [("domain_size", .int 1),
        ("sample_step", .number (.float (.ofQuotient false 2 1)))]).isOk = true := by
    decide +kernel
  obtain ⟨settings, haccepted⟩ := isOk_iff_exists.mp hread
  obtain ⟨-, -, hvalues⟩ := ChartSettings.ofMembers_eq_ok_iff.mp haccepted
  obtain ⟨hdomain, hstep, -⟩ := hvalues.numbers
  have hceiling : settings.valueCeiling = .int standardCeiling := hvalues.valueCeiling
  have hfamily : (curvesFor settings).isOk = true := by
    rw [curvesFor, ← Json.number.inj hdomain]
    decide +kernel
  obtain ⟨curves, hcurves⟩ := isOk_iff_exists.mp hfamily
  obtain ⟨size, -, hsized⟩ := bind_eq_ok.mp hcurves
  refine ⟨settings, curves, haccepted, hceiling, hcurves, ?_⟩
  intro options measured estimate hentry
  have hfailed : (chartOf settings measured estimate curves).datasets = .error (.kind .step) :=
    Chart.datasets_of_float_step hsized hceiling (Json.number.inj hstep).symm
      (ChartSettings.sampleStep_of_ofMembers haccepted)
  rw [datasets_chartFor measured estimate hentry, hcurves]
  exact hfailed

end Command

end OrderOfGrowth

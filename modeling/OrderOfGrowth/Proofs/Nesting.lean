import Mathlib.Algebra.BigOperators.Intervals
import Mathlib.Algebra.BigOperators.Ring.Finset
import Mathlib.Algebra.Order.BigOperators.Group.Finset
import Mathlib.Algebra.Order.Interval.Finset.SuccPred
import Mathlib.Order.Bounds.Basic
import Mathlib.Tactic.Ring
import OrderOfGrowth.Scan

/-!
# Nesting of loops

A walk over the lines of a source keeps the number of open loops with a floor at zero and a
flag. This file proves that the flag only says whether a loop is open, and that the deepest
nesting is the best balance of a window of lines: the starts in the window less the closes
before its last line. Both are invariants of one line of the walk.
-/

namespace OrderOfGrowth

/-- Whether line `k` of a source starts a loop. There is no start behind the last line. -/
def startsAt (tokens : List (List Char)) (source : List Char) (k : ℕ) : Bool :=
  (Text.lines source)[k]?.any fun line => startsLoop tokens (Text.lowercase line)

/-- Whether line `k` of a source closes a block. There is no close behind the last line. -/
def closesAt (source : List Char) (k : ℕ) : Bool :=
  (Text.lines source)[k]?.any closesBlock

/-- The starts from line `i` to line `j`, less the closes from line `i` to the line before `j`. -/
def windowBalance (starts closes : ℕ → Bool) (i j : ℕ) : ℤ :=
  ∑ k ∈ Finset.Icc i j, (starts k).toInt - ∑ k ∈ Finset.Ico i j, (closes k).toInt

/-- The balances of all windows in the first `n` lines. -/
def windowBalances (starts closes : ℕ → Bool) (n : ℕ) : Set ℤ :=
  {b | ∃ i j, i ≤ j ∧ j < n ∧ b = windowBalance starts closes i j}

/-- The loops that are open after `n` lines, counted in the integers: a start opens one, and a
close ends one if any is open. There is no flag here, and nothing is cut off at zero. -/
def openLoops (starts closes : ℕ → Bool) : ℕ → ℤ
  | 0 => 0
  | n + 1 =>
    let entered := openLoops starts closes n + (starts n).toInt
    if closes n ∧ 0 < entered then entered - 1 else entered

/-- The number of open loops never falls below zero. -/
theorem openLoops_nonneg (starts closes : ℕ → Bool) (n : ℕ) : 0 ≤ openLoops starts closes n := by
  induction n with
  | zero => exact le_rfl
  | succ n ih =>
    have hstart : 0 ≤ (starts n).toInt := by cases starts n <;> simp
    simp only [openLoops]
    split <;> omega

/-- A close ends a loop unless none is open, so the count stops at zero. -/
theorem openLoops_succ (starts closes : ℕ → Bool) (n : ℕ) :
    openLoops starts closes (n + 1) =
      max 0 (openLoops starts closes n + ((starts n).toInt - (closes n).toInt)) := by
  have hopen := openLoops_nonneg starts closes n
  have hstart : 0 ≤ (starts n).toInt := by cases starts n <;> simp
  simp only [openLoops]
  cases hclose : closes n with
  | false => simp; omega
  | true =>
    simp only [true_and, Bool.toInt_true]
    split <;> omega

/-- The balance of a window that ends at line `j`, by what the lines before `j` leave open. -/
theorem windowBalance_eq_sum_add (starts closes : ℕ → Bool) {i j : ℕ} (hij : i ≤ j) :
    windowBalance starts closes i j =
      ∑ k ∈ Finset.Ico i j, ((starts k).toInt - (closes k).toInt) + (starts j).toInt := by
  rw [windowBalance, ← Finset.Ico_add_one_right_eq_Icc, Finset.sum_Ico_succ_top hij,
    Finset.sum_sub_distrib]
  ring

/-- A window is two windows that meet at line `k`, where the close between them counts. -/
theorem windowBalance_split (starts closes : ℕ → Bool) {i k j : ℕ} (hik : i ≤ k) (hkj : k < j) :
    windowBalance starts closes i j =
      windowBalance starts closes i k + windowBalance starts closes (k + 1) j -
        (closes k).toInt := by
  rw [windowBalance_eq_sum_add _ _ (by omega : i ≤ j), windowBalance_eq_sum_add _ _ hik,
    windowBalance_eq_sum_add _ _ (by omega : k + 1 ≤ j),
    ← Finset.sum_Ico_consecutive _ (by omega : i ≤ k + 1) (by omega : k + 1 ≤ j),
    Finset.sum_Ico_succ_top hik]
  ring

/-- The number of open loops is the most that the lines from some line on leave open. -/
theorem openLoops_isGreatest (starts closes : ℕ → Bool) (n : ℕ) :
    IsGreatest {b | ∃ i ≤ n, b = ∑ k ∈ Finset.Ico i n, ((starts k).toInt - (closes k).toInt)}
      (openLoops starts closes n) := by
  induction n with
  | zero =>
    constructor
    · exact ⟨0, le_rfl, by simp [openLoops]⟩
    · rintro b ⟨i, hi, rfl⟩
      simp [openLoops, Nat.le_zero.mp hi]
  | succ n ih =>
    obtain ⟨⟨i, hi, hopen⟩, hbound⟩ := ih
    rw [openLoops_succ]
    constructor
    · rcases max_choice 0 (openLoops starts closes n + ((starts n).toInt - (closes n).toInt)) with
        hmax | hmax
      · exact ⟨n + 1, le_rfl, by rw [hmax]; simp⟩
      · exact ⟨i, by omega, by rw [hmax, Finset.sum_Ico_succ_top hi, ← hopen]⟩
    · rintro b ⟨i, hi, rfl⟩
      rcases Nat.lt_or_ge n i with hlast | hbefore
      · have hempty : i = n + 1 := by omega
        simp [hempty]
      · have hle := hbound ⟨i, hbefore, rfl⟩
        rw [Finset.sum_Ico_succ_top hbefore]
        exact le_max_of_le_right (by omega)

/-- The windows that end at line `n` reach from line `i` on what is open before it. -/
theorem windowBalance_le_openLoops (starts closes : ℕ → Bool) {i n : ℕ} (hi : i ≤ n) :
    windowBalance starts closes i n ≤ openLoops starts closes n + (starts n).toInt := by
  have hbound := (openLoops_isGreatest starts closes n).2 ⟨i, hi, rfl⟩
  rw [windowBalance_eq_sum_add _ _ hi]
  omega

/-- Some window that ends at line `n` has as balance what is open before it and its own start. -/
theorem exists_windowBalance_eq (starts closes : ℕ → Bool) (n : ℕ) :
    ∃ i ≤ n, windowBalance starts closes i n = openLoops starts closes n + (starts n).toInt := by
  obtain ⟨i, hi, hopen⟩ := (openLoops_isGreatest starts closes n).1
  exact ⟨i, hi, by rw [windowBalance_eq_sum_add _ _ hi, hopen]⟩

/-- A start in a window without any close leaves the balance at the number of starts. -/
theorem windowBalance_eq_card (starts closes : ℕ → Bool) {i j : ℕ}
    (hopen : ∀ k, i ≤ k → k < j → closes k = false) :
    windowBalance starts closes i j = ((Finset.Icc i j).filter (starts · = true)).card := by
  have hcloses : ∑ k ∈ Finset.Ico i j, (closes k).toInt = 0 := by
    refine Finset.sum_eq_zero fun k hk => ?_
    obtain ⟨hik, hkj⟩ := Finset.mem_Ico.mp hk
    rw [hopen k hik hkj, Bool.toInt_false]
  have hstarts : ∀ k, (starts k).toInt = if starts k = true then 1 else 0 := by
    intro k
    cases starts k <;> simp
  rw [windowBalance, hcloses, sub_zero, Finset.natCast_card_filter]
  exact Finset.sum_congr rfl fun k _ => hstarts k

/-- Two starts with no close between them have a balance of at least two. -/
theorem two_le_windowBalance {starts closes : ℕ → Bool} {i j : ℕ} (hij : i < j)
    (hi : starts i = true) (hj : starts j = true)
    (hopen : ∀ k, i ≤ k → k < j → closes k = false) : 2 ≤ windowBalance starts closes i j := by
  rw [windowBalance_eq_card starts closes hopen]
  have hcard : 1 < ((Finset.Icc i j).filter (starts · = true)).card := by
    refine Finset.one_lt_card.mpr ⟨i, ?_, j, ?_, hij.ne⟩ <;> simp [hi, hj, hij.le]
  omega

/-- A window with a balance of at least two has two starts with no close between them. If there
is a close in the window, one of the windows before and behind it has a balance of two. -/
theorem exists_nested_of_two_le (starts closes : ℕ → Bool) {i j n : ℕ} (hij : i ≤ j) (hj : j < n)
    (hbalance : 2 ≤ windowBalance starts closes i j) :
    ∃ i j, i < j ∧ j < n ∧ starts i ∧ starts j ∧ ∀ k, i ≤ k → k < j → closes k = false := by
  induction hlength : j - i using Nat.strong_induction_on generalizing i j with
  | _ length ih =>
    by_cases hclose : ∃ k, i ≤ k ∧ k < j ∧ closes k = true
    · obtain ⟨k, hik, hkj, hk⟩ := hclose
      rw [windowBalance_split starts closes hik hkj, hk, Bool.toInt_true] at hbalance
      by_cases hleft : 2 ≤ windowBalance starts closes i k
      · exact ih (k - i) (by omega) hik (by omega) hleft rfl
      · exact ih (j - (k + 1)) (by omega) (by omega) hj (by omega) rfl
    · have hopen : ∀ k, i ≤ k → k < j → closes k = false := by
        intro k hik hkj
        exact Bool.eq_false_iff.mpr fun hk => hclose ⟨k, hik, hkj, hk⟩
      rw [windowBalance_eq_card starts closes hopen] at hbalance
      have hcard : 1 < ((Finset.Icc i j).filter (starts · = true)).card := by omega
      obtain ⟨a, ha, b, hb, hab⟩ := Finset.one_lt_card.mp hcard
      simp only [Finset.mem_filter, Finset.mem_Icc] at ha hb
      rcases Nat.lt_or_gt_of_ne hab with hlt | hlt
      · exact ⟨a, b, hlt, by omega, ha.2, hb.2, fun k hak hkb => hopen k (by omega) (by omega)⟩
      · exact ⟨b, a, hlt, by omega, hb.2, ha.2, fun k hbk hka => hopen k (by omega) (by omega)⟩

namespace Walk

/-- A walk over the first `n` lines, given by which lines start a loop and which close a block. -/
def after (starts closes : ℕ → Bool) : ℕ → Walk
  | 0 => start
  | n + 1 => (after starts closes n).step (starts n) (closes n)

/-- What holds of a walk between any two lines: the flag says whether a loop is open, and no
more loops are open than ever were, nor more than have been found. -/
structure Consistent (walk : Walk) : Prop where
  inside_iff : walk.inside = true ↔ 0 < walk.depth
  depth_le : walk.depth ≤ walk.deepest
  deepest_le : walk.deepest ≤ walk.loops

/-- A walk is consistent before its first line. -/
theorem start_consistent : start.Consistent := ⟨by decide, le_rfl, le_rfl⟩

/-- A start keeps a walk consistent. -/
theorem Consistent.enter {walk : Walk} (h : walk.Consistent) : walk.enter.Consistent := by
  have hdeepest := h.deepest_le
  have hdepth := h.depth_le
  refine ⟨by simp [Walk.enter], ?_, ?_⟩ <;> simp only [Walk.enter] <;> omega

/-- A close keeps a walk consistent. -/
theorem Consistent.leave {walk : Walk} (h : walk.Consistent) : walk.leave.Consistent := by
  have hdeepest := h.deepest_le
  have hdepth := h.depth_le
  refine ⟨?_, ?_, hdeepest⟩
  · simp only [Walk.leave, Bool.and_eq_true, bne_iff_ne, h.inside_iff]
    omega
  · simp only [Walk.leave]
    omega

/-- One line keeps a walk consistent. -/
theorem Consistent.step {walk : Walk} (h : walk.Consistent) (starts closes : Bool) :
    (walk.step starts closes).Consistent := by
  have hentered : (if starts then walk.enter else walk).Consistent := by
    split
    · exact h.enter
    · exact h
  simp only [Walk.step]
  generalize (if starts then walk.enter else walk) = entered at hentered ⊢
  split
  · exact hentered.leave
  · exact hentered

/-- A walk is consistent after any number of lines. -/
theorem after_consistent (starts closes : ℕ → Bool) (n : ℕ) :
    (after starts closes n).Consistent := by
  induction n with
  | zero => exact start_consistent
  | succ n ih => exact ih.step _ _

/-- A line raises the number of loops by its own start. -/
theorem loops_step (walk : Walk) (starts closes : Bool) :
    ((walk.step starts closes).loops : ℤ) = walk.loops + starts.toInt := by
  cases starts <;> cases closes <;> cases hinside : walk.inside <;>
    simp [step, enter, leave, hinside]

/-- A line may reach a new deepest nesting by its own start, before any close. -/
theorem Consistent.deepest_step {walk : Walk} (h : walk.Consistent) (starts closes : Bool) :
    ((walk.step starts closes).deepest : ℤ) =
      max (walk.deepest : ℤ) (walk.depth + starts.toInt) := by
  have hdepth := h.depth_le
  cases starts <;> cases closes <;> cases hinside : walk.inside <;>
    simp [Walk.step, Walk.enter, Walk.leave, hinside] <;> omega

/-- On a consistent walk a close counts exactly if a loop is open. -/
theorem Consistent.depth_step {walk : Walk} (h : walk.Consistent) (starts closes : Bool) :
    ((walk.step starts closes).depth : ℤ) =
      if closes ∧ 0 < (walk.depth : ℤ) + starts.toInt then (walk.depth : ℤ) + starts.toInt - 1
      else walk.depth + starts.toInt := by
  have hinside := h.inside_iff
  cases starts <;> cases closes <;> cases hflag : walk.inside <;>
    simp [Walk.step, Walk.enter, Walk.leave, hflag] at hinside ⊢ <;> omega

/-- The depth of a walk is the number of open loops, which is kept without the flag. -/
theorem depth_after (starts closes : ℕ → Bool) (n : ℕ) :
    ((after starts closes n).depth : ℤ) = openLoops starts closes n := by
  induction n with
  | zero => rfl
  | succ n ih => rw [after, (after_consistent starts closes n).depth_step, ih, openLoops]

/-- A walk finds every line that starts a loop. -/
theorem loops_after (starts closes : ℕ → Bool) (n : ℕ) :
    ((after starts closes n).loops : ℤ) = ∑ k ∈ Finset.range n, (starts k).toInt := by
  induction n with
  | zero => rfl
  | succ n ih => rw [after, loops_step, ih, Finset.sum_range_succ]

/-- There are no more loops than lines. -/
theorem loops_after_le (starts closes : ℕ → Bool) (n : ℕ) :
    (after starts closes n).loops ≤ n := by
  have hsum : ∑ k ∈ Finset.range n, (starts k).toInt ≤ ∑ _k ∈ Finset.range n, (1 : ℤ) :=
    Finset.sum_le_sum fun k _ => by cases starts k <;> simp
  have hloops := loops_after starts closes n
  simp only [Finset.sum_const, Finset.card_range, nsmul_eq_mul, mul_one] at hsum
  omega

/-- The deepest nesting is the greatest balance of a window, and zero before the first line. -/
theorem deepest_after_isGreatest (starts closes : ℕ → Bool) (n : ℕ) :
    IsGreatest (insert 0 (windowBalances starts closes n))
      ((after starts closes n).deepest : ℤ) := by
  induction n with
  | zero =>
    constructor
    · exact Set.mem_insert _ _
    · rintro b (rfl | ⟨i, j, -, hj, rfl⟩)
      · exact le_rfl
      · exact absurd hj (Nat.not_lt_zero j)
  | succ n ih =>
    obtain ⟨hmem, hbound⟩ := ih
    rw [after, (after_consistent starts closes n).deepest_step, depth_after]
    constructor
    · rcases max_choice ((after starts closes n).deepest : ℤ)
        (openLoops starts closes n + (starts n).toInt) with hmax | hmax <;> rw [hmax]
      · rcases hmem with hzero | ⟨i, j, hij, hj, hbalance⟩
        · exact Or.inl hzero
        · exact Or.inr ⟨i, j, hij, by omega, hbalance⟩
      · obtain ⟨i, hi, hbalance⟩ := exists_windowBalance_eq starts closes n
        exact Or.inr ⟨i, n, hi, by omega, hbalance.symm⟩
    · rintro b (rfl | ⟨i, j, hij, hj, rfl⟩)
      · exact le_max_of_le_left (Int.natCast_nonneg _)
      · rcases Nat.lt_or_ge j n with hbefore | hlast
        · exact le_max_of_le_left (hbound (Or.inr ⟨i, j, hij, hbefore, rfl⟩))
        · obtain rfl : j = n := by omega
          exact le_max_of_le_right (windowBalance_le_openLoops starts closes hij)

/-- From the first line on zero is no exception: a window of one line is never below zero. -/
theorem deepest_after_isGreatest_of_pos (starts closes : ℕ → Bool) {n : ℕ} (hn : 0 < n) :
    IsGreatest (windowBalances starts closes n) ((after starts closes n).deepest : ℤ) := by
  obtain ⟨hmem, hbound⟩ := deepest_after_isGreatest starts closes n
  refine ⟨?_, fun b hb => hbound (Or.inr hb)⟩
  rcases hmem with hzero | hwindow
  · have hfirst : windowBalance starts closes 0 0 = (starts 0).toInt := by simp [windowBalance]
    have hle := hbound (Or.inr ⟨0, 0, le_rfl, hn, rfl⟩)
    have hnonneg : 0 ≤ (starts 0).toInt := by cases starts 0 <;> simp
    exact ⟨0, 0, le_rfl, hn, by omega⟩
  · exact hwindow

/-- The lines of a source lead where their starts and closes lead. -/
theorem overLines_take (tokens : List (List Char)) (source : List Char) {n : ℕ}
    (hn : n ≤ (Text.lines source).length) :
    overLines tokens ((Text.lines source).take n) =
      after (startsAt tokens source) (closesAt source) n := by
  induction n with
  | zero => rfl
  | succ n ih =>
    have hline : (Text.lines source)[n]? = some (Text.lines source)[n] :=
      List.getElem?_eq_getElem hn
    have hstarts : startsAt tokens source n =
        startsLoop tokens (Text.lowercase (Text.lines source)[n]) := by
      simp only [startsAt, hline, Option.any_some]
    have hcloses : closesAt source n = closesBlock (Text.lines source)[n] := by
      simp only [closesAt, hline, Option.any_some]
    rw [List.take_succ_eq_append_getElem hn, overLines, List.foldl_append, ← overLines,
      ih (by omega), after, hstarts, hcloses]
    rfl

/-- A walk over lines finds every line that starts a loop. -/
theorem loops_overLines (tokens lines : List (List Char)) :
    (overLines tokens lines).loops =
      lines.countP fun line => startsLoop tokens (Text.lowercase line) := by
  have hfrom : ∀ walk : Walk,
      (lines.foldl (fun walk line =>
        walk.step (startsLoop tokens (Text.lowercase line)) (closesBlock line)) walk).loops =
        walk.loops + lines.countP fun line => startsLoop tokens (Text.lowercase line) := by
    induction lines with
    | nil => exact fun walk => rfl
    | cons line rest ih =>
      intro walk
      have hstep := loops_step walk (startsLoop tokens (Text.lowercase line)) (closesBlock line)
      rw [List.foldl_cons, ih, List.countP_cons]
      cases hstart : startsLoop tokens (Text.lowercase line) <;> simp [hstart] at hstep ⊢ <;> omega
  have hwalk := hfrom start
  rwa [show start.loops = 0 from rfl, Nat.zero_add] at hwalk

/-- A whole walk, by the starts and closes of its lines. -/
theorem overLines_eq_after (tokens : List (List Char)) (source : List Char) :
    overLines tokens (Text.lines source) =
      after (startsAt tokens source) (closesAt source) (Text.lines source).length := by
  rw [← overLines_take tokens source le_rfl, List.take_length]

/-- Loops are nested exactly if two lines start loops and no line from the first of them on
closes a block before the second. -/
theorem two_le_deepest_after_iff (starts closes : ℕ → Bool) (n : ℕ) :
    2 ≤ (after starts closes n).deepest ↔
      ∃ i j, i < j ∧ j < n ∧ starts i ∧ starts j ∧ ∀ k, i ≤ k → k < j → closes k = false := by
  obtain ⟨hmem, hbound⟩ := deepest_after_isGreatest starts closes n
  constructor
  · intro hdeep
    rcases hmem with hzero | ⟨i, j, hij, hj, hbalance⟩
    · omega
    · exact exists_nested_of_two_le starts closes hij hj (by omega)
  · rintro ⟨i, j, hij, hj, hi, hstart, hopen⟩
    have hle := hbound (Or.inr ⟨i, j, hij.le, hj, rfl⟩)
    have htwo := two_le_windowBalance hij hi hstart hopen
    omega

end Walk

namespace SignTable

/-- A scan of a source with text in it, by the starts and closes of its lines. -/
theorem scan_eq_after (table : SignTable) (language : Option String) {source : String}
    (hne : source ≠ "") :
    let signs := table.signs (some (table.resolve language))
    let walk := Walk.after (startsAt signs.tokens source.toList) (closesAt source.toList)
      (Text.lines source.toList).length
    table.scan (some source) language =
      ⟨table.resolve language, walk.loops, walk.deepest, signs.hasRecursion source.toList⟩ := by
  have htext : source.toList.isEmpty = false := by
    simpa [List.isEmpty_iff] using hne
  simp only [scan, Option.getD_some, htext, Walk.overLines_eq_after]
  rfl

/-- What a scan reports of a source with text in it: the number of lines that start a loop, and
as deepest nesting the greatest balance of a window of its lines. After every line the flag says
whether a loop is open, so that the open loops can be counted without it; their number is never
negative. There are no more nested loops than loops, and no more loops than lines. -/
theorem scan_finds_best_window (table : SignTable) (language : Option String) {source : String}
    (hne : source ≠ "") :
    let tokens := (table.signs (some (table.resolve language))).tokens
    let lines := Text.lines source.toList
    let starts := startsAt tokens source.toList
    let closes := closesAt source.toList
    let report := table.scan (some source) language
    report.loopCount = ∑ k ∈ Finset.range lines.length, (starts k).toInt ∧
      IsGreatest (windowBalances starts closes lines.length) report.maxNesting ∧
      (∀ n ≤ lines.length,
        let walk := Walk.overLines tokens (lines.take n)
        (walk.inside = true ↔ 0 < walk.depth) ∧
          (walk.depth : ℤ) = openLoops starts closes n ∧ 0 ≤ openLoops starts closes n) ∧
      report.maxNesting ≤ report.loopCount ∧ report.loopCount ≤ lines.length := by
  intro tokens lines starts closes report
  have hreport : report = _ := table.scan_eq_after language hne
  have hlines : 0 < lines.length :=
    List.length_pos_iff.mpr (Text.splitAt_ne_nil '\n' source.toList)
  have hconsistent := Walk.after_consistent starts closes lines.length
  rw [hreport]
  refine ⟨Walk.loops_after starts closes lines.length, ?_, ?_,
    Int.ofNat_le.mpr hconsistent.deepest_le,
    Int.ofNat_le.mpr (Walk.loops_after_le starts closes lines.length)⟩
  · exact Walk.deepest_after_isGreatest_of_pos starts closes hlines
  · intro n hn walk
    have hwalk : walk = Walk.after starts closes n := Walk.overLines_take tokens source.toList hn
    rw [hwalk]
    exact ⟨(Walk.after_consistent starts closes n).inside_iff, Walk.depth_after starts closes n,
      openLoops_nonneg starts closes n⟩

/-- A block that is closed outside of loops does not count against the two loops behind it. -/
theorem scan_finds_best_window_behind_close :
    "\x7d\nfor (;;) \x7b\n  while (true) \x7b\n  \x7d\n\x7d" ≠ "" ∧
      (standardSigns.scan (some "\x7d\nfor (;;) \x7b\n  while (true) \x7b\n  \x7d\n\x7d")
        (some "c")).loopCount = 2 :=
  ⟨by decide, (scan_finds_best_window standardSigns (some "c") (by decide)).1.trans
    (by decide +kernel)⟩

end SignTable

end OrderOfGrowth

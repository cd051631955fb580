import Mathlib.Algebra.Order.Floor.Ring
import Mathlib.Data.Rat.Floor
import Mathlib.Tactic.Linarith
import Mathlib.Tactic.NormNum
import Mathlib.Tactic.Ring
import Mathlib.Tactic.SplitIfs
import OrderOfGrowth.Curve
import OrderOfGrowth.Proofs.ShortestDecimal

/-!
# Thinning out

Thinning keeps the items at the multiples of its step. So the number of items that are left is the
number of multiples below the number of items, which is their quotient rounded up. As places are all
that it looks at, thinning twice keeps the multiples of the product of the steps, and a change of
every item, such as a ceiling for their values, may come before or after it. A step below one is
refused with a message that quotes it, so one of too many digits fails before it is refused.
-/

namespace OrderOfGrowth

variable {α : Type} {step : ℕ}

/-- After thinning, an item stands where the step took it from. -/
theorem getElem?_everyNth (hstep : 0 < step) (items : List α) (i : ℕ) :
    (everyNth step items)[i]? = items[i * step]? := by
  induction i generalizing items with
  | zero =>
    cases items with
    | nil => simp [everyNth]
    | cons first rest => simp [everyNth]
  | succ i ih =>
    cases items with
    | nil => simp [everyNth]
    | cons first rest =>
      have hindex : (i + 1) * step = step - 1 + i * step + 1 := by
        rw [Nat.add_mul, Nat.one_mul]
        omega
      rw [everyNth, List.getElem?_cons_succ, ih, List.getElem?_drop, hindex,
        List.getElem?_cons_succ]

/-- An index counts after thinning exactly if its multiple of the step counts before. -/
theorem lt_length_everyNth_iff (hstep : 0 < step) (items : List α) (i : ℕ) :
    i < (everyNth step items).length ↔ i * step < items.length := by
  have hget := getElem?_everyNth hstep items i
  rw [← not_iff_not, Nat.not_lt, Nat.not_lt, ← List.getElem?_eq_none_iff, hget,
    List.getElem?_eq_none_iff]

/-- Thinning leaves the quotient of the number of items and the step, rounded up. -/
theorem length_everyNth (hstep : 0 < step) (items : List α) :
    ((everyNth step items).length : ℤ) = ⌈(items.length / step : ℚ)⌉ := by
  have hpos : (0 : ℚ) < step := by exact_mod_cast hstep
  have hlast := lt_length_everyNth_iff hstep items
  generalize (everyNth step items).length = n at hlast ⊢
  symm
  rw [Int.ceil_eq_iff, lt_div_iff₀ hpos, div_le_iff₀ hpos]
  constructor
  · cases n with
    | zero =>
      have hneg : ((0 : ℕ) : ℤ) - (1 : ℚ) < 0 := by norm_num
      nlinarith
    | succ n =>
      have hbelow : n * step < items.length := (hlast n).mp n.lt_succ_self
      have hcast : ((n + 1 : ℕ) : ℤ) - (1 : ℚ) = (n : ℚ) := by push_cast; ring
      rw [hcast]
      exact_mod_cast hbelow
  · have hend : items.length ≤ n * step := Nat.not_lt.mp fun h => lt_irrefl n ((hlast n).mpr h)
    exact_mod_cast hend

/-- Thinning what a first step has left keeps the items at the multiples of both steps together. -/
theorem everyNth_everyNth {first second : ℕ} (hfirst : 0 < first) (hsecond : 0 < second)
    (items : List α) :
    everyNth second (everyNth first items) = everyNth (first * second) items := by
  refine List.ext_getElem? fun i => ?_
  have hplace : i * second * first = i * (first * second) := by ring
  rw [getElem?_everyNth hsecond, getElem?_everyNth hfirst, hplace,
    getElem?_everyNth (Nat.mul_pos hfirst hsecond)]

/-- Items may be changed before or after thinning. -/
theorem everyNth_map {β : Type} (f : α → β) (hstep : 0 < step) (items : List α) :
    everyNth step (items.map f) = (everyNth step items).map f := by
  refine List.ext_getElem? fun i => ?_
  rw [getElem?_everyNth hstep, List.getElem?_map, List.getElem?_map, getElem?_everyNth hstep]

/-- A whole number of at least one is not below one. -/
theorem Quantity.int_lt_one_eq_false {n : ℤ} (h : 1 ≤ n) : (int n).lt (int 1) = false := by
  have hvalue : (1 : ℚ) ≤ n := by exact_mod_cast h
  simpa [lt, place?, Place.lt] using hvalue

/-- A whole step of at least one keeps the items at its multiples. -/
theorem thin_int (items : List α) {step : ℤ} (hstep : 1 ≤ step) :
    thin items (.int step) = .ok (everyNth step.toNat items) := by
  unfold thin
  rw [if_neg (by simp [Quantity.int_lt_one_eq_false hstep])]

/-- A whole number has a text exactly if it is within the power of ten of the longest texts. -/
theorem Quantity.isWritable_int_iff {n : ℤ} :
    (Quantity.int n).isWritable = true ↔ n.natAbs < 10 ^ maxDigits := by
  rw [isWritable, decide_eq_true_iff]
  exact length_digits_le_iff (by decide)

/-- A whole number of one digit too many has no text. -/
theorem Quantity.isWritable_long {n : ℤ} (h : n = 10 ^ maxDigits ∨ n = -10 ^ maxDigits) :
    (Quantity.int n).isWritable = false := by
  rw [← Bool.not_eq_true, isWritable_int_iff, not_lt]
  generalize maxDigits = count at h ⊢
  have hlength : n.natAbs = 10 ^ count := by
    rcases h with rfl | rfl <;> simp [Int.natAbs_pow]
  exact hlength.ge

/-- A step is refused as an argument exactly if it is below one and has a text, whatever the items
are. -/
theorem thin_eq_argument_error_iff (items : List α) {step : Quantity} {problem : ArgumentProblem} :
    thin items step = .error (.argument problem) ↔
      step.lt (.int 1) = true ∧ step.isWritable = true ∧ problem = .step step := by
  unfold thin Failure.quoting
  split_ifs with hsmall hwritable
  · simp [hsmall, hwritable, eq_comm]
  · simp [hwritable]
  · cases step <;> simp [hsmall]

/-- A step has too many digits for the message that refuses it exactly if it is below one and has
no text. -/
theorem thin_eq_tooLongInteger_iff (items : List α) {step : Quantity} :
    thin items step = .error (.arithmetic .tooLongInteger) ↔
      step.lt (.int 1) = true ∧ step.isWritable = false := by
  unfold thin Failure.quoting
  split_ifs with hsmall hwritable
  · simp [hwritable]
  · simp [hsmall, hwritable]
  · cases step <;> simp [hsmall]

/-- A negative step of one digit too many is below one, but not refused as an argument. -/
theorem thin_long_step :
    (Quantity.int (-10 ^ maxDigits)).lt (.int 1) = true ∧
      thin ([] : List Point) (.int (-10 ^ maxDigits)) = .error (.arithmetic .tooLongInteger) := by
  have hpos : (0 : ℤ) < 10 ^ maxDigits := pow_pos (by decide) _
  have hsmall : (Quantity.int (-10 ^ maxDigits)).lt (.int 1) = true := by
    have hvalue : -(10 : ℚ) ^ maxDigits < 1 := by
      have : (0 : ℚ) < 10 ^ maxDigits := by exact_mod_cast hpos
      linarith
    simpa [Quantity.lt, Quantity.place?, Place.lt] using hvalue
  exact ⟨hsmall, (thin_eq_tooLongInteger_iff []).mpr ⟨hsmall, Quantity.isWritable_long (.inr rfl)⟩⟩

/-- Thinning points by a whole step keeps the points at its multiples, as many as the quotient of
their number and the step, rounded up. Thinning what is left by another step is thinning by the
product of the two, and points are held under a ceiling before thinning as well as behind it. Every
step below one, and no other one, fails: it is refused as an argument, unless it is a whole number
of too many digits for the message. -/
theorem thin_keeps_multiples (c : ComplexityClass) (size : ℤ) (points : List Point) {a b : ℤ}
    (ha : 1 ≤ a) (hb : 1 ≤ b) (ceiling : Quantity) :
    (∃ thinned, thin points (.int a) = .ok thinned ∧
      (thinned.length : ℤ) = ⌈(points.length / a : ℚ)⌉ ∧
      (∀ i : ℕ, thinned[i]? = points[i * a.toNat]?) ∧
      thin thinned (.int b) = thin points (.int (a * b)) ∧
      thin ((Curve.mk c size points).capped ceiling) (.int a) =
        .ok ((Curve.mk c size thinned).capped ceiling)) ∧
    (∀ (step : Quantity) (problem : ArgumentProblem),
      thin points step = .error (.argument problem) ↔
        step.lt (.int 1) = true ∧ step.isWritable = true ∧ problem = .step step) ∧
    ∀ step : Quantity,
      thin points step = .error (.arithmetic .tooLongInteger) ↔
        step.lt (.int 1) = true ∧ step.isWritable = false := by
  have hapos : 0 < a.toNat := by omega
  have hbpos : 0 < b.toNat := by omega
  have hcast : ((a.toNat : ℕ) : ℚ) = a := by
    rw [← Int.cast_natCast, Int.toNat_of_nonneg (by omega)]
  refine ⟨⟨everyNth a.toNat points, thin_int points ha, ?_, getElem?_everyNth hapos points, ?_, ?_⟩,
    fun step problem => thin_eq_argument_error_iff points,
    fun step => thin_eq_tooLongInteger_iff points⟩
  · rw [length_everyNth hapos, hcast]
  · have hproduct : (a * b).toNat = a.toNat * b.toNat := Int.toNat_mul (by omega) (by omega)
    rw [thin_int _ hb, thin_int points (by nlinarith), hproduct, everyNth_everyNth hapos hbpos]
  · rw [thin_int _ ha]
    exact congrArg Except.ok (everyNth_map _ hapos points)

/-- Of the squares of the numbers below five a step of two leaves three, of which a second step of
two leaves the first and the last one. A step of zero is refused. -/
theorem thin_keeps_multiples_squares :
    let points : List Point := [⟨0, .int 0⟩, ⟨1, .int 1⟩, ⟨2, .int 4⟩, ⟨3, .int 9⟩, ⟨4, .int 16⟩]
    (∃ thinned, thin points (.int 2) = .ok thinned ∧ thinned.length = 3 ∧
      thinned[2]? = some ⟨4, .int 16⟩ ∧
      thin thinned (.int 2) = .ok [⟨0, .int 0⟩, ⟨4, .int 16⟩] ∧
      thin ((Curve.mk .quadratic 5 points).capped (.int 10)) (.int 2) =
        .ok ((Curve.mk .quadratic 5 thinned).capped (.int 10))) ∧
    thin points (.int 0) = .error (.argument (.step (.int 0))) := by
  intro points
  obtain ⟨⟨thinned, hthinned, hlength, hitem, htwice, hcapped⟩, hrefused, -⟩ :=
    thin_keeps_multiples .quadratic 5 points (a := 2) (b := 2) (by decide) (by decide) (.int 10)
  refine ⟨⟨thinned, hthinned, ?_, hitem 2, ?_, hcapped⟩, ?_⟩
  · have hceil : ⌈((5 : ℕ) / (2 : ℤ) : ℚ)⌉ = 3 := by norm_num
    exact_mod_cast hlength.trans hceil
  · rw [htwice, thin_int points (by decide)]
    simp [points, everyNth]
  · exact (hrefused (.int 0) (.step (.int 0))).mpr ⟨by decide, by decide, rfl⟩

end OrderOfGrowth

import Mathlib.Algebra.Order.Field.Power
import Mathlib.Data.Int.Log
import Mathlib.Data.Rat.Floor
import Mathlib.Tactic.FieldSimp
import Mathlib.Tactic.Linarith
import Mathlib.Tactic.NormNum
import Mathlib.Tactic.Positivity
import Mathlib.Tactic.Ring
import Mathlib.Tactic.SplitIfs
import OrderOfGrowth.Number.Binary64

/-!
# Rounding keeps the order

The double nearest to a rational number has a significand and an exponent that both come from
comparisons of whole numbers. This file proves that of two numbers the larger one never has the
smaller double: either both have the same exponent, and whole significands are rounded in order,
or the exponents part them at a power of two. The value of the double is stated as a function of
the number alone, `nearestMagnitude`, that also goes on where the doubles end.
-/

namespace OrderOfGrowth

/-- A number that is not negative is the quotient of its two parts. -/
theorem natAbs_num_div_den {q : ℚ} (h : 0 ≤ q) : (q.num.natAbs : ℚ) / q.den = q := by
  rw [Nat.cast_natAbs, abs_of_nonneg (Rat.num_nonneg.mpr h), Rat.num_div_den]

/-- The rounded quotient is at most one half away from the quotient. -/
theorem roundQuotient_near (dividend : ℕ) {divisor : ℕ} (hpos : 0 < divisor) :
    2 * ((dividend : ℚ) / divisor) ≤ 2 * roundQuotient dividend divisor + 1 ∧
      2 * (roundQuotient dividend divisor : ℚ) ≤ 2 * ((dividend : ℚ) / divisor) + 1 := by
  have hdivisor : (0 : ℚ) < divisor := by exact_mod_cast hpos
  obtain ⟨hlow, hhigh⟩ := roundQuotient_bounds dividend hpos
  have hlow : 2 * (dividend : ℚ) ≤ 2 * (roundQuotient dividend divisor * divisor) + divisor := by
    exact_mod_cast hlow
  have hhigh : 2 * ((roundQuotient dividend divisor : ℚ) * divisor) ≤ 2 * dividend + divisor := by
    exact_mod_cast hhigh
  have hquotient : (dividend : ℚ) = dividend / divisor * divisor := by field_simp
  rw [hquotient] at hlow hhigh
  constructor
  · refine le_of_mul_le_mul_right ?_ hdivisor
    linarith
  · refine le_of_mul_le_mul_right ?_ hdivisor
    linarith

/-- A quotient half-way between two whole numbers is rounded to an even one. -/
theorem even_roundQuotient_of_half {dividend divisor k : ℕ} (hpos : 0 < divisor)
    (hhalf : 2 * ((dividend : ℚ) / divisor) = 2 * k + 1) :
    Even (roundQuotient dividend divisor) := by
  have hdivisor : (divisor : ℚ) ≠ 0 := by exact_mod_cast hpos.ne'
  have htwice : 2 * dividend = (2 * k + 1) * divisor := by
    field_simp at hhalf
    rw [mul_comm _ divisor]
    exact_mod_cast hhalf
  have hexpand : (2 * k + 1) * divisor = 2 * (divisor * k) + divisor := by ring
  have hsplit : dividend = divisor * k + (dividend - divisor * k) := by omega
  have hremainder : 2 * (dividend - divisor * k) = divisor := by omega
  have hdiv : dividend / divisor = k := by
    rw [hsplit, Nat.mul_add_div hpos, Nat.div_eq_of_lt (by omega), Nat.add_zero]
  have hmod : dividend % divisor = dividend - divisor * k := by
    conv_lhs => rw [hsplit, Nat.mul_add_mod, Nat.mod_eq_of_lt (by omega)]
  rw [roundQuotient, hdiv, hmod, hremainder]
  simp only [lt_irrefl, if_false, Nat.even_iff]
  omega

/-- Of two quotients the larger one is not rounded to the smaller number. -/
theorem roundQuotient_mono {a b c d : ℕ} (hb : 0 < b) (hd : 0 < d)
    (h : (a : ℚ) / b ≤ c / d) : roundQuotient a b ≤ roundQuotient c d := by
  by_contra hlt
  have hstep : (roundQuotient c d : ℚ) + 1 ≤ roundQuotient a b := by exact_mod_cast not_le.mp hlt
  obtain ⟨-, hfirst⟩ := roundQuotient_near a hb
  obtain ⟨hsecond, -⟩ := roundQuotient_near c hd
  -- Both quotients could only be the one half-way between two neighbours, which has one rounding.
  have hnext : (roundQuotient a b : ℚ) = (roundQuotient c d + 1 : ℕ) := by push_cast; linarith
  have hevenFirst : Even (roundQuotient a b) :=
    even_roundQuotient_of_half (k := roundQuotient c d) hb (by linarith)
  have hevenSecond : Even (roundQuotient c d) :=
    even_roundQuotient_of_half (k := roundQuotient c d) hd (by linarith)
  rw [Nat.cast_inj.mp hnext, Nat.even_add_one] at hevenFirst
  exact hevenFirst hevenSecond

/-- The scaled significand as a rational number. -/
theorem scaleByTwo_eq (significand : ℕ) (exponent : ℤ) :
    scaleByTwo significand exponent = significand * 2 ^ exponent := by
  cases exponent with
  | ofNat exponent => simp [scaleByTwo, Rat.mkRat_eq_div]
  | negSucc exponent => simp [scaleByTwo, Rat.mkRat_eq_div, zpow_negSucc, div_eq_mul_inv]

/-- The significand at an exponent is a rounded quotient. -/
theorem significandAt_eq (dividend : ℕ) {divisor : ℕ} (hpos : 0 < divisor) (exponent : ℤ) :
    ∃ a b : ℕ, 0 < b ∧ significandAt dividend divisor exponent = roundQuotient a b ∧
      (a : ℚ) / b = dividend / divisor / 2 ^ exponent := by
  cases exponent with
  | ofNat exponent =>
    refine ⟨dividend, divisor * Nat.pow 2 exponent,
      Nat.mul_pos hpos (Nat.two_pow_pos exponent), rfl, ?_⟩
    simp [div_div]
  | negSucc exponent =>
    refine ⟨dividend * Nat.pow 2 (exponent + 1), divisor, hpos, rfl, ?_⟩
    rw [zpow_negSucc, div_inv_eq_mul]
    simp [div_mul_eq_mul_div]

/-- At one exponent the larger quotient has no smaller significand. -/
theorem significandAt_mono {a b c d : ℕ} (hb : 0 < b) (hd : 0 < d) (h : (a : ℚ) / b ≤ c / d)
    (exponent : ℤ) : significandAt a b exponent ≤ significandAt c d exponent := by
  obtain ⟨a', b', hb', hfirst, hquotient⟩ := significandAt_eq a hb exponent
  obtain ⟨c', d', hd', hsecond, hquotient'⟩ := significandAt_eq c hd exponent
  rw [hfirst, hsecond]
  refine roundQuotient_mono hb' hd' ?_
  rw [hquotient, hquotient']
  gcongr

/-- A quotient that is no more than a whole number at an exponent has no larger significand. -/
theorem significandAt_le {dividend divisor n : ℕ} (hpos : 0 < divisor) {exponent : ℤ}
    (h : (dividend : ℚ) / divisor ≤ n * 2 ^ exponent) :
    significandAt dividend divisor exponent ≤ n := by
  obtain ⟨a, b, hb, hsignificand, hquotient⟩ := significandAt_eq dividend hpos exponent
  have hexact := roundQuotient_mul_self n Nat.one_pos
  rw [hsignificand, ← hexact]
  refine roundQuotient_mono hb Nat.one_pos ?_
  rw [hquotient, div_le_iff₀ (by positivity)]
  simpa using h

/-- A quotient that is no less than a whole number at an exponent has no smaller significand. -/
theorem le_significandAt {dividend divisor n : ℕ} (hpos : 0 < divisor) {exponent : ℤ}
    (h : n * (2 : ℚ) ^ exponent ≤ dividend / divisor) :
    n ≤ significandAt dividend divisor exponent := by
  obtain ⟨a, b, hb, hsignificand, hquotient⟩ := significandAt_eq dividend hpos exponent
  have hexact := roundQuotient_mul_self n Nat.one_pos
  rw [hsignificand, ← hexact]
  refine roundQuotient_mono Nat.one_pos hb ?_
  rw [hquotient, le_div_iff₀ (by positivity)]
  simpa using h

/-- The comparison behind a logarithm that is rounded down: a power of the base is reached. -/
theorem power_reached_iff {base : ℕ} (hbase : 0 < base) (dividend : ℕ) {divisor : ℕ}
    (hpos : 0 < divisor) (estimate : ℤ) :
    (match estimate with
      | .ofNat e => (divisor * Nat.pow base e ≤ dividend : Bool)
      | .negSucc e => divisor ≤ dividend * Nat.pow base (e + 1)) = true ↔
      (base : ℚ) ^ estimate ≤ dividend / divisor := by
  have hdivisor : (0 : ℚ) < divisor := by exact_mod_cast hpos
  rw [le_div_iff₀ hdivisor]
  cases estimate with
  | ofNat e =>
    simp only [decide_eq_true_eq, Int.ofNat_eq_natCast, zpow_natCast, Nat.pow_eq]
    rw [← Nat.cast_le (α := ℚ)]
    push_cast
    rw [mul_comm]
  | negSucc e =>
    simp only [decide_eq_true_eq, zpow_negSucc, Nat.pow_eq]
    rw [← Nat.cast_le (α := ℚ), inv_mul_le_iff₀ (by positivity)]
    push_cast
    rw [mul_comm]

/-- The exponent of a positive quotient is its logarithm, rounded down. -/
theorem floorLogTwo_eq_log {dividend divisor : ℕ} (hdividend : 0 < dividend) (hpos : 0 < divisor) :
    floorLogTwo dividend divisor = Int.log 2 ((dividend : ℚ) / divisor) := by
  have hdivisor : (0 : ℚ) < divisor := by exact_mod_cast hpos
  have hquotient : (0 : ℚ) < (dividend : ℚ) / divisor := by positivity
  have hreached : ∀ e : ℤ, (2 : ℚ) ^ e ≤ dividend / divisor ↔
      e ≤ Int.log 2 ((dividend : ℚ) / divisor) := by
    intro e
    have h := Int.zpow_le_iff_le_log (b := 2) (x := e) (by decide) hquotient
    rwa [Nat.cast_ofNat] at h
  -- The logarithms of dividend and divisor leave two candidates.
  have hdividendLow : (2 : ℚ) ^ (dividend.log2 : ℤ) ≤ dividend := by
    exact_mod_cast Nat.log2_self_le hdividend.ne'
  have hdividendHigh : (dividend : ℚ) < 2 ^ (dividend.log2 + 1 : ℤ) := by
    exact_mod_cast Nat.lt_log2_self
  have hdivisorLow : (2 : ℚ) ^ (divisor.log2 : ℤ) ≤ divisor := by
    exact_mod_cast Nat.log2_self_le hpos.ne'
  have hdivisorHigh : (divisor : ℚ) < 2 ^ (divisor.log2 + 1 : ℤ) := by
    exact_mod_cast Nat.lt_log2_self
  have hlow : (2 : ℚ) ^ ((dividend.log2 : ℤ) - divisor.log2 - 1) ≤ dividend / divisor := by
    rw [sub_sub, zpow_sub₀ two_ne_zero]
    gcongr
  have hhigh : (dividend : ℚ) / divisor < 2 ^ ((dividend.log2 : ℤ) - divisor.log2 + 1) := by
    rw [show (dividend.log2 : ℤ) - divisor.log2 + 1 = dividend.log2 + 1 - divisor.log2 by ring,
      zpow_sub₀ two_ne_zero]
    gcongr
  rw [hreached] at hlow
  rw [← not_le, hreached] at hhigh
  have hestimate := power_reached_iff two_pos dividend hpos ((dividend.log2 : ℤ) - divisor.log2)
  rw [Nat.cast_ofNat, hreached] at hestimate
  rw [floorLogTwo]
  split_ifs with htest
  · have := hestimate.mp htest
    omega
  · have := mt hestimate.mpr htest
    omega

/-- A product of two powers of two. -/
theorem two_pow_mul_zpow (k : ℕ) (exponent : ℤ) :
    (2 : ℚ) ^ k * 2 ^ exponent = 2 ^ (k + exponent) := by
  rw [zpow_add₀ two_ne_zero, zpow_natCast]

/-- The exponent at which a number keeps 53 bits before the point, and no smaller than the
smallest. -/
def exponentFor (q : ℚ) : ℤ := max (-1074) (Int.log 2 q - 52)

/-- At its exponent a number is at most two to the 53. -/
theorem le_exponentFor (q : ℚ) : q ≤ (2 ^ 53 : ℕ) * 2 ^ exponentFor q := by
  rw [Nat.cast_pow, Nat.cast_ofNat, two_pow_mul_zpow]
  have hlog : q < 2 ^ (Int.log 2 q + 1) := by
    exact_mod_cast Int.lt_zpow_succ_log_self (b := 2) (by decide) q
  have hexponent : Int.log 2 q + 1 ≤ 53 + exponentFor q := by
    unfold exponentFor
    omega
  exact hlog.le.trans (zpow_le_zpow_right₀ one_le_two hexponent)

/-- At its exponent, unless that is the smallest one, a number is at least two to the 52. -/
theorem exponentFor_le {q : ℚ} (hpos : 0 < q) (hexponent : exponentFor q ≠ -1074) :
    (2 ^ 52 : ℕ) * 2 ^ exponentFor q ≤ q := by
  have hlog : (2 : ℚ) ^ Int.log 2 q ≤ q := by
    exact_mod_cast Int.zpow_log_le_self (b := 2) (by decide) hpos
  have hsum : 52 + exponentFor q = Int.log 2 q := by
    unfold exponentFor at hexponent ⊢
    omega
  rw [Nat.cast_pow, Nat.cast_ofNat, two_pow_mul_zpow, Nat.cast_ofNat, hsum]
  exact hlog

/-- The larger number has no smaller exponent. -/
theorem exponentFor_mono {q r : ℚ} (hpos : 0 < q) (h : q ≤ r) : exponentFor q ≤ exponentFor r := by
  have := Int.log_mono_right (b := 2) hpos h
  unfold exponentFor
  omega

/-- The magnitude nearest to a quotient, as if there were no largest exponent. -/
def nearestMagnitude (dividend divisor : ℕ) : ℚ :=
  significandAt dividend divisor (exponentFor (dividend / divisor)) *
    2 ^ exponentFor (dividend / divisor)

/-- The magnitude nearest to zero is zero. -/
theorem nearestMagnitude_zero {divisor : ℕ} (hpos : 0 < divisor) :
    nearestMagnitude 0 divisor = 0 := by
  have hzero : significandAt 0 divisor (exponentFor ((0 : ℕ) / divisor)) = 0 :=
    Nat.le_zero.mp (significandAt_le hpos (by simp))
  rw [nearestMagnitude, hzero, Nat.cast_zero, zero_mul]

/-- Of two quotients the larger one has no smaller nearest magnitude. -/
theorem nearestMagnitude_mono {a b c d : ℕ} (hb : 0 < b) (hd : 0 < d) (h : (a : ℚ) / b ≤ c / d) :
    nearestMagnitude a b ≤ nearestMagnitude c d := by
  rcases Nat.eq_zero_or_pos a with rfl | ha
  · rw [nearestMagnitude_zero hb]
    unfold nearestMagnitude
    positivity
  have hquotient : (0 : ℚ) < a / b := by positivity
  unfold nearestMagnitude
  rcases (exponentFor_mono hquotient h).eq_or_lt with hexponent | hexponent
  · rw [hexponent]
    gcongr
    exact significandAt_mono hb hd h _
  · -- A power of two lies between the two quotients, and rounding passes it on neither side.
    have hlow := significandAt_le hb (le_exponentFor ((a : ℚ) / b))
    have hhigh := le_significandAt hd (exponentFor_le (hquotient.trans_le h) (by
      have : -1074 ≤ exponentFor ((a : ℚ) / b) := le_max_left _ _
      omega))
    calc (significandAt a b (exponentFor (a / b)) : ℚ) * 2 ^ exponentFor (a / b)
        ≤ (2 ^ 53 : ℕ) * 2 ^ exponentFor ((a : ℚ) / b) := by gcongr
      _ = (2 ^ 52 : ℕ) * 2 ^ (exponentFor ((a : ℚ) / b) + 1) := by
        rw [zpow_add_one₀ two_ne_zero]
        push_cast
        ring
      _ ≤ (2 ^ 52 : ℕ) * 2 ^ exponentFor ((c : ℚ) / d) := by
        gcongr
        · exact one_le_two
        · exact hexponent
      _ ≤ significandAt c d (exponentFor (c / d)) * 2 ^ exponentFor (c / d) := by gcongr

end OrderOfGrowth

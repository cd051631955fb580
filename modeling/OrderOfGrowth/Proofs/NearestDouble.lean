import OrderOfGrowth.Number.Decimal
import OrderOfGrowth.Proofs.RoundingOrder

/-!
# Numbers that are rounded to a double

The double nearest to a quotient depends on its value only, so a decimal number may be written with
any coefficient and exponent. A number whose distance from a double is at most half of the
sixteenth decimal place of that double is rounded to it, since 53 bits are fewer than sixteen
decimal places.
-/

namespace OrderOfGrowth

/-- The exponent for a number between two powers of two, or below the second one if the exponent is
the smallest. -/
theorem exponentFor_eq {q : ℚ} (hpos : 0 < q) {exponent : ℤ} (hmin : -1074 ≤ exponent)
    (hlow : exponent = -1074 ∨ 2 ^ 52 * 2 ^ exponent ≤ q) (hhigh : q < 2 ^ 53 * 2 ^ exponent) :
    exponentFor q = exponent := by
  have hlog : Int.log 2 q < 53 + exponent := by
    rw [two_pow_mul_zpow] at hhigh
    exact (Int.lt_zpow_iff_log_lt (by decide) hpos).mp (by exact_mod_cast hhigh)
  unfold exponentFor
  rcases hlow with rfl | hlow
  · omega
  · rw [two_pow_mul_zpow] at hlow
    have hle : 52 + exponent ≤ Int.log 2 q :=
      (Int.zpow_le_iff_le_log (by decide) hpos).mp (by exact_mod_cast hlow)
    omega

/-- A whole number that is less than one half away is the significand. -/
theorem significandAt_of_near {dividend divisor n : ℕ} (hpos : 0 < divisor) {exponent : ℤ}
    (h : |(dividend : ℚ) / divisor / 2 ^ exponent - n| < 1 / 2) :
    significandAt dividend divisor exponent = n := by
  obtain ⟨a, b, hb, hsignificand, hquotient⟩ := significandAt_eq dividend hpos exponent
  obtain ⟨hlow, hhigh⟩ := roundQuotient_near a hb
  rw [hquotient] at hlow hhigh
  rw [hsignificand]
  obtain ⟨hbelow, habove⟩ := abs_lt.mp h
  have hlt : (roundQuotient a b : ℚ) < (n + 1 : ℕ) := by
    push_cast
    linarith
  have hgt : (n : ℚ) < (roundQuotient a b + 1 : ℕ) := by
    push_cast
    linarith
  have := Nat.cast_lt.mp hlt
  have := Nat.cast_lt.mp hgt
  omega

namespace Binary64

/-- The double nearest to a positive quotient, from its exponent and its significand there. -/
theorem ofQuotient_eq (negative : Bool) {dividend divisor : ℕ} (hdividend : 0 < dividend)
    (hpos : 0 < divisor) :
    ofQuotient negative dividend divisor =
      let exponent := exponentFor ((dividend : ℚ) / divisor)
      let significand := significandAt dividend divisor exponent
      if significand = 2 ^ 53 then ofParts negative (2 ^ 52) (exponent + 1)
      else ofParts negative significand exponent := by
  unfold ofQuotient exponentFor
  rw [if_neg hdividend.ne', floorLogTwo_eq_log hdividend hpos]
  rfl

/-- The double nearest to a quotient depends on its value only. -/
theorem ofQuotient_congr (negative : Bool) {a b c d : ℕ} (hb : 0 < b) (hd : 0 < d)
    (h : (a : ℚ) / b = c / d) : ofQuotient negative a b = ofQuotient negative c d := by
  rcases Nat.eq_zero_or_pos a with rfl | ha
  · have hc : (c : ℚ) = 0 := by
      rw [Nat.cast_zero, zero_div] at h
      exact (div_eq_zero_iff.mp h.symm).resolve_right (by exact_mod_cast hd.ne')
    obtain rfl : c = 0 := by exact_mod_cast hc
    rfl
  have hc : 0 < c := by
    have hquotient : (0 : ℚ) < c / d := by
      rw [← h]
      positivity
    by_contra hzero
    obtain rfl : c = 0 := by omega
    simp at hquotient
  have hsignificand : ∀ exponent, significandAt a b exponent = significandAt c d exponent :=
    fun exponent => le_antisymm (significandAt_mono hb hd h.le exponent)
      (significandAt_mono hd hb h.ge exponent)
  rw [ofQuotient_eq negative ha hb, ofQuotient_eq negative hc hd, h]
  simp only [hsignificand]

variable {negative : Bool} {significand : ℕ} {exponent : ℤ} {dividend divisor : ℕ}

/-- A quotient is rounded to the double with its exponent and a significand that is less than one
half away. -/
theorem ofQuotient_of_significand (hcanonical : Canonical significand exponent)
    (hdividend : 0 < dividend) (hpos : 0 < divisor)
    (hexponent : exponentFor ((dividend : ℚ) / divisor) = exponent)
    (hnear : |(dividend : ℚ) / divisor / 2 ^ exponent - significand| < 1 / 2) :
    ofQuotient negative dividend divisor = .finite negative significand exponent hcanonical := by
  have hbits : significand < 2 ^ 53 := hcanonical.1
  rw [ofQuotient_eq negative hdividend hpos, hexponent]
  simp only [significandAt_of_near hpos hnear]
  rw [if_neg hbits.ne, ofParts, dif_pos hcanonical]

/-- A quotient less than half a place below a power of two is rounded up to it from the exponent
before. -/
theorem ofQuotient_of_carry (hcanonical : Canonical (2 ^ 52) exponent) (hdividend : 0 < dividend)
    (hpos : 0 < divisor) (hexponent : exponentFor ((dividend : ℚ) / divisor) = exponent - 1)
    (hnear : |(dividend : ℚ) / divisor / 2 ^ (exponent - 1) - (2 ^ 53 : ℕ)| < 1 / 2) :
    ofQuotient negative dividend divisor = .finite negative (2 ^ 52) exponent hcanonical := by
  rw [ofQuotient_eq negative hdividend hpos, hexponent]
  simp only [significandAt_of_near hpos hnear]
  rw [if_pos trivial, ofParts, sub_add_cancel, dif_pos hcanonical]

/-- A quotient whose distance from a double is at most half of the sixteenth decimal place of the
double is rounded to it. -/
theorem ofQuotient_of_near (hcanonical : Canonical significand exponent)
    (hsignificand : 0 < significand) (hpos : 0 < divisor)
    (hnear : 2 * 10 ^ 16 * |(dividend : ℚ) / divisor / 2 ^ exponent - significand| ≤ significand) :
    ofQuotient negative dividend divisor = .finite negative significand exponent hcanonical := by
  obtain ⟨hbits, hmin, -, hfull⟩ := id hcanonical
  have hpower : (0 : ℚ) < 2 ^ exponent := by positivity
  set y := (dividend : ℚ) / divisor / 2 ^ exponent with hy
  have hscaled : (dividend : ℚ) / divisor = y * 2 ^ exponent := by
    rw [hy, div_mul_cancel₀ _ hpower.ne']
  -- 53 bits are fewer than sixteen decimal places, so the distance is less than one half.
  have hlast : (significand : ℚ) ≤ 2 ^ 53 - 1 := by
    have hle : significand + 1 ≤ 2 ^ 53 := hbits
    have hcast : ((significand + 1 : ℕ) : ℚ) ≤ (2 ^ 53 : ℕ) := by exact_mod_cast hle
    push_cast at hcast
    linarith
  have hone : (1 : ℚ) ≤ significand := by exact_mod_cast hsignificand
  have hwithin : |y - significand| ≤ significand / (2 * 10 ^ 16) := by
    rw [le_div_iff₀ (by positivity)]
    linarith
  obtain ⟨hbelow, habove⟩ := abs_le.mp hwithin
  have hquotient : (0 : ℚ) < dividend / divisor := by
    rw [hscaled]
    have hpositive : 0 < y := by linarith
    positivity
  have hdividend : 0 < dividend := by
    by_contra hzero
    obtain rfl : dividend = 0 := by omega
    simp at hquotient
  by_cases hlow : exponent = -1074 ∨ 2 ^ 52 ≤ y
  · have hexponent : exponentFor ((dividend : ℚ) / divisor) = exponent := by
      rw [hscaled] at hquotient ⊢
      have hhigh : y < 2 ^ 53 := by linarith
      refine exponentFor_eq hquotient hmin (hlow.imp_right fun hle => ?_) ?_ <;> gcongr
    refine ofQuotient_of_significand hcanonical hdividend hpos hexponent (abs_lt.mpr ⟨?_, ?_⟩)
    · linarith
    · linarith
  · -- Below the least full significand the places are half as wide.
    obtain ⟨hexponent, hsmall⟩ := not_or.mp hlow
    have hleast : 2 ^ 52 ≤ significand := hfull.resolve_right hexponent
    obtain rfl : significand = 2 ^ 52 := by
      have hlt : (significand : ℚ) < (2 ^ 52 + 1 : ℕ) := by
        push_cast
        linarith
      have := Nat.cast_lt.mp hlt
      omega
    push_cast at hbelow habove
    have hbefore : (2 : ℚ) ^ exponent = 2 * 2 ^ (exponent - 1) := by
      rw [← zpow_one_add₀ two_ne_zero, add_sub_cancel]
    have hdouble : (dividend : ℚ) / divisor = 2 * y * 2 ^ (exponent - 1) := by
      rw [hscaled, hbefore]
      ring
    refine ofQuotient_of_carry hcanonical hdividend hpos ?_ ?_
    · rw [hdouble] at hquotient ⊢
      have hfrom : 2 ^ 52 ≤ 2 * y := by linarith
      have hbelow : 2 * y < 2 ^ 53 := by linarith
      refine exponentFor_eq hquotient (by omega) (.inr ?_) ?_ <;> gcongr
    · rw [hdouble, mul_div_cancel_right₀ _ (by positivity)]
      push_cast
      refine abs_lt.mpr ⟨?_, ?_⟩ <;> linarith

/-- Of a positive quotient and its negative the nearest doubles differ in their signs only. -/
theorem ofQuotient_eq_finite_iff {hcanonical : Canonical significand exponent} :
    ofQuotient negative dividend divisor = .finite negative significand exponent hcanonical ↔
      ofQuotient false dividend divisor = .finite false significand exponent hcanonical := by
  have hparts : ∀ (s : ℕ) (e : ℤ),
      ofParts negative s e = .finite negative significand exponent hcanonical ↔
        ofParts false s e = .finite false significand exponent hcanonical := by
    intro s e
    unfold ofParts
    split_ifs <;> simp
  unfold ofQuotient
  dsimp only
  split_ifs <;> exact hparts _ _

end Binary64

namespace Decimal

/-- The number that a decimal number writes. -/
def value (d : Decimal) : ℚ := d.coefficient * 10 ^ d.exponent

/-- A decimal number is the quotient of its dividend and its divisor. -/
theorem quotient_eq (d : Decimal) :
    0 < d.quotient.2 ∧ (d.quotient.1 : ℚ) / d.quotient.2 = d.value := by
  obtain ⟨coefficient, exponent⟩ := d
  cases exponent with
  | ofNat e => simp [quotient, value]
  | negSucc e => simp [quotient, value, zpow_negSucc, div_eq_mul_inv]

/-- Two ways to write a number are read as the same double. -/
theorem nearest_congr {c d : Decimal} (negative : Bool) (h : c.value = d.value) :
    c.nearest negative = d.nearest negative := by
  obtain ⟨hc, hcvalue⟩ := c.quotient_eq
  obtain ⟨hd, hdvalue⟩ := d.quotient_eq
  exact Binary64.ofQuotient_congr negative hc hd (by rw [hcvalue, hdvalue, h])

/-- A decimal number whose distance from a double is at most half of the sixteenth decimal place of
the double is read as it. -/
theorem nearest_of_near {negative : Bool} {significand : ℕ} {exponent : ℤ} {d : Decimal}
    (hcanonical : Canonical significand exponent) (hsignificand : 0 < significand)
    (hnear : 2 * 10 ^ 16 * |d.value - significand * 2 ^ exponent| ≤ significand * 2 ^ exponent) :
    d.nearest negative = .finite negative significand exponent hcanonical := by
  obtain ⟨hd, hvalue⟩ := d.quotient_eq
  refine Binary64.ofQuotient_of_near hcanonical hsignificand hd ?_
  have hpower : (0 : ℚ) < 2 ^ exponent := by positivity
  have hscaled : d.value - significand * 2 ^ exponent =
      (d.value / 2 ^ exponent - significand) * 2 ^ exponent := by
    rw [sub_mul, div_mul_cancel₀ _ hpower.ne']
  rw [hscaled, abs_mul, abs_of_pos hpower, ← mul_assoc] at hnear
  rw [hvalue]
  exact le_of_mul_le_mul_right hnear hpower

end Decimal

end OrderOfGrowth

import OrderOfGrowth.Proofs.QuantityOrder

/-!
# Numbers that fit into a double

A number with at most 53 bits, of which the last is not too small, is rounded to itself. The numbers
that doubles hold are of this kind, and so are the whole numbers up to two to the 53 and what is
left of either after a division by a power of two. Between neighbours on the line of doubles there
is no further one, so a double below the upper neighbour is at most the lower one.
-/

namespace OrderOfGrowth

/-- A number with at most 53 bits whose last place is no smaller than the smallest. -/
def FitsDouble (v : ℚ) : Prop :=
  ∃ (significand : ℕ) (exponent : ℤ),
    significand < 2 ^ 53 ∧ -1074 ≤ exponent ∧ v = significand * 2 ^ exponent

/-- A number of higher places is a number of lower ones. -/
theorem natCast_mul_zpow_of_le (significand : ℕ) {low high : ℤ} (h : low ≤ high) :
    (significand : ℚ) * 2 ^ high = (significand * 2 ^ (high - low).toNat : ℕ) * 2 ^ low := by
  have hsplit : ((high - low).toNat : ℤ) + low = high := by omega
  rw [Nat.cast_mul, Nat.cast_pow, Nat.cast_ofNat, mul_assoc, two_pow_mul_zpow, hsplit]

namespace FitsDouble

variable {v : ℚ}

/-- A number that fits is not negative. -/
theorem nonneg (h : FitsDouble v) : 0 ≤ v := by
  obtain ⟨significand, exponent, -, -, rfl⟩ := h
  positivity

/-- The magnitude nearest to a number that fits is the number. -/
theorem nearestMagnitude_eq (h : FitsDouble v) {dividend divisor : ℕ} (hpos : 0 < divisor)
    (hv : (dividend : ℚ) / divisor = v) : nearestMagnitude dividend divisor = v := by
  obtain ⟨significand, exponent, hbits, hmin, rfl⟩ := h
  rcases Nat.eq_zero_or_pos significand with rfl | hsignificand
  · obtain rfl : dividend = 0 := by
      rw [Nat.cast_zero, zero_mul, div_eq_zero_iff] at hv
      exact_mod_cast hv.resolve_right (by exact_mod_cast hpos.ne')
    rw [nearestMagnitude_zero hpos, Nat.cast_zero, zero_mul]
  have hquotient : (0 : ℚ) < significand * 2 ^ exponent := by positivity
  have hlog : Int.log 2 ((significand : ℚ) * 2 ^ exponent) < 53 + exponent := by
    refine (Int.lt_zpow_iff_log_lt (by decide) hquotient).mp ?_
    have hcast : (significand : ℚ) < 2 ^ 53 := by exact_mod_cast hbits
    rw [Nat.cast_ofNat, ← Nat.cast_ofNat (R := ℤ), ← two_pow_mul_zpow]
    gcongr
  -- the exponent is at most that of the number, so the number is whole in its places
  have hexponent : exponentFor ((significand : ℚ) * 2 ^ exponent) ≤ exponent := by
    unfold exponentFor
    omega
  have hwhole := natCast_mul_zpow_of_le significand hexponent
  rw [nearestMagnitude, hv]
  generalize exponentFor ((significand : ℚ) * 2 ^ exponent) = place at hwhole hexponent ⊢
  have hexact : significandAt dividend divisor place =
      significand * 2 ^ (exponent - place).toNat :=
    le_antisymm (significandAt_le hpos (hv.trans hwhole).le)
      (le_significandAt hpos (hv.trans hwhole).ge)
  rw [hexact, hwhole]

/-- A number that fits is rounded to itself. -/
theorem roundedPlace_eq (h : FitsDouble v) (hrange : v < 2 ^ 1024) : roundedPlace v = .at v := by
  rw [roundedPlace, h.nearestMagnitude_eq v.den_pos (natAbs_num_div_den h.nonneg),
    Place.ofMagnitude, if_pos hrange]

/-- A natural number below two to the 53 fits. -/
theorem natCast {n : ℕ} (h : n < 2 ^ 53) : FitsDouble n :=
  ⟨n, 0, h, by decide, by simp⟩

/-- What fits and is not small fits after a division by a power of two. -/
theorem div_two_pow (h : FitsDouble v) (hone : 1 ≤ v) {k : ℕ} (hk : k ≤ 1000) :
    FitsDouble (v / 2 ^ k) := by
  obtain ⟨significand, exponent, hbits, -, rfl⟩ := h
  have hexponent : -53 < exponent := by
    by_contra! hlow
    have hcast : (significand : ℚ) < 2 ^ 53 := by exact_mod_cast hbits
    have hsmall : (significand : ℚ) * 2 ^ exponent < 1 := by
      calc (significand : ℚ) * 2 ^ exponent < 2 ^ 53 * 2 ^ exponent := by gcongr
        _ ≤ 2 ^ 53 * 2 ^ (-53 : ℤ) := by gcongr; exact one_le_two
        _ = 1 := by norm_num
    exact hsmall.not_ge hone
  refine ⟨significand, exponent - k, hbits, by omega, ?_⟩
  rw [zpow_sub₀ two_ne_zero, zpow_natCast, mul_div_assoc]

/-- What is neither small nor large and divided by a power of two is rounded to the quotient. -/
theorem roundedPlace_div_two_pow (h : FitsDouble v) (hone : 1 ≤ v) (hsmall : v < 2 ^ 53) {k : ℕ}
    (hk : k ≤ 1000) : roundedPlace (v / 2 ^ k) = .at (v / 2 ^ k) :=
  (h.div_two_pow hone hk).roundedPlace_eq <|
    calc v / 2 ^ k ≤ v := div_le_self h.nonneg (one_le_pow₀ one_le_two)
      _ < 2 ^ 53 := hsmall
      _ < 2 ^ 1024 := pow_lt_pow_right₀ one_lt_two (by decide)

/-- Between a number with 53 bits and the next one there is no number that fits. -/
theorem le_of_lt_next (h : FitsDouble v) {significand : ℕ} {exponent : ℤ}
    (hfull : 2 ^ 52 ≤ significand) (hnext : v < (significand + 1 : ℕ) * 2 ^ exponent) :
    v ≤ significand * 2 ^ exponent := by
  obtain ⟨other, place, hbits, -, rfl⟩ := h
  rcases lt_or_ge place exponent with hlow | hhigh
  · have hcast : (other : ℚ) ≤ 2 ^ 53 := by exact_mod_cast hbits.le
    have hleast : (2 : ℚ) ^ 52 ≤ significand := by exact_mod_cast hfull
    calc (other : ℚ) * 2 ^ place ≤ 2 ^ 53 * 2 ^ (exponent - 1) := by
          gcongr
          · exact one_le_two
          · omega
      _ = 2 ^ 52 * 2 ^ exponent := by
          rw [two_pow_mul_zpow, two_pow_mul_zpow]
          congr 1
          push_cast
          ring
      _ ≤ significand * 2 ^ exponent := by gcongr
  · rw [natCast_mul_zpow_of_le other hhigh] at hnext ⊢
    have hlt := Nat.cast_lt.mp (lt_of_mul_lt_mul_right hnext (by positivity))
    gcongr
    omega

end FitsDouble

/-- Below a number that is rounded to a number every other one is, and to no larger one. -/
theorem exists_roundedPlace_of_le {v w u : ℚ} (hv : 0 ≤ v) (h : v ≤ w)
    (hw : roundedPlace w = .at u) : ∃ t, roundedPlace v = .at t ∧ 0 ≤ t ∧ t ≤ u := by
  have hlow := roundedPlace_mono le_rfl hv
  have hhigh := roundedPlace_mono hv h
  rw [roundedPlace_zero] at hlow
  rw [hw] at hhigh
  cases hplace : roundedPlace v with
  | bottom => simp [hplace, Place.le, Place.lt] at hlow
  | top => simp [hplace, Place.le, Place.lt] at hhigh
  | «at» t =>
    rw [hplace, Place.at_le_at] at hlow hhigh
    exact ⟨t, rfl, hlow, hhigh⟩

namespace Binary64

/-- The value of a finite double without a sign. -/
theorem toRat_finite {significand : ℕ} {exponent : ℤ} (h : Canonical significand exponent) :
    (finite false significand exponent h).toRat = significand * 2 ^ exponent := by
  simp [toRat, isNegative, magnitude, scaleByTwo_eq]

/-- The place of a finite double without a sign. -/
theorem place?_finite {significand : ℕ} {exponent : ℤ} (h : Canonical significand exponent) :
    (Quantity.float (.finite false significand exponent h)).place? =
      some (.at (significand * 2 ^ exponent)) := by
  rw [← toRat_finite h]
  rfl

/-- A double that lies at a positive number has no sign. -/
theorem isNegative_of_place? {x : Binary64} {v : ℚ} (hv : 0 < v)
    (hx : (Quantity.float x).place? = some (.at v)) : x.isNegative = false := by
  obtain ⟨negative, _, _, _, rfl, -, hsign⟩ := exists_finite_of_place? hv.le hx
  exact Bool.eq_false_iff.mpr fun h => hv.ne' (hsign h)

/-- The number that a double lies at fits if it is not negative, and it is in the range. -/
theorem fitsDouble_of_place? {x : Binary64} {v : ℚ} (hv : 0 ≤ v)
    (hx : (Quantity.float x).place? = some (.at v)) : FitsDouble v ∧ v < 2 ^ 1024 := by
  obtain ⟨negative, significand, exponent, hcanonical, -, hmagnitude, -⟩ :=
    exists_finite_of_place? hv hx
  obtain rfl : significand * 2 ^ exponent = v :=
    (scaleByTwo_eq significand exponent).symm.trans hmagnitude
  exact ⟨⟨significand, exponent, hcanonical.1, hcanonical.2.1, rfl⟩,
    natCast_mul_zpow_lt_range hcanonical.1 hcanonical.2.2.1⟩

/-- A rounded quotient has the sign that it is given. -/
theorem isNegative_ofQuotient (negative : Bool) (dividend divisor : ℕ) :
    (ofQuotient negative dividend divisor).isNegative = negative := by
  have hparts (significand : ℕ) (exponent : ℤ) :
      (ofParts negative significand exponent).isNegative = negative := by
    unfold ofParts
    split_ifs <;> rfl
  unfold ofQuotient
  dsimp only
  split_ifs <;> exact hparts _ _

end Binary64

/-- Where a number is rounded to, from the double that is nearest to it. -/
theorem roundedPlace_of_ofQuotient {dividend divisor significand : ℕ} {exponent : ℤ}
    {h : Canonical significand exponent} (hpos : 0 < divisor)
    (hround : Binary64.ofQuotient false dividend divisor = .finite false significand exponent h) :
    roundedPlace (dividend / divisor) = .at (significand * 2 ^ exponent) := by
  have hplace : (Quantity.float (.ofQuotient false dividend divisor)).place? =
      some (roundedPlace (dividend / divisor)) := place?_ofQuotient_eq hpos (by simp)
  rw [hround, Binary64.place?_finite] at hplace
  exact (Option.some.inj hplace).symm

end OrderOfGrowth

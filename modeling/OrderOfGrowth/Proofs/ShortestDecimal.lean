import Mathlib.Algebra.Order.Floor.Semifield
import OrderOfGrowth.Number.Numeral
import OrderOfGrowth.Proofs.NearestDouble

/-!
# The shortest decimal number reads back

A double is written with as few digits as read back as the double. Seventeen digits always suffice:
the seventeenth digit of a number is worth less than its sixteenth decimal place, so the nearer of
the two neighbours with seventeen digits is rounded to the double. In plain or in scientific
notation the text writes the same number.
-/

namespace OrderOfGrowth

/-- The rows of digits are read as by the library. -/
theorem ofDigits_eq (row : List Char) : Numeral.ofDigits row = Nat.ofDigitChars 10 row 0 := rfl

/-- The digits of a number are read as the number. -/
theorem ofDigits_digits (n : ℕ) : Numeral.ofDigits (digits n) = n := by
  rw [ofDigits_eq]
  exact Nat.ofDigitChars_ten_toDigits

/-- Digits in front count for as many places as digits stand behind them. -/
theorem ofDigits_append (front back : List Char) :
    Numeral.ofDigits (front ++ back) =
      Numeral.ofDigits front * 10 ^ back.length + Numeral.ofDigits back := by
  rw [ofDigits_eq, ofDigits_eq, ofDigits_eq, Nat.ofDigitChars_append,
    Nat.ofDigitChars_eq_ofDigitChars_zero, mul_comm]

/-- A row of zeros is read as zero. -/
theorem ofDigits_zeros (count : ℕ) : Numeral.ofDigits (List.replicate count '0') = 0 := by
  rw [ofDigits_eq, Nat.ofDigitChars_replicate_zero, mul_zero]

/-- A number has at most so many digits if it is below the power of ten. -/
theorem length_digits_le_iff {n count : ℕ} (hcount : 0 < count) :
    (digits n).length ≤ count ↔ n < 10 ^ count :=
  Nat.length_toDigits_le_iff (by decide) hcount

/-- A number has digits. -/
theorem length_digits_pos (n : ℕ) : 0 < (digits n).length := Nat.length_toDigits_pos

/-- A positive number with so many digits is at least the power of ten before. -/
theorem pow_le_of_length_digits {n : ℕ} (hn : 0 < n) : 10 ^ ((digits n).length - 1) ≤ n := by
  rcases Nat.eq_zero_or_pos ((digits n).length - 1) with hone | hmore
  · rw [hone]
    exact hn
  · by_contra! hsmall
    have := (length_digits_le_iff hmore).mpr hsmall
    omega

/-- A number is below the power of ten with the number of its digits. -/
theorem lt_pow_length_digits (n : ℕ) : n < 10 ^ (digits n).length :=
  (length_digits_le_iff (length_digits_pos n)).mp le_rfl

/-- A power of ten that a positive quotient reaches. -/
theorem zpow_floorLogTen_le {dividend divisor : ℕ} (hdividend : 0 < dividend)
    (hpos : 0 < divisor) : (10 : ℚ) ^ floorLogTen dividend divisor ≤ dividend / divisor := by
  have hreached := power_reached_iff (by decide : 0 < 10) dividend hpos
    (((digits dividend).length : ℤ) - (digits divisor).length)
  unfold floorLogTen
  dsimp only
  split_ifs with htest
  · exact_mod_cast hreached.mp htest
  · -- The numbers of digits are never more than one place wrong.
    have hdivisor : (0 : ℚ) < divisor := by exact_mod_cast hpos
    have hlow : (10 : ℚ) ^ ((digits dividend).length - 1) ≤ dividend := by
      exact_mod_cast pow_le_of_length_digits hdividend
    have hhigh : (divisor : ℚ) ≤ 10 ^ (digits divisor).length := by
      exact_mod_cast (lt_pow_length_digits divisor).le
    have hexponent : ((digits dividend).length : ℤ) - (digits divisor).length - 1 =
        ((digits dividend).length - 1 : ℕ) - ((digits divisor).length : ℕ) := by
      have := length_digits_pos dividend
      omega
    rw [hexponent, zpow_sub₀ (by norm_num), zpow_natCast, zpow_natCast]
    gcongr

/-- A quotient is rounded down or up. -/
theorem roundQuotient_cases (dividend divisor : ℕ) :
    roundQuotient dividend divisor = dividend / divisor ∨
      roundQuotient dividend divisor = dividend / divisor + 1 := by
  unfold roundQuotient
  dsimp only
  split_ifs
  · exact Or.inl rfl
  · exact Or.inr rfl
  · omega

namespace Binary64

variable {significand : ℕ} {exponent place : ℤ}

/-- The multiples of a power of ten next to a double are those next to a quotient. -/
theorem decimalAt?_eq {x : Binary64} (hx : 0 ≤ x.magnitude) (place : ℤ) :
    ∃ dividend divisor : ℕ, (dividend : ℚ) / divisor = x.magnitude / 10 ^ place ∧
      x.decimalAt? place =
        let below : Decimal := ⟨dividend / divisor, place⟩
        let above : Decimal := ⟨dividend / divisor + 1, place⟩
        if below.nearest false = x then
          if above.nearest false = x then some ⟨roundQuotient dividend divisor, place⟩
          else some below
        else if above.nearest false = x then some above
        else none := by
  have hmagnitude := natAbs_num_div_den hx
  cases place with
  | ofNat e =>
    refine ⟨x.magnitude.num.natAbs, x.magnitude.den * Nat.pow 10 e, ?_, rfl⟩
    conv_rhs => rw [← hmagnitude]
    simp [div_div]
  | negSucc e =>
    refine ⟨x.magnitude.num.natAbs * Nat.pow 10 (e + 1), x.magnitude.den, ?_, rfl⟩
    conv_rhs => rw [← hmagnitude]
    rw [zpow_negSucc, div_inv_eq_mul]
    simp [div_mul_eq_mul_div]

/-- What is found among the multiples of a power of ten reads back. -/
theorem nearest_of_decimalAt? {x : Binary64} {d : Decimal} (hx : 0 ≤ x.magnitude)
    (h : x.decimalAt? place = some d) : d.nearest false = x := by
  obtain ⟨dividend, divisor, -, hfound⟩ := decimalAt?_eq hx place
  rw [hfound] at h
  dsimp only at h
  split_ifs at h with hbelow habove habove
  · obtain rfl := Option.some.inj h
    rcases roundQuotient_cases dividend divisor with hdown | hup
    · rw [hdown]
      exact hbelow
    · rw [hup]
      exact habove
  · obtain rfl := Option.some.inj h
    exact hbelow
  · obtain rfl := Option.some.inj h
    exact habove

/-- The magnitude of a finite double. -/
theorem magnitude_finite (negative : Bool) (hcanonical : Canonical significand exponent) :
    (Binary64.finite negative significand exponent hcanonical).magnitude =
      significand * 2 ^ exponent :=
  scaleByTwo_eq significand exponent

/-- A multiple of a power of ten next to a double reads back, if the power is at most the sixteenth
decimal place of the double. -/
theorem nearest_of_half_place {hcanonical : Canonical significand exponent} {coefficient : ℕ}
    (hsignificand : 0 < significand)
    (hplace : 10 ^ 16 * 10 ^ place ≤ (significand : ℚ) * 2 ^ exponent)
    (hhalf : |coefficient - (significand : ℚ) * 2 ^ exponent / 10 ^ place| ≤ 1 / 2) :
    (⟨coefficient, place⟩ : Decimal).nearest false =
      .finite false significand exponent hcanonical := by
  refine Decimal.nearest_of_near hcanonical hsignificand ?_
  have hpower : (0 : ℚ) < 10 ^ place := by positivity
  have hscaled : (⟨coefficient, place⟩ : Decimal).value - significand * 2 ^ exponent =
      (coefficient - (significand : ℚ) * 2 ^ exponent / 10 ^ place) * 10 ^ place := by
    rw [sub_mul, div_mul_cancel₀ _ hpower.ne']
    rfl
  rw [hscaled, abs_mul, abs_of_pos hpower]
  calc 2 * 10 ^ 16 * (|coefficient - (significand : ℚ) * 2 ^ exponent / 10 ^ place| * 10 ^ place)
      ≤ 2 * 10 ^ 16 * (1 / 2 * 10 ^ place) := by gcongr
    _ = 10 ^ 16 * 10 ^ place := by ring
    _ ≤ significand * 2 ^ exponent := hplace

/-- One of the two multiples of a power of ten next to a double reads back, if the power is at most
the sixteenth decimal place of the double. -/
theorem isSome_decimalAt? {hcanonical : Canonical significand exponent}
    (hsignificand : 0 < significand)
    (hplace : 10 ^ 16 * 10 ^ place ≤ (significand : ℚ) * 2 ^ exponent) :
    ((Binary64.finite false significand exponent hcanonical).decimalAt? place).isSome = true := by
  have hmagnitude := magnitude_finite false hcanonical
  obtain ⟨dividend, divisor, hquotient, hfound⟩ := decimalAt?_eq
    (x := .finite false significand exponent hcanonical) (by rw [hmagnitude]; positivity) place
  rw [hmagnitude] at hquotient
  have hnonneg : (0 : ℚ) ≤ dividend / divisor := by positivity
  have hlow := Nat.floor_le hnonneg
  have hhigh := Nat.lt_floor_add_one ((dividend : ℚ) / divisor)
  rw [Nat.floor_div_eq_div] at hlow hhigh
  have hreads : (⟨dividend / divisor, place⟩ : Decimal).nearest false =
        .finite false significand exponent hcanonical ∨
      (⟨dividend / divisor + 1, place⟩ : Decimal).nearest false =
        .finite false significand exponent hcanonical := by
    rcases le_total ((dividend : ℚ) / divisor) ((dividend / divisor : ℕ) + 1 / 2) with hhalf | hhalf
    · refine Or.inl (nearest_of_half_place hsignificand hplace ?_)
      rw [← hquotient]
      exact abs_le.mpr ⟨by linarith, by linarith⟩
    · refine Or.inr (nearest_of_half_place hsignificand hplace ?_)
      rw [← hquotient]
      push_cast
      exact abs_le.mpr ⟨by linarith, by linarith⟩
  rw [hfound]
  dsimp only
  rcases hreads with hbelow | habove
  · rw [if_pos hbelow]
    split_ifs <;> rfl
  · rw [if_pos habove]
    split_ifs <;> rfl

/-- The shortest decimal number of a positive double reads back. -/
theorem nearest_shortest (hcanonical : Canonical significand exponent)
    (hsignificand : 0 < significand) :
    (Binary64.finite false significand exponent hcanonical).shortest.nearest false =
      .finite false significand exponent hcanonical := by
  set x := Binary64.finite false significand exponent hcanonical with hx
  have hmagnitude : x.magnitude = significand * 2 ^ exponent := magnitude_finite false hcanonical
  have hpositive : 0 < x.magnitude := by
    rw [hmagnitude]
    have : (0 : ℚ) < significand := by exact_mod_cast hsignificand
    positivity
  have hleading : (10 : ℚ) ^ floorLogTen x.magnitude.num.natAbs x.magnitude.den ≤ x.magnitude := by
    have hnum : 0 < x.magnitude.num.natAbs :=
      Int.natAbs_pos.mpr (Rat.num_pos.mpr hpositive).ne'
    exact (zpow_floorLogTen_le hnum x.magnitude.den_pos).trans_eq
      (natAbs_num_div_den hpositive.le)
  have hplace : (10 : ℚ) ^ 16 * 10 ^ (floorLogTen x.magnitude.num.natAbs x.magnitude.den - (16 : ℕ))
      ≤ significand * 2 ^ exponent := by
    rw [← hmagnitude, ← zpow_natCast, ← zpow_add₀ (by norm_num), add_sub_cancel]
    exact hleading
  have hsome : ((List.range 17).findSome? fun (more : ℕ) => x.decimalAt?
      (floorLogTen x.magnitude.num.natAbs x.magnitude.den - more)).isSome = true := by
    rw [List.findSome?_isSome_iff]
    exact ⟨16, by decide, isSome_decimalAt? hsignificand hplace⟩
  obtain ⟨d, hd⟩ := Option.isSome_iff_exists.mp hsome
  obtain ⟨more, -, hmore⟩ := List.exists_of_findSome?_eq_some hd
  have hshortest : x.shortest = d := by
    unfold shortest
    dsimp only
    rw [hd]
    rfl
  rw [hshortest]
  exact nearest_of_decimalAt? hpositive.le hmore

end Binary64

end OrderOfGrowth

import OrderOfGrowth.Proofs.CurveOrder
import OrderOfGrowth.Proofs.NearestDouble

/-!
# Where curves leave the doubles

A number has a finite double exactly if it is below the number half-way between the largest double
and the power of two behind it. The classes that count by a power of the size therefore have
values up to some size, which rise, and from the next size on they have none.
-/

namespace OrderOfGrowth

/-- The end of the doubles, half-way between the largest one and two to the 1024. -/
def rangeEnd : ℕ := 2 ^ 1024 - 2 ^ 970

/-- The ends and the largest last place in units of one half of that place. -/
theorem exists_half_place : ∃ half : ℚ, 0 < half ∧ 2 ^ (970 : ℤ) = half ∧
    2 ^ (971 : ℤ) = 2 * half ∧ 2 ^ (1024 : ℤ) = 2 ^ 54 * half ∧
    rangeEnd = (2 ^ 54 - 1) * half := by
  have htop : (2 : ℚ) ^ (1024 : ℤ) = 2 ^ 54 * 2 ^ (970 : ℤ) := (two_pow_mul_zpow 54 970).symm
  refine ⟨2 ^ (970 : ℤ), by positivity, rfl, zpow_one_add₀ two_ne_zero 970, htop, ?_⟩
  have hsub {i j : ℕ} (h : i ≤ j) : ((2 ^ j - 2 ^ i : ℕ) : ℚ) = 2 ^ (j : ℤ) - 2 ^ (i : ℤ) := by
    rw [Nat.cast_sub (Nat.pow_le_pow_right two_pos h)]
    simp
  have hcast : (rangeEnd : ℚ) = 2 ^ (1024 : ℤ) - 2 ^ (970 : ℤ) := hsub (by decide)
  rw [hcast, htop, sub_mul, one_mul]

/-- The end of the doubles is rounded up, to the even neighbour. -/
theorem nearestMagnitude_rangeEnd : nearestMagnitude rangeEnd 1 = 2 ^ (1024 : ℤ) := by
  obtain ⟨half, hpos, -, hlast, htop, hend⟩ := exists_half_place
  have hexponent : exponentFor ((rangeEnd : ℚ) / (1 : ℕ)) = 971 := by
    rw [Nat.cast_one, div_one, hend]
    refine exponentFor_eq (by positivity) (by decide) (.inr ?_) ?_
    · rw [hlast]
      linarith only [hpos]
    · rw [hlast]
      linarith only [hpos]
  have hsignificand : significandAt rangeEnd 1 971 = 2 ^ 53 := by decide +kernel
  rw [nearestMagnitude, hexponent, hsignificand, hlast, htop]
  push_cast
  ring

variable {dividend divisor : ℕ}

/-- The magnitude nearest to a number below the end of the doubles is one of theirs. -/
theorem nearestMagnitude_lt (hpos : 0 < divisor) (h : (dividend : ℚ) / divisor < rangeEnd) :
    nearestMagnitude dividend divisor < 2 ^ (1024 : ℤ) := by
  rcases Nat.eq_zero_or_pos dividend with rfl | hdividend
  · rw [nearestMagnitude_zero hpos]
    positivity
  obtain ⟨half, hhalf, hbefore, hlast, htop, hend⟩ := exists_half_place
  rw [hend] at h
  have hquotient : (0 : ℚ) < dividend / divisor := by positivity
  have hexponent : exponentFor ((dividend : ℚ) / divisor) ≤ 971 := by
    have hbelow : (dividend : ℚ) / divisor < 2 ^ (1024 : ℤ) := by
      rw [htop]
      linarith only [h, hhalf]
    have hlog : Int.log 2 ((dividend : ℚ) / divisor) < 1024 :=
      (Int.lt_zpow_iff_log_lt (by decide) hquotient).mp (by rwa [Nat.cast_ofNat])
    unfold exponentFor
    omega
  unfold nearestMagnitude
  rcases hexponent.lt_or_eq with hlow | hlargest
  · have hsignificand := significandAt_le hpos (le_exponentFor ((dividend : ℚ) / divisor))
    have hpower : (2 : ℚ) ^ exponentFor ((dividend : ℚ) / divisor) ≤ half :=
      hbefore ▸ zpow_le_zpow_right₀ one_le_two (by omega)
    calc (significandAt dividend divisor (exponentFor (dividend / divisor)) : ℚ) *
          2 ^ exponentFor ((dividend : ℚ) / divisor)
        ≤ (2 ^ 53 : ℕ) * half := by gcongr
      _ < 2 ^ (1024 : ℤ) := by
        rw [htop]
        push_cast
        linarith only [hhalf]
  · -- At the largest exponent only a number from the end on is carried to the next power of two.
    rw [hlargest, hlast]
    obtain ⟨a, b, hb, hrounded, hscaled⟩ := significandAt_eq dividend hpos 971
    obtain ⟨-, hnear⟩ := roundQuotient_near a hb
    have hcarry : (a : ℚ) / b < 2 ^ 53 - 1 / 2 := by
      rw [hscaled, hlast, div_lt_iff₀ (by positivity)]
      linarith only [h]
    have hless : (significandAt dividend divisor 971 : ℚ) < 2 ^ 53 := by
      rw [hrounded]
      linarith only [hnear, hcarry]
    calc (significandAt dividend divisor 971 : ℚ) * (2 * half)
        < 2 ^ 53 * (2 * half) := by gcongr
      _ = 2 ^ (1024 : ℤ) := by
        rw [htop]
        ring

/-- A rounded quotient is finite exactly if the quotient is below the end of the doubles. -/
theorem Binary64.isFinite_ofQuotient_iff (hpos : 0 < divisor) :
    (ofQuotient false dividend divisor).isFinite = true ↔
      (dividend : ℚ) / divisor < rangeEnd := by
  have hfinite : (ofQuotient false dividend divisor).isFinite = true ↔
      nearestMagnitude dividend divisor < 2 ^ (1024 : ℤ) := by
    rw [isFinite_iff, place?_ofQuotient hpos (by simp), Place.ofMagnitude,
      show (1024 : ℤ) = (1024 : ℕ) from rfl, zpow_natCast]
    split_ifs with h
    · exact ⟨fun _ => h, fun _ => ⟨_, rfl⟩⟩
    · exact ⟨fun ⟨_, hplace⟩ => (nomatch hplace), fun hlow => absurd hlow h⟩
  rw [hfinite]
  refine ⟨fun h => ?_, nearestMagnitude_lt hpos⟩
  by_contra! hbeyond
  have hmono : nearestMagnitude rangeEnd 1 ≤ nearestMagnitude dividend divisor :=
    nearestMagnitude_mono Nat.one_pos hpos (by rwa [Nat.cast_one, div_one])
  rw [nearestMagnitude_rangeEnd] at hmono
  exact hmono.not_gt h

namespace ComplexityClass

/-- A class that counts by a power of the size, with the power and the number that divides it. -/
inductive CountsPower : ComplexityClass → ℕ → ℕ → Prop
  | linear : CountsPower .linear 1 1
  | quadratic : CountsPower .quadratic 2 10
  | cubic : CountsPower .cubic 3 100

/-- A number is too large for a double. -/
def IsOverflow (failure : Failure) : Prop :=
  failure = .arithmetic .integerTooLarge ∨ failure = .arithmetic .quotientTooLarge

variable {c : ComplexityClass} {power : ℕ}

/-- The power and the divisor of such a class are positive. -/
theorem CountsPower.pos (hc : CountsPower c power divisor) : 0 < power ∧ 0 < divisor := by
  cases hc <;> decide

/-- The count of such a class is the rounded quotient if that is finite, and too large if not. -/
theorem CountsPower.operations_cases (hc : CountsPower c power divisor) (n : ℕ) :
    ((Binary64.ofQuotient false (n ^ power) divisor).isFinite = true →
      c.operations n = .ok (Binary64.ofQuotient false (n ^ power) divisor)) ∧
    ((Binary64.ofQuotient false (n ^ power) divisor).isFinite = false →
      ∃ failure, c.operations n = .error failure ∧ IsOverflow failure) := by
  have hinteger (k : ℕ) : Binary64.ofInt k =
      if (Binary64.ofQuotient false k 1).isFinite then .ok (Binary64.ofQuotient false k 1)
      else .error (.arithmetic .integerTooLarge) := rfl
  have hquotient (k d : ℕ) : Binary64.ofIntQuotient k d =
      if (Binary64.ofQuotient false k d).isFinite then .ok (Binary64.ofQuotient false k d)
      else .error (.arithmetic .quotientTooLarge) := by
    rw [Binary64.ofIntQuotient, decide_eq_false (Int.not_lt.mpr k.cast_nonneg), Int.natAbs_natCast]
  cases hc with
  | linear =>
    rw [pow_one, operations, hinteger]
    exact ⟨fun h => if_pos h, fun h => ⟨_, if_neg (by simp [h]), .inl rfl⟩⟩
  | quadratic =>
    rw [pow_two, operations_quadratic, hquotient]
    exact ⟨fun h => if_pos h, fun h => ⟨_, if_neg (by simp [h]), .inr rfl⟩⟩
  | cubic =>
    rw [pow_succ, pow_two, operations_cubic, hquotient]
    exact ⟨fun h => if_pos h, fun h => ⟨_, if_neg (by simp [h]), .inr rfl⟩⟩

/-- Such a class has a value exactly as long as its quotient is below the end of the doubles. -/
theorem CountsPower.exists_operations_iff (hc : CountsPower c power divisor) (n : ℕ) :
    (∃ x, c.operations n = .ok x) ↔ n ^ power < rangeEnd * divisor := by
  obtain ⟨-, hdivisor⟩ := hc.pos
  obtain ⟨hvalue, hnone⟩ := hc.operations_cases n
  have hfinite : (Binary64.ofQuotient false (n ^ power) divisor).isFinite = true ↔
      ((n ^ power : ℕ) : ℚ) / divisor < rangeEnd := Binary64.isFinite_ofQuotient_iff hdivisor
  rw [div_lt_iff₀ (by exact_mod_cast hdivisor)] at hfinite
  have hcast : ((n ^ power : ℕ) : ℚ) < rangeEnd * divisor ↔ n ^ power < rangeEnd * divisor := by
    exact_mod_cast Iff.rfl
  rw [← hcast, ← hfinite]
  constructor
  · rintro ⟨x, hx⟩
    by_contra hinfinite
    obtain ⟨failure, hfailure, -⟩ := hnone (Bool.eq_false_iff.mpr hinfinite)
    rw [hx] at hfailure
    cases hfailure
  · intro h
    exact ⟨_, hvalue h⟩

/-- Such a class rises, and it has a value at every size below one where it has. -/
theorem CountsPower.operations_of_le (hc : CountsPower c power divisor) {m n : ℕ} (h : m ≤ n)
    {y : Binary64} (hy : c.operations n = .ok y) :
    ∃ x, c.operations m = .ok x ∧ (Quantity.float x).le (.float y) = true := by
  cases hc with
  | linear => exact Binary64.ofInt_of_le h hy
  | quadratic => exact quadratic_of_le h hy
  | cubic => exact cubic_of_le h hy

/-- There is a first size at which such a class has no value. -/
theorem CountsPower.exists_first (hc : CountsPower c power divisor) :
    ∃ first : ℕ, ∀ n, n ^ power < rangeEnd * divisor ↔ n < first := by
  obtain ⟨hpower, -⟩ := hc.pos
  have hreached : ∃ n : ℕ, rangeEnd * divisor ≤ n ^ power :=
    ⟨rangeEnd * divisor, Nat.le_self_pow hpower.ne' _⟩
  refine ⟨Nat.find hreached, fun n => ?_⟩
  rw [Nat.lt_find_iff]
  constructor
  · intro h m hmn hm
    exact (hm.trans (Nat.pow_le_pow_left hmn power)).not_gt h
  · intro h
    exact not_le.mp (h n le_rfl)

/-- The linear, the quadratic and the cubic class rise over all sizes: a size up to one with a value
has a value too, which is not larger. They have values exactly at the sizes whose count is below
the end of the doubles. These are the sizes below a first one, and from there on the count is too
large. -/
theorem operations_rise_until_overflow (hc : CountsPower c power divisor) :
    (∀ m n : ℤ, 0 ≤ m → m ≤ n → ∀ y, c.operations n = .ok y →
      ∃ x, c.operations m = .ok x ∧ (Quantity.float x).le (.float y) = true) ∧
    (∀ n : ℕ, (∃ x, c.operations n = .ok x) ↔ n ^ power < rangeEnd * divisor) ∧
    ∃ first : ℕ, ∀ n : ℕ, (n < first → ∃ x, c.operations n = .ok x) ∧
      (first ≤ n → ∃ failure, c.operations n = .error failure ∧ IsOverflow failure) := by
  refine ⟨?_, hc.exists_operations_iff, ?_⟩
  · intro m n hm hmn y hy
    lift m to ℕ using hm
    lift n to ℕ using m.cast_nonneg.trans hmn
    exact hc.operations_of_le (by exact_mod_cast hmn) hy
  · obtain ⟨first, hfirst⟩ := hc.exists_first
    refine ⟨first, fun n => ⟨fun h => ?_, fun h => ?_⟩⟩
    · exact (hc.exists_operations_iff n).mpr ((hfirst n).mpr h)
    · obtain ⟨hvalue, hnone⟩ := hc.operations_cases n
      refine hnone (Bool.eq_false_iff.mpr fun hfinite => ?_)
      have hbelow := (hc.exists_operations_iff n).mp ⟨_, hvalue hfinite⟩
      exact h.not_gt ((hfirst n).mp hbelow)

/-- The linear class has its last value just below the end of the doubles. -/
theorem operations_rise_until_overflow_linear :
    CountsPower .linear 1 1 ∧ (∃ x, operations .linear (rangeEnd - 1 : ℕ) = .ok x) ∧
      ¬∃ x, operations .linear rangeEnd = .ok x := by
  obtain ⟨-, hvalues, -⟩ := operations_rise_until_overflow .linear
  refine ⟨.linear, (hvalues _).mpr ?_, fun hvalue => ?_⟩
  · decide +kernel
  · have hbelow := (hvalues rangeEnd).mp hvalue
    simp at hbelow

end ComplexityClass

end OrderOfGrowth

import OrderOfGrowth.Number.Arithmetic
import OrderOfGrowth.Proofs.RoundingOrder

/-!
# The order of quantities

Quantities are compared by their places. This file proves that places are ordered linearly, that
a ceiling keeps the order of what is held under it, and that the arithmetic of doubles does: the
place of a rounded quotient depends on the quotient alone, and it rises with it. Products and
quotients of doubles that are not negative follow, infinite ones included.
-/

namespace OrderOfGrowth

namespace Place

/-- Every place is at most itself. -/
theorem le_refl (a : Place) : a.le a = true := by
  simp [le, lt_irrefl]

/-- The order of places is transitive. -/
theorem le_trans {a b c : Place} (hab : a.le b = true) (hbc : b.le c = true) : a.le c = true := by
  cases a <;> cases b <;> cases c <;> simp_all [le, lt]
  exact hab.trans hbc

/-- The order of places that are numbers. -/
@[simp]
theorem at_le_at {v w : ℚ} : (Place.at v).le (.at w) = true ↔ v ≤ w := by
  simp [le, lt]

/-- Every place is at most the upper end. -/
theorem le_top (a : Place) : a.le .top = true := by
  cases a <;> rfl

/-- A place below another one is at most that one. -/
theorem le_of_lt {a b : Place} (h : a.lt b = true) : a.le b = true := by
  cases a <;> cases b <;> simp_all [le, lt]
  exact h.le

/-- Of the two orders of places one is the other one's negation. -/
theorem lt_eq_not_le (a b : Place) : a.lt b = !b.le a := by
  simp [le]

/-- Where a double lies whose magnitude would be this one if there were no largest exponent. -/
def ofMagnitude (magnitude : ℚ) : Place := if magnitude < 2 ^ 1024 then .at magnitude else .top

/-- The place of the magnitude zero. -/
theorem ofMagnitude_zero : ofMagnitude 0 = .at 0 := if_pos (by positivity)

/-- The place of the larger magnitude is not the lower one. -/
theorem ofMagnitude_mono {m n : ℚ} (h : m ≤ n) : (ofMagnitude m).le (ofMagnitude n) = true := by
  unfold ofMagnitude
  split_ifs with hm hn hn
  · exact at_le_at.mpr h
  · exact le_top _
  · exact absurd (h.trans_lt hn) hm
  · rfl

end Place

/-- The two zeros lie at zero. -/
theorem place?_ofParts_zero (negative : Bool) :
    (Quantity.float (Binary64.ofParts negative 0 (-1074))).place? = some (.at 0) := by
  rw [Binary64.ofParts, dif_pos (by decide)]
  simp [Quantity.place?, Binary64.toRat, Binary64.magnitude, scaleByTwo_eq]

/-- Up to the largest exponent a significand gives a number below two to the 1024. -/
theorem natCast_mul_zpow_lt_range {significand : ℕ} {exponent : ℤ}
    (hsignificand : significand < 2 ^ 53) (hexponent : exponent ≤ 971) :
    (significand : ℚ) * 2 ^ exponent < 2 ^ 1024 := by
  have hcast : (significand : ℚ) < 2 ^ 53 := by exact_mod_cast hsignificand
  calc (significand : ℚ) * 2 ^ exponent < 2 ^ 53 * 2 ^ exponent := by gcongr
    _ = 2 ^ (53 + exponent) := two_pow_mul_zpow 53 exponent
    _ ≤ (2 : ℚ) ^ (1024 : ℤ) := zpow_le_zpow_right₀ one_le_two (by omega)
    _ = 2 ^ 1024 := zpow_natCast 2 1024

/-- The place of a magnitude from its significand and exponent, which are canonical unless the
exponent is too large. -/
theorem place?_ofParts {significand : ℕ} {exponent : ℤ} (hsignificand : significand < 2 ^ 53)
    (hexponent : -1074 ≤ exponent) (hfull : 2 ^ 52 ≤ significand ∨ exponent = -1074) :
    (Quantity.float (Binary64.ofParts false significand exponent)).place? =
      some (Place.ofMagnitude (significand * 2 ^ exponent)) := by
  unfold Binary64.ofParts Place.ofMagnitude
  by_cases hrange : exponent ≤ 971
  · have hbelow := natCast_mul_zpow_lt_range hsignificand hrange
    rw [dif_pos ⟨hsignificand, hexponent, hrange, hfull⟩, if_pos hbelow]
    simp [Quantity.place?, Binary64.toRat, Binary64.isNegative, Binary64.magnitude, scaleByTwo_eq]
  · have hbeyond : 2 ^ 1024 ≤ (significand : ℚ) * 2 ^ exponent := by
      have hcast : (2 : ℚ) ^ 52 ≤ significand := by
        exact_mod_cast hfull.resolve_right (by omega)
      calc (2 : ℚ) ^ 1024 = (2 : ℚ) ^ (1024 : ℤ) := (zpow_natCast 2 1024).symm
        _ ≤ (2 : ℚ) ^ (52 + exponent) := zpow_le_zpow_right₀ one_le_two (by omega)
        _ = 2 ^ 52 * 2 ^ exponent := (two_pow_mul_zpow 52 exponent).symm
        _ ≤ significand * 2 ^ exponent := by gcongr
    rw [dif_neg (fun h => hrange h.2.2.1), if_neg (not_lt.mpr hbeyond)]
    rfl

/-- The place of a rounded quotient. A minus sign may stand only at zero. -/
theorem place?_ofQuotient {negative : Bool} {dividend divisor : ℕ} (hpos : 0 < divisor)
    (hsign : negative = true → dividend = 0) :
    (Quantity.float (Binary64.ofQuotient negative dividend divisor)).place? =
      some (Place.ofMagnitude (nearestMagnitude dividend divisor)) := by
  rcases Nat.eq_zero_or_pos dividend with rfl | hdividend
  · rw [nearestMagnitude_zero hpos, Place.ofMagnitude_zero, Binary64.ofQuotient, if_pos rfl]
    exact place?_ofParts_zero negative
  obtain rfl : negative = false := by
    cases negative with
    | false => rfl
    | true => exact absurd (hsign rfl) hdividend.ne'
  have hquotient : (0 : ℚ) < dividend / divisor := by positivity
  have hlow : -1074 ≤ exponentFor ((dividend : ℚ) / divisor) := le_max_left _ _
  have hhigh := significandAt_le hpos (le_exponentFor ((dividend : ℚ) / divisor))
  unfold Binary64.ofQuotient nearestMagnitude
  simp only [hdividend.ne', if_false, floorLogTwo_eq_log hdividend hpos, Nat.pow_eq]
  rw [← exponentFor]
  split_ifs with hcarry
  · -- The significand has one bit too many: one half of it stands at the next exponent.
    rw [place?_ofParts (by decide) (by omega) (.inl le_rfl), hcarry, zpow_add_one₀ two_ne_zero]
    congr 2
    push_cast
    ring
  · refine place?_ofParts (by omega) hlow ?_
    by_contra! hsmall
    exact hsmall.1.not_ge (le_significandAt hpos (exponentFor_le hquotient hsmall.2))

/-- Where the double nearest to a number lies that is not negative. -/
def roundedPlace (q : ℚ) : Place := .ofMagnitude (nearestMagnitude q.num.natAbs q.den)

/-- Of two numbers the larger one is not rounded to the lower place. -/
theorem roundedPlace_mono {q r : ℚ} (hq : 0 ≤ q) (h : q ≤ r) :
    (roundedPlace q).le (roundedPlace r) = true := by
  refine Place.ofMagnitude_mono (nearestMagnitude_mono q.den_pos r.den_pos ?_)
  rwa [natAbs_num_div_den hq, natAbs_num_div_den (hq.trans h)]

/-- Zero is rounded to zero. -/
theorem roundedPlace_zero : roundedPlace 0 = .at 0 := by
  rw [roundedPlace, Rat.num_zero, Int.natAbs_zero, nearestMagnitude_zero (Rat.den_pos 0),
    Place.ofMagnitude_zero]

/-- The place of a rounded quotient, from the quotient alone. -/
theorem place?_ofQuotient_eq {negative : Bool} {dividend divisor : ℕ} (hpos : 0 < divisor)
    (hsign : negative = true → dividend = 0) :
    (Quantity.float (Binary64.ofQuotient negative dividend divisor)).place? =
      some (roundedPlace (dividend / divisor)) := by
  have hparts : (((dividend : ℚ) / divisor).num.natAbs : ℚ) / ((dividend : ℚ) / divisor).den =
      dividend / divisor := natAbs_num_div_den (by positivity)
  rw [place?_ofQuotient hpos hsign, roundedPlace]
  congr 2
  exact le_antisymm (nearestMagnitude_mono hpos (Rat.den_pos _) hparts.ge)
    (nearestMagnitude_mono (Rat.den_pos _) hpos hparts.le)

/-- The place of a number rounded with its sign, which may be set only at zero. -/
theorem place?_ofQuotient_num {negative : Bool} {q : ℚ} (hq : 0 ≤ q)
    (hsign : negative = true → q = 0) :
    (Quantity.float (Binary64.ofQuotient negative q.num.natAbs q.den)).place? =
      some (roundedPlace q) := by
  rw [place?_ofQuotient_eq q.den_pos (fun h => by simp [hsign h]), natAbs_num_div_den hq]

namespace Place

/-- The place of a double that is multiplied with a positive factor and rounded. -/
def scaled (factor : ℚ) : Place → Place
  | .bottom => .bottom
  | .at value => roundedPlace (value * factor)
  | .top => .top

/-- A place that is not below zero rises with the place that is scaled and with the factor. -/
theorem scaled_mono {a b : Place} {v w : ℚ} (ha : (Place.at 0).le a = true) (hab : a.le b = true)
    (hv : 0 ≤ v) (hvw : v ≤ w) : (a.scaled v).le (b.scaled w) = true := by
  cases a with
  | bottom => simp [le, lt] at ha
  | top => cases b <;> simp_all [le, lt, scaled]
  | «at» p =>
    have hp : 0 ≤ p := at_le_at.mp ha
    cases b with
    | bottom => simp [le, lt] at hab
    | top => exact le_top _
    | «at» q =>
      have hpq : p ≤ q := at_le_at.mp hab
      exact roundedPlace_mono (mul_nonneg hp hv) (mul_le_mul hpq hvw hv (hp.trans hpq))

/-- A scaled place is not below zero if the place is not. -/
theorem zero_le_scaled {a : Place} {v : ℚ} (ha : (Place.at 0).le a = true) (hv : 0 ≤ v) :
    (Place.at 0).le (a.scaled v) = true := by
  have hzero : (Place.at 0).scaled v = .at 0 := by
    rw [scaled, zero_mul, roundedPlace_zero]
  exact hzero ▸ scaled_mono (le_refl _) ha hv le_rfl

end Place

namespace Quantity

/-- The first quantity is at most the second if and only if both lie somewhere, in this order. -/
theorem le_iff {a b : Quantity} :
    a.le b = true ↔ ∃ p q, a.place? = some p ∧ b.place? = some q ∧ p.le q = true := by
  unfold le
  cases a.place? <;> cases b.place? <;> simp

/-- A whole number is at most a quantity if and only if that one lies somewhere from it on. -/
theorem int_le_iff {n : ℤ} {b : Quantity} :
    (int n).le b = true ↔ ∃ q, b.place? = some q ∧ (Place.at n).le q = true := by
  rw [le_iff]
  simp [place?]

/-- The first quantity is below the second if and only if both lie somewhere, in this order. -/
theorem lt_iff {a b : Quantity} :
    a.lt b = true ↔ ∃ p q, a.place? = some p ∧ b.place? = some q ∧ p.lt q = true := by
  unfold lt
  cases a.place? <;> cases b.place? <;> simp

/-- A quantity that is at most another one lies somewhere. -/
theorem place?_ne_none_of_le {a b : Quantity} (h : a.le b = true) : a.place? ≠ none := by
  obtain ⟨p, -, hp, -⟩ := le_iff.mp h
  simp [hp]

/-- Of two quantities that lie somewhere, one that is not below the other is at least that. -/
theorem le_of_not_lt {a b : Quantity} (ha : a.place? ≠ none) (hb : b.place? ≠ none)
    (h : a.lt b = false) : b.le a = true := by
  obtain ⟨p, hp⟩ := Option.ne_none_iff_exists'.mp ha
  obtain ⟨q, hq⟩ := Option.ne_none_iff_exists'.mp hb
  simp only [lt, hp, hq] at h
  simp only [le, hp, hq, Place.le, h, Bool.not_false]

/-- The order of quantities is transitive. -/
theorem le_trans {a b c : Quantity} (hab : a.le b = true) (hbc : b.le c = true) :
    a.le c = true := by
  obtain ⟨p, q, hp, hq, hpq⟩ := le_iff.mp hab
  obtain ⟨q', r, hq', hr, hqr⟩ := le_iff.mp hbc
  obtain rfl : q = q' := Option.some_injective _ (hq.symm.trans hq')
  exact le_iff.mpr ⟨p, r, hp, hr, Place.le_trans hpq hqr⟩

/-- A value that lies somewhere, held under a ceiling that does, lies at the lower place. -/
theorem place?_cap {value ceiling : Quantity} {p c : Place} (hvalue : value.place? = some p)
    (hceiling : ceiling.place? = some c) :
    (cap value ceiling).place? = some (if p.le c then p else c) := by
  simp only [cap, lt, hvalue, hceiling, Place.lt_eq_not_le, Bool.not_eq_true']
  cases p.le c <;> simp [hvalue, hceiling]

/-- A ceiling keeps the order of the values. -/
theorem cap_le_cap {a b ceiling : Quantity} (hceiling : ceiling.place? ≠ none)
    (hab : a.le b = true) : (cap a ceiling).le (cap b ceiling) = true := by
  obtain ⟨p, q, hp, hq, hpq⟩ := le_iff.mp hab
  obtain ⟨c, hc⟩ := Option.ne_none_iff_exists'.mp hceiling
  refine le_iff.mpr ⟨_, _, place?_cap hp hc, place?_cap hq hc, ?_⟩
  split_ifs with hpc hqc hqc
  · exact hpq
  · exact hpc
  · exact absurd (Place.le_trans hpq hqc) hpc
  · exact Place.le_refl c

/-- Under a ceiling that a value reaches, no value is above that one. -/
theorem cap_le_cap_of_le {a b ceiling : Quantity} (ha : a.place? ≠ none)
    (hb : ceiling.le b = true) : (cap a ceiling).le (cap b ceiling) = true := by
  obtain ⟨p, hp⟩ := Option.ne_none_iff_exists'.mp ha
  obtain ⟨c, q, hc, hq, hcq⟩ := le_iff.mp hb
  refine le_iff.mpr ⟨_, _, place?_cap hp hc, place?_cap hq hc, ?_⟩
  split_ifs with hpc hqc hqc
  · exact Place.le_trans hpc hcq
  · exact hpc
  · exact hcq
  · exact Place.le_refl c

/-- A value above another one stays above it under every ceiling above it. -/
theorem not_cap_le_cap_of_lt {a b ceiling : Quantity} (hab : a.lt b = true)
    (hceiling : a.lt ceiling = true) : (cap b ceiling).le (cap a ceiling) = false := by
  obtain ⟨p, q, hp, hq, hpq⟩ := lt_iff.mp hab
  obtain ⟨p', c, hp', hc, hpc⟩ := lt_iff.mp hceiling
  obtain rfl : p = p' := Option.some_injective _ (hp.symm.trans hp')
  have ha : (cap a ceiling).place? = some p := by
    rw [place?_cap hp hc, if_pos (Place.le_of_lt hpc)]
  have hbelow : p.lt (if q.le c then q else c) = true := by
    split_ifs
    · exact hpq
    · exact hpc
  simp only [le, ha, place?_cap hq hc]
  rw [Place.le, hbelow, Bool.not_true]

end Quantity

namespace Binary64

/-- A double with a place that is a number and not negative is finite; its sign may be set only
at zero. -/
theorem exists_finite_of_place? {x : Binary64} {v : ℚ} (hv : 0 ≤ v)
    (hx : (Quantity.float x).place? = some (.at v)) :
    ∃ negative significand exponent canonical,
      x = .finite negative significand exponent canonical ∧
        (Binary64.finite negative significand exponent canonical).magnitude = v ∧
        (negative = true → v = 0) := by
  cases x with
  | undefined => simp [Quantity.place?] at hx
  | infinite negative => cases negative <;> simp [Quantity.place?] at hx
  | finite negative significand exponent canonical =>
    have hmagnitude : 0 ≤ (Binary64.finite negative significand exponent canonical).magnitude := by
      simp only [magnitude, scaleByTwo_eq]
      positivity
    refine ⟨negative, significand, exponent, canonical, rfl, ?_⟩
    cases negative with
    | false => simpa [Quantity.place?, toRat, isNegative] using hx
    | true =>
      have hvalue : -(Binary64.finite true significand exponent canonical).magnitude = v := by
        simpa [Quantity.place?, toRat, isNegative] using hx
      have hzero : v = 0 := by linarith
      exact ⟨by linarith, fun _ => hzero⟩

/-- An infinite double has the place of its end. -/
theorem eq_infinite_of_place? {x : Binary64} (hx : (Quantity.float x).place? = some .top) :
    x = .infinite false := by
  cases x with
  | undefined => simp [Quantity.place?] at hx
  | infinite negative => cases negative <;> simp_all [Quantity.place?]
  | finite => simp [Quantity.place?] at hx

/-- The order of the factors does not matter. -/
theorem mul_comm (x y : Binary64) : x.mul y = y.mul x := by
  cases x <;> cases y <;> simp only [mul, Bool.or_comm, bne_comm, Rat.mul_comm]

/-- The product of a double that is not negative and a positive number. -/
theorem place?_mul {x y : Binary64} {p : Place} {w : ℚ} (hp : (Place.at 0).le p = true)
    (hw : 0 < w) (hx : (Quantity.float x).place? = some p)
    (hy : (Quantity.float y).place? = some (.at w)) :
    (Quantity.float (x.mul y)).place? = some (p.scaled w) := by
  obtain ⟨n, t, f, ht, rfl, rfl, hn⟩ := exists_finite_of_place? hw.le hy
  obtain rfl : n = false := Bool.eq_false_iff.mpr fun h => hw.ne' (hn h)
  cases p with
  | bottom => simp [Place.le, Place.lt] at hp
  | top =>
    obtain rfl := eq_infinite_of_place? hx
    have ht : t ≠ 0 := by
      rintro rfl
      simp [magnitude, scaleByTwo_eq] at hw
    simp [mul, isZero, ht, isNegative, Quantity.place?, Place.scaled]
  | «at» v =>
    have hv : 0 ≤ v := Place.at_le_at.mp hp
    obtain ⟨m, s, e, hs, rfl, rfl, hm⟩ := exists_finite_of_place? hv hx
    refine place?_ofQuotient_num (mul_nonneg hv hw.le) fun hsigns => ?_
    rw [hm (by simpa using hsigns), zero_mul]

/-- The quotient of a double that is not negative and a positive whole number. -/
theorem place?_divNat {x : Binary64} {p : Place} {divisor : ℕ} (hp : (Place.at 0).le p = true)
    (hx : (Quantity.float x).place? = some p) :
    (Quantity.float (x.divNat divisor)).place? = some (p.scaled (divisor : ℚ)⁻¹) := by
  cases p with
  | bottom => simp [Place.le, Place.lt] at hp
  | top =>
    obtain rfl := eq_infinite_of_place? hx
    rfl
  | «at» v =>
    have hv : 0 ≤ v := Place.at_le_at.mp hp
    obtain ⟨m, s, e, hs, rfl, rfl, hm⟩ := exists_finite_of_place? hv hx
    simp only [Place.scaled, ← div_eq_mul_inv]
    exact place?_ofQuotient_num (by positivity) fun hsign => by rw [hm hsign, zero_div]

/-- Zero is at most the double zero. -/
theorem zero_le_zero : (Quantity.int 0).le (.float .zero) = true :=
  Quantity.int_le_iff.mpr ⟨_, place?_ofParts_zero false, by simp⟩

/-- The double zero is at most zero. -/
theorem zero_le_int : (Quantity.float .zero).le (.int 0) = true :=
  Quantity.le_iff.mpr ⟨_, _, place?_ofParts_zero false, rfl, by simp⟩

/-- A double is finite if and only if its place is a number. -/
theorem isFinite_iff {x : Binary64} :
    x.isFinite = true ↔ ∃ v, (Quantity.float x).place? = some (.at v) := by
  cases x with
  | undefined => simp [isFinite, Quantity.place?]
  | infinite negative => cases negative <;> simp [isFinite, Quantity.place?]
  | finite => simp [isFinite, Quantity.place?]

/-- A double from a whole number up to a finite double lies at a number, which is no less than the
whole one. -/
theorem exists_place?_of_le {n : ℤ} {x y : Binary64} (hx : (Quantity.int n).le (.float x) = true)
    (hxy : (Quantity.float x).le (.float y) = true) (hy : y.isFinite = true) :
    ∃ v : ℚ, n ≤ v ∧ (Quantity.float x).place? = some (.at v) := by
  obtain ⟨w, hw⟩ := isFinite_iff.mp hy
  obtain ⟨o, ho, hno⟩ := Quantity.int_le_iff.mp hx
  obtain ⟨p, q, hp, hq, hpq⟩ := Quantity.le_iff.mp hxy
  obtain rfl : o = p := Option.some_injective _ (ho.symm.trans hp)
  obtain rfl : q = .at w := Option.some_injective _ (hq.symm.trans hw)
  cases o with
  | bottom => simp [Place.le, Place.lt] at hno
  | top => simp [Place.le, Place.lt] at hpq
  | «at» v => exact ⟨v, Place.at_le_at.mp hno, hp⟩

/-- Products rise with a factor that is not negative and with a finite one of at least one. -/
theorem mul_le_mul {x y z w : Binary64} (hx : (Quantity.int 0).le (.float x) = true)
    (hxy : (Quantity.float x).le (.float y) = true) (hz : (Quantity.int 1).le (.float z) = true)
    (hzw : (Quantity.float z).le (.float w) = true) (hw : w.isFinite = true) :
    (Quantity.float (x.mul z)).le (.float (y.mul w)) = true := by
  obtain ⟨o, ho, hzero⟩ := Quantity.int_le_iff.mp hx
  obtain ⟨p, q, hp, hq, hpq⟩ := Quantity.le_iff.mp hxy
  obtain rfl : o = p := Option.some_injective _ (ho.symm.trans hp)
  obtain ⟨v, hv, hzplace⟩ := exists_place?_of_le hz hzw hw
  obtain ⟨u, hwplace⟩ := isFinite_iff.mp hw
  have hvpos : 0 < v := lt_of_lt_of_le (by norm_num) hv
  have hvu : v ≤ u := by simpa [Quantity.le, hzplace, hwplace] using hzw
  exact Quantity.le_iff.mpr ⟨_, _, place?_mul hzero hvpos hp hzplace,
    place?_mul (Place.le_trans hzero hpq) (hvpos.trans_le hvu) hq hwplace,
    Place.scaled_mono hzero hpq hvpos.le hvu⟩

/-- A product of a factor that is not negative and a finite one of at least one is not negative. -/
theorem zero_le_mul {x z : Binary64} (hx : (Quantity.int 0).le (.float x) = true)
    (hz : (Quantity.int 1).le (.float z) = true) (hfinite : z.isFinite = true) :
    (Quantity.int 0).le (.float (x.mul z)) = true := by
  obtain ⟨p, hp, hzero⟩ := Quantity.int_le_iff.mp hx
  obtain ⟨q, hq, hone⟩ := Quantity.int_le_iff.mp hz
  obtain ⟨w, hw⟩ := isFinite_iff.mp hfinite
  obtain rfl : q = .at w := Option.some_injective _ (hq.symm.trans hw)
  have hwpos : 0 < w := lt_of_lt_of_le (by norm_num) (Place.at_le_at.mp hone)
  exact Quantity.int_le_iff.mpr ⟨_, place?_mul hzero hwpos hp hw,
    by exact_mod_cast Place.zero_le_scaled hzero hwpos.le⟩

/-- Quotients by a whole number rise with a dividend that is not negative. -/
theorem divNat_le_divNat {x y : Binary64} (divisor : ℕ)
    (hx : (Quantity.int 0).le (.float x) = true) (hxy : (Quantity.float x).le (.float y) = true) :
    (Quantity.float (x.divNat divisor)).le (.float (y.divNat divisor)) = true := by
  obtain ⟨o, ho, hzero⟩ := Quantity.int_le_iff.mp hx
  obtain ⟨p, q, hp, hq, hpq⟩ := Quantity.le_iff.mp hxy
  obtain rfl : o = p := Option.some_injective _ (ho.symm.trans hp)
  exact Quantity.le_iff.mpr ⟨_, _, place?_divNat hzero hp,
    place?_divNat (Place.le_trans hzero hpq) hq,
    Place.scaled_mono hzero hpq (by positivity) le_rfl⟩

/-- A quotient of a dividend that is not negative is not negative. -/
theorem zero_le_divNat {x : Binary64} (divisor : ℕ)
    (hx : (Quantity.int 0).le (.float x) = true) :
    (Quantity.int 0).le (.float (x.divNat divisor)) = true := by
  obtain ⟨p, hp, hzero⟩ := Quantity.int_le_iff.mp hx
  exact Quantity.int_le_iff.mpr ⟨_, place?_divNat hzero hp,
    by exact_mod_cast Place.zero_le_scaled hzero (by positivity)⟩

/-- Of two quotients of natural numbers the larger one has no smaller double. -/
theorem ofQuotient_le_ofQuotient {a b c d : ℕ} (hb : 0 < b) (hd : 0 < d)
    (h : (a : ℚ) / b ≤ c / d) :
    (Quantity.float (ofQuotient false a b)).le (.float (ofQuotient false c d)) = true :=
  Quantity.le_iff.mpr ⟨_, _, place?_ofQuotient_eq hb (by simp), place?_ofQuotient_eq hd (by simp),
    roundedPlace_mono (by positivity) h⟩

/-- A rounded quotient is not negative. -/
theorem zero_le_ofQuotient (a : ℕ) {b : ℕ} (hb : 0 < b) :
    (Quantity.int 0).le (.float (ofQuotient false a b)) = true := by
  refine Quantity.int_le_iff.mpr ⟨_, place?_ofQuotient_eq hb (by simp), ?_⟩
  have hmono := roundedPlace_mono (q := 0) (r := (a : ℚ) / b) le_rfl (by positivity)
  rwa [roundedPlace_zero, ← Int.cast_zero] at hmono

/-- A rounded quotient is finite if a larger one is. -/
theorem isFinite_ofQuotient_of_le {a b c d : ℕ} (hb : 0 < b) (hd : 0 < d)
    (h : (a : ℚ) / b ≤ c / d) (hfinite : (ofQuotient false c d).isFinite = true) :
    (ofQuotient false a b).isFinite = true := by
  obtain ⟨v, -, hv⟩ :=
    exists_place?_of_le (zero_le_ofQuotient a hb) (ofQuotient_le_ofQuotient hb hd h) hfinite
  exact isFinite_iff.mpr ⟨v, hv⟩

/-- A natural number that has a double has the rounded one. -/
theorem ofInt_natCast_eq_ok {n : ℕ} {x : Binary64} :
    ofInt n = .ok x ↔ (ofQuotient false n 1).isFinite = true ∧ ofQuotient false n 1 = x := by
  have hround : round ((n : ℤ) : ℚ) = ofQuotient false n 1 := rfl
  simp only [ofInt, hround]
  split <;> simp_all

/-- A quotient of natural numbers that has a double has the rounded one. -/
theorem ofIntQuotient_natCast_eq_ok {k divisor : ℕ} {x : Binary64} :
    ofIntQuotient k divisor = .ok x ↔
      (ofQuotient false k divisor).isFinite = true ∧ ofQuotient false k divisor = x := by
  have hsign : ¬ (k : ℤ) < 0 := Int.not_lt.mpr k.cast_nonneg
  simp only [ofIntQuotient, decide_eq_false hsign, Int.natAbs_natCast]
  split <;> simp_all

/-- If a natural number has a double, a smaller one has too, and its double is not larger. -/
theorem ofInt_of_le {m n : ℕ} (h : m ≤ n) {y : Binary64} (hy : ofInt n = .ok y) :
    ∃ x, ofInt m = .ok x ∧ (Quantity.float x).le (.float y) = true := by
  obtain ⟨hfinite, rfl⟩ := ofInt_natCast_eq_ok.mp hy
  have hquotient : (m : ℚ) / (1 : ℕ) ≤ n / (1 : ℕ) := by gcongr
  exact ⟨_, ofInt_natCast_eq_ok.mpr
    ⟨isFinite_ofQuotient_of_le Nat.one_pos Nat.one_pos hquotient hfinite, rfl⟩,
    ofQuotient_le_ofQuotient Nat.one_pos Nat.one_pos hquotient⟩

/-- If a quotient of natural numbers has a double, one with a smaller dividend has too, and its
double is not larger. -/
theorem ofIntQuotient_of_le {k l divisor : ℕ} (hpos : 0 < divisor) (h : k ≤ l) {y : Binary64}
    (hy : ofIntQuotient l divisor = .ok y) :
    ∃ x, ofIntQuotient k divisor = .ok x ∧ (Quantity.float x).le (.float y) = true := by
  obtain ⟨hfinite, rfl⟩ := ofIntQuotient_natCast_eq_ok.mp hy
  have hquotient : (k : ℚ) / divisor ≤ l / divisor := by gcongr
  exact ⟨_, ofIntQuotient_natCast_eq_ok.mpr
    ⟨isFinite_ofQuotient_of_le hpos hpos hquotient hfinite, rfl⟩,
    ofQuotient_le_ofQuotient hpos hpos hquotient⟩

end Binary64

/-- The whole part of a quantity of at least one is positive. -/
theorem Quantity.pos_of_truncate {q : Quantity} {n : Int} (hq : q.lt (.int 1) = false)
    (h : q.truncate = .ok n) : 0 < n := by
  cases q with
  | int m =>
    obtain rfl := Except.ok.inj h
    have hle : ((1 : Int) : ℚ) ≤ m := by
      simpa [Quantity.lt, Quantity.place?, Place.lt] using hq
    have hone : 1 ≤ m := by exact_mod_cast hle
    omega
  | truth b =>
    obtain rfl := Except.ok.inj h
    cases b with
    | false => exact absurd hq (by decide)
    | true => decide
  | float x =>
    cases x with
    | undefined => cases h
    | infinite negative => cases h
    | finite negative significand exponent canonical =>
      have hle : (1 : ℚ) ≤ (Binary64.finite negative significand exponent canonical).toRat := by
        simpa [Quantity.lt, Quantity.place?, Place.lt] using hq
      have hplace : (Quantity.float (.finite negative significand exponent canonical)).place? =
          some (.at (Binary64.finite negative significand exponent canonical).toRat) := rfl
      obtain ⟨_, _, _, _, hx, hmagnitude, hzero⟩ :=
        Binary64.exists_finite_of_place? (zero_le_one.trans hle) hplace
      obtain ⟨rfl, rfl, rfl⟩ := Binary64.finite.inj hx
      have hsign : negative = false := by
        by_contra hnegative
        have := hzero (by simpa using hnegative)
        linarith
      obtain rfl := Except.ok.inj h
      rw [hsign, if_neg Bool.false_ne_true]
      have hfloor : (1 : Int) ≤
          (Binary64.finite negative significand exponent canonical).magnitude.floor := by
        rw [Rat.le_floor_iff, hmagnitude]
        exact_mod_cast hle
      rw [hsign] at hfloor
      omega

end OrderOfGrowth

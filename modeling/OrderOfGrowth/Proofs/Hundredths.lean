import OrderOfGrowth.Proofs.NumberText
import OrderOfGrowth.Proofs.Representable
import OrderOfGrowth.Proofs.Success
import OrderOfGrowth.Readout

/-!
# Two places and a unit

A readout shows a measurement as a number with two places and a unit. What it shows can be read
back: the number is the nearest number of hundredths, which rises with what is rounded, is at most
one half of a hundredth away, and comes to an even number of hundredths exactly from one half of a
hundredth below it on.
-/

namespace OrderOfGrowth

/-- The number of hundredths nearest to a number that is not negative. -/
def nearestHundredths (v : ℚ) : ℕ := roundQuotient (v.num.natAbs * 100) v.den

variable {v w : ℚ}

/-- The quotient that is rounded to hundredths. -/
theorem natAbs_num_mul_div_den (hv : 0 ≤ v) : ((v.num.natAbs * 100 : ℕ) : ℚ) / v.den = v * 100 := by
  rw [Nat.cast_mul, mul_div_right_comm, natAbs_num_div_den hv, Nat.cast_ofNat]

/-- The larger number has no fewer hundredths. -/
theorem nearestHundredths_mono (hv : 0 ≤ v) (h : v ≤ w) :
    nearestHundredths v ≤ nearestHundredths w := by
  refine roundQuotient_mono v.den_pos w.den_pos ?_
  rw [natAbs_num_mul_div_den hv, natAbs_num_mul_div_den (hv.trans h)]
  gcongr

/-- The hundredths are at most one half away from hundred times the number. -/
theorem nearestHundredths_bounds (hv : 0 ≤ v) :
    2 * (v * 100) ≤ 2 * (nearestHundredths v : ℚ) + 1 ∧
      2 * (nearestHundredths v : ℚ) ≤ 2 * (v * 100) + 1 := by
  have hnear := roundQuotient_near (v.num.natAbs * 100) v.den_pos
  rwa [natAbs_num_mul_div_den hv] at hnear

/-- The shown number is at most one half of a hundredth away from the number. -/
theorem nearestHundredths_near (hv : 0 ≤ v) : |(nearestHundredths v : ℚ) / 100 - v| ≤ 1 / 200 := by
  obtain ⟨hlow, hhigh⟩ := nearestHundredths_bounds hv
  refine abs_le.mpr ⟨?_, ?_⟩ <;> linarith

/-- A whole number has hundred times as many hundredths. -/
theorem nearestHundredths_natCast (n : ℕ) : nearestHundredths n = n * 100 := by
  rw [nearestHundredths, Rat.num_natCast, Rat.den_natCast, Int.natAbs_natCast]
  have hexact := roundQuotient_mul_self (n * 100) Nat.one_pos
  rwa [Nat.mul_one] at hexact

/-- A number comes to an even number of hundredths exactly from one half of a hundredth below on. -/
theorem le_nearestHundredths_iff {n : ℕ} (heven : Even n) (hv : 0 ≤ v) :
    n ≤ nearestHundredths v ↔ (2 * n - 1) / 200 ≤ v := by
  obtain ⟨hlow, hhigh⟩ := nearestHundredths_bounds hv
  constructor
  · intro h
    have hcast : (n : ℚ) ≤ nearestHundredths v := by exact_mod_cast h
    linarith
  · intro h
    by_contra! hless
    have hcast : (nearestHundredths v : ℚ) + 1 ≤ n := by exact_mod_cast hless
    -- the number lies half-way between two numbers of hundredths, of which the odd one is taken
    have hhalf : 2 * (((v.num.natAbs * 100 : ℕ) : ℚ) / v.den) = 2 * nearestHundredths v + 1 := by
      rw [natAbs_num_mul_div_den hv]
      linarith
    have hnext : n = nearestHundredths v + 1 := by
      have : (n : ℚ) = (nearestHundredths v + 1 : ℕ) := by
        push_cast
        linarith
      exact_mod_cast this
    have htaken : Even (nearestHundredths v) := even_roundQuotient_of_half v.den_pos hhalf
    rw [hnext, Nat.even_add_one] at heven
    exact heven htaken

/-- A number of at most so many units is shown as so many at most, and as exactly so many from one
half of a hundredth below on. -/
theorem hundredths_eq_natCast_iff {n : ℕ} (hv : 0 ≤ v) (h : v ≤ n) :
    (nearestHundredths v : ℚ) / 100 ≤ n ∧
      ((nearestHundredths v : ℚ) / 100 = n ↔ n - 1 / 200 ≤ v) := by
  have hle : nearestHundredths v ≤ n * 100 :=
    (nearestHundredths_mono hv h).trans_eq (nearestHundredths_natCast n)
  have hge := le_nearestHundredths_iff (n := n * 100) (Even.mul_left (by decide) n) hv
  have hcast : (nearestHundredths v : ℚ) ≤ n * 100 := by exact_mod_cast hle
  rw [div_le_iff₀ (by norm_num), div_eq_iff (by norm_num)]
  refine ⟨hcast, ?_⟩
  calc (nearestHundredths v : ℚ) = n * 100 ↔ nearestHundredths v = n * 100 := by norm_cast
    _ ↔ n * 100 ≤ nearestHundredths v := ⟨Eq.ge, hle.antisymm⟩
    _ ↔ (n : ℚ) - 1 / 200 ≤ v := by
        rw [hge]
        push_cast
        constructor <;> intro <;> linarith

/-- The larger number is not rounded to fewer hundredths, with a double in between. -/
theorem nearestHundredths_le_of_rounded {t u : ℚ} (hv : 0 ≤ v) (h : v ≤ w)
    (ht : roundedPlace v = .at t) (hu : roundedPlace w = .at u) :
    nearestHundredths t ≤ nearestHundredths u := by
  obtain ⟨t', ht', hzero, hle⟩ := exists_roundedPlace_of_le hv h hu
  obtain rfl : t' = t := Place.at.inj (ht'.symm.trans ht)
  exact nearestHundredths_mono hzero hle

/-- A natural number that a double holds is rounded to itself. -/
theorem roundedPlace_natCast {n : ℕ} (hn : n < 2 ^ 53) : roundedPlace n = .at n := by
  have hcast : (n : ℚ) < 2 ^ 53 := by exact_mod_cast hn
  exact (FitsDouble.natCast hn).roundedPlace_eq
    (hcast.trans (pow_lt_pow_right₀ one_lt_two (by decide)))

/-- A number of at least so many units is shown as so many at least. -/
theorem natCast_le_hundredths {n : ℕ} (hn : n < 2 ^ 53) (h : (n : ℚ) ≤ v) {u : ℚ}
    (hu : roundedPlace v = .at u) : (n : ℚ) ≤ nearestHundredths u / 100 := by
  have hle := nearestHundredths_le_of_rounded n.cast_nonneg h (roundedPlace_natCast hn) hu
  rw [nearestHundredths_natCast] at hle
  rw [le_div_iff₀ (by norm_num)]
  exact_mod_cast hle

/-- A number of at most so many units is shown as so many at most. -/
theorem hundredths_le_natCast {n : ℕ} (hn : n < 2 ^ 53) (hv : 0 ≤ v) (h : v ≤ n) {u : ℚ}
    (hu : roundedPlace v = .at u) : (nearestHundredths u : ℚ) / 100 ≤ n := by
  have hle := nearestHundredths_le_of_rounded hv h hu (roundedPlace_natCast hn)
  rw [nearestHundredths_natCast] at hle
  rw [div_le_iff₀ (by norm_num)]
  exact_mod_cast hle

namespace Numeral

/-- Reading digits stops at the first character that is none. -/
theorem takeWhile_digits_append {n : ℕ} {c : Char} (hc : isDigit c = false) (rest : List Char) :
    (digits n ++ c :: rest).takeWhile isDigit = digits n ∧
      (digits n ++ c :: rest).dropWhile isDigit = c :: rest := by
  obtain ⟨-, hdigits⟩ := isRow_digits n
  rw [List.takeWhile_append_of_pos hdigits, List.dropWhile_append_of_pos hdigits,
    List.takeWhile_cons_of_neg (by simp [hc]), List.dropWhile_cons_of_neg (by simp [hc])]
  exact ⟨List.append_nil _, rfl⟩

/-- The digits of a whole number are read as the number. -/
theorem decimal?_digits (n : ℕ) : decimal? (digits n) = some ⟨n, 0⟩ := by
  obtain ⟨hne, hdigits⟩ := isRow_digits n
  have htake : (digits n).takeWhile isDigit = digits n := List.takeWhile_eq_self_iff.mpr hdigits
  have hdrop : (digits n).dropWhile isDigit = [] := List.dropWhile_eq_nil_iff.mpr hdigits
  unfold decimal?
  simp [htake, hdrop, hne, exponent?, ofDigits_digits]

/-- Two digits for a number below hundred. -/
theorem isRow_twoDigits {n : ℕ} (hn : n < 100) :
    let row := if n < 10 then '0' :: digits n else digits n
    Json.IsRow row ∧ row.length = 2 ∧ ofDigits row = n := by
  intro row
  have hfew : (digits n).length ≤ 1 ↔ n < 10 ^ 1 := length_digits_le_iff Nat.one_pos
  have htwo : (digits n).length ≤ 2 ↔ n < 10 ^ 2 := length_digits_le_iff Nat.two_pos
  have hsome := length_digits_pos n
  by_cases hsmall : n < 10
  · have hrow : row = '0' :: digits n := if_pos hsmall
    rw [hrow]
    refine ⟨isRow_zeros_append (isRow_digits n) 1, ?_, ofDigits_digits n⟩
    have := hfew.mpr hsmall
    rw [List.length_cons]
    omega
  · have hrow : row = digits n := if_neg hsmall
    rw [hrow]
    refine ⟨isRow_digits n, ?_, ofDigits_digits n⟩
    have := htwo.mpr hn
    have := mt hfew.mp hsmall
    omega

/-- A number of hundredths is read as the number. -/
theorem decimal?_hundredthsText (n : ℕ) :
    decimal? (Binary64.hundredthsText n) = some ⟨n, -2⟩ := by
  obtain ⟨⟨-, hdigits⟩, hlength, hvalue⟩ := isRow_twoDigits (Nat.mod_lt n (by decide : 0 < 100))
  unfold Binary64.hundredthsText
  generalize (if n % 100 < 10 then '0' :: digits (n % 100) else digits (n % 100)) = row at *
  obtain ⟨htake, hdrop⟩ := takeWhile_digits_append (n := n / 100) (c := '.') rfl row
  have hrowTake : row.takeWhile isDigit = row := List.takeWhile_eq_self_iff.mpr hdigits
  have hrowDrop : row.dropWhile isDigit = [] := List.dropWhile_eq_nil_iff.mpr hdigits
  have hne : digits (n / 100) ≠ [] := (isRow_digits _).1
  have hwhole : ofDigits (digits (n / 100) ++ row) = n := by
    rw [ofDigits_append, ofDigits_digits, hvalue, hlength]
    omega
  unfold decimal?
  simp [htake, hdrop, hrowTake, hrowDrop, hne, exponent?, hwhole, hlength]

end Numeral

namespace Binary64

/-- A double that is not negative is shown with its nearest hundredths. -/
theorem twoPlaces_of_place? {x : Binary64} (hsign : x.isNegative = false) (hv : 0 ≤ v)
    (hx : (Quantity.float x).place? = some (.at v)) :
    x.twoPlaces = hundredthsText (nearestHundredths v) := by
  obtain ⟨negative, significand, exponent, hcanonical, rfl, hmagnitude, -⟩ :=
    exists_finite_of_place? hv hx
  obtain rfl : negative = false := hsign
  rw [nearestHundredths, ← hmagnitude]
  rfl

end Binary64

namespace Quantity

variable {q : Quantity}

/-- A quantity that lies at a number is below a whole number exactly if that number is. -/
theorem lt_int_eq_decide (hq : q.place? = some (.at v)) (n : ℤ) :
    q.lt (.int n) = decide (v < n) := by
  rw [lt, hq]
  rfl

/-- A quantity that lies at a positive number is given. -/
theorem isGiven_of_pos (hv : 0 < v) (hq : q.place? = some (.at v)) : q.isGiven = true := by
  simp [isGiven, hq, hv.ne']

/-- A quantity that is no double lies at a natural number if it is not negative: the number or one
for a truth value. -/
theorem place?_cases (hv : 0 < v) (hq : q.place? = some (.at v)) :
    (∃ n : ℕ, v = n ∧ (q = .int n ∨ (q = .truth true ∧ n = 1))) ∨ ∃ x, q = .float x := by
  cases q with
  | int n =>
    have hvalue : (n : ℚ) = v := by simpa [place?] using hq
    have hn : 0 ≤ n := by
      rw [← hvalue] at hv
      exact_mod_cast hv.le
    lift n to ℕ using hn
    exact Or.inl ⟨n, by rw [← hvalue, Int.cast_natCast], Or.inl rfl⟩
  | truth b =>
    cases b with
    | false =>
      have hzero : v = 0 := by simpa [place?, eq_comm] using hq
      exact absurd hzero hv.ne'
    | true =>
      have hone : v = 1 := by simpa [place?, eq_comm] using hq
      exact Or.inl ⟨1, by rw [hone, Nat.cast_one], Or.inr ⟨rfl, rfl⟩⟩
  | float x => exact Or.inr ⟨x, rfl⟩

/-- Up to two to the 53 a quantity is turned into a double without a loss. -/
theorem exists_toDouble (hv : 0 < v) (hsmall : v < 2 ^ 53) (hq : q.place? = some (.at v)) :
    ∃ x, q.toDouble = .ok x ∧ x.isNegative = false ∧
      (Quantity.float x).place? = some (.at v) := by
  rcases place?_cases hv hq with ⟨n, rfl, rfl | ⟨rfl, rfl⟩⟩ | ⟨x, rfl⟩
  · have hn : n < 2 ^ 53 := by exact_mod_cast hsmall
    have hplace : (Quantity.float (Binary64.ofQuotient false n 1)).place? = some (.at n) := by
      rw [place?_ofQuotient_eq Nat.one_pos (by simp), Nat.cast_one, div_one,
        roundedPlace_natCast hn]
    exact ⟨_, Binary64.ofInt_natCast_eq_ok.mpr ⟨Binary64.isFinite_iff.mpr ⟨_, hplace⟩, rfl⟩,
      Binary64.isNegative_ofQuotient _ _ _, hplace⟩
  · exact ⟨.one, rfl, rfl, by rw [Nat.cast_one]; rfl⟩
  · exact ⟨x, rfl, Binary64.isNegative_of_place? hv hq, hq⟩

/-- Up to two to the 53 the number that a quantity lies at fits into a double. -/
theorem fitsDouble (hv : 0 < v) (hsmall : v < 2 ^ 53) (hq : q.place? = some (.at v)) :
    FitsDouble v := by
  obtain ⟨x, -, -, hx⟩ := exists_toDouble hv hsmall hq
  exact (Binary64.fitsDouble_of_place? hv.le hx).1

/-- Up to two to the 53 a quantity is shown with its nearest hundredths. -/
theorem twoPlaces_eq (hv : 0 < v) (hsmall : v < 2 ^ 53) (hq : q.place? = some (.at v)) :
    q.twoPlaces = .ok (Binary64.hundredthsText (nearestHundredths v)) := by
  obtain ⟨x, hdouble, hsign, hx⟩ := exists_toDouble hv hsmall hq
  rw [twoPlaces, hdouble, ← Binary64.twoPlaces_of_place? hsign hv.le hx]
  rfl

/-- A positive quantity divided by a positive whole number is the rounded quotient, and fails only
if that is infinite. -/
theorem exists_perNat (hv : 0 < v) (hq : q.place? = some (.at v)) {divisor : ℕ}
    (hpos : 0 < divisor) :
    ∃ y : Binary64, y.isNegative = false ∧
      (Quantity.float y).place? = some (roundedPlace (v / divisor)) ∧
      ∀ z, q.perNat divisor = .ok z ↔ y.isFinite = true ∧ y = z := by
  have hinteger (n : ℕ) : ∃ y : Binary64, y.isNegative = false ∧
      (Quantity.float y).place? = some (roundedPlace ((n : ℚ) / divisor)) ∧
      ∀ z, Binary64.ofIntQuotient n divisor = .ok z ↔ y.isFinite = true ∧ y = z :=
    ⟨.ofQuotient false n divisor, Binary64.isNegative_ofQuotient _ _ _,
      place?_ofQuotient_eq hpos (by simp), fun z => Binary64.ofIntQuotient_natCast_eq_ok⟩
  rcases place?_cases hv hq with ⟨n, rfl, rfl | ⟨rfl, rfl⟩⟩ | ⟨x, rfl⟩
  · exact hinteger n
  · exact hinteger 1
  · obtain ⟨hfits, hrange⟩ := Binary64.fitsDouble_of_place? hv.le hq
    have hone : (1 : ℚ) ≤ divisor := by exact_mod_cast hpos
    obtain ⟨t, ht, -, -⟩ := exists_roundedPlace_of_le (div_nonneg hv.le (by positivity))
      (div_le_self hv.le hone) (hfits.roundedPlace_eq hrange)
    have hzero : (Place.at 0).le (.at v) = true := Place.at_le_at.mpr hv.le
    have hplace : (Quantity.float (x.divNat divisor)).place? =
        some ((Place.at v).scaled (divisor : ℚ)⁻¹) := Binary64.place?_divNat hzero hq
    rw [Place.scaled, ← div_eq_mul_inv] at hplace
    refine ⟨x.divNat divisor, ?_, hplace, fun z => ?_⟩
    · obtain ⟨negative, _, _, _, rfl, -, -⟩ := Binary64.exists_finite_of_place? hv.le hq
      have hsign : negative = false := Binary64.isNegative_of_place? hv hq
      exact (Binary64.isNegative_ofQuotient _ _ _).trans hsign
    · rw [ht] at hplace
      have hfinite : (x.divNat divisor).isFinite = true := Binary64.isFinite_iff.mpr ⟨t, hplace⟩
      simp [perNat, hfinite]

/-- The whole part of a positive quantity. -/
theorem exists_truncate (hv : 0 < v) (hq : q.place? = some (.at v)) :
    ∃ n : ℕ, (n : ℚ) ≤ v ∧ q.truncate = .ok (n : ℤ) := by
  rcases place?_cases hv hq with ⟨n, rfl, rfl | ⟨rfl, rfl⟩⟩ | ⟨x, rfl⟩
  · exact ⟨n, le_rfl, rfl⟩
  · exact ⟨1, le_rfl, rfl⟩
  · obtain ⟨negative, significand, exponent, canonical, rfl, hmagnitude, hsign⟩ :=
      Binary64.exists_finite_of_place? hv.le hq
    obtain rfl : negative = false := Bool.eq_false_iff.mpr fun h => hv.ne' (hsign h)
    refine ⟨⌊v⌋₊, Nat.floor_le hv.le, ?_⟩
    rw [truncate, Binary64.truncate, if_neg Bool.false_ne_true, hmagnitude,
      Int.natCast_floor_eq_floor hv.le]
    rfl

end Quantity

namespace Readout

/-- What a readout shows: a number and the unit behind it. -/
structure Shown where
  number : ℚ
  unit : String

/-- Reads a number and the unit that stands behind a blank. -/
def shown? (text : String) : Option Shown :=
  (Numeral.decimal? (text.toList.takeWhile (· != ' '))).map fun d =>
    ⟨d.value, String.ofList ((text.toList.dropWhile (· != ' ')).drop 1)⟩

/-- What stands before and behind the blank of a readout is read back. -/
theorem shown?_withUnit {number : List Char} {d : Decimal} (hblank : ' ' ∉ number)
    (hnumber : Numeral.decimal? number = some d) (unit : String) :
    shown? (withUnit number unit) = some ⟨d.value, unit⟩ := by
  have hkeeps : ∀ c ∈ number, (c != ' ') = true :=
    fun c hc => bne_iff_ne.mpr fun h => hblank (h ▸ hc)
  unfold shown? withUnit
  rw [String.toList_ofList, List.takeWhile_append_of_pos hkeeps,
    List.dropWhile_append_of_pos hkeeps]
  simp [hnumber]

/-- A whole number is read back with its unit. -/
theorem shown?_digits (n : ℕ) (unit : String) :
    shown? (withUnit (digits n) unit) = some ⟨n, unit⟩ := by
  have hblank : ' ' ∉ digits n := fun h => absurd ((isRow_digits n).2 _ h) (by decide)
  rw [shown?_withUnit hblank (Numeral.decimal?_digits n)]
  simp [Decimal.value]

/-- A number of hundredths is read back with its unit. -/
theorem shown?_hundredthsText (n : ℕ) (unit : String) :
    shown? (withUnit (Binary64.hundredthsText n) unit) = some ⟨n / 100, unit⟩ := by
  have hblank : ' ' ∉ Binary64.hundredthsText n := by
    obtain ⟨⟨-, hrow⟩, -⟩ := Numeral.isRow_twoDigits (Nat.mod_lt n (by decide : 0 < 100))
    unfold Binary64.hundredthsText
    rw [List.mem_append, List.mem_cons, not_or, not_or]
    exact ⟨fun h => absurd ((isRow_digits _).2 _ h) (by decide), by decide,
      fun h => absurd (hrow _ h) (by decide)⟩
  rw [shown?_withUnit hblank (Numeral.decimal?_hundredthsText n)]
  norm_num [Decimal.value, zpow_neg, div_eq_mul_inv]

variable {q : Quantity}

/-- What is shown of a positive quantity divided by a positive whole number: the rounded quotient,
if that is finite. -/
theorem perNat_shown_iff (hv : 0 < v) (hq : q.place? = some (.at v)) {divisor : ℕ}
    (hpos : 0 < divisor) (unit : String) {text : String} :
    (do return withUnit (← q.perNat divisor).twoPlaces unit : Except Failure String) = .ok text ↔
      ∃ u, roundedPlace (v / divisor) = .at u ∧
        text = withUnit (Binary64.hundredthsText (nearestHundredths u)) unit := by
  obtain ⟨y, hsign, hplace, hok⟩ := Quantity.exists_perNat hv hq hpos
  have hquotient : 0 ≤ v / divisor := div_nonneg hv.le (by positivity)
  have htext {u : ℚ} (hu : roundedPlace (v / divisor) = .at u) :
      y.twoPlaces = Binary64.hundredthsText (nearestHundredths u) := by
    obtain ⟨t, ht, hzero, -⟩ := exists_roundedPlace_of_le hquotient le_rfl hu
    obtain rfl : t = u := Place.at.inj (ht.symm.trans hu)
    exact Binary64.twoPlaces_of_place? hsign hzero (hplace.trans (congrArg some hu))
  rw [bind_eq_ok]
  constructor
  · rintro ⟨z, hz, htextz⟩
    obtain ⟨hfinite, rfl⟩ := (hok z).mp hz
    obtain ⟨u, hu⟩ := Binary64.isFinite_iff.mp hfinite
    have hrounded : roundedPlace (v / divisor) = .at u := Option.some.inj (hplace.symm.trans hu)
    exact ⟨u, hrounded, by rw [← htext hrounded]; exact (Except.ok.inj htextz).symm⟩
  · rintro ⟨u, hu, rfl⟩
    have hfinite : y.isFinite = true :=
      Binary64.isFinite_iff.mpr ⟨u, hplace.trans (congrArg some hu)⟩
    exact ⟨y, (hok y).mpr ⟨hfinite, rfl⟩, by rw [htext hu]; rfl⟩

/-- The whole part of a positive amount below a kilobyte has a text. -/
theorem written_truncate (hv : 0 < v) (hq : q.place? = some (.at v)) (hlt : v < 1024) :
    (do return withUnit (← (Quantity.int (← q.truncate)).written) "B" : Except Failure String) =
      (do return withUnit (integerText (← q.truncate)) "B") := by
  obtain ⟨n, hle, hwhole⟩ := Quantity.exists_truncate hv hq
  have hsmall : n < 10 ^ 4 := by
    have : (n : ℚ) < 1024 := hle.trans_lt hlt
    have : n < 1024 := by exact_mod_cast this
    omega
  have hlength : (digits n).length ≤ maxDigits :=
    ((length_digits_le_iff (by decide)).mpr hsmall).trans (by decide)
  have hwritten : (Quantity.int n).written = .ok (integerText n) :=
    Quantity.written_eq_ok.mpr ⟨decide_eq_true hlength, rfl⟩
  rw [hwhole]
  change (do return withUnit (← (Quantity.int n).written) "B" : Except Failure String) = _
  rw [hwritten]
  rfl

/-- The unit of a positive amount of memory is chosen by the amount. -/
theorem memory_of_pos (hv : 0 < v) (hq : q.place? = some (.at v)) :
    memory (.number q) =
      if v < 1024 then do return withUnit (integerText (← q.truncate)) "B"
      else if v < 1048576 then do return withUnit (← q.perNat 1024).twoPlaces "KB"
      else do return withUnit (← q.perNat 1048576).twoPlaces "MB" := by
  have hgiven := Quantity.isGiven_of_pos hv hq
  have hgivenJson : (Json.number q).isGiven = true := hgiven
  by_cases hbytes : v < 1024
  · rw [if_pos hbytes, ← written_truncate hv hq hbytes]
    simp [memory, bytes, hgiven, hgivenJson, Quantity.lt_int_eq_decide hq, hbytes]
  · simp [memory, bytes, hgiven, hgivenJson, Quantity.lt_int_eq_decide hq, hbytes]

end Readout

end OrderOfGrowth

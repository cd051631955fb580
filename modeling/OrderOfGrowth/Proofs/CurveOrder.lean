import Mathlib.Data.Nat.Factorial.Basic
import OrderOfGrowth.Curve
import OrderOfGrowth.Proofs.QuantityOrder
import OrderOfGrowth.Proofs.Success

/-!
# Displayed curves rise

The values of a curve never fall while its class counts by a formula, and a class that has
reached its fixed value stays there. What is left is the step from the formula to that value.
The factorial class takes it from below, and no ceiling can turn it around. The exponential class
passes the fixed value at its last formula, so a curve that is long enough falls back, and it shows
under every ceiling above the fixed value.
-/

namespace OrderOfGrowth

/-- The points stand in the order of their sizes, and none is lower than one before it. -/
def NeverFalls (points : List Point) : Prop :=
  points.Pairwise fun p q => p.x < q.x ∧ p.y.le q.y = true

instance (points : List Point) : Decidable (NeverFalls points) :=
  inferInstanceAs (Decidable (points.Pairwise fun p q => p.x < q.x ∧ p.y.le q.y = true))

/-- The logarithm to base two does not fall on the positive sizes below `size`. -/
def LogarithmRises (size : ℤ) : Prop :=
  ∀ m n : ℕ, 0 < m → m ≤ n → n < size →
    (Quantity.float (logTwoNat m)).le (.float (logTwoNat n)) = true

instance (size : ℤ) : Decidable (LogarithmRises size) :=
  decidable_of_iff (∀ n < size.toNat, ∀ m ≤ n, 0 < m →
      (Quantity.float (logTwoNat m)).le (.float (logTwoNat n)) = true) <| by
    unfold LogarithmRises
    constructor
    · intro h m n hpos hmn hn
      exact h n (by omega) m hmn hpos
    · intro h n hn m hmn hpos
      exact h m n hpos hmn (by omega)

/-- The product up to a number is its factorial. -/
theorem productUpTo_eq_factorial (n : ℕ) : productUpTo n = n.factorial := by
  induction n with
  | zero => rfl
  | succ n ih => rw [productUpTo, ih, Nat.factorial_succ]

namespace ComplexityClass

variable {m n : ℕ} {size : ℤ} {x y : Binary64}

/-- A tenth of the square as a quotient of natural numbers. -/
theorem operations_quadratic (n : ℕ) :
    operations .quadratic n = Binary64.ofIntQuotient (n * n : ℕ) 10 := rfl

/-- A hundredth of the cube as a quotient of natural numbers. -/
theorem operations_cubic (n : ℕ) :
    operations .cubic n = Binary64.ofIntQuotient (n * n * n : ℕ) 100 := rfl

/-- Below the fixed value the exponential class counts a tenth of a power of two. -/
theorem operations_exponential (h : n < 15) :
    operations .exponential n = Binary64.ofIntQuotient (2 ^ n : ℕ) 10 :=
  if_pos (by exact_mod_cast h)

/-- The last count of the exponential class below the fixed value is 1638.4. -/
theorem operations_exponential_last :
    operations .exponential (14 : ℕ) = .ok (Binary64.ofQuotient false 16384 10) := rfl

/-- The fixed value lies at one thousand. -/
theorem place?_saturation : (Quantity.float saturation).place? = (Quantity.int 1000).place? := by
  decide

/-- From 15 on the exponential class stands for the fixed value. -/
theorem operations_exponential_of_le (h : 15 ≤ n) : operations .exponential n = .ok saturation :=
  if_neg (by exact_mod_cast h.not_gt)

/-- Below the fixed value the factorial class counts a tenth of a factorial. -/
theorem operations_factorial (h : n < 6) :
    operations .factorial n = Binary64.ofIntQuotient (n.factorial : ℕ) 10 := by
  rw [operations, if_neg (Int.not_lt.mpr n.cast_nonneg), if_pos (by exact_mod_cast h),
    Int.toNat_natCast, productUpTo_eq_factorial]

/-- From 6 on the factorial class stands for the fixed value. -/
theorem operations_factorial_of_le (h : 6 ≤ n) : operations .factorial n = .ok saturation := by
  rw [operations, if_neg (Int.not_lt.mpr n.cast_nonneg), if_neg (by exact_mod_cast h.not_gt)]

/-- The count of the logarithmic class at a positive size. -/
theorem operations_logarithmic (hpos : 0 < n) :
    operations .logarithmic n = .ok ((logTwoNat n).mul (Binary64.round 10)) := by
  rw [operations, if_pos (by exact_mod_cast hpos), Int.toNat_natCast]

/-- The count of the linearithmic class at a positive size, which must have a double. -/
theorem operations_linearithmic_eq_ok (hpos : 0 < n) :
    operations .linearithmic n = .ok x ↔
      ∃ y, Binary64.ofInt n = .ok y ∧ (y.mul (logTwoNat n)).divNat 10 = x := by
  rw [operations, if_pos (by exact_mod_cast hpos), Int.toNat_natCast]
  cases Binary64.ofInt n <;> simp [bind, Except.bind, pure, Except.pure]

/-- The logarithm of a positive size is not negative. -/
theorem zero_le_logTwoNat (hlog : LogarithmRises size) (hpos : 0 < n) (hn : n < size) :
    (Quantity.int 0).le (.float (logTwoNat n)) = true := by
  have hone : (Quantity.int 0).le (.float (logTwoNat 1)) = true := by decide +kernel
  exact Quantity.le_trans hone (hlog 1 n Nat.one_pos hpos hn)

/-- The double of a positive size is finite and at least one. -/
theorem one_le_ofInt (hpos : 0 < n) (hx : Binary64.ofInt n = .ok x) :
    (Quantity.int 1).le (.float x) = true ∧ x.isFinite = true := by
  have hvalue : Binary64.ofInt (1 : ℕ) = .ok (Binary64.ofQuotient false 1 1) :=
    Binary64.ofInt_natCast_eq_ok.mpr ⟨by decide, rfl⟩
  have hone : (Quantity.int 1).le (.float (Binary64.ofQuotient false 1 1)) = true := by decide
  obtain ⟨y, hy, hle⟩ := Binary64.ofInt_of_le hpos hx
  obtain rfl := Except.ok.inj (hy.symm.trans hvalue)
  obtain ⟨hfinite, rfl⟩ := Binary64.ofInt_natCast_eq_ok.mp hx
  exact ⟨Quantity.le_trans hone hle, hfinite⟩

/-- The count of the logarithmic class is not negative. -/
theorem zero_le_logarithmic (hlog : LogarithmRises size) (hn : n < size)
    (hx : operations .logarithmic n = .ok x) : (Quantity.int 0).le (.float x) = true := by
  have hten : (Quantity.int 1).le (.float (Binary64.round 10)) = true := by decide
  rcases Nat.eq_zero_or_pos n with rfl | hpos
  · obtain rfl : Binary64.zero = x := Except.ok.inj hx
    exact Binary64.zero_le_zero
  · obtain rfl := Except.ok.inj ((operations_logarithmic hpos).symm.trans hx)
    exact Binary64.zero_le_mul (zero_le_logTwoNat hlog hpos hn) hten (by decide)

/-- The count of the linearithmic class is not negative. -/
theorem zero_le_linearithmic (hlog : LogarithmRises size) (hn : n < size)
    (hx : operations .linearithmic n = .ok x) : (Quantity.int 0).le (.float x) = true := by
  rcases Nat.eq_zero_or_pos n with rfl | hpos
  · obtain rfl : Binary64.zero = x := Except.ok.inj hx
    exact Binary64.zero_le_zero
  · obtain ⟨y, hy, rfl⟩ := (operations_linearithmic_eq_ok hpos).mp hx
    obtain ⟨hone, hfinite⟩ := one_le_ofInt hpos hy
    rw [Binary64.mul_comm]
    exact Binary64.zero_le_divNat 10
      (Binary64.zero_le_mul (zero_le_logTwoNat hlog hpos hn) hone hfinite)

/-- The logarithmic class rises. -/
theorem logarithmic_of_le (hlog : LogarithmRises size) (hn : n < size) (h : m ≤ n)
    (hy : operations .logarithmic n = .ok y) :
    ∃ x, operations .logarithmic m = .ok x ∧ (Quantity.float x).le (.float y) = true := by
  have hten : (Quantity.int 1).le (.float (Binary64.round 10)) = true := by decide
  rcases Nat.eq_zero_or_pos m with rfl | hm
  · exact ⟨.zero, rfl, Quantity.le_trans Binary64.zero_le_int (zero_le_logarithmic hlog hn hy)⟩
  · have hmsize : (m : ℤ) < size := lt_of_le_of_lt (by exact_mod_cast h) hn
    obtain rfl := Except.ok.inj ((operations_logarithmic (hm.trans_le h)).symm.trans hy)
    exact ⟨_, operations_logarithmic hm, Binary64.mul_le_mul (zero_le_logTwoNat hlog hm hmsize)
      (hlog m n hm h hn) hten (by decide) (by decide)⟩

/-- The linearithmic class rises, and it has a value at every size below one where it has. -/
theorem linearithmic_of_le (hlog : LogarithmRises size) (hn : n < size) (h : m ≤ n)
    (hy : operations .linearithmic n = .ok y) :
    ∃ x, operations .linearithmic m = .ok x ∧ (Quantity.float x).le (.float y) = true := by
  rcases Nat.eq_zero_or_pos m with rfl | hm
  · exact ⟨.zero, rfl, Quantity.le_trans Binary64.zero_le_int (zero_le_linearithmic hlog hn hy)⟩
  · have hmsize : (m : ℤ) < size := lt_of_le_of_lt (by exact_mod_cast h) hn
    have hmlog := zero_le_logTwoNat hlog hm hmsize
    obtain ⟨w, hw, rfl⟩ := (operations_linearithmic_eq_ok (hm.trans_le h)).mp hy
    obtain ⟨v, hv, hvw⟩ := Binary64.ofInt_of_le h hw
    obtain ⟨hvone, hvfinite⟩ := one_le_ofInt hm hv
    obtain ⟨-, hwfinite⟩ := one_le_ofInt (hm.trans_le h) hw
    refine ⟨_, (operations_linearithmic_eq_ok hm).mpr ⟨v, hv, rfl⟩, ?_⟩
    rw [Binary64.mul_comm v, Binary64.mul_comm w]
    exact Binary64.divNat_le_divNat 10 (Binary64.zero_le_mul hmlog hvone hvfinite)
      (Binary64.mul_le_mul hmlog (hlog m n hm h hn) hvone hvw hwfinite)

/-- The quadratic class rises, and it has a value at every size below one where it has. -/
theorem quadratic_of_le (h : m ≤ n) (hy : operations .quadratic n = .ok y) :
    ∃ x, operations .quadratic m = .ok x ∧ (Quantity.float x).le (.float y) = true := by
  rw [operations_quadratic] at hy ⊢
  exact Binary64.ofIntQuotient_of_le (by decide) (Nat.mul_le_mul h h) hy

/-- The cubic class rises, and it has a value at every size below one where it has. -/
theorem cubic_of_le (h : m ≤ n) (hy : operations .cubic n = .ok y) :
    ∃ x, operations .cubic m = .ok x ∧ (Quantity.float x).le (.float y) = true := by
  rw [operations_cubic] at hy ⊢
  exact Binary64.ofIntQuotient_of_le (by decide) (Nat.mul_le_mul (Nat.mul_le_mul h h) h) hy

/-- The exponential class rises as long as it stays on one side of the step to the fixed value. -/
theorem exponential_of_le (h : m ≤ n) (hside : n < 15 ∨ 15 ≤ m)
    (hy : operations .exponential n = .ok y) :
    ∃ x, operations .exponential m = .ok x ∧ (Quantity.float x).le (.float y) = true := by
  rcases hside with hside | hside
  · rw [operations_exponential hside] at hy
    rw [operations_exponential (h.trans_lt hside)]
    exact Binary64.ofIntQuotient_of_le (by decide) (Nat.pow_le_pow_right (by decide) h) hy
  · rw [operations_exponential_of_le (hside.trans h)] at hy
    obtain rfl := Except.ok.inj hy
    exact ⟨_, operations_exponential_of_le hside, by decide⟩

/-- Before it stands for the fixed value, the exponential class counts up to 1638.4. -/
theorem exponential_le_last (h : n < 15) :
    ∃ x, operations .exponential n = .ok x ∧
      (Quantity.float x).le (.float (Binary64.ofQuotient false 16384 10)) = true :=
  exponential_of_le (Nat.le_of_lt_succ h) (.inl (by decide)) operations_exponential_last

/-- Under a ceiling above one thousand the last count of the exponential class is above its fixed
value. -/
theorem exponential_falls {ceiling : Quantity} (hceiling : (Quantity.int 1000).lt ceiling = true) :
    (Quantity.cap (.float (Binary64.ofQuotient false 16384 10)) ceiling).le
      (Quantity.cap (.float saturation) ceiling) = false := by
  have hstep : (Quantity.float saturation).lt (.float (Binary64.ofQuotient false 16384 10)) =
      true := by decide
  refine Quantity.not_cap_le_cap_of_lt hstep ?_
  rwa [Quantity.lt, place?_saturation]

/-- Under any other ceiling no count of the exponential class is above its fixed value. -/
theorem exponential_cap_le {ceiling : Quantity} (hplace : ceiling.place? ≠ none)
    (hceiling : (Quantity.int 1000).lt ceiling = false) (h : n < 15)
    (hx : operations .exponential n = .ok x) :
    (Quantity.cap (.float x) ceiling).le (Quantity.cap (.float saturation) ceiling) = true := by
  obtain ⟨x', hx', hle⟩ := exponential_le_last h
  obtain rfl := Except.ok.inj (hx.symm.trans hx')
  refine Quantity.cap_le_cap_of_le (Quantity.place?_ne_none_of_le hle) ?_
  rw [Quantity.le, place?_saturation]
  exact Quantity.le_of_not_lt (by decide) hplace hceiling

/-- The factorial class rises, also where it steps to the fixed value: the last factorial before
the step is smaller. -/
theorem factorial_of_le (h : m ≤ n) (hy : operations .factorial n = .ok y) :
    ∃ x, operations .factorial m = .ok x ∧ (Quantity.float x).le (.float y) = true := by
  rcases lt_or_ge n 6 with hn | hn
  · rw [operations_factorial hn] at hy
    rw [operations_factorial (h.trans_lt hn)]
    exact Binary64.ofIntQuotient_of_le (by decide) (Nat.factorial_le h) hy
  rw [operations_factorial_of_le hn] at hy
  obtain rfl := Except.ok.inj hy
  rcases lt_or_ge m 6 with hm | hm
  · have hstep : Binary64.ofIntQuotient (10000 : ℕ) 10 = .ok saturation := rfl
    have hfactorial : m.factorial ≤ 10000 := calc
      m.factorial ≤ Nat.factorial 5 := Nat.factorial_le (Nat.le_of_lt_succ hm)
      _ ≤ 10000 := by decide
    rw [operations_factorial hm]
    exact Binary64.ofIntQuotient_of_le (by decide) hfactorial hstep
  · exact ⟨_, operations_factorial_of_le hm, by decide⟩

/-- A class rises with the size, unless it is the exponential one and steps to its fixed value
between the two sizes. -/
theorem operations_of_le {c : ComplexityClass} (hlog : LogarithmRises size) (hn : n < size)
    (h : m ≤ n) (hside : c = .exponential → n < 15 ∨ 15 ≤ m) (hy : c.operations n = .ok y) :
    ∃ x, c.operations m = .ok x ∧ (Quantity.float x).le (.float y) = true := by
  cases c with
  | constant =>
    obtain rfl : Binary64.one = y := Except.ok.inj hy
    exact ⟨.one, rfl, by decide⟩
  | logarithmic => exact logarithmic_of_le hlog hn h hy
  | linear => exact Binary64.ofInt_of_le h hy
  | linearithmic => exact linearithmic_of_le hlog hn h hy
  | quadratic => exact quadratic_of_le h hy
  | cubic => exact cubic_of_le h hy
  | exponential => exact exponential_of_le h (hside rfl) hy
  | factorial => exact factorial_of_le h hy

/-- The powers of a size up to two to the 256, as far as the cube, and their parts are within
range. -/
theorem isFinite_ofQuotient_pow (hn : n ≤ 2 ^ 256) {k divisor : ℕ} (hk : k ≤ 3)
    (hpos : 0 < divisor) : (Binary64.ofQuotient false (n ^ k) divisor).isFinite = true := by
  have hlargest : (Binary64.ofQuotient false ((2 ^ 256) ^ 3) 1).isFinite = true := by
    decide +kernel
  have hpower : n ^ k ≤ (2 ^ 256) ^ 3 :=
    (Nat.pow_le_pow_left hn k).trans (Nat.pow_le_pow_right (by decide) hk)
  refine Binary64.isFinite_ofQuotient_of_le hpos Nat.one_pos ?_ hlargest
  exact div_le_div₀ (by positivity) (by exact_mod_cast hpower) (by norm_num)
    (by exact_mod_cast hpos)

/-- Every class has a value at sizes up to two to the 256. -/
theorem exists_operations (c : ComplexityClass) (hn : n ≤ 2 ^ 256) :
    ∃ x, c.operations n = .ok x := by
  have hsize : Binary64.ofInt n = .ok (Binary64.ofQuotient false n 1) := by
    have hfinite := isFinite_ofQuotient_pow hn (k := 1) (by decide) Nat.one_pos
    rw [pow_one] at hfinite
    exact Binary64.ofInt_natCast_eq_ok.mpr ⟨hfinite, rfl⟩
  cases c with
  | constant => exact ⟨_, rfl⟩
  | logarithmic => exact ⟨_, rfl⟩
  | linear => exact ⟨_, hsize⟩
  | linearithmic =>
    rcases Nat.eq_zero_or_pos n with rfl | hpos
    · exact ⟨_, rfl⟩
    · exact ⟨_, (operations_linearithmic_eq_ok hpos).mpr ⟨_, hsize, rfl⟩⟩
  | quadratic =>
    have hsquare : (Binary64.ofQuotient false (n * n) 10).isFinite = true := by
      rw [← pow_two]
      exact isFinite_ofQuotient_pow hn (by decide) (by decide)
    exact ⟨_, (operations_quadratic n).trans
      (Binary64.ofIntQuotient_natCast_eq_ok.mpr ⟨hsquare, rfl⟩)⟩
  | cubic =>
    have hcube : (Binary64.ofQuotient false (n * n * n) 100).isFinite = true := by
      rw [← pow_two, ← pow_succ]
      exact isFinite_ofQuotient_pow hn le_rfl (by decide)
    exact ⟨_, (operations_cubic n).trans
      (Binary64.ofIntQuotient_natCast_eq_ok.mpr ⟨hcube, rfl⟩)⟩
  | exponential =>
    rcases lt_or_ge n 15 with hstep | hstep
    · obtain ⟨x, hx, -⟩ := exponential_le_last hstep
      exact ⟨x, hx⟩
    · exact ⟨_, operations_exponential_of_le hstep⟩
  | factorial =>
    obtain ⟨x, hx, -⟩ :=
      factorial_of_le (Nat.le_add_right n 6) (operations_factorial_of_le (Nat.le_add_left 6 n))
    exact ⟨x, hx⟩

end ComplexityClass

namespace Curve

variable {c : ComplexityClass} {size : ℤ} {curve : Curve} {ceiling : Quantity}

/-- The point of a class that has a count at a size. -/
theorem pointAt_eq_ok {n : ℕ} {p : Point} :
    pointAt c n = .ok p ↔ ∃ y, c.operations n = .ok y ∧ ⟨n, .float y⟩ = p := by
  unfold pointAt
  cases c.operations n <;> simp [Except.map]

/-- A curve of a class has one point for every size below its own, with the count of the class. -/
theorem points_of_ofClass (h : ofClass c size = .ok curve) :
    curve.points.length = size.toNat ∧ ∀ n (hn : n < curve.points.length),
      ∃ y, c.operations n = .ok y ∧ curve.points[n] = ⟨n, .float y⟩ := by
  unfold ofClass at h
  cases hpoints : (List.range size.toNat).mapM (pointAt c) with
  | error failure => simp [hpoints, Except.map] at h
  | ok points =>
    obtain rfl : ⟨c, size, points⟩ = curve := by simpa [hpoints, Except.map] using h
    obtain ⟨hlength, hget⟩ := List.forall₂_iff_get.mp (mapM_eq_ok.mp hpoints)
    refine ⟨by simpa using hlength.symm, fun n hn => ?_⟩
    have hpoint := hget n (hlength ▸ hn) hn
    rw [List.get_eq_getElem, List.getElem_range] at hpoint
    obtain ⟨y, hy, hp⟩ := pointAt_eq_ok.mp hpoint
    exact ⟨y, hy, hp.symm⟩

/-- Every class has a curve of up to two to the 256 points. -/
theorem exists_ofClass (c : ComplexityClass) (hsize : size ≤ 2 ^ 256) :
    ∃ curve, ofClass c size = .ok curve := by
  obtain ⟨points, hpoints⟩ : ∃ points, (List.range size.toNat).mapM (pointAt c) = .ok points := by
    refine exists_mapM fun n hn => ?_
    have hn : n ≤ 2 ^ 256 := by
      have := List.mem_range.mp hn
      omega
    obtain ⟨y, hy⟩ := c.exists_operations hn
    exact ⟨_, pointAt_eq_ok.mpr ⟨y, hy, rfl⟩⟩
  exact ⟨⟨c, size, points⟩, by rw [ofClass, hpoints]; rfl⟩

/-- A displayed curve never falls if and only if the counts of its class, held under the ceiling,
rise from every size to every larger one. -/
theorem neverFalls_capped_iff_operations (h : ofClass c size = .ok curve) :
    NeverFalls (curve.capped ceiling) ↔
      ∀ m n : ℕ, m < n → n < size → ∀ x y, c.operations m = .ok x → c.operations n = .ok y →
        (Quantity.cap (.float x) ceiling).le (Quantity.cap (.float y) ceiling) = true := by
  obtain ⟨hlength, hget⟩ := points_of_ofClass h
  unfold NeverFalls capped
  rw [List.pairwise_map, List.pairwise_iff_getElem]
  constructor
  · intro hrises m n hmn hn x y hx hy
    obtain ⟨x', hx', hm⟩ := hget m (by omega)
    obtain ⟨y', hy', hn⟩ := hget n (by omega)
    obtain rfl := Except.ok.inj (hx.symm.trans hx')
    obtain rfl := Except.ok.inj (hy.symm.trans hy')
    have := (hrises m n (by omega) (by omega) hmn).2
    rwa [hm, hn] at this
  · intro hrises m n hm hn hmn
    obtain ⟨x, hx, hm'⟩ := hget m hm
    obtain ⟨y, hy, hn'⟩ := hget n hn
    rw [hm', hn']
    exact ⟨Int.ofNat_lt.mpr hmn, hrises m n hmn (by omega) x y hx hy⟩

/-- Under any ceiling a displayed curve rises, with one exception: the exponential curve falls from
size 14 to size 15 if it has both and the ceiling is above one thousand. Curves of up to two to the
256 points all exist; longer ones may have values that are no doubles. -/
theorem neverFalls_capped_iff (hceiling : ceiling.place? ≠ none) (hlog : LogarithmRises size) :
    (size ≤ 2 ^ 256 → ∃ curve, ofClass c size = .ok curve) ∧
      ∀ curve, ofClass c size = .ok curve →
        (NeverFalls (curve.capped ceiling) ↔
          ¬ (c = .exponential ∧ 15 < size ∧ (Quantity.int 1000).lt ceiling = true)) := by
  refine ⟨exists_ofClass c, fun curve h => ?_⟩
  rw [neverFalls_capped_iff_operations h]
  constructor
  · rintro hrises ⟨rfl, hsize, habove⟩
    have hle := hrises 14 15 (by decide) hsize _ _ ComplexityClass.operations_exponential_last
      (ComplexityClass.operations_exponential_of_le le_rfl)
    rw [ComplexityClass.exponential_falls habove] at hle
    exact Bool.false_ne_true hle
  · intro hexception m n hmn hn x y hx hy
    by_cases hacross : c = .exponential ∧ m < 15 ∧ 15 ≤ n
    · -- The ceiling is at most the fixed value, which the larger size has reached.
      obtain ⟨rfl, hbefore, hreached⟩ := hacross
      obtain rfl := Except.ok.inj
        ((ComplexityClass.operations_exponential_of_le hreached).symm.trans hy)
      have hlow : (Quantity.int 1000).lt ceiling = false :=
        Bool.eq_false_iff.mpr fun habove => hexception ⟨rfl, by omega, habove⟩
      exact ComplexityClass.exponential_cap_le hceiling hlow hbefore hx
    · have hside : c = .exponential → n < 15 ∨ 15 ≤ m := by
        intro hc
        by_contra hboth
        exact hacross ⟨hc, by omega, by omega⟩
      obtain ⟨x', hx', hle⟩ := c.operations_of_le hlog hn hmn.le hside hy
      obtain rfl := Except.ok.inj (hx.symm.trans hx')
      exact Quantity.cap_le_cap hceiling hle

/-- The first twelve points of the linearithmic curve rise under a ceiling of three. -/
theorem neverFalls_capped_iff_linearithmic :
    ((Quantity.int 3).place? ≠ none ∧ LogarithmRises 12) ∧
      ∃ curve, ofClass .linearithmic 12 = .ok curve ∧ NeverFalls (curve.capped (.int 3)) := by
  have hceiling : (Quantity.int 3).place? ≠ none := by decide
  have hlog : LogarithmRises 12 := by decide +kernel
  obtain ⟨hexists, hrises⟩ := neverFalls_capped_iff (c := .linearithmic) hceiling hlog
  obtain ⟨curve, hcurve⟩ := hexists (by decide)
  exact ⟨⟨hceiling, hlog⟩, curve, hcurve, (hrises curve hcurve).mpr fun h => nomatch h.1⟩

/-- The exponential curve falls under a ceiling of two thousand. -/
theorem exists_exponential_capped_falls :
    ∃ curve, ofClass .exponential 16 = .ok curve ∧ ¬ NeverFalls (curve.capped (.int 2000)) := by
  have hfalls : (match ofClass .exponential 16 with
      | .ok curve => decide (NeverFalls (curve.capped (.int 2000)))
      | .error _ => true) = false := by decide +kernel
  cases hcurve : ofClass .exponential 16 with
  | error failure => simp [hcurve] at hfalls
  | ok curve => exact ⟨curve, rfl, by simpa [hcurve] using hfalls⟩

end Curve

end OrderOfGrowth

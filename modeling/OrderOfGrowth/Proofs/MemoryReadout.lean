import OrderOfGrowth.Proofs.Hundredths

/-!
# Amounts of memory are shown faithfully

An amount of memory is shown in bytes, kilobytes or megabytes, and the text is read back as a number
of units. The three ranges of amounts meet where a unit is full: what is shown below such an amount
is at most the full unit, and what is shown from it on is at least that. So the larger amount is not
shown as less. Up to two to the 53 the only loss is that of the two places, as the quotient by
a unit fits into a double.
-/

namespace OrderOfGrowth.Readout

/-- How many bytes the units have. -/
def memoryUnits : Keyed ℕ := [("B", 1), ("KB", 1024), ("MB", 1048576)]

/-- An amount of memory as it is shown: a number of units, and how many bytes a unit has. -/
structure MemoryShown where
  number : ℚ
  unitSize : ℕ

/-- How many bytes are shown. -/
def MemoryShown.bytes (shown : MemoryShown) : ℚ := shown.number * shown.unitSize

/-- Reads an amount of memory. What is not available counts as no bytes. -/
def memoryShown? (text : String) : Option MemoryShown :=
  if text = notAvailable then some ⟨0, 1⟩
  else (shown? text).bind fun shown =>
    (memoryUnits.lookup shown.unit).map fun size => ⟨shown.number, size⟩

/-- A number with a unit of memory is read back as a number of bytes. -/
theorem memoryShown?_of_shown? {text : String} {number : ℚ} {unit : String} {size : ℕ}
    (htext : shown? text = some ⟨number, unit⟩) (hunit : memoryUnits.lookup unit = some size) :
    memoryShown? text = some ⟨number, size⟩ := by
  have havailable : text ≠ notAvailable := by
    rintro rfl
    have hnone : shown? notAvailable = none := rfl
    rw [hnone] at htext
    cases htext
  rw [memoryShown?, if_neg havailable, htext]
  simp [hunit]

/-- What is shown of a whole number of bytes: the number itself below the first unit, and from
there on the hundredths of the rounded quotient by the unit. -/
inductive ShowsAmount (a : ℕ) : MemoryShown → Prop
  | bytes (hhigh : a < 1024) : ShowsAmount a ⟨a, 1⟩
  | kilobytes (hlow : 1024 ≤ a) (hhigh : a < 1048576) {u : ℚ}
      (hu : roundedPlace (a / 1024) = .at u) : ShowsAmount a ⟨nearestHundredths u / 100, 1024⟩
  | megabytes (hlow : 1048576 ≤ a) {u : ℚ}
      (hu : roundedPlace (a / 1048576) = .at u) : ShowsAmount a ⟨nearestHundredths u / 100, 1048576⟩

variable {a b : ℕ} {shown other : MemoryShown}

/-- Every amount that has a double is shown, and the text is read back as what is shown of it. -/
theorem exists_showsAmount {u : ℚ} (ha : roundedPlace a = .at u) :
    ∃ text shown, memory (.int a) = .ok text ∧ memoryShown? text = some shown ∧
      ShowsAmount a shown := by
  rcases Nat.eq_zero_or_pos a with rfl | hpos
  · exact ⟨notAvailable, ⟨(0 : ℕ), 1⟩, rfl, rfl, .bytes (by decide)⟩
  have hv : (0 : ℚ) < a := by exact_mod_cast hpos
  have hq : (Quantity.int a).place? = some (.at (a : ℚ)) := by
    rw [Quantity.place?, Int.cast_natCast]
  have hmemory : memory (.int a) = _ := memory_of_pos hv hq
  have hquotient (size : ℕ) (hsize : 0 < size) (unit : String) : ∃ t,
      roundedPlace (a / size) = .at t ∧
      (do return withUnit (← (Quantity.int a).perNat size).twoPlaces unit : Except Failure String) =
        .ok (withUnit (Binary64.hundredthsText (nearestHundredths t)) unit) := by
    have hone : (1 : ℚ) ≤ size := by exact_mod_cast hsize
    obtain ⟨t, ht, -, -⟩ := exists_roundedPlace_of_le (div_nonneg hv.le (zero_le_one.trans hone))
      (div_le_self hv.le hone) ha
    exact ⟨t, ht, (perNat_shown_iff hv hq hsize unit).mpr ⟨t, ht, rfl⟩⟩
  rw [hmemory]
  split_ifs with hbytes hkilobytes
  · exact ⟨withUnit (digits a) "B", ⟨a, 1⟩, rfl,
      memoryShown?_of_shown? (shown?_digits a "B") rfl, .bytes (by exact_mod_cast hbytes)⟩
  · obtain ⟨t, ht, htext⟩ := hquotient 1024 (by decide) "KB"
    exact ⟨_, ⟨nearestHundredths t / 100, 1024⟩, htext,
      memoryShown?_of_shown? (shown?_hundredthsText _ "KB") rfl,
      .kilobytes (by exact_mod_cast not_lt.mp hbytes) (by exact_mod_cast hkilobytes) ht⟩
  · obtain ⟨t, ht, htext⟩ := hquotient 1048576 (by decide) "MB"
    exact ⟨_, ⟨nearestHundredths t / 100, 1048576⟩, htext,
      memoryShown?_of_shown? (shown?_hundredthsText _ "MB") rfl,
      .megabytes (by exact_mod_cast not_lt.mp hkilobytes) ht⟩

namespace ShowsAmount

/-- An amount from a full unit on is shown as at least that. -/
theorem le_bytes (h : ShowsAmount a shown) {size : ℕ} (hsize : size = 1024 ∨ size = 1048576)
    (hle : size ≤ a) : (size : ℚ) ≤ shown.bytes := by
  cases h with
  | bytes hhigh => omega
  | kilobytes hlow hhigh hu =>
    obtain rfl : size = 1024 := by omega
    have hone : ((1 : ℕ) : ℚ) ≤ a / 1024 := by
      rw [le_div_iff₀ (by norm_num)]
      exact_mod_cast hlow
    have hnumber := natCast_le_hundredths (by decide) hone hu
    rw [MemoryShown.bytes]
    push_cast at hnumber ⊢
    linarith
  | megabytes hlow hu =>
    have hone : ((1 : ℕ) : ℚ) ≤ a / 1048576 := by
      rw [le_div_iff₀ (by norm_num)]
      exact_mod_cast hlow
    have hnumber := natCast_le_hundredths (by decide) hone hu
    have hlargest : (size : ℚ) ≤ 1048576 := by exact_mod_cast (by omega : size ≤ 1048576)
    rw [MemoryShown.bytes]
    push_cast at hnumber ⊢
    linarith

/-- An amount below a full unit is shown as at most that. -/
theorem bytes_le_of_lt (h : ShowsAmount a shown) {size : ℕ}
    (hsize : size = 1024 ∨ size = 1048576) (hlt : a < size) : shown.bytes ≤ size := by
  cases h with
  | bytes hhigh =>
    have hcast : (a : ℚ) ≤ size := by exact_mod_cast hlt.le
    simpa [MemoryShown.bytes] using hcast
  | kilobytes hlow hhigh hu =>
    obtain rfl : size = 1048576 := by omega
    have hfull : (a : ℚ) / 1024 ≤ (1024 : ℕ) := by
      rw [div_le_iff₀ (by norm_num)]
      exact_mod_cast hhigh.le
    have hnumber := hundredths_le_natCast (by decide) (by positivity) hfull hu
    rw [MemoryShown.bytes]
    push_cast at hnumber ⊢
    linarith
  | megabytes hlow hu => omega

/-- Of two amounts in the same unit the larger one is not shown as less. -/
theorem bytes_le_of_same_unit (hab : a ≤ b) {size : ℕ} {u w : ℚ}
    (hu : roundedPlace (a / size) = .at u) (hw : roundedPlace (b / size) = .at w) :
    MemoryShown.bytes ⟨nearestHundredths u / 100, size⟩ ≤
      MemoryShown.bytes ⟨nearestHundredths w / 100, size⟩ := by
  have hquotient : (a : ℚ) / size ≤ b / size := by gcongr
  have hnumber := nearestHundredths_le_of_rounded (by positivity) hquotient hu hw
  dsimp only [MemoryShown.bytes]
  gcongr

/-- The larger amount is not shown as less. -/
theorem bytes_le (hab : a ≤ b) (ha : ShowsAmount a shown) (hb : ShowsAmount b other) :
    shown.bytes ≤ other.bytes := by
  -- if a full unit lies between the amounts, then it lies between what is shown of them
  by_cases hunit : ∃ size, (size = 1024 ∨ size = 1048576) ∧ a < size ∧ size ≤ b
  · obtain ⟨size, hsize, hlt, hle⟩ := hunit
    exact (ha.bytes_le_of_lt hsize hlt).trans (hb.le_bytes hsize hle)
  have hsame {size : ℕ} (hsize : size = 1024 ∨ size = 1048576) : a < size ↔ b < size :=
    ⟨fun hlt => by_contra fun hle => hunit ⟨size, hsize, hlt, not_lt.mp hle⟩, hab.trans_lt⟩
  have hkilobyte := hsame (.inl rfl)
  have hmegabyte := hsame (.inr rfl)
  cases ha with
  | bytes hhigh =>
    cases hb with
    | bytes => simpa [MemoryShown.bytes] using hab
    | kilobytes => omega
    | megabytes => omega
  | kilobytes hlow hhigh hu =>
    cases hb with
    | bytes => omega
    | kilobytes _ _ hw => exact bytes_le_of_same_unit hab hu hw
    | megabytes => omega
  | megabytes hlow hu =>
    cases hb with
    | bytes => omega
    | kilobytes => omega
    | megabytes _ hw => exact bytes_le_of_same_unit hab hu hw

/-- A number of units that is a natural number divided by a power of two has an exact double, so
what is shown is at most one half of a hundredth of the unit away from the amount. -/
theorem near_of_unit (ha : a < 2 ^ 53) (hpos : 1 ≤ a) {k : ℕ} (hk : k ≤ 1000) {u : ℚ}
    (hu : roundedPlace (a / 2 ^ k) = .at u) :
    |(nearestHundredths u : ℚ) / 100 * 2 ^ k - a| ≤ 2 ^ k / 200 := by
  have hone : (1 : ℚ) ≤ a := by exact_mod_cast hpos
  have hbelow : (a : ℚ) < 2 ^ 53 := by exact_mod_cast ha
  have hexact := (FitsDouble.natCast ha).roundedPlace_div_two_pow hone hbelow hk
  obtain rfl : (a : ℚ) / 2 ^ k = u := Place.at.inj (hexact.symm.trans hu)
  have hnear := nearestHundredths_near (v := (a : ℚ) / 2 ^ k) (by positivity)
  have hsize : (0 : ℚ) < 2 ^ k := by positivity
  calc |(nearestHundredths (a / 2 ^ k) : ℚ) / 100 * 2 ^ k - a|
      = |(nearestHundredths (a / 2 ^ k) : ℚ) / 100 - a / 2 ^ k| * 2 ^ k := by
        rw [← abs_of_pos hsize, ← abs_mul, abs_of_pos hsize, sub_mul, div_mul_cancel₀ _ hsize.ne']
    _ ≤ 1 / 200 * 2 ^ k := by gcongr
    _ = 2 ^ k / 200 := by ring

/-- Up to two to the 53 what is shown is at most one half of a hundredth of the unit away from the
amount, and a number of bytes is the amount itself. -/
theorem near (ha : a < 2 ^ 53) (h : ShowsAmount a shown) :
    |shown.bytes - a| ≤ shown.unitSize / 200 ∧ (shown.unitSize = 1 → shown.bytes = a) := by
  cases h with
  | bytes hhigh =>
    have hexact : MemoryShown.bytes ⟨a, 1⟩ = a := by simp [MemoryShown.bytes]
    rw [hexact, sub_self, abs_zero]
    exact ⟨by positivity, fun _ => rfl⟩
  | kilobytes hlow hhigh hu =>
    have hnear := near_of_unit ha (by omega) (k := 10) (by decide) (by norm_num; exact hu)
    norm_num [MemoryShown.bytes] at hnear ⊢
    exact hnear
  | megabytes hlow hu =>
    have hnear := near_of_unit ha (by omega) (k := 20) (by decide) (by norm_num; exact hu)
    norm_num [MemoryShown.bytes] at hnear ⊢
    exact hnear

end ShowsAmount

/-- Amounts of memory are shown in their order, as far as they have a double, and up to two to the
53 each as closely as two places of its unit can tell, in bytes exactly. -/
theorem memory_shown_faithfully :
    (∀ (a b : ℕ) (x : Binary64), a ≤ b → Binary64.ofInt b = .ok x →
      ∃ first second shown other,
        memory (.int a) = .ok first ∧ memory (.int b) = .ok second ∧
        memoryShown? first = some shown ∧ memoryShown? second = some other ∧
        shown.bytes ≤ other.bytes) ∧
      ∀ a : ℕ, a < 2 ^ 53 → ∃ text shown,
        memory (.int a) = .ok text ∧ memoryShown? text = some shown ∧
        |shown.bytes - a| ≤ shown.unitSize / 200 ∧ (shown.unitSize = 1 → shown.bytes = a) := by
  constructor
  · intro a b x hab hx
    obtain ⟨hfinite, -⟩ := Binary64.ofInt_natCast_eq_ok.mp hx
    obtain ⟨w, hw⟩ := Binary64.isFinite_iff.mp hfinite
    rw [place?_ofQuotient_eq Nat.one_pos (by simp), Nat.cast_one, div_one] at hw
    have hb : roundedPlace b = .at w := Option.some.inj hw
    obtain ⟨u, ha, -, -⟩ := exists_roundedPlace_of_le a.cast_nonneg (Nat.cast_le.mpr hab) hb
    obtain ⟨first, shown, hfirst, hshown, hamount⟩ := exists_showsAmount ha
    obtain ⟨second, other, hsecond, hother, hlarger⟩ := exists_showsAmount hb
    exact ⟨first, second, shown, other, hfirst, hsecond, hshown, hother,
      hamount.bytes_le hab hlarger⟩
  · intro a ha
    obtain ⟨text, shown, htext, hshown, hamount⟩ := exists_showsAmount (roundedPlace_natCast ha)
    exact ⟨text, shown, htext, hshown, hamount.near ha⟩

/-- One byte below a megabyte the number of kilobytes is rounded to that of a megabyte. -/
theorem memory_shown_faithfully_megabyte :
    memory (.int 1048575) = .ok "1024.00 KB" ∧ memory (.int 1048576) = .ok "1.00 MB" ∧
      ∃ shown other, memoryShown? "1024.00 KB" = some shown ∧
        memoryShown? "1.00 MB" = some other ∧ shown.bytes ≤ other.bytes ∧
        |shown.bytes - 1048575| ≤ shown.unitSize / 200 := by
  have hbelow : memory (.int 1048575) = .ok "1024.00 KB" := by decide +kernel
  have hfull : memory (.int 1048576) = .ok "1.00 MB" := by decide +kernel
  have hdouble : Binary64.ofInt (1048576 : ℕ) = .ok (.ofQuotient false 1048576 1) := by
    decide +kernel
  obtain ⟨horder, hnear⟩ := memory_shown_faithfully
  obtain ⟨first, second, shown, other, hfirst, hsecond, hshown, hother, hle⟩ :=
    horder 1048575 1048576 _ (by decide) hdouble
  obtain ⟨text, again, htext, hagain, hclose, -⟩ := hnear 1048575 (by decide)
  obtain rfl : "1024.00 KB" = first := Except.ok.inj (hbelow.symm.trans hfirst)
  obtain rfl : "1.00 MB" = second := Except.ok.inj (hfull.symm.trans hsecond)
  obtain rfl : "1024.00 KB" = text := Except.ok.inj (hbelow.symm.trans htext)
  obtain rfl : shown = again := Option.some.inj (hshown.symm.trans hagain)
  exact ⟨hbelow, hfull, shown, other, hshown, hother, hle, by exact_mod_cast hclose⟩

end OrderOfGrowth.Readout

import OrderOfGrowth.Proofs.Hundredths

/-!
# Full units

The unit of a readout is chosen by the exact value and the number is rounded afterwards, so just
below the next unit the number can come to a full one: a running time of 999.999 milliseconds is
shown as 1000.00 ms. It never comes to more than that, and to that much only from one half of a
hundredth below the full unit on. The microseconds are a product, which is rounded as well, so their
bound lies at the double nearest to that. Bytes are counted and never come to a kilobyte.
-/

namespace OrderOfGrowth

/-- The double nearest to 0.999995. -/
theorem toRat_round_almostMillisecond :
    (Binary64.round 0.999995).toRat = (9007154218744717 + 1 : ℕ) * 2 ^ (-53 : ℤ) := by
  have hround : Binary64.round 0.999995 =
      .finite false 9007154218744718 (-53) (by decide) := by decide +kernel
  rw [hround, Binary64.toRat_finite]

/-- The thousandfold of a number with 53 places, from the double that is nearest to it. -/
theorem roundedPlace_thousandfold {significand rounded : ℕ} {exponent : ℤ}
    {h : Canonical rounded exponent}
    (hround : Binary64.ofQuotient false (significand * 1000) (2 ^ 53) =
      .finite false rounded exponent h) :
    roundedPlace (significand * 2 ^ (-53 : ℤ) * 1000) = .at (rounded * 2 ^ exponent) := by
  have hquotient : ((significand * 1000 : ℕ) : ℚ) / (2 ^ 53 : ℕ) =
      significand * 2 ^ (-53 : ℤ) * 1000 := by
    norm_num
    ring
  rw [← hquotient]
  exact roundedPlace_of_ofQuotient (by decide) hround

/-- A double that is multiplied by thousand reaches one half of a hundredth below thousand exactly
from the double nearest to 0.999995 on: the product with that double is rounded to a number above,
and the product with the double before to one below. -/
theorem thousandfold_reaches_iff {v u : ℚ} (hfits : FitsDouble v)
    (hu : roundedPlace (v * 1000) = .at u) :
    1000 - 1 / 200 ≤ u ↔ (Binary64.round 0.999995).toRat ≤ v := by
  rw [toRat_round_almostMillisecond]
  have hthousand : (0 : ℚ) ≤ 1000 := by norm_num
  constructor
  · intro hreached
    by_contra! hbelow
    have hlast := hfits.le_of_lt_next (by decide) hbelow
    have hround : roundedPlace ((9007154218744717 : ℕ) * 2 ^ (-53 : ℤ) * 1000) =
        .at ((8796049041742888 : ℕ) * 2 ^ (-43 : ℤ)) :=
      roundedPlace_thousandfold (h := by decide) (by decide +kernel)
    obtain ⟨t, ht, -, hle⟩ := exists_roundedPlace_of_le (mul_nonneg hfits.nonneg hthousand)
      (mul_le_mul_of_nonneg_right hlast hthousand) hround
    obtain rfl : t = u := Place.at.inj (ht.symm.trans hu)
    have hless : ((8796049041742888 : ℕ) : ℚ) * 2 ^ (-43 : ℤ) < 1000 - 1 / 200 := by norm_num
    exact (hle.trans_lt hless).not_ge hreached
  · intro hfrom
    have hround : roundedPlace ((9007154218744717 + 1 : ℕ) * 2 ^ (-53 : ℤ) * 1000) =
        .at ((8796049041742889 : ℕ) * 2 ^ (-43 : ℤ)) :=
      roundedPlace_thousandfold (h := by decide) (by decide +kernel)
    obtain ⟨t, ht, -, hle⟩ := exists_roundedPlace_of_le (by positivity)
      (mul_le_mul_of_nonneg_right hfrom hthousand) hu
    obtain rfl := Place.at.inj (hround.symm.trans ht)
    have hmore : (1000 : ℚ) - 1 / 200 ≤ (8796049041742889 : ℕ) * 2 ^ (-43 : ℤ) := by norm_num
    exact hmore.trans hle

namespace Quantity

variable {q : Quantity} {v : ℚ}

/-- A positive quantity below one, times thousand, lies at a positive number up to thousand, to
which the product is rounded. -/
theorem exists_place?_timesNat (hv : 0 < v) (hone : v < 1) (hq : q.place? = some (.at v)) :
    ∃ u, 0 < u ∧ u ≤ 1000 ∧ roundedPlace (v * 1000) = .at u ∧
      (q.timesNat 1000).place? = some (.at u) := by
  rcases place?_cases hv hq with ⟨n, rfl, -⟩ | ⟨x, rfl⟩
  · have hn : n < 1 := by exact_mod_cast hone
    have hpos : 0 < n := by exact_mod_cast hv
    omega
  obtain ⟨hfits, hrange⟩ := Binary64.fitsDouble_of_place? hv.le hq
  have hthousand : roundedPlace ((1000 : ℕ) : ℚ) = .at (1000 : ℕ) :=
    roundedPlace_natCast (by decide)
  obtain ⟨u, hu, -, hle⟩ := exists_roundedPlace_of_le (v := v * 1000) (by positivity)
    (by push_cast; linarith) hthousand
  -- the product is no less than the factor, so it is not rounded to zero
  obtain ⟨t, ht, -, hge⟩ := exists_roundedPlace_of_le hv.le (by linarith) hu
  obtain rfl : v = t := Place.at.inj ((hfits.roundedPlace_eq hrange).symm.trans ht)
  have hfactor : (Quantity.float (Binary64.round (1000 : ℕ))).place? = some (.at 1000) := by
    decide +kernel
  have hplace := Binary64.place?_mul (p := .at v) (by simpa using hv.le) (by norm_num) hq hfactor
  rw [Place.scaled, hu] at hplace
  exact ⟨u, hv.trans_le hge, by exact_mod_cast hle, hu, hplace⟩

end Quantity

namespace Readout

/-- A readout that is given and is read back as this number and unit. -/
def Shows (readout : Except Failure String) (shown : Shown) : Prop :=
  ∃ text, readout = .ok text ∧ shown? text = some shown

variable {q : Quantity} {v : ℚ}

/-- The unit of a positive running time is chosen by the time. -/
theorem runtime_of_pos (hv : 0 < v) (hq : q.place? = some (.at v)) :
    runtime (some q) =
      if v < 1 then do return withUnit (← (q.timesNat 1000).twoPlaces) "μs"
      else if v < 1000 then do return withUnit (← q.twoPlaces) "ms"
      else do return withUnit (← q.perNat 1000).twoPlaces "s" := by
  simp [runtime, Quantity.isGiven_of_pos hv hq, Quantity.lt_int_eq_decide hq]

/-- A time below a millisecond is shown in microseconds, by the rounded product with thousand. -/
theorem shows_microseconds (hv : 0 < v) (hq : q.place? = some (.at v)) (hone : v < 1) :
    ∃ number ≤ 1000, Shows (runtime (some q)) ⟨number, "μs"⟩ ∧
      (number = 1000 ↔ (Binary64.round 0.999995).toRat ≤ v) := by
  obtain ⟨u, hpos, hle, hu, hplace⟩ := Quantity.exists_place?_timesNat hv hone hq
  have htext := Quantity.twoPlaces_eq hpos (hle.trans_lt (by norm_num)) hplace
  obtain ⟨hmost, hfull⟩ := hundredths_eq_natCast_iff (n := 1000) hpos.le (by exact_mod_cast hle)
  rw [Nat.cast_ofNat] at hmost hfull
  refine ⟨nearestHundredths u / 100, hmost, ⟨_, ?_, shown?_hundredthsText _ "μs"⟩, ?_⟩
  · rw [runtime_of_pos hv hq, if_pos hone, htext]
    rfl
  · have hfits := Quantity.fitsDouble hv (hone.trans (by norm_num)) hq
    exact hfull.trans (thousandfold_reaches_iff hfits hu)

/-- A time from a millisecond on and below a second is shown in milliseconds. -/
theorem shows_milliseconds (hq : q.place? = some (.at v)) (hone : 1 ≤ v) (hlt : v < 1000) :
    ∃ number ≤ 1000, Shows (runtime (some q)) ⟨number, "ms"⟩ ∧
      (number = 1000 ↔ 999.995 ≤ v) := by
  have hv : 0 < v := zero_lt_one.trans_le hone
  have htext := Quantity.twoPlaces_eq hv (hlt.trans (by norm_num)) hq
  obtain ⟨hmost, hfull⟩ := hundredths_eq_natCast_iff (n := 1000) hv.le (by exact_mod_cast hlt.le)
  rw [Nat.cast_ofNat] at hmost hfull
  refine ⟨nearestHundredths v / 100, hmost, ⟨_, ?_, shown?_hundredthsText _ "ms"⟩, ?_⟩
  · rw [runtime_of_pos hv hq, if_neg hone.not_gt, if_pos hlt, htext]
    rfl
  · rw [hfull]
    norm_num

/-- A time from a second on is shown in seconds, if it is shown. -/
theorem shows_seconds (hq : q.place? = some (.at v)) (hge : 1000 ≤ v) {text : String}
    (htext : runtime (some q) = .ok text) : ∃ number, shown? text = some ⟨number, "s"⟩ := by
  have hv : 0 < v := lt_of_lt_of_le (by norm_num) hge
  have hone : (1 : ℚ) ≤ v := le_trans (by norm_num) hge
  rw [runtime_of_pos hv hq, if_neg hone.not_gt, if_neg hge.not_gt] at htext
  obtain ⟨u, -, rfl⟩ := (perNat_shown_iff hv hq (by decide) "s").mp htext
  exact ⟨_, shown?_hundredthsText _ "s"⟩

/-- An amount below a kilobyte is shown in whole bytes. -/
theorem shows_bytes (hv : 0 < v) (hq : q.place? = some (.at v)) (hlt : v < 1024) :
    ∃ number < 1024, Shows (memory (.number q)) ⟨number, "B"⟩ := by
  obtain ⟨n, hle, hwhole⟩ := Quantity.exists_truncate hv hq
  refine ⟨n, hle.trans_lt hlt, withUnit (digits n) "B", ?_, shown?_digits n "B"⟩
  rw [memory_of_pos hv hq, if_pos hlt, hwhole]
  rfl

/-- An amount from a kilobyte on and below a megabyte is shown in kilobytes, of which a double holds
the exact number before it is shown with two places. -/
theorem shows_kilobytes (hq : q.place? = some (.at v)) (hge : 1024 ≤ v) (hlt : v < 1048576) :
    ∃ number ≤ 1024, Shows (memory (.number q)) ⟨number, "KB"⟩ ∧
      (number = 1024 ↔ 1048570.88 ≤ v) := by
  have hv : 0 < v := lt_of_lt_of_le (by norm_num) hge
  have hfits := Quantity.fitsDouble hv (hlt.trans (by norm_num)) hq
  have hexact : roundedPlace (v / 1024) = .at (v / 1024) := by
    have hquotient := hfits.roundedPlace_div_two_pow (le_trans (by norm_num) hge)
      (hlt.trans (by norm_num)) (by decide : 10 ≤ 1000)
    norm_num at hquotient
    exact hquotient
  have hmost : v / 1024 ≤ (1024 : ℕ) := by
    rw [div_le_iff₀ (by norm_num)]
    norm_num
    exact hlt.le
  obtain ⟨hnumber, hfull⟩ := hundredths_eq_natCast_iff (by positivity) hmost
  rw [Nat.cast_ofNat] at hnumber hfull
  refine ⟨nearestHundredths (v / 1024) / 100, hnumber, ⟨_, ?_, shown?_hundredthsText _ "KB"⟩, ?_⟩
  · rw [memory_of_pos hv hq, if_neg hge.not_gt, if_pos hlt]
    exact (perNat_shown_iff hv hq (by decide) "KB").mpr ⟨_, hexact, rfl⟩
  · rw [hfull, le_div_iff₀ (by norm_num)]
    norm_num

/-- An amount from a megabyte on is shown in megabytes, if it is shown. -/
theorem shows_megabytes (hq : q.place? = some (.at v)) (hge : 1048576 ≤ v) {text : String}
    (htext : memory (.number q) = .ok text) : ∃ number, shown? text = some ⟨number, "MB"⟩ := by
  have hv : 0 < v := lt_of_lt_of_le (by norm_num) hge
  have hkilobyte : (1024 : ℚ) ≤ v := le_trans (by norm_num) hge
  rw [memory_of_pos hv hq, if_neg hkilobyte.not_gt, if_neg hge.not_gt] at htext
  obtain ⟨u, -, rfl⟩ := (perNat_shown_iff hv hq (by decide) "MB").mp htext
  exact ⟨_, shown?_hundredthsText _ "MB"⟩

/-- A positive number is shown as a full next unit only if it is rounded up to that, and never as
more: from one half of a hundredth of a millisecond below a second on, from the double nearest to
one half of a hundredth of a microsecond below a millisecond on, and from one half of a hundredth of
a kilobyte below a megabyte on. Bytes always stay below a kilobyte. -/
theorem full_unit_iff (hv : 0 < v) (hq : q.place? = some (.at v)) :
    (v < 1 → ∃ number ≤ 1000, Shows (runtime (some q)) ⟨number, "μs"⟩ ∧
        (number = 1000 ↔ (Binary64.round 0.999995).toRat ≤ v)) ∧
      (1 ≤ v → v < 1000 → ∃ number ≤ 1000, Shows (runtime (some q)) ⟨number, "ms"⟩ ∧
        (number = 1000 ↔ 999.995 ≤ v)) ∧
      (1000 ≤ v → ∀ text, runtime (some q) = .ok text →
        ∃ number, shown? text = some ⟨number, "s"⟩) ∧
      (v < 1024 → ∃ number < 1024, Shows (memory (.number q)) ⟨number, "B"⟩) ∧
      (1024 ≤ v → v < 1048576 → ∃ number ≤ 1024, Shows (memory (.number q)) ⟨number, "KB"⟩ ∧
        (number = 1024 ↔ 1048570.88 ≤ v)) ∧
      (1048576 ≤ v → ∀ text, memory (.number q) = .ok text →
        ∃ number, shown? text = some ⟨number, "MB"⟩) :=
  ⟨shows_microseconds hv hq, shows_milliseconds hq, fun hge _ => shows_seconds hq hge,
    shows_bytes hv hq, shows_kilobytes hq, fun hge _ => shows_megabytes hq hge⟩

/-- A microsecond below a second is shown as thousand milliseconds. -/
theorem full_unit_iff_microsecond_below :
    ∃ number, Shows (runtime (some (.float (.round 999.999)))) ⟨number, "ms"⟩ ∧ number = 1000 := by
  have hlow : (1 : ℚ) ≤ (Binary64.round 999.999).toRat := by decide +kernel
  have hhigh : (Binary64.round 999.999).toRat < 1000 := by decide +kernel
  have hnear : 999.995 ≤ (Binary64.round 999.999).toRat := by decide +kernel
  have hplace : (Quantity.float (.round 999.999)).place? =
      some (.at (Binary64.round 999.999).toRat) := by decide +kernel
  obtain ⟨-, hmilliseconds, -⟩ := full_unit_iff (zero_lt_one.trans_le hlow) hplace
  obtain ⟨number, -, hshows, hfull⟩ := hmilliseconds hlow hhigh
  exact ⟨number, hshows, hfull.mpr hnear⟩

/-- The number of a unit is not always less than what makes the next unit: 999.999 milliseconds are
shown as thousand of them, and one byte less than a megabyte as 1024 kilobytes. -/
theorem not_number_lt_full_unit :
    ¬ (∀ (q : Quantity) (v : ℚ), 0 < v → q.place? = some (.at v) → ∀ shown,
        Shows (runtime (some q)) shown → shown.unit = "μs" ∨ shown.unit = "ms" →
          shown.number < 1000) ∧
      ¬ (∀ (q : Quantity) (v : ℚ), 0 < v → q.place? = some (.at v) → ∀ shown,
        Shows (memory (.number q)) shown → shown.unit = "B" ∨ shown.unit = "KB" →
          shown.number < 1024) := by
  constructor
  · intro hless
    have htext : runtime (some (.float (.round 999.999))) =
        .ok (withUnit (Binary64.hundredthsText 100000) "ms") := by decide +kernel
    have hpos : 0 < (Binary64.round 999.999).toRat := by decide +kernel
    have hplace : (Quantity.float (.round 999.999)).place? =
        some (.at (Binary64.round 999.999).toRat) := by decide +kernel
    have hnumber := hless _ _ hpos hplace _ ⟨_, htext, shown?_hundredthsText _ "ms"⟩ (.inr rfl)
    norm_num at hnumber
  · intro hless
    have htext : memory (.int 1048575) =
        .ok (withUnit (Binary64.hundredthsText 102400) "KB") := by decide +kernel
    have hnumber := hless (.int 1048575) 1048575 (by norm_num) rfl _
      ⟨_, htext, shown?_hundredthsText _ "KB"⟩ (.inr rfl)
    norm_num at hnumber

end Readout

end OrderOfGrowth

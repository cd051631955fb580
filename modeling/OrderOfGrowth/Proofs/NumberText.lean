import Mathlib.Data.List.DropRight
import OrderOfGrowth.Proofs.JsonGrammar
import OrderOfGrowth.Proofs.ShortestDecimal

/-!
# Texts of numbers

Whole numbers and finite doubles are written in the form that JSON has for numbers, and what is
written stands for the number itself. A double is written with the digits of its shortest decimal
number without the zeros at their end; in each notation the point and the exponent give them
their place again.
-/

namespace OrderOfGrowth

/-- The digits of a number are a row. -/
theorem isRow_digits (n : ℕ) : Json.IsRow (digits n) := by
  refine ⟨List.length_pos_iff.mp (length_digits_pos n), fun c hc => ?_⟩
  have hdigit := Nat.isDigit_of_mem_toDigits (by decide) (by decide) hc
  simpa [Char.isDigit, Numeral.isDigit, Char.le_def] using hdigit

/-- A single zero is a row. -/
theorem isRow_zero : Json.IsRow ['0'] :=
  ⟨List.cons_ne_nil _ _, List.forall_mem_singleton.mpr rfl⟩

/-- Zeros are digits. -/
theorem isDigit_of_mem_zeros {zeros : ℕ} {c : Char} (hc : c ∈ List.replicate zeros '0') :
    Numeral.isDigit c = true := by
  rw [List.eq_of_mem_replicate hc]
  rfl

/-- Digits with zeros in front of them are a row. -/
theorem isRow_zeros_append {row : List Char} (hrow : Json.IsRow row) (zeros : ℕ) :
    Json.IsRow (List.replicate zeros '0' ++ row) := by
  refine ⟨List.append_ne_nil_of_right_ne_nil _ hrow.1, fun c hc => ?_⟩
  exact (List.mem_append.mp hc).elim isDigit_of_mem_zeros (hrow.2 c)

/-- Digits with zeros behind them are a row. -/
theorem isRow_append_zeros {row : List Char} (hrow : Json.IsRow row) (zeros : ℕ) :
    Json.IsRow (row ++ List.replicate zeros '0') := by
  refine ⟨List.append_ne_nil_of_left_ne_nil hrow.1 _, fun c hc => ?_⟩
  exact (List.mem_append.mp hc).elim (hrow.2 c) isDigit_of_mem_zeros

/-- The only fraction of a form is a row. -/
theorem isRow_of_mem_some {row : List Char} (hrow : Json.IsRow row) :
    ∀ other ∈ some row, Json.IsRow other := by
  rintro _ ⟨⟩
  exact hrow

/-- The first digit of a positive number is not zero. -/
theorem head?_digits {n : ℕ} (hn : 0 < n) : (digits n).head? ≠ some '0' := by
  induction n using Nat.strongRecOn with
  | ind n ih =>
    have hsmall : ∀ m < 10, 0 < m → m.digitChar ≠ '0' := by decide
    rw [digits, Nat.toDigits_eq_if (by decide)]
    split_ifs with hten
    · exact fun h => hsmall n hten hn (Option.some.inj h)
    · rw [List.head?_append_of_ne_nil _ Nat.toDigits_ne_nil]
      exact ih (n / 10) (by omega) (by omega)

/-- A text ends with the zeros that are dropped. -/
theorem exists_dropFinalZeros_append (text : List Char) :
    ∃ zeros, dropFinalZeros text ++ List.replicate zeros '0' = text := by
  refine ⟨(text.rtakeWhile (· == '0')).length, ?_⟩
  have hzeros : List.replicate (text.rtakeWhile (· == '0')).length '0' =
      text.rtakeWhile (· == '0') := by
    refine (List.eq_replicate_of_mem fun c hc => ?_).symm
    exact beq_iff_eq.mp (List.mem_rtakeWhile_imp (p := (· == '0')) hc)
  rw [hzeros]
  exact List.rdropWhile_append_rtakeWhile

/-- The digits of a positive number without the zeros at their end. -/
theorem exists_digits_eq {n : ℕ} (hn : 0 < n) :
    ∃ c more zeros, dropFinalZeros (digits n) = c :: more ∧ Json.IsRow (c :: more) ∧ c ≠ '0' ∧
      digits n = c :: more ++ List.replicate zeros '0' := by
  obtain ⟨zeros, hzeros⟩ := exists_dropFinalZeros_append (digits n)
  cases hshown : dropFinalZeros (digits n) with
  | nil =>
    rw [hshown, List.nil_append] at hzeros
    have hvalue := ofDigits_digits n
    rw [← hzeros, ofDigits_zeros] at hvalue
    exact absurd hvalue hn.ne
  | cons c more =>
    rw [hshown] at hzeros
    refine ⟨c, more, zeros, rfl, ⟨List.cons_ne_nil _ _, fun d hd => ?_⟩, ?_, hzeros.symm⟩
    · exact (isRow_digits n).2 d (hzeros ▸ List.mem_append_left _ hd)
    · rintro rfl
      exact head?_digits hn (by rw [← hzeros]; rfl)

namespace Decimal

/-- Zeros in front of a coefficient do not count, and zeros behind it count for its exponent. -/
theorem value_padded (front back : ℕ) (row : List Char) (exponent : ℤ) :
    (⟨Numeral.ofDigits (List.replicate front '0' ++ (row ++ List.replicate back '0')),
      exponent⟩ : Decimal).value = Numeral.ofDigits row * 10 ^ (back + exponent) := by
  unfold value
  rw [ofDigits_append, ofDigits_zeros, ofDigits_append, ofDigits_zeros, List.length_replicate,
    zpow_add₀ (by norm_num), zpow_natCast]
  push_cast
  ring

/-- A decimal number that is not read as zero has a positive coefficient. -/
theorem coefficient_pos {d : Decimal} {negative : Bool} {significand : ℕ} {exponent : ℤ}
    {hcanonical : Canonical significand exponent} (hsignificand : 0 < significand)
    (h : d.nearest negative = .finite negative significand exponent hcanonical) :
    0 < d.coefficient := by
  by_contra hnone
  have hzero : d.quotient.1 = 0 := by
    obtain ⟨coefficient, exponent⟩ := d
    obtain rfl : coefficient = 0 := Nat.eq_zero_of_not_pos hnone
    cases exponent <;> simp [quotient]
  rw [nearest, hzero] at h
  exact hsignificand.ne (Binary64.finite.inj h).2.1

end Decimal

namespace Json

namespace NumberForm

/-- A form with a point or an exponent stands for the double nearest to its decimal number. -/
theorem value_eq_float {form : NumberForm} {d : Decimal}
    (hform : form.fraction.isSome = true ∨ form.exponent.isSome = true)
    (hvalue : form.decimal.value = d.value) : form.value = .float (d.nearest form.negative) := by
  have hnone : ¬(form.fraction.isNone && form.exponent.isNone) = true := by
    rw [Bool.and_eq_true, Option.isNone_iff_eq_none, Option.isNone_iff_eq_none]
    rintro ⟨hfraction, hexponent⟩
    simp [hfraction, hexponent] at hform
  rw [value, if_neg hnone, Decimal.nearest_congr form.negative hvalue]

/-- Zeros in front of digits and zeros behind them are the zeros in front of and behind the row. -/
theorem decimal_value {form : NumberForm} (front back : ℕ) {row : List Char}
    (hrow : form.whole ++ form.fraction.getD [] =
      List.replicate front '0' ++ (row ++ List.replicate back '0')) :
    form.decimal.value = Numeral.ofDigits row *
      10 ^ (back + ((form.exponent.map ExponentForm.value).getD 0 -
        ((form.fraction.getD []).length : ℕ))) := by
  rw [decimal, hrow, Decimal.value_padded]

end NumberForm

/-- The form of a whole number. -/
theorem exists_form_integerText (n : ℤ) :
    ∃ form : NumberForm, form.text = integerText n ∧ form.value = .int n := by
  have hzero : (digits n.natAbs).head? = some '0' → digits n.natAbs = ['0'] := by
    intro hzero
    rcases Nat.eq_zero_or_pos n.natAbs with hnone | hpos
    · rw [hnone]
      rfl
    · exact absurd hzero (head?_digits hpos)
  by_cases hnegative : n < 0
  · refine ⟨⟨true, digits n.natAbs, none, none, isRow_digits _, hzero, nofun⟩, ?_, ?_⟩
    · rw [integerText, if_pos hnegative, NumberForm.text]
      exact congrArg (List.cons '-') (List.append_nil _)
    · refine congrArg Quantity.int (?_ : -(Numeral.ofDigits (digits n.natAbs) : ℤ) = n)
      rw [ofDigits_digits]
      omega
  · refine ⟨⟨false, digits n.natAbs, none, none, isRow_digits _, hzero, nofun⟩, ?_, ?_⟩
    · rw [integerText, if_neg hnegative, NumberForm.text]
      exact List.append_nil _
    · refine congrArg Quantity.int (?_ : (Numeral.ofDigits (digits n.natAbs) : ℤ) = n)
      rw [ofDigits_digits]
      omega

/-- The form of the exponent in scientific notation. -/
theorem exists_form_exponentText (layout : NumberLayout) (exponent : ℤ) :
    ∃ form : ExponentForm, form.text = layout.exponentText exponent ∧ form.value = exponent := by
  set row := List.replicate (layout.exponentDigits - (digits exponent.natAbs).length) '0' ++
    digits exponent.natAbs with hdef
  have hrow : IsRow row := isRow_zeros_append (isRow_digits _) _
  have hvalue : Numeral.ofDigits row = exponent.natAbs := by
    rw [hdef, ofDigits_append, ofDigits_zeros, ofDigits_digits, Nat.zero_mul, Nat.zero_add]
  by_cases hnegative : exponent < 0
  · refine ⟨⟨'e', ['-'], row, Or.inl rfl, Or.inr (Or.inr rfl), hrow⟩, ?_, ?_⟩
    · rw [NumberLayout.exponentText, if_pos hnegative]
      rfl
    · rw [ExponentForm.value, if_pos rfl, hvalue]
      omega
  · refine ⟨⟨'e', ['+'], row, Or.inl rfl, Or.inr (Or.inl rfl), hrow⟩, ?_, ?_⟩
    · rw [NumberLayout.exponentText, if_neg hnegative]
      rfl
    · have hsign : ['+'] ≠ ['-'] := by decide
      rw [ExponentForm.value, if_neg hsign, hvalue]
      omega

section Notations

variable (negative : Bool) {c : Char} {more : List Char}

/-- The form of a number in scientific notation. -/
theorem exists_form_scientific (hrow : IsRow (c :: more)) (exponent : ExponentForm) :
    ∃ form : NumberForm, form.negative = negative ∧
      form.text = NumberForm.signText negative ++
        (([c] ++ if more.length + 1 ≤ 1 then [] else '.' :: more) ++ exponent.text) ∧
      form.exponent.isSome = true ∧
      form.decimal.value = Numeral.ofDigits (c :: more) * 10 ^ (exponent.value - more.length) := by
  have hwhole : IsRow [c] := ⟨List.cons_ne_nil _ _, by simpa using hrow.2 c List.mem_cons_self⟩
  have hzero : [c].head? = some '0' → [c] = ['0'] := by simp
  cases more with
  | nil =>
    refine ⟨⟨negative, [c], none, some exponent, hwhole, hzero, nofun⟩, rfl, rfl, rfl, ?_⟩
    rw [NumberForm.decimal_value 0 0 (List.append_nil _).symm]
    simp
  | cons d more =>
    have hfraction : IsRow (d :: more) :=
      ⟨List.cons_ne_nil _ _, fun e he => hrow.2 e (List.mem_cons_of_mem _ he)⟩
    refine ⟨⟨negative, [c], some (d :: more), some exponent, hwhole, hzero,
      isRow_of_mem_some hfraction⟩, rfl, ?_, rfl, ?_⟩
    · rw [if_neg (by simp)]
      rfl
    · rw [NumberForm.decimal_value 0 0 (List.append_nil _).symm]
      simp

/-- The form of a number below one. -/
theorem exists_form_below_one (hrow : IsRow (c :: more)) (zeros : ℕ) :
    ∃ form : NumberForm, form.negative = negative ∧
      form.text = NumberForm.signText negative ++
        '0' :: '.' :: (List.replicate zeros '0' ++ c :: more) ∧
      form.fraction.isSome = true ∧
      form.decimal.value = Numeral.ofDigits (c :: more) *
        10 ^ (-(zeros : ℤ) - 1 - more.length) := by
  have hfraction := isRow_zeros_append hrow zeros
  have hdigits : ['0'] ++ (List.replicate zeros '0' ++ c :: more) =
      List.replicate (zeros + 1) '0' ++ (c :: more ++ List.replicate 0 '0') := by
    simp [List.replicate_succ]
  refine ⟨⟨negative, ['0'], some (List.replicate zeros '0' ++ c :: more), none,
    isRow_zero, fun _ => rfl, isRow_of_mem_some hfraction⟩, rfl, ?_, rfl, ?_⟩
  · simp [NumberForm.text, NumberForm.fractionText, NumberForm.exponentText]
  · refine (NumberForm.decimal_value (zeros + 1) 0 hdigits).trans ?_
    congr 2
    simp
    omega

/-- The form of a number that is written out with a digit on either side of its point. -/
theorem exists_form_plain (hrow : IsRow (c :: more)) (hc : c ≠ '0') (places : ℕ) :
    ∃ form : NumberForm, form.negative = negative ∧
      form.text = NumberForm.signText negative ++
        (c :: more.take places ++ List.replicate (places - more.length) '0' ++ '.' ::
          if (more.drop places).isEmpty then ['0'] else more.drop places) ∧
      form.fraction.isSome = true ∧
      form.decimal.value = Numeral.ofDigits (c :: more) * 10 ^ ((places : ℤ) - more.length) := by
  have htaken : IsRow (c :: more.take places) :=
    ⟨List.cons_ne_nil _ _, fun d hd => hrow.2 d (List.take_subset (places + 1) (c :: more) hd)⟩
  have hwhole := isRow_append_zeros htaken (places - more.length)
  have hzero : (c :: more.take places ++ List.replicate (places - more.length) '0').head? =
      some '0' → c :: more.take places ++ List.replicate (places - more.length) '0' = ['0'] :=
    fun h => absurd (Option.some.inj h) hc
  by_cases hends : more.length ≤ places
  · -- all digits stand before the point
    have hdigits : c :: more.take places ++ List.replicate (places - more.length) '0' ++ ['0'] =
        List.replicate 0 '0' ++ (c :: more ++ List.replicate (places - more.length + 1) '0') := by
      simp [List.take_of_length_le hends, List.replicate_succ']
    refine ⟨⟨negative, _, some ['0'], none, hwhole, hzero, isRow_of_mem_some isRow_zero⟩, rfl, ?_,
      rfl, ?_⟩
    · simp [NumberForm.text, NumberForm.fractionText, NumberForm.exponentText, hends]
    · refine (NumberForm.decimal_value 0 (places - more.length + 1) hdigits).trans ?_
      congr 2
      simp
      omega
  · have hfraction : IsRow (more.drop places) :=
      ⟨fun h => hends (List.drop_eq_nil_iff.mp h),
        fun d hd => hrow.2 d (List.mem_cons_of_mem _ (List.mem_of_mem_drop hd))⟩
    have hdigits : c :: more.take places ++ List.replicate (places - more.length) '0' ++
        more.drop places = List.replicate 0 '0' ++ (c :: more ++ List.replicate 0 '0') := by
      rw [Nat.sub_eq_zero_of_le (by omega)]
      simp
    refine ⟨⟨negative, _, some (more.drop places), none, hwhole, hzero,
      isRow_of_mem_some hfraction⟩, rfl, ?_, rfl, ?_⟩
    · simp [NumberForm.text, NumberForm.fractionText, NumberForm.exponentText, hends]
    · refine (NumberForm.decimal_value 0 0 hdigits).trans ?_
      congr 2
      simp
      omega

end Notations

/-- The form of a positive decimal number in either notation. -/
theorem exists_form_write (layout : NumberLayout) {d : Decimal} (negative : Bool)
    (hd : 0 < d.coefficient) :
    ∃ form : NumberForm, form.text = NumberForm.signText negative ++ layout.write d ∧
      form.value = .float (d.nearest negative) := by
  obtain ⟨c, more, zeros, hshown, hrow, hc, hdigits⟩ := exists_digits_eq hd
  have hlength : (digits d.coefficient).length = more.length + 1 + zeros := by
    rw [hdigits, List.length_append, List.length_cons, List.length_replicate]
  have hvalue : d.value = Numeral.ofDigits (c :: more) * 10 ^ (zeros + d.exponent) := by
    rw [← Decimal.value_padded 0 zeros, List.replicate_zero, List.nil_append, ← hdigits,
      ofDigits_digits]
  unfold NumberLayout.write
  dsimp only
  rw [hshown, hlength]
  generalize hfirst : d.exponent + ((more.length + 1 + zeros : ℕ) : ℤ) - 1 = first
  have hplace : zeros + d.exponent = first - more.length := by omega
  rw [hplace] at hvalue
  by_cases hscientific : first < layout.plainFrom ∨ layout.plainBelow ≤ first
  · obtain ⟨exponent, hexponent, hpower⟩ := exists_form_exponentText layout first
    obtain ⟨form, hsign, htext, hsome, hdecimal⟩ := exists_form_scientific negative hrow exponent
    rw [hpower, ← hvalue] at hdecimal
    refine ⟨form, ?_, hsign ▸ NumberForm.value_eq_float (Or.inr hsome) hdecimal⟩
    rw [if_pos hscientific, htext, hexponent]
    rfl
  rw [if_neg hscientific]
  by_cases hsmall : first < 0
  · obtain ⟨form, hsign, htext, hsome, hdecimal⟩ :=
      exists_form_below_one negative hrow (-first - 1).toNat
    have hpower : -((-first - 1).toNat : ℤ) - 1 - more.length = first - more.length := by omega
    rw [hpower, ← hvalue] at hdecimal
    refine ⟨form, ?_, hsign ▸ NumberForm.value_eq_float (Or.inl hsome) hdecimal⟩
    rw [if_pos hsmall, htext]
  · obtain ⟨form, hsign, htext, hsome, hdecimal⟩ :=
      exists_form_plain negative hrow hc first.toNat
    rw [Int.toNat_of_nonneg (not_lt.mp hsmall), ← hvalue] at hdecimal
    refine ⟨form, ?_, hsign ▸ NumberForm.value_eq_float (Or.inl hsome) hdecimal⟩
    rw [if_neg hsmall, htext, List.take_succ_cons, List.drop_succ_cons, List.length_cons,
      Nat.add_sub_add_right]

/-- The form of a finite double. -/
theorem exists_form_text (negative : Bool) {significand : ℕ} {exponent : ℤ}
    (hcanonical : Canonical significand exponent) :
    ∃ form : NumberForm,
      form.text = (Binary64.finite negative significand exponent hcanonical).text ∧
      form.value = .float (.finite negative significand exponent hcanonical) := by
  rcases Nat.eq_zero_or_pos significand with rfl | hsignificand
  · -- both zeros are written as such, with their sign
    obtain rfl : exponent = -1074 := hcanonical.2.2.2.resolve_left (by decide)
    exact ⟨⟨negative, ['0'], some ['0'], none, isRow_zero, fun _ => rfl,
      isRow_of_mem_some isRow_zero⟩, rfl, rfl⟩
  · have hshortest := Binary64.nearest_shortest hcanonical hsignificand
    have hcoefficient := Decimal.coefficient_pos hsignificand hshortest
    have hnearest : (Binary64.finite false significand exponent hcanonical).shortest.nearest
        negative = .finite negative significand exponent hcanonical :=
      Binary64.ofQuotient_eq_finite_iff.mpr hshortest
    obtain ⟨form, htext, hvalue⟩ := exists_form_write numberLayout negative hcoefficient
    rw [hnearest] at hvalue
    refine ⟨form, ?_, hvalue⟩
    rw [htext, Binary64.text, if_neg hsignificand.ne']
    rfl

end Json

end OrderOfGrowth

/-!
# Rounding quotients

The one rounding rule of the library: a quotient of natural numbers goes to the nearest
whole number, and a quotient half-way between two goes to the even one. The main statement
is that the result is never more than one half away.
-/

namespace OrderOfGrowth

/-- The whole number nearest to `dividend / divisor`; of two equally near, the even one. -/
def roundQuotient (dividend divisor : Nat) : Nat :=
  let quotient := dividend / divisor
  let remainder := dividend % divisor
  if 2 * remainder < divisor then quotient
  else if divisor < 2 * remainder then quotient + 1
  else quotient + quotient % 2

/-- Twice the distance between the quotient and its rounded value is at most the divisor. -/
theorem roundQuotient_bounds (dividend : Nat) {divisor : Nat} (hpos : 0 < divisor) :
    2 * dividend ≤ 2 * (roundQuotient dividend divisor * divisor) + divisor ∧
      2 * (roundQuotient dividend divisor * divisor) ≤ 2 * dividend + divisor := by
  have hsplit := Nat.div_add_mod dividend divisor
  have hmod := Nat.mod_lt dividend hpos
  have hparity : dividend / divisor % 2 = 0 ∨ dividend / divisor % 2 = 1 := by omega
  unfold roundQuotient
  generalize hq : dividend / divisor = q at *
  generalize hr : dividend % divisor = r at *
  have hcomm : divisor * q = q * divisor := Nat.mul_comm _ _
  dsimp only
  split
  · constructor <;> omega
  · split
    · have : (q + 1) * divisor = q * divisor + divisor := by rw [Nat.add_mul, Nat.one_mul]
      constructor <;> omega
    · have : (q + q % 2) * divisor = q * divisor + q % 2 * divisor := Nat.add_mul _ _ _
      rcases hparity with h | h <;> rw [h] at this ⊢ <;> constructor <;> omega

/-- A quotient without remainder is not changed. -/
theorem roundQuotient_mul_self (n : Nat) {divisor : Nat} (hpos : 0 < divisor) :
    roundQuotient (n * divisor) divisor = n := by
  simp [roundQuotient, Nat.mul_div_cancel _ hpos, hpos]

end OrderOfGrowth

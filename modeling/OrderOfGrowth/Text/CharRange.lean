/-!
# Membership in ascending ranges

Properties of characters are kept as ascending lists of ranges of code points. A look-up
stops at the first range that begins above the code point, so that the frequent small code
points are found quickly.
-/

namespace OrderOfGrowth.Text

/-- Whether one of the ascending ranges holds the code point. -/
def inRanges : List (Nat × Nat) → Nat → Bool
  | [], _ => false
  | (first, last) :: rest, code =>
    if code < first then false else code ≤ last || inRanges rest code

/-- A code point that is found lies in one of the ranges. -/
theorem exists_of_inRanges {ranges : List (Nat × Nat)} {code : Nat}
    (h : inRanges ranges code = true) : ∃ range ∈ ranges, range.1 ≤ code ∧ code ≤ range.2 := by
  induction ranges with
  | nil => simp [inRanges] at h
  | cons range rest ih =>
    simp only [inRanges] at h
    split at h
    · simp at h
    next hfirst =>
      rcases Bool.or_eq_true _ _ ▸ h with hlast | hrest
      · exact ⟨range, by simp, by omega, by simpa using hlast⟩
      · obtain ⟨other, hmem, hin⟩ := ih hrest
        exact ⟨other, by simp [hmem], hin⟩

end OrderOfGrowth.Text

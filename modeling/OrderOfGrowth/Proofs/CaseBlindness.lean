import OrderOfGrowth.Proofs.Likeness

/-!
# Letters in either case

A scan puts each line into lower case, an estimate the whole source, and a search compares letters
without regard to case. This file proves that none of the three sees the case of the letters from
A to Z, whatever other characters stand between them: a source looks like its image under
`Char.toLower`, and two sources that differ in the case of such letters have the same image.
-/

namespace OrderOfGrowth

/-- Beyond the first 128 characters no letter has another case here. -/
theorem toLower_of_not_ascii {c : Char} (hascii : 128 ≤ c.toNat) : c.toLower = c := by
  have hlast : ¬ ('A' ≤ c ∧ c ≤ 'Z') := by
    simp only [char_le_iff, Char.reduceToNat]
    omega
  rw [← Char.toNat_inj, toNat_toLower, if_neg hlast]

/-- The other case of one of the first 128 characters is one of them. -/
theorem toNat_toLower_lt {c : Char} (hascii : c.toNat < 128) : c.toLower.toNat < 128 := by
  rw [toNat_toLower]
  simp only [char_le_iff, Char.reduceToNat]
  split <;> omega

/-- What holds of the case of the first 128 characters holds of all. -/
theorem toLower_congr {α : Type} {f : Char → α}
    (hascii : ∀ n < 128, f (Char.ofNat n).toLower = f (Char.ofNat n)) (c : Char) :
    f c.toLower = f c := by
  rcases Nat.lt_or_ge c.toNat 128 with hlt | hge
  · simpa only [Char.ofNat_toNat] using hascii c.toNat hlt
  · rw [toLower_of_not_ascii hge]

/-- A piece takes a letter in either case. -/
theorem Atom.accepts_toLower (atom : Atom) (c : Char) :
    atom.accepts c.toLower = atom.accepts c := by
  cases atom with
  | literal d =>
    have htwice : c.toLower.toLower = c.toLower := toLower_congr (by decide) c
    simp only [accepts, htwice]
  | any => exact toLower_congr (f := accepts .any) (by decide) c
  | word => exact toLower_congr (f := accepts .word) (by decide) c
  | blank => exact toLower_congr (f := accepts .blank) (by decide) c

namespace Text

/-- Whether a text goes on with a letter does not depend on the case of the letters. -/
theorem startsCased_map_toLower (text : List Char) :
    startsCased (text.map Char.toLower) = startsCased text := by
  have hignorable : ∀ c : Char, isCaseIgnorable c.toLower = isCaseIgnorable c :=
    toLower_congr (by decide)
  have hcased : ∀ c : Char, isCased c.toLower = isCased c := toLower_congr (by decide)
  induction text with
  | nil => rfl
  | cons c text ih =>
    rw [List.map_cons, startsCased_cons, startsCased_cons, hignorable, hcased, ih]

/-- The lower-case form of a text does not depend on the case of its letters from A to Z, which
are letters with a case for their neighbours in either form. -/
theorem lowerFrom_map_toLower (afterCased : Bool) (text : List Char) :
    lowerFrom afterCased (text.map Char.toLower) = lowerFrom afterCased text := by
  induction text generalizing afterCased with
  | nil => rfl
  | cons c text ih =>
    have hbehind : casedBehind afterCased c.toLower = casedBehind afterCased c :=
      toLower_congr (by cases afterCased <;> decide) c
    have hat :
        lowerAt afterCased c.toLower (text.map Char.toLower) = lowerAt afterCased c text := by
      rw [lowerAt_congr afterCased c.toLower (startsCased_map_toLower text)]
      rcases Nat.lt_or_ge c.toNat 128 with hlt | hge
      · have htwice : c.toLower.toLower = c.toLower := toLower_congr (by decide) c
        rw [lowerAt_of_ascii (toNat_toLower_lt hlt), lowerAt_of_ascii hlt, htwice]
      · rw [toLower_of_not_ascii hge]
    rw [List.map_cons, lowerFrom_cons, lowerFrom_cons, hat, hbehind, ih]

end Text

/-- A source looks like the same source with small letters. -/
theorem LanguageSigns.textsAlike_map_toLower (signs : LanguageSigns) (text : List Char) :
    signs.TextsAlike text (text.map Char.toLower) := by
  refine signs.textsAlike_map ?_ ?_ ?_ text
  · intro mark hmark c
    have hascii : ∀ n < 128, ((Char.ofNat n).toLower == mark) = (Char.ofNat n == mark) := by
      simp only [List.mem_cons, List.not_mem_nil, or_false] at hmark
      rcases hmark with rfl | rfl | rfl <;> decide
    have hsame : (c.toLower == mark) = (c == mark) :=
      toLower_congr (f := (· == mark)) hascii c
    rw [← beq_iff_eq, hsame, beq_iff_eq]
  · intro line word _
    rw [Text.lowercase, Text.lowercase, Text.lowerFrom_map_toLower]
  · exact fun _ _ piece _ c => piece.atom.accepts_toLower c

/-- Texts that differ only in the case of letters have the same form with small letters. -/
theorem map_toLower_eq_of_sameLetters {text other : List Char}
    (h : List.Forall₂ SameLetter text other) : text.map Char.toLower = other.map Char.toLower := by
  induction h with
  | nil => rfl
  | cons hletter _ ih =>
    rw [List.map_cons, List.map_cons, ih, (toLower_eq_toLower_iff _ _).mpr hletter]

instance (c d : Char) : Decidable (SameLetter c d) :=
  decidable_of_iff _ (toLower_eq_toLower_iff c d)

namespace SignTable

/-- Sources that differ at most in the case of the letters from A to Z get the same report and the
same estimate, for every table of signs and every language. -/
theorem scan_ignores_letter_case (table : SignTable) (language : Option String)
    {source other : String} (hletters : List.Forall₂ SameLetter source.toList other.toList) :
    table.scan (some source) language = table.scan (some other) language ∧
      table.classify (some source) language = table.classify (some other) language := by
  let small := String.ofList (source.toList.map Char.toLower)
  have halike : ∀ text : String, text.toList.map Char.toLower = source.toList.map Char.toLower →
      (table.signs (some (table.resolve language))).TextsAlike text.toList small.toList := by
    intro text htext
    rw [String.toList_ofList, ← htext]
    exact LanguageSigns.textsAlike_map_toLower _ text.toList
  have hsource := halike source rfl
  have hother := halike other (map_toLower_eq_of_sameLetters hletters).symm
  constructor
  · rw [table.scan_eq_of_textsAlike language hsource, table.scan_eq_of_textsAlike language hother]
  · rw [table.classify_eq_of_textsAlike language hsource,
      table.classify_eq_of_textsAlike language hother]

/-- The case of a letter before a capital sigma at the end of a word, and of letters beside
other characters, does not count. -/
theorem scan_ignores_letter_case_beside_sigma :
    List.Forall₂ SameLetter "ΟaΣ FOR é\nDEF f(N):".toList "ΟAΣ foR é\ndef F(n):".toList ∧
      standardSigns.classify (some "ΟaΣ FOR é\nDEF f(N):") (some "python") =
        standardSigns.classify (some "ΟAΣ foR é\ndef F(n):") (some "python") := by
  have hletters :
      List.Forall₂ SameLetter "ΟaΣ FOR é\nDEF f(N):".toList "ΟAΣ foR é\ndef F(n):".toList := by
    decide
  exact ⟨hletters, (scan_ignores_letter_case standardSigns (some "python") hletters).2⟩

end SignTable

end OrderOfGrowth

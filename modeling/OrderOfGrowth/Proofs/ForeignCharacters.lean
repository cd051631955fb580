import OrderOfGrowth.Proofs.CaseBlindness

/-!
# Characters beyond the first 128

The words and the patterns of the standard table are made of the first 128 characters. Lower case
leads from other characters to two of these: the dotted capital I becomes an i with a mark behind
it, and the sign for Kelvin becomes a k. This file proves that no word can profit from either: no
word has a k, and behind an i each word goes on with a letter and not with a mark. So every
character beyond the first 128 does as well as a question mark, which no word and no pattern has.
-/

namespace OrderOfGrowth

/-- A question mark in place of a character beyond the first 128. -/
def Text.veilChar (c : Char) : Char := if c.toNat < 128 then c else '?'

/-- A text with a question mark in place of every character beyond the first 128. -/
def Text.veil (text : List Char) : List Char := text.map veilChar

/-- A word that no character beyond the first 128 can help to occur: it has neither such a
character, nor a question mark, nor a k, and it does not end in an i. -/
def IsPlainWord (word : List Char) : Prop :=
  (∀ c ∈ word, c.toNat < 128 ∧ c ≠ '?' ∧ c ≠ 'k') ∧ word.getLast? ≠ some 'i'

instance (word : List Char) : Decidable (IsPlainWord word) :=
  have : Decidable (∀ c ∈ word, c.toNat < 128 ∧ c ≠ '?' ∧ c ≠ 'k') := word.decidableBAll _
  inferInstanceAs (Decidable (_ ∧ _))

/-- A kind of character that is not told from a question mark by way of characters beyond the
first 128. -/
def Atom.isPlain : Atom → Bool
  | .literal c => c.toNat < 128 && c != '?'
  | _ => true

/-- A character of the first 128 stays and no other one becomes it. -/
theorem Text.veilChar_eq_iff {mark : Char} (hascii : mark.toNat < 128) (hmark : mark ≠ '?')
    (c : Char) : veilChar c = mark ↔ c = mark := by
  rw [veilChar]
  split
  · exact Iff.rfl
  · constructor
    · exact fun h => absurd h.symm hmark
    · rintro rfl
      contradiction

/-- A plain word that stands in a text which goes on with an i stands before that i. -/
theorem IsPlainWord.infix_concat_iff {word : List Char} (hword : IsPlainWord word)
    (before : List Char) : word <:+: before ++ ['i'] ↔ word <:+: before := by
  rw [List.infix_concat_iff, List.suffix_concat_iff]
  constructor
  · rintro ((rfl | ⟨start, rfl, -⟩) | h)
    · exact List.nil_infix
    · exact absurd (List.getLast?_concat ..) hword.2
    · exact h
  · exact Or.inr

/-- A plain word stands in the lower-case form of a line exactly if it stands in that of the line
with question marks, also behind a beginning that both have. Each character beyond the first 128
ends what a word can reach, as a question mark does. -/
theorem IsPlainWord.infix_lowerFrom_veil_iff {word : List Char} (hword : IsPlainWord word)
    (before line : List Char) (afterCased afterCased' : Bool) :
    word <:+: before ++ Text.lowerFrom afterCased line ↔
      word <:+: before ++ Text.lowerFrom afterCased' (Text.veil line) := by
  induction line generalizing before afterCased afterCased' with
  | nil => exact Iff.rfl
  | cons c line ih =>
    rw [Text.veil, List.map_cons, Text.lowerFrom_cons, Text.lowerFrom_cons, ← Text.veil]
    by_cases hascii : c.toNat < 128
    · have hveil : Text.veilChar c = c := if_pos hascii
      rw [hveil, Text.lowerAt_of_ascii hascii, Text.lowerAt_of_ascii hascii, ← List.append_assoc,
        ← List.append_assoc]
      exact ih (before ++ [c.toLower]) _ _
    · have hveil : Text.veilChar c = '?' := if_neg hascii
      have hmark : '?' ∉ word := fun hmem => (hword.1 _ hmem).2.1 rfl
      have hrest := ih [] (Text.casedBehind afterCased c) (Text.casedBehind afterCased' '?')
      rw [List.nil_append, List.nil_append] at hrest
      have hveiled : word <:+: before ++ (Text.lowerAt afterCased' '?' (Text.veil line) ++
          Text.lowerFrom (Text.casedBehind afterCased' '?') (Text.veil line)) ↔
            word <:+: before ∨
              word <:+: Text.lowerFrom (Text.casedBehind afterCased' '?') (Text.veil line) := by
        rw [Text.lowerAt_of_ascii (by decide)]
        exact Text.infix_append_cons_iff hmark before _
      rw [hveil, hveiled, ← hrest]
      rcases Text.lowerAt_of_not_ascii (Nat.le_of_not_lt hascii) afterCased line with
        hdotted | ⟨d, hd, hforeign⟩
      · have hdot : '\u0307' ∉ word := fun hmem => absurd (hword.1 _ hmem).1 (by decide)
        rw [hdotted, ← hword.infix_concat_iff before, ← Text.infix_append_cons_iff hdot,
          List.append_assoc]
        rfl
      · have hout : d ∉ word := by
          intro hmem
          obtain ⟨hsmall, -, hk⟩ := hword.1 d hmem
          rcases hforeign with hlarge | hd
          · omega
          · exact hk hd
        rw [hd]
        exact Text.infix_append_cons_iff hout before _

/-- A plain kind of character does not tell a character beyond the first 128 from a question
mark. -/
theorem Atom.accepts_veilChar {atom : Atom} (hplain : atom.isPlain = true) (c : Char) :
    atom.accepts (Text.veilChar c) = atom.accepts c := by
  by_cases hascii : c.toNat < 128
  · rw [Text.veilChar, if_pos hascii]
  · rw [Text.veilChar, if_neg hascii, Bool.eq_iff_iff, accepts_iff, accepts_iff]
    cases atom with
    | literal d =>
      simp only [isPlain, Bool.and_eq_true, decide_eq_true_eq, bne_iff_ne, ne_eq] at hplain
      simp only [Takes, SameLetter, char_le_iff, ← Char.toNat_inj, Char.reduceToNat] at hplain ⊢
      omega
    | any =>
      have hfeed : c ≠ '\n' := by
        rintro rfl
        exact hascii (by decide)
      simp [Takes, hfeed]
    | word =>
      simp only [Takes, char_le_iff, ← Char.toNat_inj, Char.reduceToNat]
      omega
    | blank =>
      have hsmall : ∀ d : Char, Takes .blank d → d.toNat < 128 ∧ d ≠ '?' := by
        intro d hblank
        simp only [Takes, List.mem_cons, List.not_mem_nil, or_false] at hblank
        rcases hblank with rfl | rfl | rfl | rfl | rfl | rfl <;> decide
      exact ⟨fun h => absurd rfl (hsmall _ h).2, fun h => absurd (hsmall c h).1 hascii⟩

/-- The words and the patterns of every language are plain. -/
theorem Language.plain_signs (language : Language) :
    (∀ word ∈ language.signs.words, IsPlainWord word) ∧
      ∀ pattern ∈ language.signs.recursionPatterns, ∀ piece ∈ pattern.pieces,
        piece.atom.isPlain = true := by
  constructor
  · cases language <;> decide +kernel
  · cases language <;> decide +kernel

/-- A source looks like the source with question marks in place of the characters beyond the
first 128. -/
theorem Language.textsAlike_veil (language : Language) (text : List Char) :
    language.signs.TextsAlike text (Text.veil text) := by
  obtain ⟨hwords, hpieces⟩ := language.plain_signs
  refine language.signs.textsAlike_map ?_ ?_ ?_ text
  · intro mark hmark c
    have hplain : mark.toNat < 128 ∧ mark ≠ '?' := by
      simp only [List.mem_cons, List.not_mem_nil, or_false] at hmark
      rcases hmark with rfl | rfl | rfl <;> decide
    exact Text.veilChar_eq_iff hplain.1 hplain.2 c
  · intro line word hword
    exact (hwords word hword).infix_lowerFrom_veil_iff [] line false false
  · intro pattern hpattern piece hpiece c
    exact Atom.accepts_veilChar (hpieces pattern hpattern piece hpiece) c

namespace SignTable

/-- For the standard table the characters beyond the first 128 are all the same: with question
marks in their place every source gets the same report and the same estimate in every language. -/
theorem scan_ignores_foreign_characters (source : String) (language : Option String) :
    let veiled := String.ofList (Text.veil source.toList)
    standardSigns.scan (some veiled) language = standardSigns.scan (some source) language ∧
      standardSigns.classify (some veiled) language =
        standardSigns.classify (some source) language := by
  intro veiled
  have halike : ∀ known : Language, known.signs.TextsAlike source.toList veiled.toList := by
    intro known
    rw [String.toList_ofList]
    exact known.textsAlike_veil source.toList
  obtain ⟨hscan, hclassify⟩ := standardSigns_eq_of_textsAlike language halike
  exact ⟨hscan.symm, hclassify.symm⟩

end SignTable

end OrderOfGrowth

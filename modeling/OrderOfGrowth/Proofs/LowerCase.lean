import Mathlib.Data.List.Infix
import OrderOfGrowth.Proofs.Encoding
import OrderOfGrowth.Text.LetterCase
import OrderOfGrowth.Text.Search

/-!
# Lower case and lines

The lower-case form of a text is put together from one piece for each character. This file says
what the pieces of the first 128 characters and of all others are, and that a line feed parts the
pieces before it from those behind it: the lines of a text in lower case are its lines, each put
into lower case by itself.
-/

namespace OrderOfGrowth.Text

/-- The lower-case form of a character, given what stands before and behind it. -/
def lowerAt (afterCased : Bool) (c : Char) (rest : List Char) : List Char :=
  if c = 'Σ' then [if afterCased && !startsCased rest then 'ς' else 'σ'] else lowerChar c

/-- Whether behind a character the nearest one that is not passed over is a letter with a case. -/
def casedBehind (afterCased : Bool) (c : Char) : Bool :=
  if isCaseIgnorable c then afterCased else isCased c

/-- A text in lower case begins with the lower-case form of its first character. -/
theorem lowerFrom_cons (afterCased : Bool) (c : Char) (rest : List Char) :
    lowerFrom afterCased (c :: rest) =
      lowerAt afterCased c rest ++ lowerFrom (casedBehind afterCased c) rest := rfl

/-- Of what stands behind a character only the next letter with a case counts. -/
theorem lowerAt_congr (afterCased : Bool) (c : Char) {rest other : List Char}
    (h : startsCased rest = startsCased other) :
    lowerAt afterCased c rest = lowerAt afterCased c other := by
  simp only [lowerAt, h]

/-- One of the first 128 characters becomes one of them, whatever stands around it. -/
theorem lowerAt_of_ascii {c : Char} (hascii : c.toNat < 128) (afterCased : Bool)
    (rest : List Char) : lowerAt afterCased c rest = [c.toLower] := by
  have hsigma : c ≠ 'Σ' := by
    rintro rfl
    exact absurd hascii (by decide)
  rw [lowerAt, if_neg hsigma, lowerChar, if_pos hascii]

/-- The runs lead from beyond the first 128 characters to characters beyond them, or to the
letter k. -/
theorem shifted_of_mem_caseRuns {run : CaseRun} (hrun : run ∈ caseRuns) {code : ℕ}
    (hfirst : run.first ≤ code) (hlast : code ≤ run.last) (hcode : 128 ≤ code) :
    ((code + run.shift).toNat).isValidChar ∧
      (128 ≤ (code + run.shift).toNat ∨ (code + run.shift).toNat = 'k'.toNat) := by
  have hbelow : ∀ run ∈ caseRuns, run.last < 128 ∨ 128 ≤ run.first + run.shift ∨
      (run.first = run.last ∧ run.first + run.shift = 'k'.toNat) := by decide +kernel
  have hvalid : ∀ run ∈ caseRuns, run.last + run.shift < 0xD800 ∨
      (0xDFFF < run.first + run.shift ∧ run.last + run.shift < 0x110000) := by decide +kernel
  have hbelow := hbelow run hrun
  have hvalid := hvalid run hrun
  have hk : 'k'.toNat = 107 := rfl
  rw [hk] at hbelow ⊢
  refine ⟨?_, by omega⟩
  simp only [Nat.isValidChar]
  omega

/-- A character beyond the first 128 becomes another one beyond them, with two exceptions: the
dotted capital I becomes an i with a mark, and the sign for Kelvin becomes the letter k. -/
theorem lowerAt_of_not_ascii {c : Char} (hascii : 128 ≤ c.toNat) (afterCased : Bool)
    (rest : List Char) :
    lowerAt afterCased c rest = ['i', '\u0307'] ∨
      ∃ d : Char, lowerAt afterCased c rest = [d] ∧ (128 ≤ d.toNat ∨ d = 'k') := by
  rw [lowerAt]
  split
  · refine Or.inr ⟨_, rfl, Or.inl ?_⟩
    split <;> decide
  · rw [lowerChar, if_neg (by omega)]
    split
    · exact Or.inl rfl
    · right
      cases hfind : caseRuns.find? (·.covers c.toNat) with
      | none => exact ⟨c, rfl, Or.inl hascii⟩
      | some run =>
        have hcovers := List.find?_some hfind
        simp only [CaseRun.covers, Bool.and_eq_true, decide_eq_true_eq] at hcovers
        obtain ⟨hvalid, hcode⟩ := shifted_of_mem_caseRuns (List.mem_of_find?_eq_some hfind)
          hcovers.1.1 hcovers.1.2 hascii
        have hnat := toNat_ofNat_of_isValidChar hvalid
        refine ⟨_, rfl, hcode.imp (fun hcode => ?_) (fun hk => ?_)⟩
        · rwa [hnat]
        · rw [← Char.toNat_inj, hnat, hk]

/-- Only the character itself becomes one of the first 128 that is no letter. -/
theorem eq_of_mem_lowerAt {c d : Char} {afterCased : Bool} {rest : List Char}
    (hascii : d.toNat < 128) (hletter : d.isAlpha = false) (hd : d ∈ lowerAt afterCased c rest) :
    c = d := by
  by_cases hc : c.toNat < 128
  · rw [lowerAt_of_ascii hc, List.mem_singleton] at hd
    have hlower : ∀ n < 128, (Char.ofNat n).toLower.isAlpha = false →
        Char.ofNat n = (Char.ofNat n).toLower := by decide
    have hself := hlower c.toNat hc
    rw [Char.ofNat_toNat, ← hd] at hself
    exact hself hletter
  · rcases lowerAt_of_not_ascii (Nat.le_of_not_lt hc) afterCased rest with h | ⟨e, h, he⟩
    · rw [h, List.mem_pair] at hd
      rcases hd with rfl | rfl
      · exact absurd hletter (by decide)
      · exact absurd hascii (by decide)
    · rw [h, List.mem_singleton] at hd
      subst hd
      rcases he with hlarge | rfl
      · omega
      · exact absurd hletter (by decide)

/-- One of the first 128 characters that is no letter stands in a text in lower case exactly if it
stands in the text. -/
theorem mem_lowerFrom_iff {text : List Char} {d : Char} (hascii : d.toNat < 128)
    (hletter : d.isAlpha = false) (afterCased : Bool) :
    d ∈ lowerFrom afterCased text ↔ d ∈ text := by
  induction text generalizing afterCased with
  | nil => rfl
  | cons c text ih =>
    rw [lowerFrom_cons, List.mem_append, ih, List.mem_cons]
    refine or_congr_left ⟨fun hd => (eq_of_mem_lowerAt hascii hletter hd).symm, ?_⟩
    rintro rfl
    have hlower : ∀ n < 128, (Char.ofNat n).isAlpha = false →
        (Char.ofNat n).toLower = Char.ofNat n := by decide
    have hself := hlower d.toNat hascii
    rw [Char.ofNat_toNat] at hself
    rw [lowerAt_of_ascii hascii, hself hletter]
    exact List.mem_singleton_self d

/-- Whether a text goes on with a letter shows at the first character that is not passed over. -/
theorem startsCased_cons (c : Char) (rest : List Char) :
    startsCased (c :: rest) = if isCaseIgnorable c then startsCased rest else isCased c := by
  by_cases hc : isCaseIgnorable c = true <;> simp [startsCased, hc]

/-- A character without a case that is not passed over ends the search for a letter. -/
theorem startsCased_append_of_uncased (line rest : List Char) {c : Char}
    (hignorable : isCaseIgnorable c = false) (hcased : isCased c = false) :
    startsCased (line ++ c :: rest) = startsCased line := by
  induction line with
  | nil => simp [startsCased, hignorable, hcased]
  | cons d line ih => rw [List.cons_append, startsCased_cons, startsCased_cons, ih]

/-- A character without a case that is not passed over parts a text: what stands before it and
what stands behind it are put into lower case by themselves. -/
theorem lowerFrom_append_of_uncased (afterCased : Bool) (line rest : List Char) {c : Char}
    (hascii : c.toNat < 128) (hignorable : isCaseIgnorable c = false)
    (hcased : isCased c = false) :
    lowerFrom afterCased (line ++ c :: rest) =
      lowerFrom afterCased line ++ c.toLower :: lowercase rest := by
  induction line generalizing afterCased with
  | nil =>
    rw [List.nil_append, lowerFrom_cons, lowerAt_of_ascii hascii, casedBehind, hignorable, hcased]
    rfl
  | cons d line ih =>
    rw [List.cons_append, lowerFrom_cons, lowerFrom_cons, ih, List.append_assoc,
      lowerAt_congr afterCased d (startsCased_append_of_uncased line rest hignorable hcased)]

/-- Behind any beginning the lower-case form goes on with that of the rest. -/
theorem exists_lowerFrom_append (front rest : List Char) (afterCased : Bool) :
    ∃ before cased, lowerFrom afterCased (front ++ rest) = before ++ lowerFrom cased rest := by
  induction front generalizing afterCased with
  | nil => exact ⟨[], afterCased, rfl⟩
  | cons c front ih =>
    obtain ⟨before, cased, hrest⟩ := ih (casedBehind afterCased c)
    refine ⟨lowerAt afterCased c (front ++ rest) ++ before, cased, ?_⟩
    rw [List.cons_append, lowerFrom_cons, hrest, List.append_assoc]

/-- A text without the separator is one piece. -/
theorem splitAt_of_not_mem {separator : Char} {text : List Char} (h : separator ∉ text) :
    splitAt separator text = [text] := by
  induction text with
  | nil => rfl
  | cons c text ih =>
    simp only [List.mem_cons, not_or] at h
    rw [splitAt, if_neg (Ne.symm h.1), ih h.2]

/-- A separator parts the piece before it from those behind it. -/
theorem splitAt_append_cons {separator : Char} {piece : List Char} (h : separator ∉ piece)
    (rest : List Char) :
    splitAt separator (piece ++ separator :: rest) = piece :: splitAt separator rest := by
  induction piece with
  | nil => simp [splitAt]
  | cons c piece ih =>
    simp only [List.mem_cons, not_or] at h
    rw [List.cons_append, splitAt, if_neg (Ne.symm h.1), ih h.2]

/-- A separator parts the pieces before it from those behind it. -/
theorem splitAt_append (separator : Char) (front rest : List Char) :
    splitAt separator (front ++ separator :: rest) =
      splitAt separator front ++ splitAt separator rest := by
  induction front with
  | nil => simp [splitAt]
  | cons c front ih =>
    rw [List.cons_append, splitAt, splitAt, ih]
    split_ifs
    · rfl
    · obtain ⟨piece, pieces, hfront⟩ := List.exists_cons_of_ne_nil (splitAt_ne_nil separator front)
      rw [hfront]
      rfl

/-- A text is its last piece, or a piece with a separator and a shorter text behind it. -/
theorem piece_induction (separator : Char) {motive : List Char → Prop}
    (last : ∀ piece, separator ∉ piece → motive piece)
    (more : ∀ piece rest, separator ∉ piece → motive rest → motive (piece ++ separator :: rest))
    (text : List Char) : motive text := by
  induction hlength : text.length using Nat.strong_induction_on generalizing text with
  | _ length ih =>
    by_cases hmem : separator ∈ text
    · obtain ⟨piece, rest, rfl, hpiece⟩ := List.eq_append_cons_of_mem hmem
      have hshorter : rest.length < length := by
        rw [← hlength, List.length_append, List.length_cons]
        omega
      exact more piece rest hpiece (ih rest.length hshorter rest rfl)
    · exact last text hmem

/-- A text is its last line, or a line with a line feed and a shorter text behind it. -/
theorem line_induction {motive : List Char → Prop}
    (last : ∀ line, '\n' ∉ line → motive line)
    (more : ∀ line rest, '\n' ∉ line → motive rest → motive (line ++ '\n' :: rest))
    (text : List Char) : motive text :=
  piece_induction '\n' last more text

/-- The lines of a text have no line feeds. -/
theorem feed_not_mem_of_mem_lines {text line : List Char} (h : line ∈ lines text) :
    '\n' ∉ line := by
  induction text using line_induction with
  | last only honly =>
    rw [lines, splitAt_of_not_mem honly, List.mem_singleton] at h
    rwa [h]
  | more first rest hfirst ih =>
    rw [lines, splitAt_append_cons hfirst, List.mem_cons] at h
    rcases h with rfl | hrest
    · exact hfirst
    · exact ih hrest

/-- A line in lower case is still one line. -/
theorem feed_not_mem_lowerFrom {line : List Char} (hline : '\n' ∉ line) (afterCased : Bool) :
    '\n' ∉ lowerFrom afterCased line :=
  fun hfeed => hline ((mem_lowerFrom_iff (by decide) (by decide) afterCased).mp hfeed)

/-- The lines of a text in lower case are its lines, each put into lower case by itself. -/
theorem lines_lowercase (text : List Char) :
    lines (lowercase text) = (lines text).map lowercase := by
  induction text using line_induction with
  | last line hline =>
    simp only [lines, lowercase, splitAt_of_not_mem hline, List.map_singleton,
      splitAt_of_not_mem (feed_not_mem_lowerFrom hline false)]
  | more line rest hline ih =>
    have hparted : lowercase (line ++ '\n' :: rest) = lowercase line ++ '\n' :: lowercase rest :=
      lowerFrom_append_of_uncased false line rest (by decide) (by decide) (by decide)
    have hlower : '\n' ∉ lowercase line := feed_not_mem_lowerFrom hline false
    rw [lines, hparted, splitAt_append_cons hlower, lines, splitAt_append_cons hline,
      List.map_cons]
    exact congrArg (lowercase line :: ·) ih

/-- A word begins a text before a character that is not in the word exactly if it begins what
stands before that character. -/
theorem prefix_append_cons_iff {word : List Char} {c : Char} (hword : c ∉ word)
    (before behind : List Char) : word <+: before ++ c :: behind ↔ word <+: before := by
  induction before generalizing word with
  | nil =>
    cases word with
    | nil => simp
    | cons d word =>
      have hd : d ≠ c := fun hd => hword (by simp [hd])
      simp [hd]
  | cons d before ih =>
    cases word with
    | nil => simp
    | cons e word =>
      have htail : c ∉ word := fun hc => hword (List.mem_cons_of_mem e hc)
      rw [List.cons_append, List.cons_prefix_cons, List.cons_prefix_cons, ih htail]

/-- A word stands in a text around a character that is not in the word exactly if it stands before
or behind that character. -/
theorem infix_append_cons_iff {word : List Char} {c : Char} (hword : c ∉ word)
    (before behind : List Char) :
    word <:+: before ++ c :: behind ↔ word <:+: before ∨ word <:+: behind := by
  induction before with
  | nil =>
    have hprefix := prefix_append_cons_iff hword [] behind
    rw [List.nil_append] at hprefix ⊢
    rw [List.infix_cons_iff, hprefix, List.prefix_nil, List.infix_nil]
  | cons d before ih =>
    have hprefix := prefix_append_cons_iff hword (d :: before) behind
    rw [List.cons_append] at hprefix ⊢
    rw [List.infix_cons_iff, hprefix, ih, List.infix_cons_iff, or_assoc]

/-- A word without line feeds stands in a text exactly if it stands in one of the lines. -/
theorem infix_iff_exists_line {word : List Char} (hword : '\n' ∉ word) (text : List Char) :
    word <:+: text ↔ ∃ line ∈ lines text, word <:+: line := by
  induction text using line_induction with
  | last line hline => simp [lines, splitAt_of_not_mem hline]
  | more line rest hline ih =>
    rw [infix_append_cons_iff hword, ih, lines, lines, splitAt_append_cons hline,
      List.exists_mem_cons_iff]

end OrderOfGrowth.Text

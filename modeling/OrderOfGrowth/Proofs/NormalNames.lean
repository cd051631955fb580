import Mathlib.Data.List.DropRight
import OrderOfGrowth.Language
import OrderOfGrowth.Proofs.LowerCase

/-!
# Names in normal form

A name is compared in lower case and without blanks around it. Putting a text into lower case
leads to characters that are their own lower-case forms, and never makes a blank out of a
character that is not one, so a name in normal form is its own normal form.
-/

namespace OrderOfGrowth.Text

/-- The lower-case form of the first character of a run. -/
def CaseRun.lowest (run : CaseRun) : ℕ := (run.first + run.shift).toNat

/-- The lower-case form of the last character of a run. -/
def CaseRun.highest (run : CaseRun) : ℕ := (run.last + run.shift).toNat

/-- A check that no lower-case form of a run's characters belongs to another run: all of them lie
on one side of it, or the two keep to numbers of different parity. -/
def CaseRun.misses (run other : CaseRun) : Bool :=
  bif Nat.blt other.last run.lowest then true
  else bif Nat.blt run.highest other.first then true
  else (run.stride % 2 == 0 || run.first == run.last) && other.stride % 2 == 0 &&
    run.lowest % 2 != other.first % 2

/-- The characters of a run with an even stride all have the parity of the first. -/
theorem CaseRun.mod_two_of_covers {run : CaseRun} {code : ℕ} (hcovers : run.covers code = true)
    (hstride : run.stride % 2 = 0 ∨ run.first = run.last) : code % 2 = run.first % 2 := by
  simp only [CaseRun.covers, Bool.and_eq_true, decide_eq_true_eq, beq_iff_eq] at hcovers
  obtain ⟨⟨hfirst, hlast⟩, hmod⟩ := hcovers
  rcases hstride with heven | hone
  · have hdvd : 2 ∣ code - run.first :=
      Nat.dvd_trans (Nat.dvd_of_mod_eq_zero heven) (Nat.dvd_of_mod_eq_zero hmod)
    omega
  · omega

/-- A run that passes the check against another leads to no character of the other. -/
theorem CaseRun.not_covers_of_misses {run other : CaseRun} {code : ℕ}
    (hmisses : run.misses other = true) (hshift : 0 ≤ run.first + run.shift)
    (hcovers : run.covers code = true) : other.covers (code + run.shift).toNat = false := by
  have hbounds := hcovers
  simp only [CaseRun.covers, Bool.and_eq_true, decide_eq_true_eq] at hbounds
  by_contra hother
  rw [Bool.not_eq_false] at hother
  have hinside := hother
  simp only [CaseRun.covers, Bool.and_eq_true, decide_eq_true_eq] at hinside
  have hlow : ¬ other.last < run.lowest := by
    rw [CaseRun.lowest]
    omega
  have hhigh : ¬ run.highest < other.first := by
    rw [CaseRun.highest]
    omega
  simp only [CaseRun.misses, Nat.blt_eq, hlow, hhigh, Bool.cond_eq_ite, if_false,
    Bool.and_eq_true, Bool.or_eq_true, beq_iff_eq, bne_iff_ne] at hmisses
  obtain ⟨⟨hstride, hotherStride⟩, hparity⟩ := hmisses
  have hcode := mod_two_of_covers hcovers hstride
  have himage := mod_two_of_covers hother (Or.inl hotherStride)
  apply hparity
  rw [CaseRun.lowest]
  omega

/-- A run that leads away from every character with a rule of its own: from all runs, from the two
special capitals, and from the blank characters. -/
structure CaseRun.IsClear (run : CaseRun) : Prop where
  shift : 0 ≤ run.first + run.shift
  dotted : run.highest < 0x130 ∨ 0x130 < run.lowest
  sigma : run.highest < 0x3A3 ∨ 0x3A3 < run.lowest
  blank : ∀ range ∈ blankRanges, run.highest < range.1 ∨ range.2 < run.lowest
  misses : ∀ other ∈ caseRuns, run.misses other = true

/-- All runs are clear of the characters with a rule of their own. -/
theorem isClear_of_mem_caseRuns {run : CaseRun} (hrun : run ∈ caseRuns) : run.IsClear := by
  have hall : ∀ run ∈ caseRuns, 0 ≤ run.first + run.shift ∧
      (run.highest < 0x130 ∨ 0x130 < run.lowest) ∧ (run.highest < 0x3A3 ∨ 0x3A3 < run.lowest) ∧
      (∀ range ∈ blankRanges, run.highest < range.1 ∨ range.2 < run.lowest) ∧
      caseRuns.all run.misses = true := by decide +kernel
  obtain ⟨hshift, hdotted, hsigma, hblank, hmisses⟩ := hall run hrun
  exact ⟨hshift, hdotted, hsigma, hblank, List.all_eq_true.mp hmisses⟩

/-- A character that is its own lower-case form wherever it stands. -/
def IsSettled (c : Char) : Prop := c ≠ 'Σ' ∧ lowerChar c = [c]

/-- The characters that the two special rules lead to: the small sigmas, and the parts of the
small letter for the dotted capital I. -/
def specialForms : List Char := ['ς', 'σ', 'i', '\u0307']

/-- Where a character of a lower-case form comes from: the first 128 characters, a special rule, a
character that is its own form, or a run. -/
theorem mem_lowerAt_cases {c d : Char} {afterCased : Bool} {rest : List Char}
    (hd : d ∈ lowerAt afterCased c rest) :
    (c.toNat < 128 ∧ d = c.toLower) ∨ d ∈ specialForms ∨ (d = c ∧ IsSettled c) ∨
      ∃ run ∈ caseRuns, run.covers c.toNat = true ∧ 128 ≤ c.toNat ∧
        d = Char.ofNat (c.toNat + run.shift).toNat := by
  by_cases hascii : c.toNat < 128
  · rw [lowerAt_of_ascii hascii, List.mem_singleton] at hd
    exact Or.inl ⟨hascii, hd⟩
  right
  by_cases hsigma : c = 'Σ'
  · rw [lowerAt, if_pos hsigma, List.mem_singleton] at hd
    rw [hd]
    left
    split <;> decide
  rw [lowerAt, if_neg hsigma, lowerChar, if_neg hascii] at hd
  by_cases hdotted : c = '\u0130'
  · rw [if_pos hdotted, List.mem_pair] at hd
    left
    rcases hd with rfl | rfl <;> decide
  rw [if_neg hdotted] at hd
  right
  cases hfind : caseRuns.find? (·.covers c.toNat) with
  | none =>
    rw [hfind, List.mem_singleton] at hd
    refine Or.inl ⟨hd, hsigma, ?_⟩
    rw [lowerChar, if_neg hascii, if_neg hdotted, hfind]
  | some run =>
    rw [hfind, List.mem_singleton] at hd
    have hcovers : run.covers c.toNat = true := by simpa using List.find?_some hfind
    exact Or.inr ⟨run, List.mem_of_find?_eq_some hfind, hcovers, Nat.le_of_not_lt hascii, hd⟩

/-- The lower-case forms of the first 128 characters are settled, and blank only for blanks. -/
theorem toLower_of_ascii {c : Char} (hascii : c.toNat < 128) :
    IsSettled c.toLower ∧ (isBlank c = false → isBlank c.toLower = false) := by
  have hall : ∀ n < 128, ((Char.ofNat n).toLower ≠ 'Σ' ∧
      lowerChar (Char.ofNat n).toLower = [(Char.ofNat n).toLower]) ∧
      (isBlank (Char.ofNat n) = false → isBlank (Char.ofNat n).toLower = false) := by
    decide +kernel
  have hself := hall c.toNat hascii
  rw [Char.ofNat_toNat] at hself
  exact hself

/-- The characters that the special rules lead to are settled, and none of them is blank. -/
theorem isSettled_of_mem_specialForms {d : Char} (hd : d ∈ specialForms) :
    IsSettled d ∧ isBlank d = false := by
  have hall : specialForms.all
      (fun d => (d ≠ 'Σ' ∧ lowerChar d = [d]) ∧ isBlank d = false) = true := by decide +kernel
  have hself : (d ≠ 'Σ' ∧ lowerChar d = [d]) ∧ isBlank d = false :=
    of_decide_eq_true (List.all_eq_true.mp hall d hd)
  exact hself

/-- The characters that a run leads to are settled. -/
theorem isSettled_of_covers {run : CaseRun} (hrun : run ∈ caseRuns) {code : ℕ}
    (hcovers : run.covers code = true) (hcode : 128 ≤ code) :
    IsSettled (Char.ofNat (code + run.shift).toNat) := by
  have hbounds := hcovers
  simp only [CaseRun.covers, Bool.and_eq_true, decide_eq_true_eq] at hbounds
  obtain ⟨hvalid, himage⟩ := shifted_of_mem_caseRuns hrun hbounds.1.1 hbounds.1.2 hcode
  have hnat := toNat_ofNat_of_isValidChar hvalid
  rcases himage with himage | hk
  · obtain ⟨hshift, hdotted, hsigma, -, hmisses⟩ := isClear_of_mem_caseRuns hrun
    rw [CaseRun.lowest, CaseRun.highest] at hdotted hsigma
    have hfree : caseRuns.find? (·.covers (code + run.shift).toNat) = none := by
      rw [List.find?_eq_none]
      intro other hother
      rw [CaseRun.not_covers_of_misses (hmisses other hother) hshift hcovers]
      exact Bool.false_ne_true
    refine ⟨?_, ?_⟩
    · intro h
      have hnumber := hnat.symm.trans (congrArg Char.toNat h)
      rw [show 'Σ'.toNat = 0x3A3 from rfl] at hnumber
      omega
    · have hplain : Char.ofNat (code + run.shift).toNat ≠ '\u0130' := by
        intro h
        have hnumber := hnat.symm.trans (congrArg Char.toNat h)
        rw [show '\u0130'.toNat = 0x130 from rfl] at hnumber
        omega
      rw [lowerChar, hnat, if_neg (by omega), if_neg hplain, hfree]
  · have hletter : Char.ofNat (code + run.shift).toNat = 'k' := by
      rw [hk, Char.ofNat_toNat]
    rw [hletter]
    exact ⟨by decide, by decide⟩

/-- The characters of a lower-case form are settled. -/
theorem isSettled_of_mem_lowerAt {c d : Char} {afterCased : Bool} {rest : List Char}
    (hd : d ∈ lowerAt afterCased c rest) : IsSettled d := by
  rcases mem_lowerAt_cases hd with ⟨hascii, rfl⟩ | hspecial | ⟨rfl, hself⟩ |
    ⟨run, hrun, hcovers, hcode, rfl⟩
  · exact (toLower_of_ascii hascii).1
  · exact (isSettled_of_mem_specialForms hspecial).1
  · exact hself
  · exact isSettled_of_covers hrun hcovers hcode

/-- The characters of a text in lower case are settled. -/
theorem isSettled_of_mem_lowerFrom {text : List Char} {afterCased : Bool} {d : Char}
    (hd : d ∈ lowerFrom afterCased text) : IsSettled d := by
  induction text generalizing afterCased with
  | nil => exact absurd hd List.not_mem_nil
  | cons c rest ih =>
    rw [lowerFrom_cons, List.mem_append] at hd
    exact hd.elim isSettled_of_mem_lowerAt ih

/-- A text of settled characters is its own lower-case form. -/
theorem lowerFrom_of_isSettled {text : List Char} (hsettled : ∀ c ∈ text, IsSettled c)
    (afterCased : Bool) : lowerFrom afterCased text = text := by
  induction text generalizing afterCased with
  | nil => rfl
  | cons c rest ih =>
    obtain ⟨hsigma, hself⟩ := hsettled c List.mem_cons_self
    rw [lowerFrom_cons, ih fun d hd => hsettled d (List.mem_cons_of_mem c hd), lowerAt,
      if_neg hsigma, hself]
    rfl

/-- A text in lower case stays as it is when it is put into lower case. -/
theorem lowercase_lowercase (text : List Char) : lowercase (lowercase text) = lowercase text :=
  lowerFrom_of_isSettled (fun _ => isSettled_of_mem_lowerFrom) false

/-- The characters that a run leads to are not blank. -/
theorem isBlank_of_covers {run : CaseRun} (hrun : run ∈ caseRuns) {code : ℕ}
    (hcovers : run.covers code = true) (hcode : 128 ≤ code) :
    isBlank (Char.ofNat (code + run.shift).toNat) = false := by
  simp only [CaseRun.covers, Bool.and_eq_true, decide_eq_true_eq] at hcovers
  have hnat := toNat_ofNat_of_isValidChar
    (shifted_of_mem_caseRuns hrun hcovers.1.1 hcovers.1.2 hcode).1
  by_contra hblank
  rw [Bool.not_eq_false, isBlank, hnat] at hblank
  obtain ⟨range, hrange, hlow, hhigh⟩ := exists_of_inRanges hblank
  have hside := (isClear_of_mem_caseRuns hrun).blank range hrange
  rw [CaseRun.lowest, CaseRun.highest] at hside
  omega

/-- The lower-case form of a character that is not blank has no blank character. -/
theorem isBlank_of_mem_lowerAt {c d : Char} {afterCased : Bool} {rest : List Char}
    (hc : isBlank c = false) (hd : d ∈ lowerAt afterCased c rest) : isBlank d = false := by
  rcases mem_lowerAt_cases hd with ⟨hascii, rfl⟩ | hspecial | ⟨rfl, -⟩ |
    ⟨run, hrun, hcovers, hcode, rfl⟩
  · exact (toLower_of_ascii hascii).2 hc
  · exact (isSettled_of_mem_specialForms hspecial).2
  · exact hc
  · exact isBlank_of_covers hrun hcovers hcode

/-- The lower-case form of a character is not empty. -/
theorem lowerAt_ne_nil (afterCased : Bool) (c : Char) (rest : List Char) :
    lowerAt afterCased c rest ≠ [] := by
  by_cases hascii : c.toNat < 128
  · rw [lowerAt_of_ascii hascii]
    exact List.cons_ne_nil _ _
  · rcases lowerAt_of_not_ascii (Nat.le_of_not_lt hascii) afterCased rest with h | ⟨d, h, -⟩ <;>
      simp [h]

/-- A text without a blank character at either end. -/
def IsBare (text : List Char) : Prop :=
  (∀ c ∈ text.head?, isBlank c = false) ∧ ∀ c ∈ text.getLast?, isBlank c = false

/-- Nothing is taken off a text without a blank character at either end. -/
theorem trim_of_isBare {text : List Char} (hbare : IsBare text) : trim text = text := by
  obtain ⟨hhead, hlast⟩ := hbare
  have hfront : text.dropWhile isBlank = text := by
    rw [List.dropWhile_eq_self_iff]
    intro hlength
    rw [hhead _ (by simp [List.head?_eq_getElem?, hlength])]
    exact Bool.false_ne_true
  have hback : text.rdropWhile isBlank = text := by
    rw [List.rdropWhile_eq_self_iff]
    intro hne
    rw [hlast _ (by simp [List.getLast?_eq_getLast_of_ne_nil hne])]
    exact Bool.false_ne_true
  change (text.dropWhile isBlank).rdropWhile isBlank = text
  rw [hfront, hback]

/-- What is left when the blank characters at both ends are taken off has none there. -/
theorem isBare_trim (text : List Char) : IsBare (trim text) := by
  have hfront : ∀ c ∈ (text.dropWhile isBlank).head?, isBlank c = false := by
    intro c hc
    have hnot := List.head?_dropWhile_not isBlank text
    rw [Option.mem_def.mp hc] at hnot
    exact hnot
  refine ⟨fun c hc => hfront c ?_, fun c hc => ?_⟩
  · obtain ⟨back, hback⟩ := List.rdropWhile_prefix isBlank (text.dropWhile isBlank)
    have hsame : (trim text).head? = some c := Option.mem_def.mp hc
    change trim text ++ back = text.dropWhile isBlank at hback
    rw [← hback, List.head?_append, hsame, Option.some_or]
    exact rfl
  · obtain ⟨hne, rfl⟩ := List.mem_getLast?_eq_getLast hc
    exact Bool.not_eq_true _ ▸ List.rdropWhile_last_not isBlank (text.dropWhile isBlank) hne

/-- A text without a blank character at either end has none there in lower case. -/
theorem isBare_lowercase {text : List Char} (hbare : IsBare text) : IsBare (lowercase text) := by
  obtain ⟨hhead, hlast⟩ := hbare
  refine ⟨fun d hd => ?_, fun d hd => ?_⟩
  · cases text with
    | nil => exact absurd hd (by simp [lowercase, lowerFrom])
    | cons c rest =>
      obtain ⟨e, more, hlower⟩ := List.exists_cons_of_ne_nil (lowerAt_ne_nil false c rest)
      rw [lowercase, lowerFrom_cons, hlower, List.cons_append, List.head?_cons,
        Option.mem_some_iff] at hd
      apply isBlank_of_mem_lowerAt (hhead c rfl)
      rw [hlower, ← hd]
      exact List.mem_cons_self
  · rcases List.eq_nil_or_concat' text with rfl | ⟨front, c, rfl⟩
    · exact absurd hd (by simp [lowercase, lowerFrom])
    · -- the text ends in what its last character becomes
      obtain ⟨before, cased, hlower⟩ := exists_lowerFrom_append front [c] false
      rw [lowercase, hlower, lowerFrom_cons, lowerFrom, List.append_nil,
        List.getLast?_append_of_ne_nil _ (lowerAt_ne_nil cased c [])] at hd
      exact isBlank_of_mem_lowerAt (hlast c (by simp)) (List.mem_of_getLast? hd)

end OrderOfGrowth.Text

namespace OrderOfGrowth.Language

/-- A name in normal form is its own normal form. -/
theorem normalName_normalName (name : String) : normalName (normalName name) = normalName name := by
  have hbare := Text.isBare_lowercase (Text.isBare_trim name.toList)
  rw [normalName, normalName, String.toList_ofList, Text.trim_of_isBare hbare,
    Text.lowercase_lowercase]

end OrderOfGrowth.Language

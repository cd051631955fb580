import Mathlib.Data.List.TakeWhile
import OrderOfGrowth.Proofs.LowerCase
import OrderOfGrowth.Terminal.Lines

/-!
# Texts of characters that take one place each

A text in which every character takes one place has no controls, no tabulators, no line ends and no
joiners, so its width is its length. If it is not longer than a line it stays in one line, and if it
is, the lines it is broken into lose nothing but blanks at their ends.
-/

namespace OrderOfGrowth.Terminal

variable {text line : List Char} {words : List (List Char)} {limit : ℕ}

/-- Every character takes one place. -/
def IsSingleWidth (text : List Char) : Prop := ∀ c ∈ text, charWidth c = 1

instance (text : List Char) : Decidable (IsSingleWidth text) := text.decidableBAll _

/-- Two texts in a row are of characters of one place if both are. -/
theorem isSingleWidth_append {first second : List Char} :
    IsSingleWidth (first ++ second) ↔ IsSingleWidth first ∧ IsSingleWidth second :=
  List.forall_mem_append

/-- A text of characters of such a text is of characters of one place. -/
theorem IsSingleWidth.of_subset {part : List Char} (h : IsSingleWidth text) (hpart : part ⊆ text) :
    IsSingleWidth part := fun c hc => h c (hpart hc)

/-- A character that takes no place does not stand in such a text. -/
theorem IsSingleWidth.notMem {c : Char} (h : IsSingleWidth text) (hc : charWidth c = 0) :
    c ∉ text := fun hmem => by
  rw [h c hmem] at hc
  cases hc

/-- The characters from the blank to the tilde take one place. -/
theorem charWidth_of_ascii {c : Char} (h : ' ' ≤ c ∧ c ≤ '~') : charWidth c = 1 := by
  have hlow : 0x20 ≤ c.toNat := h.1
  have hhigh : c.toNat ≤ 0x7E := h.2
  have hmark : Text.inRanges markRanges c.toNat = false := by
    have hcontrol : ¬c.toNat ≤ 0x1F := by omega
    have hnext : c.toNat < 0x7F := by omega
    rw [markRanges, Text.inRanges, if_neg (Nat.not_lt_zero _), Text.inRanges, if_pos hnext,
      decide_eq_false hcontrol]
    rfl
  have hwide : Text.inRanges wideRanges c.toNat = false := by
    rw [wideRanges, Text.inRanges, if_pos (by omega)]
  rw [charWidth, hmark, hwide]
  rfl

/-- A text of such characters is of characters of one place. -/
theorem isSingleWidth_of_ascii (h : text.all fun c => ' ' ≤ c && c ≤ '~') : IsSingleWidth text := by
  intro c hc
  have hboth := List.all_eq_true.mp h c hc
  rw [Bool.and_eq_true, decide_eq_true_eq, decide_eq_true_eq] at hboth
  exact charWidth_of_ascii hboth

/-- Its width is its length. -/
theorem IsSingleWidth.width_eq (h : IsSingleWidth text) : width text = text.length := by
  induction text with
  | nil => rfl
  | cons c rest ih =>
    have hfirst := h c List.mem_cons_self
    have hrest := ih (h.of_subset (List.subset_cons_self c rest))
    cases rest with
    | nil => simpa [width] using hfirst
    | cons d rest =>
      have hjoiner : c ≠ joiner := by
        rintro rfl
        exact absurd hfirst (by decide +kernel)
      rw [width, if_neg hjoiner, hfirst, hrest, List.length_cons (a := c), Nat.add_comm]

/-- It has nothing that a terminal takes for a command. -/
theorem IsSingleWidth.printable_eq (h : IsSingleWidth text) : printable text = text := by
  refine List.filter_eq_self.mpr fun c hc => ?_
  rw [Bool.not_eq_true']
  by_contra hcontrol
  have hzero : charWidth c = 0 := by
    rw [Bool.not_eq_false] at hcontrol
    unfold isControl at hcontrol
    simp only [Bool.or_eq_true, beq_iff_eq] at hcontrol
    rcases hcontrol with (((rfl | rfl) | rfl) | rfl) | rfl <;> decide
  exact h.notMem hzero hc

/-- Without tabulators nothing is filled in. -/
theorem IsSingleWidth.expandTabs_eq (h : IsSingleWidth text) : expandTabs text = text := by
  rw [expandTabs, Text.splitAt_of_not_mem (h.notMem (by decide)), fillStops]

/-- A word that has begun is not lost. -/
theorem wordsFrom_ne_nil {state : WordState} (hstate : state ≠ .blank) (word rest : List Char) :
    wordsFrom state word rest ≠ [] := by
  induction rest generalizing state word with
  | nil => cases state <;> simp_all [wordsFrom]
  | cons c rest ih =>
    cases hblank : Text.isBlank c <;> cases state <;> simp only [wordsFrom, hblank]
    · exact absurd rfl hstate
    · exact ih (nofun : WordState.solid ≠ .blank) _
    · exact List.cons_ne_nil _ _
    · exact absurd rfl hstate
    · exact ih (nofun : WordState.ended ≠ .blank) _
    · exact ih (nofun : WordState.ended ≠ .blank) _

/-- The words of a line make it up, unless it has none. -/
theorem wordsFrom_eq_nil_or_flatten (state : WordState) (word rest : List Char) :
    wordsFrom state word rest = [] ∨ (wordsFrom state word rest).flatten = word ++ rest := by
  induction rest generalizing state word with
  | nil => cases state <;> simp [wordsFrom]
  | cons c rest ih =>
    have hextended (state : WordState) : wordsFrom state (word ++ [c]) rest = [] ∨
        (wordsFrom state (word ++ [c]) rest).flatten = word ++ c :: rest := by
      simpa using ih state (word ++ [c])
    cases hblank : Text.isBlank c <;> cases state <;> simp only [wordsFrom, hblank]
    · exact hextended .solid
    · exact hextended .solid
    · have hbegun :=
        (ih .solid [c]).resolve_left (wordsFrom_ne_nil (nofun : WordState.solid ≠ .blank) [c] rest)
      exact .inr (by rw [List.flatten_cons, hbegun]; rfl)
    · exact hextended .blank
    · exact hextended .ended
    · exact hextended .ended

/-- Behind the end of a text without the blanks there are blanks only. -/
theorem exists_blanks (text : List Char) :
    ∃ blanks, (∀ c ∈ blanks, Text.isBlank c = true) ∧ text = trimEnd text ++ blanks := by
  refine ⟨(text.reverse.takeWhile Text.isBlank).reverse, fun c hc => ?_, ?_⟩
  · exact List.mem_takeWhile_imp (List.mem_reverse.mp hc)
  · have h := congrArg List.reverse (List.takeWhile_append_dropWhile (p := Text.isBlank)
      (l := text.reverse))
    rw [List.reverse_append, List.reverse_reverse] at h
    exact h.symm

/-- The characters that are not blank. -/
def visible (text : List Char) : List Char := text.filter (!Text.isBlank ·)

theorem visible_append (first second : List Char) :
    visible (first ++ second) = visible first ++ visible second := List.filter_append ..

/-- Of blanks nothing is visible. -/
theorem visible_eq_nil {blanks : List Char} (h : ∀ c ∈ blanks, Text.isBlank c = true) :
    visible blanks = [] := List.filter_eq_nil_iff.mpr fun c hc => by simp [h c hc]

/-- A line loses only blanks when those that stand out are left out. -/
theorem visible_trimExcess (limit : ℕ) (line : List Char) :
    visible (trimExcess limit line) = visible line := by
  obtain ⟨blanks, hblanks, hline⟩ := exists_blanks line
  unfold trimExcess
  generalize hsize : max limit (trimEnd line).length = size
  have hle : (trimEnd line).length ≤ size := hsize ▸ le_max_right _ _
  generalize trimEnd line = body at hline hle
  rw [hline, List.take_append, List.take_of_length_le hle, visible_append, visible_append,
    visible_eq_nil hblanks, visible_eq_nil fun c hc => hblanks c (List.take_subset _ _ hc)]

/-- The pieces of a text make it up. -/
theorem flatten_chop (limit : ℕ) (text : List Char) : (chop limit text).flatten = text := by
  have hfrom : ∀ (clusters : List (List Char)) (piece : List Char),
      (chopFrom limit piece clusters).flatten = piece ++ clusters.flatten := by
    intro clusters
    induction clusters with
    | nil => simp [chopFrom]
    | cons cluster rest ih =>
      intro piece
      rw [chopFrom]
      split <;> simp [ih]
  rw [chop, hfrom, flatten_clusters, List.nil_append]

/-- The lines that words are put into make up the words. -/
theorem flatten_fillLines (limit : ℕ) (line : List Char) (words : List (List Char)) :
    (fillLines .cut limit line words).flatten = line ++ words.flatten := by
  have hbefore (line : List Char) :
      (if line.isEmpty then [] else [line] : List (List Char)).flatten = line := by
    cases line <;> simp
  induction words generalizing line with
  | nil => simp [fillLines]
  | cons word rest ih =>
    simp only [fillLines]
    split
    · rw [ih, List.flatten_cons, List.append_assoc]
    split
    · rw [List.flatten_append, hbefore, ih, List.flatten_cons]
    · have hpieces : (chop limit word).dropLast.flatten ++ (chop limit word).getLast?.getD [] =
          word := by
        conv_rhs => rw [← flatten_chop limit word]
        rcases List.eq_nil_or_concat (chop limit word) with hnil | ⟨front, last, hlast⟩
        · rw [hnil]
          rfl
        · rw [hlast]
          simp
      rw [List.flatten_append, List.flatten_append, hbefore, ih, List.flatten_cons,
        List.append_assoc, ← List.append_assoc _ _ rest.flatten, hpieces]

/-- There is always a line. -/
theorem fillLines_ne_nil (limit : ℕ) (line : List Char) (words : List (List Char)) :
    fillLines .cut limit line words ≠ [] := by
  induction words generalizing line with
  | nil => simp [fillLines]
  | cons word rest ih =>
    simp only [fillLines]
    split
    · exact ih _
    split
    · exact List.append_ne_nil_of_right_ne_nil _ (ih _)
    · exact List.append_ne_nil_of_right_ne_nil _ (ih _)

/-- Words that fit into a line behind what is there stay in it. -/
theorem fillLines_of_length_le (hsingle : IsSingleWidth (line ++ words.flatten))
    (hlength : (line ++ words.flatten).length ≤ limit) :
    fillLines .cut limit line words = [line ++ words.flatten] := by
  induction words generalizing line with
  | nil => simp [fillLines]
  | cons word rest ih =>
    rw [List.flatten_cons, ← List.append_assoc] at hsingle hlength ⊢
    have hword := (isSingleWidth_append.mp (isSingleWidth_append.mp hsingle).1)
    have hfits : width line + width (trimEnd word) ≤ limit := by
      obtain ⟨blanks, -, hsplit⟩ := exists_blanks word
      have hend : trimEnd word ⊆ word := by
        conv_rhs => rw [hsplit]
        exact List.subset_append_left _ _
      rw [hword.1.width_eq, (hword.2.of_subset hend).width_eq]
      have hle : (trimEnd word).length ≤ word.length := by
        conv_rhs => rw [hsplit]
        simp
      simp only [List.length_append] at hlength
      omega
    simp only [fillLines]
    rw [if_pos hfits]
    exact ih hsingle hlength

/-- A text of characters of one place is broken into lines that make it up, before blanks that stand
out are left out. -/
theorem IsSingleWidth.exists_lines (h : IsSingleWidth text) (limit : ℕ) :
    ∃ first others, (first :: others).flatten = text ∧
      wrap limit text = (first :: others).map (trimExcess limit) ∧
      (text.length ≤ limit → others = []) := by
  have hwrap : wrap limit text = wrapLine .cut limit text := by
    rw [wrap, wrapWith, h.printable_eq, Text.lines,
      Text.splitAt_of_not_mem (h.notMem (by decide)), List.flatMap_cons, List.flatMap_nil,
      List.append_nil, h.expandTabs_eq]
  rw [hwrap, wrapLine]
  cases hwords : wordsFrom .blank [] text with
  | nil => exact ⟨text, [], by simp, rfl, fun _ => rfl⟩
  | cons word words =>
    have hflatten : (word :: words).flatten = text := by
      rw [← hwords]
      exact (wordsFrom_eq_nil_or_flatten _ _ _).resolve_left (by simp [hwords])
    obtain ⟨first, others, hlines⟩ :=
      List.exists_cons_of_ne_nil (fillLines_ne_nil limit [] (word :: words))
    refine ⟨first, others, ?_, ?_, fun hlength => ?_⟩
    · rw [← hlines, flatten_fillLines, hflatten]
      rfl
    · simp [hlines]
    · rw [fillLines_of_length_le (by simpa [hflatten] using h) (by simpa [hflatten] using hlength)]
        at hlines
      exact (List.cons.inj hlines).2.symm

/-- A text that is not longer than a line stays in one. -/
theorem IsSingleWidth.wrap_of_length_le (h : IsSingleWidth text) (hlength : text.length ≤ limit) :
    wrap limit text = [text] := by
  obtain ⟨first, others, hflatten, hwrap, hothers⟩ := h.exists_lines limit
  rw [hothers hlength] at hflatten hwrap
  obtain rfl : first = text := by simpa using hflatten
  rw [hwrap, List.map_singleton, trimExcess,
    List.take_of_length_le (hlength.trans (le_max_left _ _))]

/-- What is visible of a text is visible in its lines. -/
theorem IsSingleWidth.visible_flatten_wrap (h : IsSingleWidth text) (limit : ℕ) :
    visible (wrap limit text).flatten = visible text := by
  obtain ⟨first, others, hflatten, hwrap, -⟩ := h.exists_lines limit
  rw [hwrap, ← hflatten]
  induction first :: others with
  | nil => rfl
  | cons line lines ih =>
    rw [List.map_cons, List.flatten_cons, List.flatten_cons, visible_append, visible_append,
      visible_trimExcess, ih]

/-- The first line has characters of the text, and what is visible of it is what is visible first
of the text. -/
theorem IsSingleWidth.exists_first_line (h : IsSingleWidth text) (limit : ℕ) :
    ∃ first others, wrap limit text = first :: others ∧ first ⊆ text ∧
      visible first <+: visible text := by
  obtain ⟨first, others, hflatten, hwrap, -⟩ := h.exists_lines limit
  refine ⟨_, _, hwrap, ?_, ?_⟩
  · rw [← hflatten, List.flatten_cons]
    exact List.Subset.trans (List.take_subset _ _) (List.subset_append_left _ _)
  · rw [visible_trimExcess, ← hflatten, List.flatten_cons, visible_append]
    exact List.prefix_append _ _

end OrderOfGrowth.Terminal

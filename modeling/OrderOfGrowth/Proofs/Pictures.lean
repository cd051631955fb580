import OrderOfGrowth.Proofs.LowerCase
import OrderOfGrowth.Terminal.Markup

/-!
# Texts without pictures

A screen shows pictures in each part of a styled text by itself. What is visible of the whole text
but for pictures are its parts in a row. If no name between two colons has a picture there, then
none of the parts has one, and the text is shown as it is visible. A text with a single colon has
no such name, and a blank parts a name from what stands before it.
-/

namespace OrderOfGrowth.Terminal

variable {screen : Screen} {text front rest part name : List Char} {count : ℕ}

@[simp] theorem backslashes_zero : backslashes 0 = [] := rfl

theorem backslashes_succ (count : ℕ) : backslashes (count + 1) = '\\' :: backslashes count := rfl

/-- One more backslash in front of a text is one more behind the others. -/
theorem backslashes_append_cons (count : ℕ) (rest : List Char) :
    backslashes count ++ '\\' :: rest = backslashes (count + 1) ++ rest := by
  simp [backslashes, List.replicate_succ']

/-- The visible part of a text behind `count` backslashes; `inTag` says whether the text continues a
tag. Of the backslashes before a tag every pair leaves one and an odd one is used up, and before any
other bracket one is used up. -/
def visibleFrom : Bool → ℕ → List Char → List Char
  | _, count, [] => backslashes count
  | true, _, c :: rest => visibleFrom (c != ']') 0 rest
  | false, count, c :: rest =>
    if c = '\\' then visibleFrom false (count + 1) rest
    else if c = '[' then
      if (tagBody? rest).isSome then
        if count % 2 = 0 then backslashes (count / 2) ++ visibleFrom true 0 rest
        else backslashes (count / 2) ++ '[' :: visibleFrom false 0 rest
      else backslashes (count - 1) ++ '[' :: visibleFrom false 0 rest
    else backslashes count ++ c :: visibleFrom false 0 rest

/-- What a tag begins with is no backslash, and a closing bracket follows it. -/
theorem isSome_untilClosing?_of_tagBody? (h : (tagBody? text).isSome = true) :
    (untilClosing? text).isSome = true := by
  cases text with
  | nil => cases h
  | cons c rest =>
    rw [tagBody?] at h
    rw [untilClosing?]
    split_ifs at h with hstart
    have hclosing : c ≠ ']' := fun hc => by simp [hc, startsTag] at hstart
    have hopen : c ≠ '[' := fun hc => by simp [hc, startsTag] at hstart
    rw [if_neg hclosing, if_neg hopen]
    · exact h
    · cases h

/-- The parts of a text in a row are what is visible of it. A tag that is escaped ends before the
next opening bracket, and so its body is visible as it is. -/
theorem flatten_partsFrom (text : List Char) (count : ℕ) (part : List Char) :
    (partsFrom .plain count part text).flatten = part ++ visibleFrom false count text ∧
    (partsFrom .tag 0 part text).flatten = part ++ visibleFrom true 0 text ∧
    ((untilClosing? text).isSome = true →
      (partsFrom .escaped 0 (part ++ backslashes count) text).flatten =
        part ++ visibleFrom false count text) := by
  induction text generalizing count part with
  | nil => simp [partsFrom, visibleFrom, untilClosing?]
  | cons c rest ih =>
    refine ⟨?_, ?_, fun hclosing => ?_⟩
    · rw [partsFrom, visibleFrom]
      split_ifs with hbackslash hopen htag heven
      · exact (ih _ _).1
      · rw [List.flatten_cons, List.flatten_cons, (ih 0 []).2.1, List.nil_append]
      · have hrest := (ih 0 ['[']).2.2 (isSome_untilClosing?_of_tagBody? htag)
        rw [backslashes_zero, List.append_nil] at hrest
        rw [List.flatten_cons, List.flatten_cons, hrest, List.singleton_append]
      · rw [(ih _ _).1]
        simp
      · rw [(ih _ _).1]
        simp
    · rw [partsFrom, visibleFrom]
      by_cases hclosing : c = ']'
      · rw [if_pos hclosing, (ih _ _).1, hclosing]
        rfl
      · rw [if_neg hclosing, (ih 0 part).2.1, bne_iff_ne.mpr hclosing]
    · rw [untilClosing?] at hclosing
      rw [partsFrom, visibleFrom]
      by_cases hend : c = ']'
      · rw [if_pos hend, List.flatten_cons, (ih 0 []).1, hend]
        simp
      rw [if_neg hend] at hclosing ⊢
      have hopen : c ≠ '[' := fun hopen => by simp [hopen] at hclosing
      have hrest : (untilClosing? rest).isSome = true := by simpa [hopen] using hclosing
      rw [if_neg hopen]
      split_ifs with hbackslash
      · have hmore := (ih (count + 1) part).2.2 hrest
        rw [← hmore, hbackslash, List.append_assoc, backslashes_append_cons, List.append_nil]
      · have hmore := (ih 0 (part ++ backslashes count ++ [c])).2.2 hrest
        rw [backslashes_zero, List.append_nil] at hmore
        rw [hmore]
        simp

/-- A name that can stand between two colons. -/
def IsBareName (name : List Char) : Prop := ':' ∉ name ∧ ∀ c ∈ name, Text.isBlank c = false

/-- A name before a colon is bare, and the colon follows it. -/
theorem of_nameBeforeColon? (h : nameBeforeColon? text = some name) :
    IsBareName name ∧ ∃ behind, text = name ++ ':' :: behind := by
  induction text generalizing name with
  | nil => cases h
  | cons c rest ih =>
    rw [nameBeforeColon?] at h
    split_ifs at h with hcolon hblank
    · obtain rfl := Option.some.inj h
      exact ⟨⟨List.not_mem_nil, nofun⟩, rest, by rw [hcolon, List.nil_append]⟩
    · obtain ⟨others, hothers, rfl⟩ := Option.map_eq_some_iff.mp h
      obtain ⟨⟨hnone, hblanks⟩, behind, rfl⟩ := ih hothers
      refine ⟨⟨?_, ?_⟩, behind, rfl⟩
      · rw [List.mem_cons, not_or]
        exact ⟨Ne.symm hcolon, hnone⟩
      · exact List.forall_mem_cons.mpr ⟨by simpa using hblank, hblanks⟩

namespace Screen

/-- No name between two colons of the text has a picture on the screen. -/
def HasNoPictures (screen : Screen) (text : List Char) : Prop :=
  ∀ name, IsBareName name → ':' :: name ++ [':'] <:+: text → screen.picture name = none

namespace HasNoPictures

/-- A stretch of a text without pictures has none. -/
theorem of_infix (h : screen.HasNoPictures text) (hpart : part <:+: text) :
    screen.HasNoPictures part :=
  fun name hname hwithin => h name hname (hwithin.trans hpart)

/-- A text with at most one colon has no pictures. -/
theorem of_count_le_one (h : text.count ':' ≤ 1) : screen.HasNoPictures text := by
  intro name _ hwithin
  have hcount := hwithin.sublist.count_le ':'
  rw [List.count_append, List.count_cons_self, List.count_singleton_self] at hcount
  omega

/-- Behind a blank, nothing with a single colon before it makes a name. -/
theorem append_blank (hfront : front.count ':' ≤ 1) (hrest : screen.HasNoPictures rest) :
    screen.HasNoPictures (front ++ ' ' :: rest) := by
  intro name hname hwithin
  have hblank : ' ' ∉ ':' :: name ++ [':'] := by
    intro hmem
    have hin : ' ' ∈ name := by simpa using hmem
    exact absurd (hname.2 ' ' hin) (by decide)
  rcases (Text.infix_append_cons_iff hblank front rest).mp hwithin with h | h
  · exact of_count_le_one hfront name hname h
  · exact hrest name hname h

/-- A text without pictures is left as it is. -/
theorem showPicturesFrom_eq (h : screen.HasNoPictures text) (skip : ℕ) :
    showPicturesFrom screen.picture skip text = text.drop skip := by
  induction text generalizing skip with
  | nil => cases skip <;> rfl
  | cons c rest ih =>
    have hrest : screen.HasNoPictures rest := h.of_infix (List.suffix_cons c rest).isInfix
    cases skip with
    | succ skip => rw [showPicturesFrom, ih hrest, List.drop_succ_cons]
    | zero =>
      rw [showPicturesFrom, List.drop_zero]
      split
      next name hname =>
        split_ifs at hname with hcolon
        obtain ⟨hbare, behind, rfl⟩ := of_nameBeforeColon? hname
        have hnone : screen.picture name = none :=
          h name hbare ⟨[], behind, by rw [hcolon]; simp⟩
        rw [hnone, ih hrest, hcolon]
        simp
      · rw [ih hrest, List.drop_zero]

/-- A text without pictures is left as it is. -/
theorem showPictures_eq (h : screen.HasNoPictures text) : screen.showPictures text = text :=
  h.showPicturesFrom_eq 0

end HasNoPictures

end Screen

/-- A text is shown if its tags can be applied, and as it is visible if it has no pictures. -/
theorem render_eq_of_tags {markup : List Char} {opened : List OpenTag}
    (htags : (tagsFrom 0 0 markup).foldlM applyTag [] = .ok opened)
    (hpictures : screen.HasNoPictures (visibleFrom false 0 markup)) :
    render screen markup = .ok (visibleFrom false 0 markup) := by
  have hparts : (partsFrom .plain 0 [] markup).flatten = visibleFrom false 0 markup :=
    (flatten_partsFrom markup 0 []).1
  have hpart : ∀ part ∈ partsFrom .plain 0 [] markup, screen.showPictures part = id part :=
    fun part hmem => (hpictures.of_infix (hparts ▸ List.infix_of_mem_flatten hmem)).showPictures_eq
  have hsame : (partsFrom .plain 0 [] markup).map screen.showPictures =
      partsFrom .plain 0 [] markup := (List.map_congr_left hpart).trans (List.map_id _)
  unfold render
  rw [htags, List.flatMap_def, hsame, hparts]
  rfl

/-- A text is shown on every screen if its tags can be applied. -/
theorem exists_render_of_tags {markup : List Char} {opened : List OpenTag}
    (htags : (tagsFrom 0 0 markup).foldlM applyTag [] = .ok opened) :
    ∃ shown, render screen markup = .ok shown :=
  ⟨_, by rw [render, htags]; rfl⟩

end OrderOfGrowth.Terminal

import Mathlib.Data.List.Basic
import OrderOfGrowth.Proofs.Pictures

/-!
# What is shown of an escaped text

Escaping keeps a text free of tags, but the text is not shown as it was in all cases. A backslash in
front of a bracket that begins no tag is left alone by escaping and used up when the text is
shown, and so the text loses it. At its end a text gets a second backslash behind a single one:
where a tag follows, the backslashes there are halved and an odd one turns the tag into text, and
where nothing follows, they are all shown. Everything else comes back.
-/

namespace OrderOfGrowth.Terminal

variable {text rest tail front back : List Char} {count k : ℕ} {c : Char}

/-- Backslashes only add to the number of backslashes. -/
theorem visibleFrom_backslashes (n count : ℕ) (rest : List Char) :
    visibleFrom false count (backslashes n ++ rest) = visibleFrom false (count + n) rest := by
  induction n generalizing count with
  | zero => rfl
  | succ n ih =>
    rw [backslashes_succ, List.cons_append, visibleFrom, if_pos rfl, ih, Nat.add_right_comm]
    rfl

/-- A character that is neither a backslash nor an opening bracket begins no tag. -/
theorem tagsFrom_cons_of_ne {c : Char} {rest : List Char} (hbackslash : c ≠ '\\') (hopen : c ≠ '[')
    (count position : ℕ) :
    tagsFrom count position (c :: rest) = tagsFrom 0 (position + 1) rest := by
  rw [tagsFrom, if_neg hbackslash]
  dsimp only
  split
  · exact if_neg fun h => hopen h.1
  · rfl

/-- A row of such characters has no tags. -/
theorem tagsFrom_append_of_notMem {front : List Char} (h : '\\' ∉ front ∧ '[' ∉ front)
    (position : ℕ) (rest : List Char) :
    tagsFrom 0 position (front ++ rest) = tagsFrom 0 (position + front.length) rest := by
  induction front generalizing position with
  | nil => rfl
  | cons c front ih =>
    obtain ⟨hbackslash, hbracket⟩ := h
    rw [List.mem_cons, not_or] at hbackslash hbracket
    rw [List.cons_append, tagsFrom_cons_of_ne (Ne.symm hbackslash.1) (Ne.symm hbracket.1),
      ih ⟨hbackslash.2, hbracket.2⟩, List.length_cons, Nat.add_assoc, Nat.add_comm 1]

/-- A tag behind an even number of backslashes is one of the tags. -/
theorem tagsFrom_tag {count : ℕ} {rest body : List Char} (h : tagBody? rest = some body)
    (hcount : count % 2 = 0) (position : ℕ) :
    tagsFrom count position ('[' :: rest) = (body, position) :: tagsFrom 0 (position + 1) rest := by
  rw [tagsFrom, if_neg (by decide), h]
  exact if_pos ⟨rfl, hcount⟩

/-- A text without opening brackets has no tags. -/
theorem tagsFrom_of_notMem (h : '[' ∉ text) (count position : ℕ) :
    tagsFrom count position text = [] := by
  induction text generalizing count position with
  | nil => rfl
  | cons c rest ih =>
    rw [List.mem_cons, not_or] at h
    by_cases hc : c = '\\'
    · rw [tagsFrom, if_pos hc, ih h.2]
    · rw [tagsFrom_cons_of_ne hc (Ne.symm h.1), ih h.2]

/-- A text that neither has backslashes nor opening brackets is visible as it is. -/
theorem visibleFrom_append_of_notMem {front : List Char} (h : '\\' ∉ front ∧ '[' ∉ front)
    (rest : List Char) :
    visibleFrom false 0 (front ++ rest) = front ++ visibleFrom false 0 rest := by
  induction front with
  | nil => rfl
  | cons c front ih =>
    obtain ⟨hbackslash, hbracket⟩ := h
    rw [List.mem_cons, not_or] at hbackslash hbracket
    rw [List.cons_append, visibleFrom, if_neg (Ne.symm hbackslash.1), if_neg (Ne.symm hbracket.1),
      ih ⟨hbackslash.2, hbracket.2⟩]
    rfl

/-- A text that closes no tag that began before it, and that continues no bracket to a tag. -/
structure IsApart (tail : List Char) : Prop where
  untilClosing : untilClosing? tail = none
  tagBody : tagBody? tail = none

/-- A text stays apart behind a backslash. -/
theorem IsApart.cons_backslash (h : IsApart tail) : IsApart ('\\' :: tail) where
  untilClosing := by simp [untilClosing?, h.untilClosing]
  tagBody := rfl

/-- Behind a text, what is apart does not close a tag. -/
theorem isSome_untilClosing?_append (h : IsApart tail) (text : List Char) :
    (untilClosing? (text ++ tail)).isSome = (untilClosing? text).isSome := by
  induction text with
  | nil => simp [h.untilClosing, untilClosing?]
  | cons c rest ih =>
    simp only [List.cons_append, untilClosing?]
    split_ifs
    · rfl
    · rfl
    · simpa using ih

/-- Behind a text, what is apart makes no tag of it. -/
theorem isSome_tagBody?_append (h : IsApart tail) (text : List Char) :
    (tagBody? (text ++ tail)).isSome = (tagBody? text).isSome := by
  cases text with
  | nil => rw [List.nil_append, h.tagBody, tagBody?]
  | cons c rest =>
    simp only [List.cons_append, tagBody?]
    split_ifs
    · simpa using isSome_untilClosing?_append h rest
    · rfl

/-- The number of backslashes at the end of an escaped text whose text has `count` there. -/
def guardedCount (count : ℕ) : ℕ := if count = 1 then 2 else count

/-- A row of backslashes has at least two of them or none when its end is guarded. -/
theorem guardEnd_backslashes (count : ℕ) :
    guardEnd (backslashes count) = backslashes (guardedCount count) := by
  match count with
  | 0 => rfl
  | 1 => rfl
  | count + 2 =>
    have hreverse : (backslashes (count + 2)).reverse = '\\' :: '\\' :: backslashes count :=
      List.reverse_replicate
    unfold guardEnd
    rw [hreverse]
    rfl

/-- Guarding the end of a text leaves everything up to a character other than a backslash. -/
theorem guardEnd_append_cons (hc : c ≠ '\\') (front back : List Char) :
    guardEnd (front ++ c :: back) = front ++ c :: guardEnd back := by
  have hreverse : (front ++ c :: back).reverse = back.reverse ++ c :: front.reverse := by simp
  unfold guardEnd
  rw [hreverse]
  rcases back.reverse with _ | ⟨d, _ | ⟨e, others⟩⟩
  · simp [hc]
  · by_cases hd : d = '\\' <;> simp [hd, hc]
  · by_cases hd : d = '\\' <;> by_cases he : e = '\\' <;> simp [hd, he]

/-- Guarding the end of a text adds a backslash or nothing. -/
theorem guardEnd_eq_or (text : List Char) :
    guardEnd text = text ∨ guardEnd text = text ++ ['\\'] := by
  unfold guardEnd
  split
  · exact .inl rfl
  · exact .inr rfl
  · exact .inl rfl

/-- The escaped form of a text behind `count` backslashes, with its end guarded. -/
def escapedFrom (count : ℕ) (text : List Char) : List Char := guardEnd (escapeFrom count text)

theorem escapedFrom_nil (count : ℕ) : escapedFrom count [] = backslashes (guardedCount count) :=
  guardEnd_backslashes count

theorem escapedFrom_backslash (count : ℕ) (rest : List Char) :
    escapedFrom count ('\\' :: rest) = escapedFrom (count + 1) rest := by
  rw [escapedFrom, escapeFrom, if_pos rfl, escapedFrom]

/-- Backslashes in front of a tag are doubled, and one more is put there. -/
theorem escapedFrom_tag (hrest : (tagBody? rest).isSome = true) :
    escapedFrom count ('[' :: rest) = backslashes (2 * count + 1) ++ '[' :: escapedFrom 0 rest := by
  rw [escapedFrom, escapeFrom, if_neg (by decide), if_pos ⟨rfl, hrest⟩,
    guardEnd_append_cons (by decide), escapedFrom]

/-- Backslashes in front of anything else are left alone. -/
theorem escapedFrom_cons (hc : c ≠ '\\') (hrest : ¬(c = '[' ∧ (tagBody? rest).isSome = true)) :
    escapedFrom count (c :: rest) = backslashes count ++ c :: escapedFrom 0 rest := by
  rw [escapedFrom, escapeFrom, if_neg hc, if_neg hrest, guardEnd_append_cons hc, escapedFrom]

/-- An escaped text continues a bracket to a tag exactly if the text does. -/
theorem isSome_tagBody?_escapedFrom_append (h : IsApart tail) (text : List Char) :
    (tagBody? (escapedFrom 0 text ++ tail)).isSome = (tagBody? text).isSome := by
  rw [← tagBody?_escapeFrom text, escapedFrom]
  rcases guardEnd_eq_or (escapeFrom 0 text) with hguard | hguard
  · rw [hguard, isSome_tagBody?_append h]
  · rw [hguard, List.append_assoc]
    exact isSome_tagBody?_append h.cons_backslash _

/-- What is shown of a text behind `count` backslashes that has been escaped; `ending` says what
is shown of the backslashes at its end and of what follows them. -/
def shownFrom (ending : ℕ → List Char) : ℕ → List Char → List Char
  | count, [] => ending count
  | count, c :: rest =>
    if c = '\\' then shownFrom ending (count + 1) rest
    else if c = '[' ∧ (tagBody? rest).isSome = false then
      backslashes (count - 1) ++ '[' :: shownFrom ending 0 rest
    else backslashes count ++ c :: shownFrom ending 0 rest

/-- What is shown of an escaped text has no other characters than the text, backslashes, and what is
shown at its end. -/
theorem mem_shownFrom {ending : ℕ → List Char} {d : Char} {count : ℕ} {text : List Char}
    (h : d ∈ shownFrom ending count text) : d = '\\' ∨ d ∈ text ∨ ∃ k, d ∈ ending k := by
  induction text generalizing count with
  | nil => exact .inr (.inr ⟨count, h⟩)
  | cons c rest ih =>
    have hbackslash {n : ℕ} (hd : d ∈ backslashes n) : d = '\\' := List.eq_of_mem_replicate hd
    have hrest {n : ℕ} (hd : d ∈ shownFrom ending n rest) :
        d = '\\' ∨ d ∈ c :: rest ∨ ∃ k, d ∈ ending k :=
      (ih hd).imp_right (.imp_left (List.mem_cons_of_mem c))
    rw [shownFrom] at h
    split_ifs at h with hc hopen
    · exact hrest h
    · rcases List.mem_append.mp h with hd | hd
      · exact .inl (hbackslash hd)
      · rcases List.mem_cons.mp hd with rfl | hd
        · exact .inr (.inl (hopen.1 ▸ List.mem_cons_self))
        · exact hrest hd
    · rcases List.mem_append.mp h with hd | hd
      · exact .inl (hbackslash hd)
      · rcases List.mem_cons.mp hd with rfl | hd
        · exact .inr (.inl List.mem_cons_self)
        · exact hrest hd

/-- What is shown at the end of an escaped text has no colon, and what it begins with is a backslash
or a bracket. -/
def IsEnding (shown : List Char) : Prop :=
  ':' ∉ shown ∧ ∀ c ∈ shown.head?, c = '\\' ∨ c = '['

/-- A word with a colon that has neither backslashes nor opening brackets stands in what is shown of
an escaped text only if it stands in the text. -/
theorem infix_of_infix_shownFrom {ending : ℕ → List Char} (hending : ∀ k, IsEnding (ending k))
    {word : List Char} (hcolon : ':' ∈ word) (hbackslash : '\\' ∉ word) (hopen : '[' ∉ word)
    (h : word <:+: front ++ shownFrom ending count text) :
    word <:+: front ++ (backslashes count ++ text) := by
  induction text generalizing front count with
  | nil =>
    refine List.IsInfix.trans ?_ (List.prefix_append front _).isInfix
    obtain ⟨hnone, hhead⟩ := hending count
    rw [shownFrom] at h
    cases hshown : ending count with
    | nil => rwa [hshown, List.append_nil] at h
    | cons c back =>
      have hc : c ∉ word := by
        rcases hhead c (by rw [hshown]; rfl) with rfl | rfl
        · exact hbackslash
        · exact hopen
      rw [hshown] at h hnone
      rcases (Text.infix_append_cons_iff hc front back).mp h with hfront | hback
      · exact hfront
      · exact absurd (List.mem_cons_of_mem c (hback.subset hcolon)) hnone
  | cons c rest ih =>
    rw [shownFrom] at h
    split_ifs at h with hc hlost
    · rw [hc, backslashes_append_cons]
      exact ih h
    · -- the word stands on one side of the bracket
      rw [← List.append_assoc, Text.infix_append_cons_iff hopen] at h
      rcases h with hfront | hbehind
      · refine hfront.trans (List.IsPrefix.isInfix ?_)
        refine (List.prefix_append_right_inj front).mpr (List.IsPrefix.trans ?_
          (List.prefix_append (backslashes count) _))
        exact ⟨backslashes (count - (count - 1)), by
          rw [backslashes, backslashes, backslashes, ← List.replicate_add,
            Nat.add_sub_cancel' (Nat.sub_le count 1)]⟩
      · have hrest : word <:+: [] ++ (backslashes 0 ++ rest) := ih hbehind
        refine List.IsInfix.trans hrest (List.IsSuffix.isInfix ?_)
        exact ⟨front ++ backslashes count ++ [c], by simp⟩
    · have hrest : word <:+: front ++ backslashes count ++ [c] ++ (backslashes 0 ++ rest) :=
        ih (by simpa using h)
      simpa using hrest

/-- What is shown of an escaped text has no pictures if the text has none. -/
theorem Screen.HasNoPictures.shownFrom {screen : Screen} {ending : ℕ → List Char}
    (hending : ∀ k, IsEnding (ending k)) (h : screen.HasNoPictures text) :
    screen.HasNoPictures (shownFrom ending 0 text) := by
  intro name hname hwithin
  by_contra hpicture
  -- names of pictures have neither backslashes nor brackets
  obtain ⟨hopen, hbackslash⟩ := screen.plainName name (Option.isSome_iff_ne_none.mpr hpicture)
  have hword : ':' :: name ++ [':'] <:+: [] ++ (backslashes 0 ++ text) :=
    infix_of_infix_shownFrom hending (by simp) (by simpa using hbackslash) (by simpa using hopen)
      (by simpa using hwithin)
  exact hpicture (h name hname hword)

/-- What is visible of an escaped text in front of what is apart. -/
theorem visibleFrom_escapedFrom_append (h : IsApart tail) (count : ℕ) (text : List Char) :
    visibleFrom false 0 (escapedFrom count text ++ tail) =
      shownFrom (fun k => visibleFrom false (guardedCount k) tail) count text := by
  induction text generalizing count with
  | nil => rw [escapedFrom_nil, visibleFrom_backslashes, shownFrom, Nat.zero_add]
  | cons c rest ih =>
    by_cases hc : c = '\\'
    · rw [hc, escapedFrom_backslash, ih, shownFrom, if_pos rfl]
    rw [shownFrom, if_neg hc]
    have hsame := isSome_tagBody?_escapedFrom_append h rest
    by_cases hopen : c = '['
    · subst hopen
      cases htag : (tagBody? rest).isSome with
      | true =>
        -- the backslashes have been doubled, so all of them are left
        rw [escapedFrom_tag htag, List.append_assoc, visibleFrom_backslashes, List.cons_append,
          visibleFrom, if_neg (by decide), if_pos rfl, if_pos (by rw [hsame, htag]),
          if_neg (by omega), ih, if_neg (by simp)]
        congr 2
        omega
      | false =>
        rw [escapedFrom_cons hc (by simp [htag]), List.append_assoc, visibleFrom_backslashes,
          List.cons_append, visibleFrom, if_neg (by decide), if_pos rfl,
          if_neg (by rw [hsame, htag]; decide), ih, if_pos ⟨rfl, rfl⟩, Nat.zero_add]
    · rw [escapedFrom_cons hc (by simp [hopen]), List.append_assoc, visibleFrom_backslashes,
        List.cons_append, visibleFrom, if_neg hc, if_neg hopen, ih, if_neg (by simp [hopen]),
        Nat.zero_add]

/-- The tags behind an escaped text are those of what is apart there. -/
theorem tagsFrom_escapedFrom_append (h : IsApart tail) (count position : ℕ) (text : List Char) :
    ∃ last place,
      tagsFrom 0 position (escapedFrom count text ++ tail) = tagsFrom last place tail := by
  induction text generalizing count position with
  | nil => exact ⟨_, _, by rw [escapedFrom_nil, tagsFrom_backslashes]⟩
  | cons c rest ih =>
    by_cases hc : c = '\\'
    · rw [hc, escapedFrom_backslash]
      exact ih _ _
    have hsame := isSome_tagBody?_escapedFrom_append h rest
    by_cases htag : c = '[' ∧ (tagBody? rest).isSome = true
    · obtain ⟨rfl, hrest⟩ := htag
      obtain ⟨body, hbody⟩ := Option.isSome_iff_exists.mp (hsame.trans hrest)
      obtain ⟨last, place, hlater⟩ := ih 0 (position + (2 * count + 1) + 1)
      refine ⟨last, place, ?_⟩
      rw [escapedFrom_tag hrest, List.append_assoc, tagsFrom_backslashes, List.cons_append,
        tagsFrom, if_neg (by decide), hbody]
      dsimp only
      rw [if_neg (by omega), hlater]
    · obtain ⟨last, place, hlater⟩ := ih 0 (position + count + 1)
      refine ⟨last, place, ?_⟩
      rw [escapedFrom_cons hc htag, List.append_assoc, tagsFrom_backslashes, List.cons_append,
        tagsFrom, if_neg hc]
      dsimp only
      rw [hlater]
      cases hbody : tagBody? (escapedFrom 0 rest ++ tail) with
      | none => rfl
      | some body =>
        have hrest : (tagBody? rest).isSome = true := by rw [← hsame, hbody]; rfl
        exact if_neg fun hopen => htag ⟨hopen.1, hrest⟩

/-- Every backslash directly in front of an opening bracket is in front of a tag. -/
def KeepsBrackets (text : List Char) : Prop :=
  ∀ before behind, text = before ++ '\\' :: '[' :: behind → (tagBody? behind).isSome = true

/-- A text without backslashes keeps its brackets. -/
theorem keepsBrackets_of_notMem (h : '\\' ∉ text) : KeepsBrackets text := by
  rintro before behind rfl
  simp at h

/-- A row of backslashes has no brackets to keep. -/
theorem keepsBrackets_backslashes (count : ℕ) : KeepsBrackets (backslashes count) := by
  intro before behind hsplit
  have hmem : '[' ∈ backslashes count := by simp [hsplit]
  exact absurd (List.eq_of_mem_replicate hmem) (by decide)

/-- Only a backslash at the very start matters besides the rest of a text. -/
theorem keepsBrackets_cons :
    KeepsBrackets (c :: rest) ↔
      (c = '\\' → ∀ behind, rest = '[' :: behind → (tagBody? behind).isSome = true) ∧
        KeepsBrackets rest := by
  constructor
  · intro h
    refine ⟨?_, ?_⟩
    · rintro rfl behind rfl
      exact h [] behind rfl
    · rintro before behind rfl
      exact h (c :: before) behind rfl
  · rintro ⟨hfirst, hrest⟩ (_ | ⟨d, before⟩) behind hsplit
    · obtain ⟨rfl, rfl⟩ := List.cons.inj hsplit
      exact hfirst rfl behind rfl
    · obtain ⟨-, rfl⟩ := List.cons.inj hsplit
      exact hrest before behind rfl

/-- Behind a row of backslashes a bracket is kept if it begins a tag, and so is any other
character. -/
theorem keepsBrackets_backslashes_append (hc : c ≠ '\\') :
    KeepsBrackets (backslashes count ++ c :: rest) ↔
      (c = '[' → count ≠ 0 → (tagBody? rest).isSome = true) ∧ KeepsBrackets rest := by
  induction count with
  | zero => simp [keepsBrackets_cons, hc]
  | succ count ih =>
    rw [backslashes_succ, List.cons_append, keepsBrackets_cons, ih]
    constructor
    · rintro ⟨hfirst, hlater, hrest⟩
      refine ⟨fun hopen _ => ?_, hrest⟩
      subst hopen
      rcases Nat.eq_zero_or_pos count with rfl | hpositive
      · exact hfirst rfl rest rfl
      · exact hlater rfl (Nat.pos_iff_ne_zero.mp hpositive)
    · rintro ⟨hopen, hrest⟩
      refine ⟨fun _ behind hbehind => ?_, fun hfirst _ => hopen hfirst (by omega), hrest⟩
      cases count with
      | zero =>
        obtain ⟨hfirst, rfl⟩ := List.cons.inj hbehind
        exact hopen hfirst (by omega)
      | succ count => cases hbehind

variable {ending : ℕ → List Char}

/-- A text that keeps its brackets is shown as it is up to the backslashes at its end. -/
theorem KeepsBrackets.shownFrom (h : KeepsBrackets (backslashes count ++ text)) :
    ∃ body last, backslashes count ++ text = body ++ backslashes last ∧
      body.getLast? ≠ some '\\' ∧ shownFrom ending count text = body ++ ending last := by
  induction text generalizing count with
  | nil => exact ⟨[], count, by simp, by simp, rfl⟩
  | cons c rest ih =>
    by_cases hc : c = '\\'
    · rw [hc, backslashes_append_cons] at h ⊢
      obtain ⟨body, last, htext, hbody, hshown⟩ := ih h
      exact ⟨body, last, htext, hbody, by rw [Terminal.shownFrom, if_pos rfl, hshown]⟩
    obtain ⟨hopen, hrest⟩ := (keepsBrackets_backslashes_append hc).mp h
    replace hrest : KeepsBrackets (backslashes 0 ++ rest) := hrest
    obtain ⟨body, last, htext, hbody, hshown⟩ := ih hrest
    replace htext : rest = body ++ backslashes last := htext
    refine ⟨backslashes count ++ c :: body, last, by rw [htext]; simp, ?_, ?_⟩
    · -- what the body ends with is its own last character, or the one in front of it
      rw [List.getLast?_append, List.getLast?_cons]
      cases hlast : body.getLast? with
      | none => simpa using hc
      | some d => simpa [hlast] using hbody
    · rw [Terminal.shownFrom, if_neg hc]
      split_ifs with hlost
      · -- a bracket without a tag is kept only where nothing stands in front of it
        have hcount : count = 0 := by
          by_contra hne
          rw [hopen hlost.1 hne] at hlost
          cases hlost.2
        rw [hcount, hlost.1, hshown]
        rfl
      · rw [hshown]
        simp

/-- A text that keeps its brackets ends with some backslashes, and only they may be shown in another
way. -/
theorem KeepsBrackets.exists_ending (h : KeepsBrackets text) :
    ∃ body last, text = body ++ backslashes last ∧ body.getLast? ≠ some '\\' ∧
      Terminal.shownFrom ending 0 text = body ++ ending last := by
  have hbare : KeepsBrackets (backslashes 0 ++ text) := h
  exact hbare.shownFrom

/-- Even if only some characters are looked at, backslashes and opening brackets among them, a text
that does not keep its brackets is not what the shown text begins with. -/
theorem keepsBrackets_of_filter_prefix {test : Char → Bool} (hbackslash : test '\\' = true)
    (hbracket : test '[' = true)
    (h : (backslashes count ++ text).filter test <+: (shownFrom ending count text).filter test) :
    KeepsBrackets (backslashes count ++ text) := by
  have hfilter (count : ℕ) : (backslashes count).filter test = backslashes count :=
    List.filter_eq_self.mpr fun c hc => List.eq_of_mem_replicate hc ▸ hbackslash
  induction text generalizing count with
  | nil => simpa using keepsBrackets_backslashes count
  | cons c rest ih =>
    by_cases hc : c = '\\'
    · rw [hc, backslashes_append_cons] at h ⊢
      rw [shownFrom, if_pos rfl] at h
      exact ih h
    rw [shownFrom, if_neg hc] at h
    rw [keepsBrackets_backslashes_append hc]
    split_ifs at h with hlost
    · obtain ⟨rfl, htag⟩ := hlost
      rw [List.filter_append, List.filter_append, hfilter, hfilter,
        List.filter_cons_of_pos hbracket, List.filter_cons_of_pos hbracket] at h
      cases count with
      | zero =>
        have hrest : KeepsBrackets (backslashes 0 ++ rest) := ih ((List.prefix_cons_inj _).mp h)
        exact ⟨fun _ hne => absurd rfl hne, hrest⟩
      | succ count =>
        -- the lost backslash meets the bracket
        rw [backslashes_succ, Nat.add_sub_cancel] at h
        rw [← backslashes_succ, ← backslashes_append_cons, List.prefix_append_right_inj] at h
        exact absurd (List.cons_prefix_cons.mp h).1 (by decide)
    · refine ⟨fun hopen _ => ?_, ?_⟩
      · by_contra htag
        exact hlost ⟨hopen, by simpa using htag⟩
      · suffices hrest : (backslashes 0 ++ rest).filter test <+:
          (shownFrom ending 0 rest).filter test from ih hrest
        rw [List.filter_append, List.filter_append, List.prefix_append_right_inj] at h
        by_cases htest : test c = true
        · rw [List.filter_cons_of_pos htest, List.filter_cons_of_pos htest] at h
          exact (List.prefix_cons_inj _).mp h
        · rwa [List.filter_cons_of_neg htest, List.filter_cons_of_neg htest] at h

/-- A text whose body ends with another character ends with as many backslashes as follow the
body. -/
theorem backslashes_suffix_iff (hlast : front.getLast? ≠ some '\\') :
    backslashes k <:+ front ++ backslashes count ↔ k ≤ count := by
  constructor
  · intro hsuffix
    by_contra hlonger
    -- the character in front of the backslashes would be one more
    obtain ⟨more, rfl⟩ : ∃ more, k = more + 1 + count := ⟨k - count - 1, by omega⟩
    have hsplit : backslashes (more + 1 + count) = backslashes (more + 1) ++ backslashes count :=
      List.replicate_add ..
    rw [hsplit, List.suffix_append_inj_of_length_eq rfl] at hsuffix
    obtain ⟨start, rfl⟩ := hsuffix.1
    refine hlast ?_
    rw [List.getLast?_append, backslashes, List.getLast?_replicate]
    rfl
  · intro hle
    refine List.IsSuffix.trans ?_ (List.suffix_append front _)
    exact ⟨backslashes (count - k), by
      rw [backslashes, backslashes, backslashes, ← List.replicate_add, Nat.sub_add_cancel hle]⟩

/-- The tag that ends the name of a source. -/
def closingTag : List Char := "[/bold blue]".toList

theorem isApart_closingTag : IsApart closingTag := ⟨by decide, by decide⟩

theorem isApart_nil : IsApart [] := ⟨rfl, rfl⟩

/-- Of the backslashes in front of the closing tag every pair leaves one, and an odd one leaves the
tag. -/
theorem visibleFrom_closingTag (count : ℕ) :
    visibleFrom false count closingTag =
      backslashes (count / 2) ++ if count % 2 = 0 then [] else closingTag := by
  have hclosing : closingTag = '[' :: "/bold blue]".toList := by decide
  have htag : (tagBody? "/bold blue]".toList).isSome = true := by decide
  have hread : visibleFrom true 0 "/bold blue]".toList = [] := by decide
  have hshown : visibleFrom false 0 "/bold blue]".toList = "/bold blue]".toList := by decide
  rw [hclosing, visibleFrom, if_neg (by decide), if_pos rfl, if_pos htag, hread, hshown]
  split_ifs <;> rfl

/-- The closing tag is a tag unless it stands behind an odd number of backslashes. -/
theorem tagsFrom_closingTag (count position : ℕ) :
    tagsFrom count position closingTag =
      if count % 2 = 0 then [("/bold blue".toList, position)] else [] := by
  have hbody : tagBody? "/bold blue]".toList = some "/bold blue".toList := by decide
  have hsplit : closingTag = '[' :: "/bold blue]".toList := by decide
  rw [hsplit, tagsFrom, if_neg (by decide), hbody, tagsFrom_of_notMem (by decide)]
  simp only [true_and]

/-- What is shown of an escaped text in front of the closing tag. -/
def shownBeforeTag (text : List Char) : List Char :=
  shownFrom (fun k => visibleFrom false (guardedCount k) closingTag) 0 text

/-- What is shown of an escaped text that nothing follows. -/
def shownLast (text : List Char) : List Char :=
  shownFrom (fun k => visibleFrom false (guardedCount k) []) 0 text

/-- A row of backslashes can be what is shown at the end. -/
theorem isEnding_backslashes (count : ℕ) : IsEnding (backslashes count) := by
  refine ⟨fun h => absurd (List.eq_of_mem_replicate h) (by decide), fun c hc => .inl ?_⟩
  exact List.eq_of_mem_replicate (List.mem_of_mem_head? hc)

/-- The backslashes and the closing tag that are shown at the end of a name have no colon. -/
theorem isEnding_closingTag (count : ℕ) : IsEnding (visibleFrom false count closingTag) := by
  rw [visibleFrom_closingTag]
  split_ifs
  · rw [List.append_nil]
    exact isEnding_backslashes _
  · cases count / 2 with
    | zero => exact ⟨by decide, fun c hc => .inr (Option.some.inj hc).symm⟩
    | succ half =>
      refine ⟨?_, fun c hc => .inl (Option.some.inj hc).symm⟩
      rw [List.mem_append, not_or]
      exact ⟨(isEnding_backslashes _).1, by decide⟩

/-- What is shown of a name has no pictures if the name has none. -/
theorem Screen.HasNoPictures.shownBeforeTag {screen : Screen} (h : screen.HasNoPictures text) :
    screen.HasNoPictures (shownBeforeTag text) :=
  h.shownFrom fun _ => isEnding_closingTag _

/-- What is shown of a message has no pictures if the message has none. -/
theorem Screen.HasNoPictures.shownLast {screen : Screen} (h : screen.HasNoPictures text) :
    screen.HasNoPictures (shownLast text) :=
  h.shownFrom fun _ => isEnding_backslashes _

/-- In front of the closing tag a text is shown as it is if it keeps its brackets and does not end
with two backslashes. -/
theorem shownBeforeTag_eq_self (hbrackets : KeepsBrackets text) (hend : ¬['\\', '\\'] <:+ text) :
    shownBeforeTag text = text := by
  obtain ⟨body, last, htext, hbody, hshown⟩ := hbrackets.exists_ending
  have hlast : ¬2 ≤ last := by
    rwa [← backslashes_suffix_iff hbody, ← htext]
  rw [shownBeforeTag, hshown, htext]
  obtain rfl | rfl : last = 0 ∨ last = 1 := by omega
  · rfl
  · rfl

/-- Otherwise, even if blanks do not count, the text is not what the shown one begins with. -/
theorem keeps_of_shownBeforeTag {test : Char → Bool} (hbackslash : test '\\' = true)
    (hbracket : test '[' = true) (h : text.filter test <+: (shownBeforeTag text).filter test) :
    KeepsBrackets text ∧ ¬['\\', '\\'] <:+ text := by
  have hbrackets : KeepsBrackets (backslashes 0 ++ text) :=
    keepsBrackets_of_filter_prefix hbackslash hbracket h
  replace hbrackets : KeepsBrackets text := hbrackets
  refine ⟨hbrackets, ?_⟩
  obtain ⟨body, last, htext, hbody, hshown⟩ := hbrackets.exists_ending
  have hsuffix : ['\\', '\\'] <:+ text ↔ 2 ≤ last := by
    rw [htext]
    exact backslashes_suffix_iff (k := 2) hbody
  rw [hsuffix]
  intro hlast
  -- half of the backslashes are shown, and the closing tag has none
  have hguard : guardedCount last = last := if_neg (by omega)
  rw [shownBeforeTag, hshown, htext, List.filter_append, List.filter_append,
    List.prefix_append_right_inj, hguard, visibleFrom_closingTag] at h
  have hcount := h.sublist.count_le '\\'
  have hclosing : closingTag.count '\\' = 0 := by decide
  rw [List.count_filter hbackslash, List.count_filter hbackslash, List.count_append, backslashes,
    backslashes, List.count_replicate_self, List.count_replicate_self] at hcount
  split_ifs at hcount
  · rw [List.count_nil] at hcount
    omega
  · omega

/-- Where nothing follows, a text is shown as it is if it keeps its brackets and does not end with a
single backslash. -/
theorem shownLast_eq_self (hbrackets : KeepsBrackets text)
    (hend : ['\\'] <:+ text → ['\\', '\\'] <:+ text) : shownLast text = text := by
  obtain ⟨body, last, htext, hbody, hshown⟩ := hbrackets.exists_ending
  have hlast : 1 ≤ last → 2 ≤ last := by
    rwa [← backslashes_suffix_iff hbody, ← backslashes_suffix_iff hbody, ← htext]
  have hguard : guardedCount last = last := if_neg (by omega)
  rw [shownLast, hshown, htext, hguard]
  rfl

/-- Otherwise the shown text is another one, even if blanks do not count. -/
theorem keeps_of_shownLast {test : Char → Bool} (hbackslash : test '\\' = true)
    (hbracket : test '[' = true) (h : text.filter test = (shownLast text).filter test) :
    KeepsBrackets text ∧ (['\\'] <:+ text → ['\\', '\\'] <:+ text) := by
  have hprefix : text.filter test <+: (shownLast text).filter test := h ▸ List.prefix_refl _
  have hbrackets : KeepsBrackets (backslashes 0 ++ text) :=
    keepsBrackets_of_filter_prefix hbackslash hbracket hprefix
  replace hbrackets : KeepsBrackets text := hbrackets
  refine ⟨hbrackets, ?_⟩
  obtain ⟨body, last, htext, hbody, hshown⟩ := hbrackets.exists_ending
  rw [shownLast, hshown, htext, List.filter_append, List.filter_append, List.append_cancel_left_eq,
    visibleFrom] at h
  have hcount := congrArg (List.count '\\') h
  rw [List.count_filter hbackslash, List.count_filter hbackslash, backslashes, backslashes,
    List.count_replicate_self, List.count_replicate_self] at hcount
  have hone : last ≠ 1 := by
    rintro rfl
    cases hcount
  rw [htext]
  intro hsingle
  have hpositive := (backslashes_suffix_iff (k := 1) hbody).mp hsingle
  exact (backslashes_suffix_iff (k := 2) hbody).mpr (by omega)

end OrderOfGrowth.Terminal

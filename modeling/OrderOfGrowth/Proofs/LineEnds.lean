import OrderOfGrowth.Proofs.Likeness

/-!
# Line ends

Lines are cut at line feeds only, so that a carriage return before a line feed stays at the end of
its line. This file proves that no word and no pattern of the standard table sees it there. A
match spans a line end only by a piece that takes any number of gaps, and such a piece takes one
more. The other way round, an inserted carriage return could only be the last character of a run,
and then the line feed behind it would have to begin what follows in the pattern; but wherever a
piece may take a carriage return, what follows begins with another character.

None of this asks that every line ends in the same way, so it is shown for a text with carriage
returns before some of its line feeds.
-/

namespace OrderOfGrowth

namespace Text

/-- The second text is the first one with carriage returns before some of its line feeds. -/
inductive AddsReturns : List Char → List Char → Prop
  | nil : AddsReturns [] []
  | cons (c : Char) {text returned : List Char} (h : AddsReturns text returned) :
      AddsReturns (c :: text) (c :: returned)
  | feed {text returned : List Char} (h : AddsReturns text returned) :
      AddsReturns ('\n' :: text) ('\r' :: '\n' :: returned)

/-- A text with a carriage return before every line feed. -/
def withReturns : List Char → List Char
  | [] => []
  | c :: rest => if c = '\n' then '\r' :: '\n' :: withReturns rest else c :: withReturns rest

/-- Carriage returns may come before all line feeds. -/
theorem addsReturns_withReturns (text : List Char) : AddsReturns text (withReturns text) := by
  induction text with
  | nil => exact .nil
  | cons c text ih =>
    rw [withReturns]
    split
    next hc => exact hc ▸ .feed ih
    next => exact .cons c ih

/-- Every carriage return of a text stands before a line feed. -/
def ReturnsEndLines (text : List Char) : Prop :=
  ∀ rest ∈ text.tails, rest.head? = some '\r' → rest[1]? = some '\n'

instance (text : List Char) : Decidable (ReturnsEndLines text) :=
  inferInstanceAs (Decidable (∀ rest ∈ text.tails, rest.head? = some '\r' → rest[1]? = some '\n'))

/-- The end of a text whose carriage returns stand before line feeds is such a text. -/
theorem ReturnsEndLines.of_suffix {text rest : List Char} (h : ReturnsEndLines text)
    (hrest : rest <:+ text) : ReturnsEndLines rest :=
  fun last hlast => h last ((List.mem_tails _ _).mpr (((List.mem_tails _ _).mp hlast).trans hrest))

namespace AddsReturns

variable {text returned front back : List Char}

/-- Carriage returns come into each part of a text by itself. -/
theorem of_append (h : AddsReturns (front ++ back) returned) :
    ∃ first rest, returned = first ++ rest ∧ AddsReturns front first ∧ AddsReturns back rest := by
  induction front generalizing returned with
  | nil => exact ⟨[], returned, rfl, .nil, h⟩
  | cons c front ih =>
    cases h with
    | cons _ h =>
      obtain ⟨first, rest, rfl, hfirst, hrest⟩ := ih h
      exact ⟨c :: first, rest, rfl, .cons c hfirst, hrest⟩
    | feed h =>
      obtain ⟨first, rest, rfl, hfirst, hrest⟩ := ih h
      exact ⟨'\r' :: '\n' :: first, rest, rfl, .feed hfirst, hrest⟩

/-- No carriage return comes into a line. -/
theorem eq_of_not_mem (h : AddsReturns text returned) (hline : '\n' ∉ text) : returned = text := by
  induction h with
  | nil => rfl
  | cons c _ ih =>
    simp only [List.mem_cons, not_or] at hline
    rw [ih hline.2]
  | feed => simp at hline

/-- A text keeps its characters. -/
theorem mem (h : AddsReturns text returned) {c : Char} (hc : c ∈ text) : c ∈ returned := by
  induction h with
  | nil => exact hc
  | cons d _ ih => grind
  | feed _ ih => grind

/-- A text gets no other characters than carriage returns, and those only for line feeds. -/
theorem mem_or (h : AddsReturns text returned) {c : Char} (hc : c ∈ returned) :
    c ∈ text ∨ (c = '\r' ∧ '\n' ∈ text) := by
  induction h with
  | nil => exact Or.inl hc
  | cons d _ ih => grind
  | feed _ ih => grind

/-- A text does not get shorter. -/
theorem length_le (h : AddsReturns text returned) : text.length ≤ returned.length := by
  induction h with
  | nil => exact le_rfl
  | cons => simp only [List.length_cons]; omega
  | feed => simp only [List.length_cons]; omega

/-- A text with carriage returns is cut either where the text itself is cut, or between a line feed
and its carriage return. -/
theorem eq_append (h : AddsReturns text (front ++ back)) :
    (∃ first rest, text = first ++ rest ∧ AddsReturns first front ∧ AddsReturns rest back) ∨
      ∃ first rest start finish, text = first ++ '\n' :: rest ∧ front = start ++ ['\r'] ∧
        back = '\n' :: finish ∧ AddsReturns first start ∧ AddsReturns rest finish := by
  generalize hreturned : front ++ back = returned at h
  induction h generalizing front with
  | nil =>
    obtain ⟨rfl, rfl⟩ := List.append_eq_nil_iff.mp hreturned
    exact Or.inl ⟨[], [], rfl, .nil, .nil⟩
  | @cons c text returned h ih =>
    rcases List.append_eq_cons_iff.mp hreturned with ⟨rfl, rfl⟩ | ⟨front, rfl, hrest⟩
    · exact Or.inl ⟨[], c :: text, rfl, .nil, .cons c h⟩
    rcases ih hrest.symm with
      ⟨first, rest, rfl, hfirst, hrest⟩ | ⟨first, rest, start, finish, rfl, rfl, rfl, hfirst, hrest⟩
    · exact Or.inl ⟨c :: first, rest, rfl, .cons c hfirst, hrest⟩
    · exact Or.inr ⟨c :: first, rest, c :: start, finish, rfl, rfl, rfl, .cons c hfirst, hrest⟩
  | @feed text returned h ih =>
    rcases List.append_eq_cons_iff.mp hreturned with ⟨rfl, rfl⟩ | ⟨front, rfl, hfeed⟩
    · exact Or.inl ⟨[], '\n' :: text, rfl, .nil, .feed h⟩
    rcases List.append_eq_cons_iff.mp hfeed.symm with ⟨rfl, rfl⟩ | ⟨front, rfl, hrest⟩
    · exact Or.inr ⟨[], text, [], returned, rfl, rfl, rfl, .nil, h⟩
    rcases ih hrest.symm with
      ⟨first, rest, rfl, hfirst, hrest⟩ | ⟨first, rest, start, finish, rfl, rfl, rfl, hfirst, hrest⟩
    · exact Or.inl ⟨'\n' :: first, rest, rfl, .feed hfirst, hrest⟩
    · exact Or.inr ⟨'\n' :: first, rest, '\r' :: '\n' :: start, finish, rfl, rfl, rfl,
        .feed hfirst, hrest⟩

/-- The lines of a text with carriage returns are its lines, some of which end in one. -/
theorem lines (h : AddsReturns text returned) :
    List.Forall₂ (fun line other => other = line ∨ other = line ++ ['\r']) (lines text)
      (lines returned) := by
  induction text using line_induction generalizing returned with
  | last line hline =>
    rw [h.eq_of_not_mem hline, Text.lines, splitAt_of_not_mem hline]
    exact .cons (Or.inl rfl) .nil
  | more line rest hline ih =>
    obtain ⟨first, behind, rfl, hfirst, hbehind⟩ := h.of_append
    obtain rfl := hfirst.eq_of_not_mem hline
    cases hbehind with
    | cons _ hrest =>
      rw [Text.lines, Text.lines, splitAt_append_cons hline, splitAt_append_cons hline]
      exact .cons (Or.inl rfl) (ih hrest)
    | @feed _ behind hrest =>
      have hended : '\n' ∉ first ++ ['\r'] := by simp [hline]
      have htext : first ++ '\r' :: '\n' :: behind = (first ++ ['\r']) ++ '\n' :: behind := by simp
      rw [htext, Text.lines, Text.lines, splitAt_append_cons hline, splitAt_append_cons hended]
      exact .cons (Or.inr rfl) (ih hrest)

end AddsReturns

/-- A carriage return at the end of a line stays there in lower case. -/
theorem lowercase_concat_return (line : List Char) :
    lowercase (line ++ ['\r']) = lowercase line ++ ['\r'] :=
  lowerFrom_append_of_uncased false line [] (by decide) (by decide) (by decide)

end Text

/-- A line looks like the same line with a carriage return at its end if no word has one. -/
theorem LanguageSigns.linesAlike_concat_return {signs : LanguageSigns}
    (hwords : ∀ word ∈ signs.words, '\r' ∉ word) (line : List Char) :
    signs.LinesAlike line (line ++ ['\r']) where
  word_iff word hword := by
    rw [Text.lowercase_concat_return, Text.infix_append_cons_iff (hwords word hword),
      List.infix_nil]
    exact ⟨Or.inl, fun h => h.elim id fun hnil => hnil ▸ List.nil_infix⟩
  closes_iff := by
    simp [ClosesBlock, List.count_append]

/-- Whether every text that a row of pieces begins starts with a character other than a line
feed. -/
def startsWithinLine : List Piece → Bool
  | [] => false
  | piece :: _ => !piece.repetition.allows 0 && !piece.atom.accepts '\n'

/-- Whether a repetition has no upper end. -/
def Repetition.isUnbounded : Repetition → Bool
  | .once | .atMostOnce => false
  | .anyNumber | .atLeastOnce => true

/-- Whether carriage returns before line feeds make no difference to a row of pieces: a piece that
takes line feeds takes any number of them and of carriage returns, and behind a piece that takes
carriage returns the row goes on within a line. -/
def ignoresReturns : List Piece → Bool
  | [] => true
  | piece :: pieces =>
    (!piece.atom.accepts '\n' || (piece.atom.accepts '\r' && piece.repetition.isUnbounded)) &&
      (!piece.atom.accepts '\r' || startsWithinLine pieces) && ignoresReturns pieces

/-- A row of pieces that starts within a line begins no text that starts with a line feed. -/
theorem not_startSpells_of_startsWithinLine {pieces : List Piece}
    (hstarts : startsWithinLine pieces = true) (rest : List Char) :
    ¬ StartSpells pieces ('\n' :: rest) := by
  cases pieces with
  | nil => exact absurd hstarts (by decide)
  | cons piece pieces =>
    simp only [startsWithinLine, Bool.and_eq_true, Bool.not_eq_true'] at hstarts
    rw [startSpells_cons_iff]
    rintro ⟨run, behind, htext, hlength, haccepted, -⟩
    cases run with
    | nil => exact absurd hlength (by simp [hstarts.1])
    | cons c run =>
      obtain ⟨rfl, -⟩ := List.cons.inj htext
      exact absurd (haccepted '\n' (by simp)) (by simp [hstarts.2])

/-- A longer run than an allowed one is allowed if the repetition has no upper end. -/
theorem Repetition.allows_of_le {repetition : Repetition} (h : repetition.isUnbounded = true)
    {m n : ℕ} (hmn : m ≤ n) (hm : repetition.allows m = true) : repetition.allows n = true := by
  cases repetition with
  | once => exact absurd h (by decide)
  | atMostOnce => exact absurd h (by decide)
  | anyNumber => rfl
  | atLeastOnce =>
    simp only [allows, decide_eq_true_eq] at hm ⊢
    omega

/-- A shorter run than an allowed one is allowed unless it is empty. -/
theorem Repetition.allows_of_ge {repetition : Repetition} {m n : ℕ} (hmn : m ≤ n)
    (hzero : m = 0 → n = 0) (hn : repetition.allows n = true) : repetition.allows m = true := by
  cases repetition <;> simp only [allows, beq_iff_eq, decide_eq_true_eq] at hn ⊢ <;> omega

/-- A text that spells the pieces spells them with carriage returns before its line feeds. -/
theorem Spells.addsReturns {pieces : List Piece} {text returned : List Char}
    (h : Spells pieces text) (hadds : Text.AddsReturns text returned)
    (hignores : ignoresReturns pieces = true) : Spells pieces returned := by
  induction h generalizing returned with
  | nil =>
    cases hadds
    exact .nil
  | @cons piece pieces run rest hlength haccepted _ ih =>
    simp only [ignoresReturns, Bool.and_eq_true, Bool.or_eq_true, Bool.not_eq_true'] at hignores
    obtain ⟨⟨hfeed, -⟩, hrest⟩ := hignores
    obtain ⟨longer, behind, rfl, hlonger, hbehind⟩ := hadds.of_append
    refine .cons ?_ ?_ (ih hbehind hrest)
    all_goals by_cases hmem : '\n' ∈ run
    · obtain ⟨-, hunbounded⟩ := hfeed.resolve_left (by simp [haccepted _ hmem])
      exact Repetition.allows_of_le hunbounded hlonger.length_le hlength
    · rwa [hlonger.eq_of_not_mem hmem]
    · obtain ⟨hreturn, -⟩ := hfeed.resolve_left (by simp [haccepted _ hmem])
      intro c hc
      rcases hlonger.mem_or hc with hc | ⟨rfl, -⟩
      · exact haccepted c hc
      · exact hreturn
    · rwa [hlonger.eq_of_not_mem hmem]

/-- If some beginning of a text with carriage returns spells the pieces, then so does some
beginning of the text itself. -/
theorem StartSpells.of_addsReturns {pieces : List Piece} (hignores : ignoresReturns pieces = true)
    {text returned : List Char} (hadds : Text.AddsReturns text returned)
    (h : StartSpells pieces returned) : StartSpells pieces text := by
  induction pieces generalizing text returned with
  | nil => exact startSpells_nil text
  | cons piece pieces ih =>
    simp only [ignoresReturns, Bool.and_eq_true, Bool.or_eq_true, Bool.not_eq_true'] at hignores
    obtain ⟨⟨-, hreturn⟩, hrest⟩ := hignores
    obtain ⟨run, behind, rfl, hlength, haccepted, hspells⟩ := startSpells_cons_iff.mp h
    rcases hadds.eq_append with
      ⟨first, rest, rfl, hfirst, hbehind⟩ | ⟨first, rest, start, finish, -, rfl, rfl, -, -⟩
    · refine startSpells_cons_iff.mpr ⟨first, rest, rfl, ?_, ?_, ih hrest hbehind hspells⟩
      · refine Repetition.allows_of_ge hfirst.length_le ?_ hlength
        intro hzero
        rw [List.length_eq_zero_iff] at hzero
        subst hzero
        cases hfirst
        rfl
      · exact fun c hc => haccepted c (hfirst.mem hc)
    · -- The run ends in the inserted carriage return, and what follows must take the line feed.
      have hstarts := hreturn.resolve_left (by simp [haccepted '\r' (by simp)])
      exact absurd hspells (not_startSpells_of_startsWithinLine hstarts _)

/-- A search finds in a text with carriage returns what it finds in the text itself if they make
no difference to its pieces and these start within a line. -/
theorem foundIn_of_addsReturns {pieces : List Piece} (hignores : ignoresReturns pieces = true)
    (hstarts : startsWithinLine pieces = true) {text returned : List Char}
    (hadds : Text.AddsReturns text returned) : foundIn pieces returned = foundIn pieces text := by
  rw [Bool.eq_iff_iff]
  constructor
  · induction hadds with
    | nil => exact id
    | @cons c text returned hadds ih =>
      rw [foundIn, foundIn, Bool.or_eq_true, Bool.or_eq_true, matchesStart_iff, matchesStart_iff]
      exact Or.imp (.of_addsReturns hignores (hadds.cons c)) ih
    | @feed text returned hadds ih =>
      rw [foundIn, foundIn, foundIn, Bool.or_eq_true, Bool.or_eq_true, Bool.or_eq_true,
        matchesStart_iff, matchesStart_iff, matchesStart_iff]
      rintro (h | h | h)
      · exact Or.inl (.of_addsReturns hignores hadds.feed h)
      · exact absurd h (not_startSpells_of_startsWithinLine hstarts _)
      · exact Or.inr (ih h)
  · rw [foundIn_iff, foundIn_iff]
    rintro ⟨run, ⟨front, back, rfl⟩, hspells⟩
    obtain ⟨start, finish, rfl, hstart, -⟩ := hadds.of_append
    obtain ⟨first, longer, rfl, -, hlonger⟩ := hstart.of_append
    exact ⟨longer, ⟨first, finish, rfl⟩, hspells.addsReturns hlonger hignores⟩

/-- A source looks like the source with carriage returns before some of its line feeds, in every
language. -/
theorem Language.textsAlike_of_addsReturns (language : Language) {text returned : List Char}
    (hadds : Text.AddsReturns text returned) : language.signs.TextsAlike text returned where
  nil_iff := by
    cases hadds <;> simp
  lines := by
    have hwords : ∀ word ∈ language.signs.words, '\r' ∉ word := by
      cases language <;> decide +kernel
    refine hadds.lines.imp ?_
    rintro line other (rfl | rfl)
    · exact ⟨fun _ _ => Iff.rfl, Iff.rfl⟩
    · exact LanguageSigns.linesAlike_concat_return hwords line
  hasRecursion_eq := by
    have hpatterns : ∀ pattern ∈ language.signs.recursionPatterns,
        ignoresReturns pattern.pieces = true ∧ startsWithinLine pattern.pieces = true := by
      cases language <;> decide +kernel
    refine LanguageSigns.hasRecursion_congr fun pattern hpattern => ?_
    obtain ⟨hignores, hstarts⟩ := hpatterns pattern hpattern
    exact (foundIn_of_addsReturns hignores hstarts hadds).symm

namespace SignTable

/-- For the standard table a source gets the same report and the same estimate with carriage
returns before some of its line feeds, in every language. -/
theorem standardSigns_eq_of_addsReturns {source returned : String}
    (hadds : Text.AddsReturns source.toList returned.toList) (language : Option String) :
    standardSigns.scan (some returned) language = standardSigns.scan (some source) language ∧
      standardSigns.classify (some returned) language =
        standardSigns.classify (some source) language := by
  obtain ⟨hscan, hclassify⟩ :=
    standardSigns_eq_of_textsAlike language fun known => known.textsAlike_of_addsReturns hadds
  exact ⟨hscan.symm, hclassify.symm⟩

/-- For the standard table every source gets the same report and the same estimate with a carriage
return before every line feed, in every language. -/
theorem scan_ignores_carriage_returns (source : String) (language : Option String) :
    let returned := String.ofList (Text.withReturns source.toList)
    standardSigns.scan (some returned) language = standardSigns.scan (some source) language ∧
      standardSigns.classify (some returned) language =
        standardSigns.classify (some source) language := by
  intro returned
  apply standardSigns_eq_of_addsReturns
  rw [String.toList_ofList]
  exact Text.addsReturns_withReturns source.toList

end SignTable

end OrderOfGrowth

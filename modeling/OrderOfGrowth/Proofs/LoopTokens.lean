import OrderOfGrowth.Proofs.CaseBlindness
import OrderOfGrowth.Proofs.TableLookup

/-!
# Which tokens count

A token is looked for in the lower-case form of a line, but it is not put into lower case itself.
So a token counts exactly if it is its own lower-case form: then it is found wherever it stands, as
other characters do not change how its own are put into lower case, and any other token is never
found, as a text in lower case has only characters that are their own lower-case forms. Among the
tokens that count, one with another one in it makes no difference.
-/

namespace OrderOfGrowth

namespace Text

/-- A beginning of settled characters stays as it is, whatever stands behind it. -/
theorem exists_lowerFrom_settled_append {word : List Char} (hsettled : ∀ c ∈ word, IsSettled c)
    (rest : List Char) (afterCased : Bool) :
    ∃ cased, lowerFrom afterCased (word ++ rest) = word ++ lowerFrom cased rest := by
  induction word generalizing afterCased with
  | nil => exact ⟨afterCased, rfl⟩
  | cons c word ih =>
    obtain ⟨hsigma, hself⟩ := hsettled c List.mem_cons_self
    obtain ⟨cased, hrest⟩ :=
      ih (fun d hd => hsettled d (List.mem_cons_of_mem c hd)) (casedBehind afterCased c)
    refine ⟨cased, ?_⟩
    rw [List.cons_append, lowerFrom_cons, hrest, lowerAt, if_neg hsigma, hself]
    rfl

variable {word line : List Char}

/-- What stands in a text in lower case is its own lower-case form. -/
theorem lowercase_eq_self_of_infix (h : word <:+: lowercase line) : lowercase word = word :=
  lowerFrom_of_isSettled (fun _ hc => isSettled_of_mem_lowerFrom (h.subset hc)) false

/-- A word that is its own lower-case form stands in the lower-case form of every text that it
stands in. -/
theorem infix_lowercase_of_infix (hself : lowercase word = word) (h : word <:+: line) :
    word <:+: lowercase line := by
  have hsettled : ∀ c ∈ word, IsSettled c := by
    intro c hc
    rw [← hself] at hc
    exact isSettled_of_mem_lowerFrom hc
  obtain ⟨front, back, rfl⟩ := h
  obtain ⟨before, cased, hfront⟩ := exists_lowerFrom_append front (word ++ back) false
  obtain ⟨behind, hword⟩ := exists_lowerFrom_settled_append hsettled back cased
  rw [lowercase, List.append_assoc, hfront, hword]
  exact ⟨before, lowerFrom behind back, List.append_assoc _ _ _⟩

/-- A word without letters that begins the lower-case form of a text begins the text. -/
theorem prefix_of_prefix_lowerFrom (hword : ∀ c ∈ word, c.toNat < 128 ∧ c.isAlpha = false)
    {afterCased : Bool} (h : word <+: lowerFrom afterCased line) : word <+: line := by
  induction word generalizing line afterCased with
  | nil => exact List.nil_prefix
  | cons c word ih =>
    cases line with
    | nil => exact h
    | cons d line =>
      rw [lowerFrom_cons] at h
      obtain ⟨hascii, hletter⟩ := hword c List.mem_cons_self
      have hmem : c ∈ lowerAt afterCased d line := by
        obtain ⟨e, more, hlower⟩ := List.exists_cons_of_ne_nil (lowerAt_ne_nil afterCased d line)
        rw [hlower, List.cons_append, List.cons_prefix_cons] at h
        rw [hlower, h.1]
        exact List.mem_cons_self
      obtain rfl := eq_of_mem_lowerAt hascii hletter hmem
      rw [lowerAt_of_ascii hascii, List.singleton_append, List.cons_prefix_cons] at h
      rw [List.cons_prefix_cons]
      exact ⟨rfl, ih (fun e he => hword e (List.mem_cons_of_mem _ he)) h.2⟩

/-- A word stands behind a beginning that has none of its characters. -/
theorem infix_of_infix_append {front rest : List Char} (hfront : ∀ c ∈ front, c ∉ word)
    (h : word <:+: front ++ rest) : word <:+: rest := by
  induction front with
  | nil => exact h
  | cons c front ih =>
    have hc := hfront c List.mem_cons_self
    rcases (infix_append_cons_iff hc [] (front ++ rest)).mp h with hnil | hbehind
    · rw [List.infix_nil.mp hnil]
      exact List.nil_infix
    · exact ih (fun d hd => hfront d (List.mem_cons_of_mem c hd)) hbehind

/-- A word without letters stands in the lower-case form of a text only if it stands in the text. -/
theorem infix_of_infix_lowerFrom (hword : ∀ c ∈ word, c.toNat < 128 ∧ c.isAlpha = false)
    {afterCased : Bool} (h : word <:+: lowerFrom afterCased line) : word <:+: line := by
  induction line generalizing afterCased with
  | nil => exact h
  | cons c line ih =>
    rw [List.infix_cons_iff]
    by_cases hascii : c.toNat < 128
    · rw [lowerFrom_cons, lowerAt_of_ascii hascii, List.singleton_append, List.infix_cons_iff,
        ← List.singleton_append, ← lowerAt_of_ascii hascii afterCased line, ← lowerFrom_cons] at h
      exact h.imp (prefix_of_prefix_lowerFrom hword) ih
    · -- none of the characters that it becomes is in the word
      have hforeign : ∀ d ∈ lowerAt afterCased c line, d ∉ word := by
        intro d hd hmem
        obtain ⟨hsmall, hletter⟩ := hword d hmem
        exact hascii (eq_of_mem_lowerAt hsmall hletter hd ▸ hsmall)
      exact Or.inr (ih (infix_of_infix_append hforeign (lowerFrom_cons afterCased c line ▸ h)))

end Text

/-- A text within one line that has no comment mark. -/
def IsUncommented (line : List Char) : Prop :=
  '\n' ∉ line ∧ ∀ mark ∈ commentMarks, ¬ mark <:+: line

instance (line : List Char) : Decidable (IsUncommented line) :=
  inferInstanceAs (Decidable (_ ∧ _))

/-- A token that counts: it can stand in a line without a comment mark, and it is its own lower-case
form. -/
structure IsLive (token : List Char) : Prop where
  uncommented : IsUncommented token
  lowercase : Text.lowercase token = token

instance (token : List Char) : Decidable (IsLive token) :=
  decidable_of_iff (IsUncommented token ∧ Text.lowercase token = token)
    ⟨fun h => ⟨h.1, h.2⟩, fun h => ⟨h.1, h.2⟩⟩

variable {tokens others : List (List Char)} {token line : List Char}

/-- A part of a text without comment marks has none. -/
theorem IsUncommented.of_infix (h : IsUncommented line) (hpart : token <:+: line) :
    IsUncommented token :=
  ⟨fun hmem => h.1 (hpart.subset hmem),
    fun mark hmark hwithin => h.2 mark hmark (hwithin.trans hpart)⟩

/-- Lower case brings no comment mark into a line. -/
theorem IsUncommented.lowercase (h : IsUncommented line) : IsUncommented (Text.lowercase line) := by
  have hmarks : ∀ mark ∈ commentMarks, ∀ c ∈ mark, c.toNat < 128 ∧ c.isAlpha = false := by
    simp [commentMarks]
  refine ⟨Text.feed_not_mem_lowerFrom h.1 false, fun mark hmark hwithin => ?_⟩
  exact h.2 mark hmark (Text.infix_of_infix_lowerFrom (hmarks mark hmark) hwithin)

/-- A line starts a loop exactly if a token stands in its lower-case form and this has no comment
mark. -/
theorem startsLoop_iff_isUncommented (hline : '\n' ∉ line) :
    StartsLoop tokens line ↔
      (∃ token ∈ tokens, token <:+: Text.lowercase line) ∧ IsUncommented (Text.lowercase line) := by
  have hfeed := Text.feed_not_mem_lowerFrom hline false
  simp only [StartsLoop, IsUncommented, commentMarks, List.forall_mem_cons, List.not_mem_nil,
    false_imp_iff, implies_true, and_true, Text.lowercase, hfeed, not_false_eq_true, true_and]

/-- Only tokens that count start loops. -/
theorem exists_isLive_of_startsLoop (hline : '\n' ∉ line) (h : StartsLoop tokens line) :
    ∃ token ∈ tokens, IsLive token ∧ token <:+: Text.lowercase line := by
  obtain ⟨⟨token, htoken, hwithin⟩, huncommented⟩ := (startsLoop_iff_isUncommented hline).mp h
  exact ⟨token, htoken, ⟨huncommented.of_infix hwithin, Text.lowercase_eq_self_of_infix hwithin⟩,
    hwithin⟩

/-- One of the tokens that count stands in a text. -/
def HasLivePart (tokens : List (List Char)) (text : List Char) : Prop :=
  ∃ token ∈ tokens, IsLive token ∧ token <:+: text

instance (tokens : List (List Char)) (text : List Char) : Decidable (HasLivePart tokens text) :=
  inferInstanceAs (Decidable (∃ token ∈ tokens, IsLive token ∧ token <:+: text))

/-- If each token that counts has one of the others in it, then the others start all loops that the
tokens start. -/
theorem StartsLoop.of_hasLivePart (hline : '\n' ∉ line)
    (hparts : ∀ token ∈ tokens, IsLive token → HasLivePart others token)
    (h : StartsLoop tokens line) : StartsLoop others line := by
  obtain ⟨token, htoken, hlive, hstands⟩ := exists_isLive_of_startsLoop hline h
  obtain ⟨part, hpart, -, hwithin⟩ := hparts token htoken hlive
  exact ⟨⟨part, hpart, hwithin.trans hstands⟩, h.2⟩

/-- A line starts a loop wherever it has a token that counts, as it is written. -/
theorem IsLive.startsLoop (hlive : IsLive token) (htoken : token ∈ tokens)
    (huncommented : IsUncommented line) (hwithin : token <:+: line) : StartsLoop tokens line :=
  (startsLoop_iff_isUncommented huncommented.1).mpr
    ⟨⟨token, htoken, Text.infix_lowercase_of_infix hlive.lowercase hwithin⟩, huncommented.lowercase⟩

/-- A token as a line by itself starts a loop exactly if it has a token that counts in it. -/
theorem IsLive.startsLoop_self_iff (hlive : IsLive token) :
    StartsLoop tokens token ↔ HasLivePart tokens token := by
  constructor
  · intro h
    obtain ⟨part, hpart, hlivePart, hwithin⟩ := exists_isLive_of_startsLoop hlive.uncommented.1 h
    exact ⟨part, hpart, hlivePart, hlive.lowercase ▸ hwithin⟩
  · rintro ⟨part, hpart, hlivePart, hwithin⟩
    exact hlivePart.startsLoop hpart hlive.uncommented hwithin

/-- A token that is not its own lower-case form starts no loop. -/
theorem not_startsLoop_singleton (hself : Text.lowercase token ≠ token) (line : List Char) :
    ¬ StartsLoop [token] line := by
  rintro ⟨⟨found, hfound, hwithin⟩, -⟩
  rw [List.mem_singleton.mp hfound] at hwithin
  exact hself (Text.lowercase_eq_self_of_infix hwithin)

/-- Walks over the same lines lead to the same place if the same lines start loops. -/
theorem Walk.overLines_congr {lines : List (List Char)}
    (hstarts : ∀ line ∈ lines, StartsLoop tokens line ↔ StartsLoop others line) :
    overLines tokens lines = overLines others lines := by
  refine List.foldl_ext _ _ _ fun walk line hline => ?_
  have hsame : startsLoop tokens (Text.lowercase line) =
      startsLoop others (Text.lowercase line) := by
    rw [Bool.eq_iff_iff, startsLoop_iff, startsLoop_iff]
    exact hstarts line hline
  rw [hsame]

namespace LanguageSigns

variable {signs other : LanguageSigns}

/-- Signs report the same of a text if they start loops in the same lines and agree on whether there
is a recursive definition. -/
theorem report_congr {text : List Char}
    (hstarts : ∀ line, '\n' ∉ line → (StartsLoop signs.tokens line ↔ StartsLoop other.tokens line))
    (hrecursion : signs.hasRecursion text = other.hasRecursion text) (name : String) :
    signs.report name text = other.report name text := by
  have hwalk : Walk.overLines signs.tokens (Text.lines text) =
      Walk.overLines other.tokens (Text.lines text) :=
    Walk.overLines_congr fun line hline => hstarts line (Text.feed_not_mem_of_mem_lines hline)
  simp only [report, hwalk, hrecursion]

/-- Of a text within one line, one loop is reported if the line starts a loop, and none if not. -/
theorem loopCount_report {line : List Char} (hline : '\n' ∉ line) (hne : line ≠ [])
    (name : String) :
    (signs.report name line).loopCount = if StartsLoop signs.tokens line then 1 else 0 := by
  have htext : line.isEmpty = false := by simpa [List.isEmpty_iff] using hne
  have hcount : (signs.report name line).loopCount =
      (Walk.overLines signs.tokens (Text.lines line)).loops := by
    simp only [report, htext]
    rfl
  rw [hcount, Walk.loops_overLines, Text.lines, Text.splitAt_of_not_mem hline,
    List.countP_singleton]
  simp only [startsLoop_iff]
  split <;> rfl

/-- Two languages' signs differ at most in the case of the letters from A to Z in their tokens. -/
structure Recased (signs other : LanguageSigns) : Prop where
  tokens : List.Forall₂ (List.Forall₂ SameLetter) signs.tokens other.tokens
  recursionPatterns : signs.recursionPatterns = other.recursionPatterns

/-- Where two tokens differ, each of them that counts has a token of the other side in it. -/
def Agree (signs other : LanguageSigns) : Prop :=
  ∀ first second, (first, second) ∈ signs.tokens.zip other.tokens → first ≠ second →
    (IsLive first → HasLivePart other.tokens first) ∧
      (IsLive second → HasLivePart signs.tokens second)

/-- What differs at most in the case of letters does so in either direction. -/
theorem Recased.symm (h : signs.Recased other) : other.Recased signs where
  tokens := h.tokens.flip.imp fun _ _ hsame => hsame.flip.imp fun _ _ => SameLetter.symm
  recursionPatterns := h.recursionPatterns.symm

/-- Of two tokens that differ in the case of letters neither is empty. -/
theorem Recased.ne_nil (h : signs.Recased other) {first second : List Char}
    (hmem : (first, second) ∈ signs.tokens.zip other.tokens) (hne : first ≠ second) :
    first ≠ [] ∧ second ≠ [] := by
  have hsame := (List.forall₂_iff_zip.mp h.tokens).2 hmem
  constructor
  · rintro rfl
    exact hne (List.forall₂_nil_left_iff.mp hsame).symm
  · rintro rfl
    exact hne (List.forall₂_nil_right_iff.mp hsame)

/-- Signs whose differing tokens have each other's in them start loops in the same lines. -/
theorem Agree.startsLoop (h : signs.Agree other) (hrecased : signs.Recased other)
    {line : List Char} (hline : '\n' ∉ line) :
    StartsLoop signs.tokens line → StartsLoop other.tokens line := by
  refine StartsLoop.of_hasLivePart hline fun token htoken hlive => ?_
  obtain ⟨i, hi, rfl⟩ := List.mem_iff_getElem.mp htoken
  have hi' : i < other.tokens.length := hrecased.tokens.length_eq ▸ hi
  by_cases hsame : signs.tokens[i] = other.tokens[i]
  · exact ⟨_, List.getElem_mem hi', hsame ▸ hlive, hsame ▸ List.infix_rfl⟩
  · have hpair : (signs.tokens[i], other.tokens[i]) ∈ signs.tokens.zip other.tokens := by
      rw [← List.getElem_zip (h := by rw [List.length_zip]; omega)]
      exact List.getElem_mem _
    exact (h _ _ hpair hsame).1 hlive

/-- Where differing tokens have each other's in them, they do so in either direction. -/
theorem Agree.symm (h : signs.Agree other) : other.Agree signs := by
  intro first second hmem hne
  have hswap : (second, first) ∈ signs.tokens.zip other.tokens := by
    rw [← List.zip_swap]
    exact List.mem_map_of_mem (f := Prod.swap) hmem
  exact (h second first hswap hne.symm).symm

/-- If signs report the same of every text, then a token that counts by the one has a token in it
that counts by the other. -/
theorem hasLivePart_of_report_eq {name : String}
    (hreport : ∀ text, signs.report name text = other.report name text) {token : List Char}
    (htoken : token ∈ signs.tokens) (hlive : IsLive token) (hne : token ≠ []) :
    HasLivePart other.tokens token := by
  have hcount := congrArg ScanReport.loopCount (hreport token)
  rw [loopCount_report hlive.uncommented.1 hne, loopCount_report hlive.uncommented.1 hne,
    if_pos (hlive.startsLoop htoken hlive.uncommented List.infix_rfl)] at hcount
  by_contra hnone
  rw [if_neg (mt hlive.startsLoop_self_iff.mp hnone)] at hcount
  exact absurd hcount (by decide)

/-- Signs that differ at most in the case of letters report the same of every text exactly if, where
two tokens differ, each of them that counts has a token of the other side in it. -/
theorem Recased.report_eq_iff (h : signs.Recased other) (name : String) :
    (∀ text, signs.report name text = other.report name text) ↔ signs.Agree other := by
  constructor
  · intro hreport first second hmem hne
    obtain ⟨hfirst, hsecond⟩ := List.of_mem_zip hmem
    obtain ⟨hfirstText, hsecondText⟩ := h.ne_nil hmem hne
    exact ⟨fun hlive => hasLivePart_of_report_eq hreport hfirst hlive hfirstText,
      fun hlive => hasLivePart_of_report_eq (fun text => (hreport text).symm) hsecond hlive
        hsecondText⟩
  · intro hagree text
    refine report_congr (fun line hline => ?_) ?_ name
    · exact ⟨hagree.startsLoop h hline, hagree.symm.startsLoop h.symm hline⟩
    · rw [hasRecursion, hasRecursion, h.recursionPatterns]

end LanguageSigns

namespace SignTable

/-- Two scans by tokens that differ at most in the case of letters give the same report of every
source exactly if, where two tokens differ, each of them that counts has a token of the other side
in it. A token that is its own lower-case form starts a loop in every uncommented line that has it,
and any other token starts none at all. -/
theorem scan_recased_iff {table other : SignTable} {language otherLanguage : Option String}
    (hname : table.resolve language = other.resolve otherLanguage)
    (hrecased : (table.signs (some (table.resolve language))).Recased
      (other.signs (some (other.resolve otherLanguage)))) :
    let signs := table.signs (some (table.resolve language))
    let changed := other.signs (some (other.resolve otherLanguage))
    ((∀ source, table.scan source language = other.scan source otherLanguage) ↔
      signs.Agree changed) ∧
    ∀ token ∈ signs.tokens,
      (Text.lowercase token = token → ∀ line, IsUncommented line → token <:+: line →
        StartsLoop signs.tokens line) ∧
      (Text.lowercase token ≠ token → ∀ line, ¬ StartsLoop [token] line) := by
  intro signs changed
  refine ⟨?_, fun token htoken => ⟨fun hself line huncommented hwithin => ?_,
    not_startsLoop_singleton⟩⟩
  · rw [← hrecased.report_eq_iff (table.resolve language)]
    simp only [scan_eq_report, hname]
    constructor
    · intro hscan text
      simpa using hscan (some (String.ofList text))
    · exact fun hreport source => hreport _
  · exact IsLive.startsLoop ⟨huncommented.of_infix hwithin, hself⟩ htoken huncommented hwithin

/-- A table with one entry uses it for every language. -/
theorem signs_of_one_entry {table : SignTable} {name : String} {signs : LanguageSigns}
    (hentries : table.entries = [(name, signs)]) (language : Option String) :
    table.resolve language = name ∧ table.signs language = signs := by
  have hlookup := table.lookup_resolve language
  rw [hentries, Keyed.lookup] at hlookup
  split at hlookup
  next hname => exact ⟨hname.symm, (Option.some.inj hlookup).symm⟩
  next => cases hlookup

/-- A token in mixed case is as good as one in lower case beside a shorter token. -/
theorem scan_recased_iff_beside_shorter_token :
    ∃ table other, ofEntries [("js", ⟨["for", "forEach"], []⟩)] "js" = .ok table ∧
      ofEntries [("js", ⟨["for", "foreach"], []⟩)] "js" = .ok other ∧
      table.resolve (some "js") = other.resolve (some "js") ∧
      (table.signs (some (table.resolve (some "js")))).Recased
        (other.signs (some (other.resolve (some "js")))) ∧
      ∀ source, table.scan source (some "js") = other.scan source (some "js") := by
  let table : SignTable := ⟨[("js", ⟨["for", "forEach"], []⟩)], "js", rfl⟩
  let other : SignTable := ⟨[("js", ⟨["for", "foreach"], []⟩)], "js", rfl⟩
  have hsigns := fun language => (@signs_of_one_entry table _ _ rfl language).2
  have hothers := fun language => (@signs_of_one_entry other _ _ rfl language).2
  have hname : table.resolve (some "js") = other.resolve (some "js") :=
    (signs_of_one_entry rfl _).1.trans (signs_of_one_entry rfl _).1.symm
  have hrecased : (table.signs (some (table.resolve (some "js")))).Recased
      (other.signs (some (other.resolve (some "js")))) := by
    rw [hsigns, hothers]
    exact ⟨by decide, rfl⟩
  refine ⟨table, other, rfl, rfl, hname, hrecased, ?_⟩
  refine (scan_recased_iff hname hrecased).1.mpr ?_
  rw [hsigns, hothers]
  -- the tokens of the second pair are the only ones that differ, and of these only one counts
  intro first second hmem hne
  have hpairs : (first, second) ∈
      [("for".toList, "for".toList), ("forEach".toList, "foreach".toList)] := hmem
  have hdead : ¬ IsLive "forEach".toList := by decide +kernel
  have hpart : IsLive "for".toList := by decide +kernel
  simp only [List.mem_cons, List.not_mem_nil, or_false, Prod.mk.injEq] at hpairs
  rcases hpairs with ⟨rfl, rfl⟩ | ⟨rfl, rfl⟩
  · exact absurd rfl hne
  · exact ⟨fun hlive => absurd hlive hdead,
      fun _ => ⟨"for".toList, List.mem_cons_self, hpart, [], "each".toList, by decide⟩⟩

/-- A token with a capital letter is not found in a line that has it as it is written, while the
same token with a small letter is. -/
theorem exists_capital_token_not_found :
    ∃ table other, ofEntries [("js", ⟨["For"], []⟩)] "js" = .ok table ∧
      ofEntries [("js", ⟨["for"], []⟩)] "js" = .ok other ∧
      (table.signs (some (table.resolve (some "js")))).Recased
        (other.signs (some (other.resolve (some "js")))) ∧
      IsUncommented "For x".toList ∧ "For".toList <:+: "For x".toList ∧
      (table.scan (some "For x") (some "js")).loopCount = 0 ∧
      (other.scan (some "For x") (some "js")).loopCount = 1 := by
  refine ⟨⟨[("js", ⟨["For"], []⟩)], "js", rfl⟩,
    ⟨[("js", ⟨["for"], []⟩)], "js", rfl⟩, rfl, rfl, ?_, by decide,
    ⟨[], " x".toList, by decide⟩, by decide +kernel, by decide +kernel⟩
  rw [(signs_of_one_entry rfl _).2, (signs_of_one_entry rfl _).2]
  exact ⟨by decide, rfl⟩

end SignTable

end OrderOfGrowth

import OrderOfGrowth.Json.Writer
import OrderOfGrowth.Proofs.NumberText

/-!
# Written values are read back

What stands behind a written string, number or word decides where it ends, so that the grammar finds
the written value there and no other. Infinite and undefined numbers are written as words that the
grammar does not know. An object that is written with one member a line is a document for that
object if all its numbers are finite, and for no value else.
-/

namespace OrderOfGrowth.Json

variable {text rest : List Char} {units : List Nat} {value : Json}

/-- The four digits of a control character stand for it. -/
theorem hexDigits_control {n : ℕ} (hn : n < 0x20) :
    Text.hexDigits 4 n = ['0', '0', Nat.digitChar (n / 16), Nat.digitChar (n % 16)] ∧
      fourHex? '0' '0' (Nat.digitChar (n / 16)) (Nat.digitChar (n % 16)) = some n := by
  have hall : ∀ n < 0x20,
      Text.hexDigits 4 n = ['0', '0', Nat.digitChar (n / 16), Nat.digitChar (n % 16)] ∧
        fourHex? '0' '0' (Nat.digitChar (n / 16)) (Nat.digitChar (n % 16)) = some n := by
    decide
  exact hall n hn

/-- A character is written as one that stands for it behind a backslash, by its four digits, or as
it is. -/
theorem writeChar_cases (c : Char) :
    (∃ d, writeChar c = ['\\', d] ∧ escaped? d = some c.toNat) ∨
      (c.toNat < 0x20 ∧ writeChar c = '\\' :: 'u' :: Text.hexDigits 4 c.toNat) ∨
      (0x20 ≤ c.toNat ∧ c ≠ '"' ∧ c ≠ '\\' ∧ writeChar c = [c]) := by
  unfold writeChar
  split_ifs with hquote hbackslash _ _ _ _ _ hcontrol
  iterate 7
    · subst c
      exact Or.inl ⟨_, rfl, rfl⟩
  · exact Or.inr (Or.inl ⟨hcontrol, rfl⟩)
  · exact Or.inr (Or.inr ⟨Nat.le_of_not_lt hcontrol, hquote, hbackslash, rfl⟩)

/-- What is read behind a written character is that character. -/
theorem readsString_writeChar_iff {c : Char} :
    ReadsString (writeChar c ++ text) units rest ↔
      ∃ more, units = c.toNat :: more ∧ ReadsString text more rest := by
  rcases writeChar_cases c with
    ⟨d, hwritten, hescaped⟩ | ⟨hcontrol, hwritten⟩ | ⟨hcontrol, hquote, hbackslash, hwritten⟩
  · rw [hwritten]
    exact readsString_escape_iff hescaped
  · obtain ⟨hdigits, hunit⟩ := hexDigits_control hcontrol
    rw [hwritten, hdigits]
    exact readsString_code_iff hunit
  · rw [hwritten]
    exact readsString_plain_iff hcontrol hquote hbackslash

/-- What is read behind the written characters of a string is the string. -/
theorem readsString_flatMap_iff {s : List Char} :
    ReadsString (s.flatMap writeChar ++ '"' :: text) units rest ↔
      units = s.map Char.toNat ∧ rest = text := by
  induction s generalizing units with
  | nil => exact readsString_close_iff
  | cons c s ih =>
    rw [List.flatMap_cons, List.append_assoc, readsString_writeChar_iff]
    constructor
    · rintro ⟨more, rfl, hmore⟩
      obtain ⟨rfl, rfl⟩ := ih.mp hmore
      exact ⟨rfl, rfl⟩
    · rintro ⟨rfl, rfl⟩
      exact ⟨_, rfl, ih.mpr ⟨rfl, rfl⟩⟩

/-- No character is half of a surrogate pair. -/
theorem toNat_not_surrogate (c : Char) : ¬(0xD800 ≤ c.toNat ∧ c.toNat < 0xE000) := by
  have hvalid := c.valid
  simp only [UInt32.isValidChar, Nat.isValidChar] at hvalid
  simp only [Char.toNat]
  omega

/-- The code units of characters join to these characters. -/
theorem joinSurrogates_toNat (s : List Char) : joinSurrogates (s.map Char.toNat) = s := by
  have hsingle (c : Char) : joinSurrogates.single c.toNat = c := by
    rw [joinSurrogates.single, if_neg (toNat_not_surrogate c), Char.ofNat_toNat]
  induction s with
  | nil => rfl
  | cons c s ih =>
    cases s with
    | nil => exact congrArg (· :: []) (hsingle c)
    | cons d s =>
      have hpair : ¬(0xD800 ≤ c.toNat ∧ c.toNat < 0xDC00 ∧ 0xDC00 ≤ d.toNat ∧
          d.toNat < 0xE000) := by
        have := toNat_not_surrogate c
        omega
      rw [List.map_cons, List.map_cons, joinSurrogates, if_neg hpair, hsingle]
      exact congrArg (c :: ·) ih

/-- What is read behind the quotation mark of a written string stands for the string. -/
theorem exists_readsString_iff {s name : String} :
    (∃ units, name = String.ofList (joinSurrogates units) ∧
        ReadsString (s.toList.flatMap writeChar ++ '"' :: text) units rest) ↔
      name = s ∧ rest = text := by
  simp only [readsString_flatMap_iff]
  constructor
  · rintro ⟨_, rfl, rfl, rfl⟩
    rw [joinSurrogates_toNat, String.ofList_toList]
    exact ⟨rfl, rfl⟩
  · rintro ⟨rfl, rfl⟩
    refine ⟨_, ?_, rfl, rfl⟩
    rw [joinSurrogates_toNat, String.ofList_toList]

/-- A value without inner structure. -/
def IsPlain : Json → Prop
  | .list _ => False
  | .object _ => False
  | _ => True

/-- Whether a value is not an infinite or undefined number. -/
def HasText : Json → Prop
  | .number (.float x) => x.isFinite = true
  | _ => True

@[simp] theorem isPlain_null : IsPlain .null := trivial

@[simp] theorem isPlain_number (q : Quantity) : IsPlain (.number q) := trivial

@[simp] theorem isPlain_string (s : String) : IsPlain (.string s) := trivial

@[simp] theorem hasText_null : HasText .null := trivial

@[simp] theorem hasText_string (s : String) : HasText (.string s) := trivial

@[simp] theorem hasText_int (n : ℤ) : HasText (.number (.int n)) := trivial

@[simp] theorem hasText_truth (b : Bool) : HasText (.number (.truth b)) := trivial

@[simp] theorem hasText_float_iff {x : Binary64} :
    HasText (.number (.float x)) ↔ x.isFinite = true :=
  Iff.rfl

/-- What is read from a written number on, if it is finite, is the number. -/
theorem readsValue_write_number_iff {q : Quantity} (htext : EndsNumber text) :
    ReadsValue (write (.number q) ++ text) value rest ↔
      HasText (.number q) ∧ value = .number q ∧ rest = text := by
  have hform {form : NumberForm} {written : List Char} {q : Quantity}
      (hwritten : form.text = written) (hvalue : form.value = q) :
      ReadsValue (written ++ text) value rest ↔ value = .number q ∧ rest = text := by
    rw [← hwritten, ← hvalue]
    exact readsValue_number_iff htext
  cases q with
  | int n =>
    obtain ⟨form, hwritten, hvalue⟩ := exists_form_integerText n
    exact (hform hwritten hvalue).trans (and_iff_right trivial).symm
  | truth b =>
    have hword : (writeQuantity (.truth b), .number (.truth b)) ∈ words := by
      cases b with
      | false => exact mem_words_iff.mpr (Or.inr (Or.inr ⟨rfl, rfl⟩))
      | true => exact mem_words_iff.mpr (Or.inr (Or.inl ⟨rfl, rfl⟩))
    exact (readsValue_word_iff hword).trans (and_iff_right trivial).symm
  | float x =>
    cases x with
    | undefined =>
      exact iff_of_false (not_readsValue_capital false (Or.inl rfl)) fun h => by cases h.1
    | infinite negative =>
      refine iff_of_false ?_ fun h => by cases h.1
      cases negative with
      | false => exact not_readsValue_capital false (Or.inr rfl)
      | true => exact not_readsValue_capital true (Or.inr rfl)
    | finite negative s e h =>
      obtain ⟨form, hwritten, hvalue⟩ := exists_form_text negative h
      exact (hform hwritten hvalue).trans (and_iff_right rfl).symm

/-- What is read from a written value without inner structure on, if it is no infinite or undefined
number, is the value. -/
theorem readsValue_write_iff {written : Json} (hplain : written.IsPlain) (htext : EndsNumber text) :
    ReadsValue (written.write ++ text) value rest ↔
      written.HasText ∧ value = written ∧ rest = text := by
  cases written with
  | null =>
    have hword : (['n', 'u', 'l', 'l'], null) ∈ words := mem_words_iff.mpr (Or.inl ⟨rfl, rfl⟩)
    exact (readsValue_word_iff hword).trans (and_iff_right trivial).symm
  | number q => exact readsValue_write_number_iff htext
  | string s =>
    have hquote : write (.string s) ++ text =
        '"' :: (s.toList.flatMap writeChar ++ '"' :: text) := by
      simp [write, writeString]
    rw [hquote, readsValue_quote_iff]
    refine Iff.trans ?_ (and_iff_right trivial).symm
    constructor
    · rintro ⟨units, rfl, hread⟩
      obtain ⟨hname, rfl⟩ := exists_readsString_iff.mp ⟨units, rfl, hread⟩
      exact ⟨congrArg Json.string hname, rfl⟩
    · rintro ⟨rfl, rfl⟩
      obtain ⟨units, hname, hread⟩ := exists_readsString_iff.mpr ⟨rfl, rfl⟩
      exact ⟨units, congrArg Json.string hname, hread⟩
  | list => exact hplain.elim
  | object => exact hplain.elim

/-- No written value without inner structure begins with a blank. -/
theorem skipBetween_write {written : Json} (hplain : written.IsPlain) (htext : EndsNumber text) :
    skipBetween (written.write ++ text) = written.write ++ text := by
  by_cases hwritten : written.HasText
  · exact ((readsValue_write_iff hplain htext).mpr ⟨hwritten, rfl, rfl⟩).skipBetween_eq
  · -- a number that is written as a word of its own
    match written, hwritten with
    | .number (.float .undefined), _ => rfl
    | .number (.float (.infinite false)), _ => rfl
    | .number (.float (.infinite true)), _ => rfl
    | .number (.float (.finite ..)), hwritten => exact absurd rfl hwritten
    | .number (.int _), hwritten => exact absurd trivial hwritten
    | .number (.truth _), hwritten => exact absurd trivial hwritten
    | .null, hwritten => exact absurd trivial hwritten
    | .string _, hwritten => exact absurd trivial hwritten

/-- What is read from a written member on, if its value is no infinite or undefined number, is the
member. -/
theorem readsMember_write_iff {name : String} {written : Json} {member : String × Json}
    (hplain : written.IsPlain) (htext : EndsNumber text) :
    ReadsMember (writeString name ++ ':' :: ' ' :: (written.write ++ text)) member rest ↔
      written.HasText ∧ member = (name, written) ∧ rest = text := by
  have hquote : writeString name ++ ':' :: ' ' :: (written.write ++ text) =
      '"' :: (name.toList.flatMap writeChar ++ '"' :: ':' :: ' ' :: (written.write ++ text)) := by
    simp [writeString]
  have hcolon : skipBetween (':' :: ' ' :: (written.write ++ text)) =
      ':' :: ' ' :: (written.write ++ text) :=
    skipBetween_cons rfl
  have hblank : skipBetween (' ' :: (written.write ++ text)) = written.write ++ text :=
    (List.dropWhile_cons_of_pos rfl).trans (skipBetween_write hplain htext)
  rw [hquote, readsMember_quote_iff]
  constructor
  · rintro ⟨units, between, next, hname, hstring, hnext, hvalue⟩
    obtain ⟨hname, rfl⟩ := exists_readsString_iff.mp ⟨units, hname, hstring⟩
    obtain ⟨-, rfl⟩ := List.cons_eq_cons.mp (hcolon.symm.trans hnext)
    rw [hblank, readsValue_write_iff hplain htext] at hvalue
    obtain ⟨hwritten, hvalue, rfl⟩ := hvalue
    exact ⟨hwritten, Prod.ext hname hvalue, rfl⟩
  · rintro ⟨hwritten, rfl, rfl⟩
    obtain ⟨units, hname, hstring⟩ := exists_readsString_iff.mpr ⟨rfl, rfl⟩
    refine ⟨units, _, _, hname, hstring, hcolon, ?_⟩
    rw [hblank]
    exact (readsValue_write_iff hplain htext).mpr ⟨hwritten, rfl, rfl⟩

/-- A character that goes on with no number ends it. -/
theorem endsNumber_cons {c : Char}
    (hc : Numeral.isDigit c = false ∧ c ≠ '.' ∧ c ≠ 'e' ∧ c ≠ 'E') : EndsNumber (c :: text) := by
  intro d hd
  obtain rfl := Option.some.inj hd
  exact hc

/-- A member on a line of its own. -/
def memberLine (member : String × Json) : List Char :=
  ' ' :: ' ' :: (writeString member.1 ++ ':' :: ' ' :: member.2.write)

/-- The blanks in front of a member on a line of its own are skipped. -/
theorem skipBetween_memberLine (member : String × Json) (text : List Char) :
    skipBetween (memberLine member ++ text) =
      writeString member.1 ++ ':' :: ' ' :: (member.2.write ++ text) := by
  simp [memberLine, skipBetween, writeString, isBetween]

/-- What is read from written lines on, if none of their values is an infinite or undefined number,
is their members. -/
theorem readsMembers_lines_iff {members found : List (String × Json)} (hne : members ≠ [])
    (hplain : ∀ member ∈ members, member.2.IsPlain) :
    ReadsMembers (skipBetween (Text.joinWith [',', '\n'] (members.map memberLine) ++
        '\n' :: '\x7d' :: text)) found rest ↔
      (∀ member ∈ members, member.2.HasText) ∧ found = members ∧ rest = text := by
  induction members generalizing found with
  | nil => exact absurd rfl hne
  | cons member members ih =>
    have hmember := hplain member List.mem_cons_self
    cases members with
    | nil =>
      have hends : EndsNumber ('\n' :: '\x7d' :: text) := endsNumber_cons (by decide)
      rw [List.map_singleton, Text.joinWith, skipBetween_memberLine, readsMembers_iff]
      simp only [readsMember_write_iff hmember hends]
      constructor
      · rintro ⟨_, _, ⟨htext, rfl, rfl⟩, ⟨rfl, hclose⟩ | ⟨_, _, -, hcomma, -⟩⟩
        · obtain rfl : text = rest := (List.cons_eq_cons.mp hclose).2
          exact ⟨List.forall_mem_singleton.mpr htext, rfl, rfl⟩
        · cases hcomma
      · rintro ⟨htext, rfl, rfl⟩
        exact ⟨_, _, ⟨htext member List.mem_cons_self, rfl, rfl⟩, Or.inl ⟨rfl, rfl⟩⟩
    | cons next members =>
      set lines := Text.joinWith [',', '\n'] ((next :: members).map memberLine) ++
        '\n' :: '\x7d' :: text with hlines
      have hmore (found : List (String × Json)) : ReadsMembers (skipBetween lines) found rest ↔
          (∀ member ∈ next :: members, member.2.HasText) ∧ found = next :: members ∧ rest = text :=
        ih (List.cons_ne_nil _ _) fun other hother => hplain other (List.mem_cons_of_mem _ hother)
      have hends : EndsNumber (',' :: '\n' :: lines) := endsNumber_cons (by decide)
      have hall : Text.joinWith [',', '\n'] ((member :: next :: members).map memberLine) ++
          '\n' :: '\x7d' :: text = memberLine member ++ ',' :: '\n' :: lines := by
        have hnone : (next :: members).map memberLine ≠ [] := List.cons_ne_nil _ _
        rw [List.map_cons, Text.joinWith_cons hnone, hlines]
        simp
      rw [hall, skipBetween_memberLine, readsMembers_iff]
      simp only [readsMember_write_iff hmember hends]
      constructor
      · rintro ⟨_, _, ⟨htext, rfl, rfl⟩, ⟨-, hclose⟩ | ⟨_, _, rfl, hcomma, hmembers⟩⟩
        · cases hclose
        · obtain ⟨-, rfl⟩ := List.cons_eq_cons.mp hcomma
          obtain ⟨htexts, rfl, rfl⟩ := (hmore _).mp hmembers
          exact ⟨List.forall_mem_cons.mpr ⟨htext, htexts⟩, rfl, rfl⟩
      · rintro ⟨htexts, rfl, rfl⟩
        obtain ⟨htext, htexts⟩ := List.forall_mem_cons.mp htexts
        exact ⟨_, _, ⟨htext, rfl, rfl⟩,
          Or.inr ⟨_, _, rfl, rfl, (hmore _).mpr ⟨htexts, rfl, rfl⟩⟩⟩

/-- Members that are written one a line are a document for their object if none of their values is
an infinite or undefined number, and for no value else. -/
theorem isDocument_writeLines_iff {members : List (String × Json)} (hne : members ≠ [])
    (hplain : ∀ member ∈ members, member.2.IsPlain) :
    IsDocument (writeLines members ++ ['\n']) value ↔
      (∀ member ∈ members, member.2.HasText) ∧ value = .object members := by
  set lines := Text.joinWith [',', '\n'] (members.map memberLine) ++ ['\n', '\x7d', '\n']
    with hlines
  have hwritten : writeLines members = '\x7b' :: '\n' ::
      (Text.joinWith [',', '\n'] (members.map memberLine) ++ ['\n', '\x7d']) :=
    if_neg (by simp [hne])
  have hall : writeLines members ++ ['\n'] = '\x7b' :: '\n' :: lines := by
    rw [hwritten, hlines]
    simp
  have hstart : skipBetween ('\n' :: lines) = skipBetween lines := rfl
  have hquote : ∃ begun, skipBetween lines = '"' :: begun := by
    obtain ⟨member, more, rfl⟩ := List.exists_cons_of_ne_nil hne
    cases more with
    | nil => exact ⟨_, skipBetween_memberLine member _⟩
    | cons next more =>
      have hnone : (next :: more).map memberLine ≠ [] := List.cons_ne_nil _ _
      rw [hlines, List.map_cons, Text.joinWith_cons hnone, List.append_assoc, List.append_assoc]
      exact ⟨_, skipBetween_memberLine member _⟩
  obtain ⟨begun, hbegun⟩ := hquote
  have hread (rest : List Char) (found : List (String × Json)) :
      ReadsMembers (skipBetween lines) found rest ↔
        (∀ member ∈ members, member.2.HasText) ∧ found = members ∧ rest = ['\n'] :=
    readsMembers_lines_iff hne hplain
  rw [IsDocument, hall, skipBetween_cons rfl]
  simp only [readsValue_brace_iff (hstart.trans hbegun)]
  constructor
  · rintro ⟨rest, ⟨found, rfl, hmembers⟩, -⟩
    obtain ⟨htexts, rfl, -⟩ := (hread _ _).mp hmembers
    exact ⟨htexts, rfl⟩
  · rintro ⟨htexts, rfl⟩
    exact ⟨['\n'], ⟨_, rfl, (hread _ _).mpr ⟨htexts, rfl, rfl⟩⟩, rfl⟩

end OrderOfGrowth.Json

import Mathlib.Data.Option.Basic
import OrderOfGrowth.Json.Reader
import OrderOfGrowth.Proofs.NearestDouble

/-!
# The standard grammar of JSON

What the standard grammar makes of a text is a relation between the text, a value, and what is left
of the text behind the value. It knows no words for infinite and undefined numbers, and no limit to
digits and nesting. The grammar leaves no choice: the characters behind a number tell where it
ends, and so a text begins with one number at most and with one string at most.
-/

namespace OrderOfGrowth.Json

/-- A row of at least one digit. -/
def IsRow (row : List Char) : Prop := row ≠ [] ∧ ∀ c ∈ row, Numeral.isDigit c = true

/-- The exponent of a number. -/
@[ext]
structure ExponentForm where
  mark : Char
  sign : List Char
  row : List Char
  isMark : mark = 'e' ∨ mark = 'E'
  isSign : sign = [] ∨ sign = ['+'] ∨ sign = ['-']
  isRow : IsRow row

namespace ExponentForm

/-- The text of an exponent. -/
def text (form : ExponentForm) : List Char := form.mark :: (form.sign ++ form.row)

/-- The power of ten that an exponent stands for. -/
def value (form : ExponentForm) : Int :=
  if form.sign = ['-'] then -(Numeral.ofDigits form.row) else Numeral.ofDigits form.row

end ExponentForm

/-- The parts of a number: its digits before the point, of which the first is zero only if it is the
only one, the digits behind the point and the exponent. -/
@[ext]
structure NumberForm where
  negative : Bool
  whole : List Char
  fraction : Option (List Char)
  exponent : Option ExponentForm
  wholeRow : IsRow whole
  wholeZero : whole.head? = some '0' → whole = ['0']
  fractionRow : ∀ row ∈ fraction, IsRow row

namespace NumberForm

/-- The text of a sign that is not written for positive numbers. -/
def signText (negative : Bool) : List Char := if negative then ['-'] else []

/-- The text of the digits behind the point. -/
def fractionText : Option (List Char) → List Char
  | none => []
  | some row => '.' :: row

/-- The text of an exponent that may be missing. -/
def exponentText : Option ExponentForm → List Char
  | none => []
  | some form => form.text

/-- The text of a number. -/
def text (form : NumberForm) : List Char :=
  signText form.negative ++
    (form.whole ++ (fractionText form.fraction ++ exponentText form.exponent))

/-- A number without its sign as a decimal number. -/
def decimal (form : NumberForm) : Decimal where
  coefficient := Numeral.ofDigits (form.whole ++ form.fraction.getD [])
  exponent := (form.exponent.map ExponentForm.value).getD 0 - ((form.fraction.getD []).length : ℕ)

/-- What a number stands for: with a fraction or an exponent the nearest double, and else a whole
number. -/
def value (form : NumberForm) : Quantity :=
  if form.fraction.isNone && form.exponent.isNone then
    .int (if form.negative then -(Numeral.ofDigits form.whole) else Numeral.ofDigits form.whole)
  else .float (form.decimal.nearest form.negative)

end NumberForm

/-- Whether a number ends before a text: none of its characters could go on with the number. -/
def EndsNumber (rest : List Char) : Prop :=
  ∀ c ∈ rest.head?, Numeral.isDigit c = false ∧ c ≠ '.' ∧ c ≠ 'e' ∧ c ≠ 'E'

/-- The code units of a string behind its opening quotation mark, and the text behind its closing
one. -/
inductive ReadsString : List Char → List Nat → List Char → Prop where
  | close {rest : List Char} : ReadsString ('"' :: rest) [] rest
  | plain {c : Char} {text rest : List Char} {units : List Nat} (hcontrol : 0x20 ≤ c.toNat)
      (hquote : c ≠ '"') (hbackslash : c ≠ '\\') (hmore : ReadsString text units rest) :
      ReadsString (c :: text) (c.toNat :: units) rest
  | escape {c : Char} {unit : Nat} {text rest : List Char} {units : List Nat}
      (hescaped : escaped? c = some unit) (hmore : ReadsString text units rest) :
      ReadsString ('\\' :: c :: text) (unit :: units) rest
  | code {a b c d : Char} {unit : Nat} {text rest : List Char} {units : List Nat}
      (hunit : fourHex? a b c d = some unit) (hmore : ReadsString text units rest) :
      ReadsString ('\\' :: 'u' :: a :: b :: c :: d :: text) (unit :: units) rest

/-- The words of the grammar with what they stand for. -/
def words : List (List Char × Json) :=
  [(['n', 'u', 'l', 'l'], .null), (['t', 'r', 'u', 'e'], .bool true),
   (['f', 'a', 'l', 's', 'e'], .bool false)]

mutual

/-- A value at the start of a text, and the text behind it. -/
inductive ReadsValue : List Char → Json → List Char → Prop where
  | word {text word rest : List Char} {value : Json} (hword : (word, value) ∈ words)
      (htext : text = word ++ rest) : ReadsValue text value rest
  | number {text rest : List Char} {form : NumberForm} (htext : text = form.text ++ rest)
      (hends : EndsNumber rest) : ReadsValue text (.number form.value) rest
  | string {text rest : List Char} {units : List Nat} (hstring : ReadsString text units rest) :
      ReadsValue ('"' :: text) (.string (String.ofList (joinSurrogates units))) rest
  | emptyList {text rest : List Char} (hclose : skipBetween text = ']' :: rest) :
      ReadsValue ('[' :: text) (.list []) rest
  | list {text rest : List Char} {items : List Json}
      (hitems : ReadsItems (skipBetween text) items rest) :
      ReadsValue ('[' :: text) (.list items) rest
  | emptyObject {text rest : List Char} (hclose : skipBetween text = '\x7d' :: rest) :
      ReadsValue ('\x7b' :: text) (.object []) rest
  | object {text rest : List Char} {members : List (String × Json)}
      (hmembers : ReadsMembers (skipBetween text) members rest) :
      ReadsValue ('\x7b' :: text) (.object members) rest

/-- The items of a list up to its closing bracket; there is at least one. -/
inductive ReadsItems : List Char → List Json → List Char → Prop where
  | last {text between rest : List Char} {item : Json} (hitem : ReadsValue text item between)
      (hclose : skipBetween between = ']' :: rest) : ReadsItems text [item] rest
  | more {text between next rest : List Char} {item : Json} {items : List Json}
      (hitem : ReadsValue text item between) (hcomma : skipBetween between = ',' :: next)
      (hitems : ReadsItems (skipBetween next) items rest) : ReadsItems text (item :: items) rest

/-- A member of an object: a string, a colon and a value. -/
inductive ReadsMember : List Char → String × Json → List Char → Prop where
  | mk {text between next rest : List Char} {units : List Nat} {value : Json}
      (hname : ReadsString text units between) (hcolon : skipBetween between = ':' :: next)
      (hvalue : ReadsValue (skipBetween next) value rest) :
      ReadsMember ('"' :: text) (String.ofList (joinSurrogates units), value) rest

/-- The members of an object up to its closing brace; there is at least one. -/
inductive ReadsMembers : List Char → List (String × Json) → List Char → Prop where
  | last {text between rest : List Char} {member : String × Json}
      (hmember : ReadsMember text member between) (hclose : skipBetween between = '\x7d' :: rest) :
      ReadsMembers text [member] rest
  | more {text between next rest : List Char} {member : String × Json}
      {members : List (String × Json)} (hmember : ReadsMember text member between)
      (hcomma : skipBetween between = ',' :: next)
      (hmembers : ReadsMembers (skipBetween next) members rest) :
      ReadsMembers text (member :: members) rest

end

/-- A text is a document for a value if it has the value and nothing else but blanks. -/
def IsDocument (text : List Char) (value : Json) : Prop :=
  ∃ rest, ReadsValue (skipBetween text) value rest ∧ skipBetween rest = []

/-- Two rows of digits with no digit behind them are the same if the texts are. -/
theorem row_append_inj {row other rest tail : List Char}
    (hrow : ∀ c ∈ row, Numeral.isDigit c = true) (hother : ∀ c ∈ other, Numeral.isDigit c = true)
    (hrest : ∀ c ∈ rest.head?, Numeral.isDigit c = false)
    (htail : ∀ c ∈ tail.head?, Numeral.isDigit c = false) (h : row ++ rest = other ++ tail) :
    row = other ∧ rest = tail := by
  have hstop : ∀ {text : List Char}, (∀ c ∈ text.head?, Numeral.isDigit c = false) →
      text.takeWhile Numeral.isDigit = [] := by
    intro text htext
    cases text with
    | nil => rfl
    | cons c text => exact List.takeWhile_cons_of_neg (by simp [htext c rfl])
  have htaken := congrArg (List.takeWhile Numeral.isDigit) h
  rw [List.takeWhile_append_of_pos hrow, List.takeWhile_append_of_pos hother, hstop hrest,
    hstop htail, List.append_nil, List.append_nil] at htaken
  subst htaken
  exact ⟨rfl, List.append_cancel_left h⟩

/-- A row begins with a digit. -/
theorem IsRow.eq_cons {row : List Char} (h : IsRow row) :
    ∃ c rest, row = c :: rest ∧ Numeral.isDigit c = true := by
  obtain ⟨c, rest, rfl⟩ := List.exists_cons_of_ne_nil h.1
  exact ⟨c, rest, rfl, h.2 c List.mem_cons_self⟩

/-- A digit is none of the other characters of a number. -/
theorem ne_of_isDigit {c : Char} (hc : Numeral.isDigit c = true) :
    c ≠ '+' ∧ c ≠ '-' ∧ c ≠ '.' ∧ c ≠ 'e' ∧ c ≠ 'E' := by
  refine ⟨?_, ?_, ?_, ?_, ?_⟩ <;> (rintro rfl; revert hc; decide)

/-- Two signs with digits behind them are the same if the texts are. -/
theorem sign_append_inj {sign other row last text tail : List Char}
    (hsign : sign = [] ∨ sign = ['+'] ∨ sign = ['-'])
    (hother : other = [] ∨ other = ['+'] ∨ other = ['-']) (hrow : IsRow row) (hlast : IsRow last)
    (h : sign ++ (row ++ text) = other ++ (last ++ tail)) :
    sign = other ∧ row ++ text = last ++ tail := by
  obtain ⟨c, _, rfl, hc⟩ := hrow.eq_cons
  obtain ⟨d, _, rfl, hd⟩ := hlast.eq_cons
  have hne := ne_of_isDigit hc
  have hne' := ne_of_isDigit hd
  rcases hsign with rfl | rfl | rfl <;> rcases hother with rfl | rfl | rfl <;> grind

/-- What ends a number does not begin with a digit. -/
theorem EndsNumber.isDigit_eq_false {rest : List Char} (h : EndsNumber rest) :
    ∀ c ∈ rest.head?, Numeral.isDigit c = false :=
  fun c hc => (h c hc).1

/-- Two exponents at the end of a number are the same if the texts are. -/
theorem ExponentForm.text_append_inj {form other : ExponentForm} {rest tail : List Char}
    (hrest : EndsNumber rest) (htail : EndsNumber tail)
    (h : form.text ++ rest = other.text ++ tail) : form = other ∧ rest = tail := by
  unfold text at h
  rw [List.cons_append, List.cons_append, List.append_assoc, List.append_assoc] at h
  obtain ⟨hmark, h⟩ := List.cons_eq_cons.mp h
  obtain ⟨hsign, h⟩ := sign_append_inj form.isSign other.isSign form.isRow other.isRow h
  obtain ⟨hrow, h⟩ := row_append_inj form.isRow.2 other.isRow.2 hrest.isDigit_eq_false
    htail.isDigit_eq_false h
  exact ⟨ExponentForm.ext hmark hsign hrow, h⟩

namespace NumberForm

variable {rest tail : List Char}

/-- Behind the digits of a number stands an exponent mark or what ends the number. -/
theorem head?_exponentText (form : Option ExponentForm) (hrest : EndsNumber rest) :
    ∀ c ∈ (exponentText form ++ rest).head?, Numeral.isDigit c = false ∧ c ≠ '.' := by
  intro c hc
  cases form with
  | none =>
    obtain ⟨hdigit, hpoint, -⟩ := hrest c hc
    exact ⟨hdigit, hpoint⟩
  | some form =>
    obtain rfl : form.mark = c := Option.some.inj hc
    rcases form.isMark with hmark | hmark
    · rw [hmark]
      decide
    · rw [hmark]
      decide

/-- Two exponents that may be missing are the same if the texts are. -/
theorem exponentText_append_inj {form other : Option ExponentForm} (hrest : EndsNumber rest)
    (htail : EndsNumber tail) (h : exponentText form ++ rest = exponentText other ++ tail) :
    form = other ∧ rest = tail := by
  have hmissing : ∀ (form : ExponentForm) {rest tail : List Char}, EndsNumber rest →
      rest ≠ form.text ++ tail := by
    rintro form rest tail hrest rfl
    obtain ⟨-, -, hsmall, hlarge⟩ := hrest form.mark rfl
    exact form.isMark.elim hsmall hlarge
  cases form with
  | none =>
    cases other with
    | none => exact ⟨rfl, h⟩
    | some other => exact absurd h (hmissing other hrest)
  | some form =>
    cases other with
    | none => exact absurd h.symm (hmissing form htail)
    | some other =>
      obtain ⟨rfl, hsame⟩ := ExponentForm.text_append_inj hrest htail h
      exact ⟨rfl, hsame⟩

/-- Two fractions that may be missing are the same if the texts are. -/
theorem fractionText_append_inj {row other : Option (List Char)} (hrow : ∀ r ∈ row, IsRow r)
    (hother : ∀ r ∈ other, IsRow r)
    (hrest : ∀ c ∈ rest.head?, Numeral.isDigit c = false ∧ c ≠ '.')
    (htail : ∀ c ∈ tail.head?, Numeral.isDigit c = false ∧ c ≠ '.')
    (h : fractionText row ++ rest = fractionText other ++ tail) : row = other ∧ rest = tail := by
  cases row with
  | none =>
    cases other with
    | none => exact ⟨rfl, h⟩
    | some other =>
      obtain rfl : rest = '.' :: (other ++ tail) := h
      exact absurd rfl (hrest '.' rfl).2
  | some row =>
    cases other with
    | none =>
      obtain rfl : '.' :: (row ++ rest) = tail := h
      exact absurd rfl (htail '.' rfl).2
    | some other =>
      obtain ⟨-, h⟩ := List.cons_eq_cons.mp h
      obtain ⟨rfl, hsame⟩ := row_append_inj (hrow row rfl).2 (hother other rfl).2
        (fun c hc => (hrest c hc).1) (fun c hc => (htail c hc).1) h
      exact ⟨rfl, hsame⟩

/-- Behind the whole part of a number no digit stands. -/
theorem head?_fractionText (row : Option (List Char))
    (hrest : ∀ c ∈ rest.head?, Numeral.isDigit c = false ∧ c ≠ '.') :
    ∀ c ∈ (fractionText row ++ rest).head?, Numeral.isDigit c = false := by
  intro c hc
  cases row with
  | none => exact (hrest c hc).1
  | some row =>
    obtain rfl : '.' = c := Option.some.inj hc
    rfl

/-- A sign that is not written for positive numbers is a sign. -/
theorem signText_cases (negative : Bool) :
    signText negative = [] ∨ signText negative = ['+'] ∨ signText negative = ['-'] := by
  cases negative with
  | false => exact Or.inl rfl
  | true => exact Or.inr (Or.inr rfl)

/-- A text begins with one number at most. -/
theorem text_append_inj {form other : NumberForm} (hrest : EndsNumber rest)
    (htail : EndsNumber tail) (h : form.text ++ rest = other.text ++ tail) :
    form = other ∧ rest = tail := by
  unfold text at h
  simp only [List.append_assoc] at h
  have hexponent := head?_exponentText form.exponent hrest
  have hexponent' := head?_exponentText other.exponent htail
  obtain ⟨hsign, h⟩ := sign_append_inj (signText_cases _) (signText_cases _) form.wholeRow
    other.wholeRow h
  obtain ⟨hwhole, h⟩ := row_append_inj form.wholeRow.2 other.wholeRow.2
    (head?_fractionText _ hexponent) (head?_fractionText _ hexponent') h
  obtain ⟨hfraction, h⟩ := fractionText_append_inj form.fractionRow other.fractionRow hexponent
    hexponent' h
  obtain ⟨hexponents, h⟩ := exponentText_append_inj hrest htail h
  have hnegative : form.negative = other.negative := by
    revert hsign
    cases form.negative <;> cases other.negative <;> decide
  exact ⟨NumberForm.ext hnegative hwhole hfraction hexponents, h⟩

/-- A number has a digit at its start or behind its sign. -/
theorem begins {form : NumberForm} {c : Char} (negative : Bool)
    (h : signText negative ++ c :: tail = form.text ++ rest) :
    c = '-' ∨ Numeral.isDigit c = true := by
  obtain ⟨d, row, hwhole, hd⟩ := form.wholeRow.eq_cons
  have hminus := (ne_of_isDigit hd).2.1
  unfold text at h
  rw [hwhole] at h
  cases negative <;> cases hnegative : form.negative <;> rw [hnegative] at h
  · exact Or.inr ((List.cons_eq_cons.mp h).1 ▸ hd)
  · exact Or.inl (List.cons_eq_cons.mp h).1
  · exact absurd (List.cons_eq_cons.mp h).1.symm hminus
  · exact Or.inr ((List.cons_eq_cons.mp (List.cons_eq_cons.mp h).2).1 ▸ hd)

end NumberForm

variable {text rest : List Char} {units : List Nat} {value : Json}

/-- What is read as a string behind a quotation mark. -/
theorem readsString_close_iff :
    ReadsString ('"' :: text) units rest ↔ units = [] ∧ rest = text := by
  constructor
  · intro h
    cases h with
    | close => exact ⟨rfl, rfl⟩
    | plain _ hquote => exact absurd rfl hquote
  · rintro ⟨rfl, rfl⟩
    exact .close

/-- What is read as a string behind a character that stands for itself. -/
theorem readsString_plain_iff {c : Char} (hcontrol : 0x20 ≤ c.toNat) (hquote : c ≠ '"')
    (hbackslash : c ≠ '\\') :
    ReadsString (c :: text) units rest ↔
      ∃ more, units = c.toNat :: more ∧ ReadsString text more rest := by
  constructor
  · intro h
    cases h with
    | close => exact absurd rfl hquote
    | plain _ _ _ hmore => exact ⟨_, rfl, hmore⟩
    | escape => exact absurd rfl hbackslash
    | code => exact absurd rfl hbackslash
  · rintro ⟨more, rfl, hmore⟩
    exact .plain hcontrol hquote hbackslash hmore

/-- What is read as a string behind an escaped character. -/
theorem readsString_escape_iff {c : Char} {unit : Nat} (hescaped : escaped? c = some unit) :
    ReadsString ('\\' :: c :: text) units rest ↔
      ∃ more, units = unit :: more ∧ ReadsString text more rest := by
  constructor
  · intro h
    cases h with
    | plain _ _ hbackslash => exact absurd rfl hbackslash
    | escape hother hmore =>
      obtain rfl := Option.some.inj (hescaped.symm.trans hother)
      exact ⟨_, rfl, hmore⟩
    | code => cases hescaped
  · rintro ⟨more, rfl, hmore⟩
    exact .escape hescaped hmore

/-- What is read as a string behind an escaped code unit. -/
theorem readsString_code_iff {a b c d : Char} {unit : Nat} (hunit : fourHex? a b c d = some unit) :
    ReadsString ('\\' :: 'u' :: a :: b :: c :: d :: text) units rest ↔
      ∃ more, units = unit :: more ∧ ReadsString text more rest := by
  constructor
  · intro h
    cases h with
    | plain _ _ hbackslash => exact absurd rfl hbackslash
    | escape hother => cases hother
    | code hother hmore =>
      obtain rfl := Option.some.inj (hunit.symm.trans hother)
      exact ⟨_, rfl, hmore⟩
  · rintro ⟨more, rfl, hmore⟩
    exact .code hunit hmore

/-- The words of the grammar, one by one. -/
theorem mem_words_iff {word : List Char} :
    (word, value) ∈ words ↔
      word = ['n', 'u', 'l', 'l'] ∧ value = .null ∨
      word = ['t', 'r', 'u', 'e'] ∧ value = .bool true ∨
      word = ['f', 'a', 'l', 's', 'e'] ∧ value = .bool false := by
  simp [words]

/-- A word begins with one of three letters. -/
theorem begins_of_mem_words {word tail : List Char} {c : Char} (hword : (word, value) ∈ words)
    (h : c :: tail = word ++ rest) : c = 'n' ∨ c = 't' ∨ c = 'f' := by
  rcases mem_words_iff.mp hword with ⟨rfl, -⟩ | ⟨rfl, -⟩ | ⟨rfl, -⟩
  · exact Or.inl (List.cons_eq_cons.mp h).1
  · exact Or.inr (Or.inl (List.cons_eq_cons.mp h).1)
  · exact Or.inr (Or.inr (List.cons_eq_cons.mp h).1)

/-- No text begins with both a word and a number. -/
theorem word_ne_number {word : List Char} {form : NumberForm} (hword : (word, value) ∈ words) :
    word ++ text ≠ form.text ++ rest := by
  intro h
  rcases mem_words_iff.mp hword with ⟨rfl, -⟩ | ⟨rfl, -⟩ | ⟨rfl, -⟩
  all_goals exact absurd (NumberForm.begins false h) (by decide)

/-- A text begins with one word at most. -/
theorem words_append_inj {word other : List Char} {named : Json} (hword : (word, named) ∈ words)
    (hother : (other, value) ∈ words) (h : word ++ text = other ++ rest) :
    value = named ∧ rest = text := by
  rcases mem_words_iff.mp hword with ⟨rfl, rfl⟩ | ⟨rfl, rfl⟩ | ⟨rfl, rfl⟩ <;>
    rcases mem_words_iff.mp hother with ⟨rfl, rfl⟩ | ⟨rfl, rfl⟩ | ⟨rfl, rfl⟩ <;>
      simp_all

/-- What is read as a value from a quotation mark on is a string. -/
theorem readsValue_quote_iff :
    ReadsValue ('"' :: text) value rest ↔
      ∃ units, value = .string (String.ofList (joinSurrogates units)) ∧
        ReadsString text units rest := by
  constructor
  · intro h
    cases h with
    | word hword htext => exact absurd (begins_of_mem_words hword htext) (by decide)
    | number htext => exact absurd (NumberForm.begins false htext) (by decide)
    | string hstring => exact ⟨_, rfl, hstring⟩
  · rintro ⟨units, rfl, hstring⟩
    exact .string hstring

/-- What is read as a value from a brace on is an object. -/
theorem readsValue_brace_iff {members : List Char}
    (h : skipBetween text = '"' :: members) :
    ReadsValue ('\x7b' :: text) value rest ↔
      ∃ found, value = .object found ∧ ReadsMembers (skipBetween text) found rest := by
  constructor
  · intro h
    cases h with
    | word hword htext => exact absurd (begins_of_mem_words hword htext) (by decide)
    | number htext => exact absurd (NumberForm.begins false htext) (by decide)
    | emptyObject hclose => cases h.symm.trans hclose
    | object hmembers => exact ⟨_, rfl, hmembers⟩
  · rintro ⟨found, rfl, hmembers⟩
    exact .object hmembers

/-- What is read as a value from a word on is what the word stands for. -/
theorem readsValue_word_iff {word : List Char} {named : Json} (hword : (word, named) ∈ words) :
    ReadsValue (word ++ text) value rest ↔ value = named ∧ rest = text := by
  constructor
  · intro h
    generalize hall : word ++ text = all at h
    cases h with
    | word hother hsame => exact words_append_inj hword hother (hall.trans hsame)
    | number htext => exact absurd (hall.trans htext) (word_ne_number hword)
    | _ => exact absurd (begins_of_mem_words hword hall.symm) (by decide)
  · rintro ⟨rfl, rfl⟩
    exact .word hword rfl

/-- What is read as a value from a number on is the number. -/
theorem readsValue_number_iff {form : NumberForm} (hends : EndsNumber text) :
    ReadsValue (form.text ++ text) value rest ↔ value = .number form.value ∧ rest = text := by
  constructor
  · intro h
    generalize hall : form.text ++ text = all at h
    cases h with
    | word hword htext => exact absurd (htext.symm.trans hall.symm) (word_ne_number hword)
    | number htext hother =>
      obtain ⟨rfl, rfl⟩ := NumberForm.text_append_inj hends hother (hall.trans htext)
      exact ⟨rfl, rfl⟩
    | _ => exact absurd (NumberForm.begins false hall.symm) (by decide)
  · rintro ⟨rfl, rfl⟩
    exact .number rfl hends

/-- What is read as a member from a quotation mark on is its name, a colon and its value. -/
theorem readsMember_quote_iff {member : String × Json} :
    ReadsMember ('"' :: text) member rest ↔
      ∃ units between next, member.1 = String.ofList (joinSurrogates units) ∧
        ReadsString text units between ∧ skipBetween between = ':' :: next ∧
        ReadsValue (skipBetween next) member.2 rest := by
  constructor
  · intro h
    cases h with
    | mk hname hcolon hvalue => exact ⟨_, _, _, rfl, hname, hcolon, hvalue⟩
  · obtain ⟨name, value⟩ := member
    rintro ⟨units, between, next, rfl, hname, hcolon, hvalue⟩
    exact .mk hname hcolon hvalue

/-- What is read as members is a member, and more members behind a comma or the closing brace. -/
theorem readsMembers_iff {found : List (String × Json)} :
    ReadsMembers text found rest ↔
      ∃ member between, ReadsMember text member between ∧
        (found = [member] ∧ skipBetween between = '\x7d' :: rest ∨
          ∃ members next, found = member :: members ∧ skipBetween between = ',' :: next ∧
            ReadsMembers (skipBetween next) members rest) := by
  constructor
  · intro h
    cases h with
    | last hmember hclose => exact ⟨_, _, hmember, Or.inl ⟨rfl, hclose⟩⟩
    | more hmember hcomma hmembers =>
      exact ⟨_, _, hmember, Or.inr ⟨_, _, rfl, hcomma, hmembers⟩⟩
  · rintro ⟨member, between, hmember, ⟨rfl, hclose⟩ | ⟨members, next, rfl, hcomma, hmembers⟩⟩
    · exact .last hmember hclose
    · exact .more hmember hcomma hmembers

/-- A text that does not begin with a blank has nothing to skip. -/
theorem skipBetween_cons {c : Char} (hc : isBetween c = false) :
    skipBetween (c :: text) = c :: text :=
  List.dropWhile_cons_of_neg (by simp [hc])

/-- A digit is no blank. -/
theorem isBetween_of_isDigit {c : Char} (hc : Numeral.isDigit c = true) : isBetween c = false := by
  by_contra hbetween
  simp only [isBetween, Bool.not_eq_false, Bool.or_eq_true, beq_iff_eq] at hbetween
  rcases hbetween with ((rfl | rfl) | rfl) | rfl <;> exact absurd hc (by decide)

/-- No value begins with a blank. -/
theorem ReadsValue.skipBetween_eq (h : ReadsValue text value rest) : skipBetween text = text := by
  cases text with
  | nil => rfl
  | cons c text =>
    refine skipBetween_cons ?_
    cases h with
    | word hword htext =>
      rcases begins_of_mem_words hword htext with rfl | rfl | rfl <;> rfl
    | number htext =>
      rcases NumberForm.begins false htext with rfl | hdigit
      · rfl
      · exact isBetween_of_isDigit hdigit
    | _ => rfl

/-- No value begins with a capital letter, nor with a sign before one. -/
theorem not_readsValue_capital {c : Char} (negative : Bool) (hc : c = 'N' ∨ c = 'I') :
    ¬ReadsValue (NumberForm.signText negative ++ c :: text) value rest := by
  intro h
  cases negative with
  | false =>
    rcases hc with rfl | rfl <;> cases h with
      | word hword htext => exact absurd (begins_of_mem_words hword htext) (by decide)
      | number htext => exact absurd (NumberForm.begins false htext) (by decide)
  | true =>
    rcases hc with rfl | rfl <;> cases h with
      | word hword htext => exact absurd (begins_of_mem_words hword htext) (by decide)
      | number htext => exact absurd (NumberForm.begins true htext) (by decide)

end OrderOfGrowth.Json

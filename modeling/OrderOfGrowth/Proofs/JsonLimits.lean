import Mathlib.Data.List.Infix
import Mathlib.Data.List.TakeWhile
import OrderOfGrowth.Json.Reader
import OrderOfGrowth.Proofs.JsonGrammar
import OrderOfGrowth.Proofs.ShortestDecimal
import OrderOfGrowth.Proofs.Success

/-!
# The limits of the JSON reader

The reader refuses a text for two reasons other than its form: a whole number with too many digits,
and values that are nested too deep. Both are seen in the text. A refused number is a long row of
digits in it, and nesting that is refused takes more opening brackets than there may be levels. A
text that is nothing but a row of too many digits is refused indeed. So every number that is read
has few enough digits to be written.
-/

namespace OrderOfGrowth.Json

variable {α β : Type} {text rest : List Char}

/-- A character that opens a list or an object. -/
def opens (c : Char) : Bool := c == '[' || c == '\x7b'

/-- A row of digits that is longer than any number may be. -/
def HasLongRow (text : List Char) (count : ℕ) : Prop :=
  maxDigits < count ∧
    ∃ row : List Char, row.length = count ∧ (∀ c ∈ row, Numeral.isDigit c = true) ∧ row <:+: text

/-- What reading from a text comes to: it leaves an end of the text, the text is malformed, or it
shows why it is refused, where `levels` lists and objects may be opened inside each other. -/
def Shows (levels : ℕ) (text : List Char) : Except Problem (α × List Char) → Prop
  | .ok (_, rest) => rest <:+ text
  | .error .malformed => True
  | .error (.tooManyDigits count) => HasLongRow text count
  | .error (.nestedTooDeep _) => levels < text.countP opens

/-- What an end of a text shows the whole text shows. -/
theorem Shows.of_suffix {levels : ℕ} {outcome : Except Problem (α × List Char)}
    (h : Shows levels rest outcome) (hrest : rest <:+ text) : Shows levels text outcome := by
  rcases outcome with (_ | count | _) | ⟨_, left⟩
  · trivial
  · obtain ⟨hlong, row, hlength, hdigits, hinfix⟩ := h
    exact ⟨hlong, row, hlength, hdigits, hinfix.trans hrest.isInfix⟩
  · exact lt_of_lt_of_le h hrest.sublist.countP_le
  · exact List.IsSuffix.trans h hrest

/-- Behind an opening bracket there is one level less, and one bracket less. -/
theorem Shows.of_opens {levels : ℕ} {c : Char} {outcome : Except Problem (α × List Char)}
    (h : Shows levels text outcome) (hc : opens c = true) :
    Shows (levels + 1) (c :: text) outcome := by
  rcases outcome with (_ | count | _) | ⟨_, left⟩
  · trivial
  · exact h.of_suffix (List.suffix_cons c text)
  · change levels + 1 < (c :: text).countP opens
    rw [List.countP_cons_of_pos hc]
    exact Nat.succ_lt_succ h
  · exact h.of_suffix (List.suffix_cons c text)

/-- Reading in sequence: what follows goes on with an end of the text. -/
theorem Shows.bind {levels : ℕ} {first : Except Problem (α × List Char)}
    {next : α × List Char → Except Problem (β × List Char)} (h : Shows levels text first)
    (hnext : ∀ a rest, rest <:+ text → Shows levels text (next (a, rest))) :
    Shows levels text (first >>= next) := by
  rcases first with (_ | count | _) | ⟨a, left⟩
  · trivial
  · exact h
  · exact h
  · exact hnext a left h

/-- A result that is changed leaves the same end of the text. -/
theorem Shows.map {levels : ℕ} {outcome : Except Problem (α × List Char)}
    (h : Shows levels text outcome) (f : α → β) :
    Shows levels text (outcome.map fun (a, rest) => (f a, rest)) := by
  rcases outcome with (_ | count | _) | ⟨a, left⟩ <;> exact h

/-- Passing over what stands between the parts of a text leaves an end of it. -/
theorem skipBetween_suffix (text : List Char) : skipBetween text <:+ text :=
  List.dropWhile_suffix _

/-- What stands behind the next character is an end of the text. -/
theorem suffix_of_skipBetween {c : Char} (h : skipBetween text = c :: rest) : rest <:+ text :=
  (List.suffix_cons c rest).trans (h ▸ skipBetween_suffix text)

/-- A string ends inside the text. -/
theorem suffix_of_stringUnits? {units : List ℕ} (h : stringUnits? text = some (units, rest)) :
    rest <:+ text := by
  fun_induction stringUnits? text generalizing units with
  | case1 tail =>
    obtain ⟨-, rfl⟩ := Prod.mk.inj (Option.some.inj h)
    exact List.suffix_cons _ _
  | case2 a b c d tail ih =>
    simp only [bind, Option.bind_eq_some_iff, pure, Option.some.injEq, Prod.mk.injEq] at h
    obtain ⟨_, -, ⟨_, _⟩, hfound, -, rfl⟩ := h
    exact (ih hfound).trans (List.suffix_append ['\\', 'u', a, b, c, d] tail)
  | case3 c tail _ ih =>
    simp only [bind, Option.bind_eq_some_iff, pure, Option.some.injEq, Prod.mk.injEq] at h
    obtain ⟨_, -, ⟨_, _⟩, hfound, -, rfl⟩ := h
    exact (ih hfound).trans (List.suffix_append ['\\', c] tail)
  | case4 => cases h
  | case5 c tail _ _ _ _ ih =>
    simp only [bind, Option.bind_eq_some_iff, pure, Option.some.injEq, Prod.mk.injEq] at h
    obtain ⟨⟨_, _⟩, hfound, -, rfl⟩ := h
    exact (ih hfound).trans (List.suffix_cons c tail)
  | case6 => cases h

/-- Reading a string shows nothing but its form. -/
theorem shows_readString (levels : ℕ) (text : List Char) : Shows levels text (readString text) := by
  unfold readString
  split
  · next hfound => exact suffix_of_stringUnits? hfound
  · trivial

/-- The digits of the whole part stand at the start of the text. -/
theorem wholeDigits_spec (text : List Char) :
    wholeDigits text <+: text ∧ ∀ c ∈ wholeDigits text, Numeral.isDigit c = true := by
  fun_cases wholeDigits text with
  | case1 tail => exact ⟨List.prefix_append ['0'] tail, by simp [Numeral.isDigit]⟩
  | case2 =>
    exact ⟨List.takeWhile_prefix _, List.all_eq_true.mp List.all_takeWhile⟩

/-- Reading a number shows its row of digits if there are too many. -/
theorem shows_readNumber (levels : ℕ) (negative : Bool) (text : List Char) :
    Shows levels text (readNumber negative text) := by
  obtain ⟨hfront, hdigits⟩ := wholeDigits_spec text
  unfold readNumber
  extract_lets whole rest fraction behind exponent left
  have hbehind : behind <:+ text := by
    have hrest : rest <:+ text := List.drop_suffix _ _
    unfold behind
    split_ifs
    · exact hrest
    · exact (List.drop_suffix _ _).trans hrest
  have hleft : left <:+ text := (List.drop_suffix _ _).trans hbehind
  split_ifs with hempty hplain hlong
  · trivial
  · exact ⟨hlong, _, rfl, hdigits, hfront.isInfix⟩
  · exact hleft
  · exact hleft
  · exact hleft

/-- What stands behind a word is an end of the text. -/
theorem suffix_of_afterWord? {word : String} (h : afterWord? word text = some rest) :
    rest <:+ text := by
  unfold afterWord? at h
  split_ifs at h
  obtain rfl := Option.some.inj h
  exact List.drop_suffix _ _

/-- Reading a value that holds no others shows at most a row of digits. -/
theorem shows_readPlain (levels : ℕ) (text : List Char) : Shows levels text (readPlain text) := by
  unfold readPlain
  extract_lets number
  have hnumber (negative : Bool) {body : List Char} (hbody : body <:+ text) :
      Shows levels text (number negative body) :=
    ((shows_readNumber levels negative body).map Json.number).of_suffix hbody
  split
  · exact suffix_of_afterWord? ‹afterWord? "null" _ = some _›
  · exact suffix_of_afterWord? ‹afterWord? "true" _ = some _›
  · exact suffix_of_afterWord? ‹afterWord? "false" _ = some _›
  · exact suffix_of_afterWord? ‹afterWord? "NaN" _ = some _›
  · exact suffix_of_afterWord? ‹afterWord? "Infinity" _ = some _›
  · exact suffix_of_afterWord? ‹afterWord? "-Infinity" _ = some _›
  · exact hnumber true (List.suffix_cons _ _)
  · exact hnumber false List.suffix_rfl

/-- Reading values, the items of a list and the members of an object shows why it is refused: a
bracket is passed at every level, and everything else is read from an end of the text. -/
theorem shows_reading (count : ℕ) :
    (∀ levels text, Shows levels text (readValue count levels text)) ∧
    (∀ levels text, Shows levels text (readItems count levels text)) ∧
    ∀ levels found text, Shows levels text (readMembers count levels found text) := by
  -- The three readers call each other with a smaller count, so they are followed at once.
  induction count with
  | zero => exact ⟨fun _ _ => trivial, fun _ _ => trivial, fun _ _ _ => trivial⟩
  | succ count ih =>
    obtain ⟨hvalue, hitems, hmembers⟩ := ih
    refine ⟨fun levels text => ?_, fun levels text => ?_, fun levels found text => ?_⟩
    · unfold readValue
      split
      · exact ((shows_readString _ _).map string).of_suffix (List.suffix_cons _ _)
      · exact List.countP_pos_iff.mpr ⟨_, List.mem_cons_self, rfl⟩
      · refine Shows.of_opens ?_ rfl
        split
        · next hclosed => exact suffix_of_skipBetween hclosed
        · exact ((hitems _ _).map list).of_suffix (skipBetween_suffix _)
      · exact List.countP_pos_iff.mpr ⟨_, List.mem_cons_self, rfl⟩
      · refine Shows.of_opens ?_ rfl
        split
        · next hclosed => exact suffix_of_skipBetween hclosed
        · exact ((hmembers _ _ _).map object).of_suffix (skipBetween_suffix _)
      · exact shows_readPlain levels text
    · unfold readItems
      refine (hvalue levels text).bind fun item rest hrest => ?_
      dsimp only
      split
      · next hclosed => exact (suffix_of_skipBetween hclosed).trans hrest
      · next tail hcomma =>
        have htail := (suffix_of_skipBetween hcomma).trans hrest
        refine ((hitems levels _).of_suffix ((skipBetween_suffix tail).trans htail)).bind ?_
        exact fun items left hleft => hleft
      · trivial
    · unfold readMembers
      split
      · refine ((shows_readString levels _).of_suffix (List.suffix_cons _ _)).bind ?_
        intro key rest hrest
        dsimp only
        split
        · next afterColon hcolon =>
          have hafter := (suffix_of_skipBetween hcolon).trans hrest
          refine ((hvalue levels _).of_suffix ((skipBetween_suffix _).trans hafter)).bind ?_
          intro value left hleft
          dsimp only
          split
          · next hclosed => exact (suffix_of_skipBetween hclosed).trans hleft
          · next tail hcomma =>
            have htail := (suffix_of_skipBetween hcomma).trans hleft
            exact (hmembers levels _ _).of_suffix ((skipBetween_suffix tail).trans htail)
          · trivial
        · trivial
      · trivial

/-- A text is refused for its form, or it shows why it is refused: a long row of digits or more
opening brackets than there may be levels. -/
theorem shows_of_read_eq_error {levels : ℕ} {problem : Problem}
    (h : read levels text = .error problem) :
    match problem with
    | .malformed => True
    | .tooManyDigits count => HasLongRow text count
    | .nestedTooDeep _ => levels < text.countP opens := by
  have hstart := skipBetween_suffix text
  have hshows := (shows_reading (2 * (skipBetween text).length + 1)).1 levels (skipBetween text)
  have hshows := hshows.of_suffix hstart
  unfold read at h
  rcases bind_eq_error.mp h with hvalue | ⟨⟨value, rest⟩, -, hend⟩
  · rw [hvalue] at hshows
    cases problem <;> exact hshows
  · dsimp only at hend
    split_ifs at hend
    · cases hend
    · obtain rfl := Except.error.inj hend
      trivial

/-- A row of digits is one whole number unless it begins with a zero. -/
theorem wholeDigits_of_row {row : List Char} (hdigits : ∀ c ∈ row, Numeral.isDigit c = true)
    (hfirst : row.head? ≠ some '0') : wholeDigits row = row := by
  fun_cases wholeDigits row with
  | case1 => exact absurd rfl hfirst
  | case2 => exact List.takeWhile_eq_self_iff.mpr hdigits

/-- A word that does not begin with a digit does not stand where a digit stands. -/
theorem afterWord?_of_isDigit {word : String} {c d : Char} {row : List Char}
    (hword : word.toList.head? = some c) (hc : Numeral.isDigit c = false)
    (hd : Numeral.isDigit d = true) : afterWord? word (d :: row) = none := by
  obtain ⟨tail, hword⟩ := List.head?_eq_some_iff.mp hword
  have hne : c ≠ d := by
    rintro rfl
    rw [hc] at hd
    cases hd
  simp [afterWord?, hword, List.isPrefixOf, hne]

/-- A value that begins with a digit is a number. -/
theorem readPlain_of_isDigit {d : Char} {row : List Char} (hd : Numeral.isDigit d = true) :
    readPlain (d :: row) =
      (readNumber false (d :: row)).map fun (q, rest) => (.number q, rest) := by
  have hnone (word : String) (c : Char) (hword : word.toList.head? = some c)
      (hc : Numeral.isDigit c = false) : afterWord? word (d :: row) = none :=
    afterWord?_of_isDigit hword hc hd
  unfold readPlain
  rw [hnone "null" 'n' rfl rfl, hnone "true" 't' rfl rfl, hnone "false" 'f' rfl rfl,
    hnone "NaN" 'N' rfl rfl, hnone "Infinity" 'I' rfl rfl, hnone "-Infinity" '-' rfl rfl]
  split
  · contradiction
  · contradiction
  · contradiction
  · contradiction
  · contradiction
  · contradiction
  · next hminus _ _ _ _ _ _ => exact absurd (List.cons.inj hminus).1 (ne_of_isDigit hd).2.1
  · rfl

/-- A text that begins with a digit is a number, if it is a value. -/
theorem readValue_of_isDigit {d : Char} {row : List Char} (hd : Numeral.isDigit d = true)
    (count levels : ℕ) :
    readValue (count + 1) levels (d :: row) =
      (readNumber false (d :: row)).map fun (q, rest) => (.number q, rest) := by
  have hne : d ≠ '"' ∧ d ≠ '[' ∧ d ≠ '\x7b' := by
    refine ⟨?_, ?_, ?_⟩ <;> (rintro rfl; revert hd; decide)
  rw [readValue]
  · exact readPlain_of_isDigit hd
  all_goals simp [hne]

/-- A text that is nothing but a row of too many digits is refused, unless it begins with a zero. -/
theorem read_long_row {row : List Char} (hdigits : ∀ c ∈ row, Numeral.isDigit c = true)
    (hfirst : row.head? ≠ some '0') (hlong : maxDigits < row.length) (levels : ℕ) :
    read levels row = .error (.tooManyDigits row.length) := by
  cases row with
  | nil => cases hlong
  | cons d row =>
    have hd := hdigits d List.mem_cons_self
    have hskip : skipBetween (d :: row) = d :: row := skipBetween_cons (isBetween_of_isDigit hd)
    have hnumber : readNumber false (d :: row) = .error (.tooManyDigits (d :: row).length) := by
      unfold readNumber
      simp only [wholeDigits_of_row hdigits hfirst, List.drop_length]
      exact if_pos hlong
    rw [read, hskip, readValue_of_isDigit hd, hnumber]
    rfl

/-- A row of digits writes a number below the power of ten with its length. -/
theorem ofDigits_lt_pow {row : List Char} (hdigits : ∀ c ∈ row, Numeral.isDigit c = true) :
    Numeral.ofDigits row < 10 ^ row.length := by
  induction row using List.reverseRecOn with
  | nil => decide
  | append_singleton row c ih =>
    have hrow := ih fun d hd => hdigits d (List.mem_append_left _ hd)
    have hc : Numeral.ofDigits [c] ≤ 9 := by
      have hlast := hdigits c (by simp)
      simp only [Numeral.isDigit, Bool.and_eq_true, decide_eq_true_eq, Char.le_def,
        UInt32.le_iff_toNat_le] at hlast
      have hnine : c.toNat ≤ 57 := hlast.2
      change 10 * 0 + (c.toNat - 48) ≤ 9
      omega
    rw [ofDigits_append, List.length_append, List.length_singleton, pow_one, pow_succ]
    omega

/-- A number that is read has a text. -/
theorem isWritable_of_readNumber {negative : Bool} {q : Quantity}
    (h : readNumber negative text = .ok (q, rest)) : q.isWritable = true := by
  have hfew (hlong : ¬maxDigits < (wholeDigits text).length) :
      (digits (Numeral.ofDigits (wholeDigits text))).length ≤ maxDigits := by
    refine (length_digits_le_iff (by decide)).mpr
      ((ofDigits_lt_pow (wholeDigits_spec text).2).trans_le ?_)
    exact Nat.pow_le_pow_right (by decide) (Nat.not_lt.mp hlong)
  unfold readNumber at h
  extract_lets whole afterWhole fraction afterFraction exponent left n power value at h
  split_ifs at h with hempty hplain hlong hnegative
  · obtain ⟨rfl, -⟩ := Prod.mk.inj (Except.ok.inj h)
    refine decide_eq_true ?_
    rw [Int.natAbs_neg]
    exact hfew hlong
  · obtain ⟨rfl, -⟩ := Prod.mk.inj (Except.ok.inj h)
    exact decide_eq_true (hfew hlong)
  · obtain ⟨rfl, -⟩ := Prod.mk.inj (Except.ok.inj h)
    rfl

/-- The members of an object have a text if each of their values has. -/
theorem haveWritable_iff {members : Keyed Json} :
    haveWritable members = true ↔ ∀ member ∈ members, member.2.isWritable = true := by
  induction members with
  | nil => simp [haveWritable]
  | cons member rest ih => simp [haveWritable, ih]

/-- Members have texts after a value with a text has been stored among them. -/
theorem haveWritable_store (key : String) {value : Json} {members : Keyed Json}
    (hvalue : value.isWritable = true) (hmembers : haveWritable members = true) :
    haveWritable (members.store key value) = true := by
  induction members with
  | nil => simpa [Keyed.store, haveWritable] using hvalue
  | cons member rest ih =>
    simp only [haveWritable, Bool.and_eq_true] at hmembers
    rw [Keyed.store]
    split_ifs
    · simp [haveWritable, hvalue, hmembers.2]
    · simp [haveWritable, hmembers.1, ih hmembers.2]

/-- A value that holds no others has a text if it is read. -/
theorem isWritable_of_readPlain {value : Json} (h : readPlain text = .ok (value, rest)) :
    value.isWritable = true := by
  have hnumber {negative : Bool} {body : List Char}
      (h : ((readNumber negative body).map fun (q, rest) => (Json.number q, rest)) =
        .ok (value, rest)) : value.isWritable = true := by
    obtain ⟨⟨q, left⟩, hread, hvalue⟩ := map_eq_ok.mp h
    obtain ⟨rfl, -⟩ := Prod.mk.inj hvalue
    exact isWritable_of_readNumber hread
  unfold readPlain at h
  extract_lets number at h
  split at h
  iterate 6
    · obtain ⟨rfl, -⟩ := Prod.mk.inj (Except.ok.inj h)
      rfl
  · exact hnumber h
  · exact hnumber h

/-- Values, items and members that are read have texts. -/
theorem isWritable_of_reading (count : ℕ) :
    (∀ levels text value rest, readValue count levels text = .ok (value, rest) →
      value.isWritable = true) ∧
    (∀ levels text items rest, readItems count levels text = .ok (items, rest) →
      areWritable items = true) ∧
    ∀ levels found text members rest, haveWritable found = true →
      readMembers count levels found text = .ok (members, rest) → haveWritable members = true := by
  induction count with
  | zero => exact ⟨nofun, nofun, nofun⟩
  | succ count ih =>
    obtain ⟨hvalue, hitems, hmembers⟩ := ih
    refine ⟨fun levels text value rest h => ?_, fun levels text items rest h => ?_,
      fun levels found text members rest hfound h => ?_⟩
    · unfold readValue at h
      split at h
      · obtain ⟨_, -, hread⟩ := map_eq_ok.mp h
        obtain ⟨rfl, -⟩ := Prod.mk.inj hread
        rfl
      · cases h
      · split at h
        · obtain ⟨rfl, -⟩ := Prod.mk.inj (Except.ok.inj h)
          rfl
        · obtain ⟨⟨items, left⟩, hread, hlist⟩ := map_eq_ok.mp h
          obtain ⟨rfl, -⟩ := Prod.mk.inj hlist
          exact hitems _ _ _ _ hread
      · cases h
      · split at h
        · obtain ⟨rfl, -⟩ := Prod.mk.inj (Except.ok.inj h)
          rfl
        · obtain ⟨⟨members, left⟩, hread, hobject⟩ := map_eq_ok.mp h
          obtain ⟨rfl, -⟩ := Prod.mk.inj hobject
          exact hmembers _ _ _ _ _ rfl hread
      · exact isWritable_of_readPlain h
    · unfold readItems at h
      obtain ⟨⟨item, left⟩, hitem, h⟩ := bind_eq_ok.mp h
      have hfirst := hvalue _ _ _ _ hitem
      dsimp only at h
      split at h
      · obtain ⟨rfl, -⟩ := Prod.mk.inj (Except.ok.inj h)
        simpa [areWritable] using hfirst
      · obtain ⟨⟨others, _⟩, hothers, h⟩ := bind_eq_ok.mp h
        obtain ⟨rfl, -⟩ := Prod.mk.inj (Except.ok.inj h)
        simpa [areWritable, hfirst] using hitems _ _ _ _ hothers
      · cases h
    · unfold readMembers at h
      split at h
      · obtain ⟨⟨key, left⟩, -, h⟩ := bind_eq_ok.mp h
        dsimp only at h
        split at h
        · obtain ⟨⟨value, _⟩, hread, h⟩ := bind_eq_ok.mp h
          have hstored := haveWritable_store key (hvalue _ _ _ _ hread) hfound
          dsimp only at h
          split at h
          · obtain ⟨rfl, -⟩ := Prod.mk.inj (Except.ok.inj h)
            exact hstored
          · exact hmembers _ _ _ _ _ hstored h
          · cases h
        · cases h
      · cases h

/-- What is read from a text has a text. -/
theorem isWritable_of_read {levels : ℕ} {value : Json} (h : read levels text = .ok value) :
    value.isWritable = true := by
  obtain ⟨⟨found, rest⟩, hfound, h⟩ := bind_eq_ok.mp h
  dsimp only at h
  split_ifs at h
  obtain rfl := Except.ok.inj h
  exact (isWritable_of_reading _).1 _ _ _ _ hfound

end OrderOfGrowth.Json

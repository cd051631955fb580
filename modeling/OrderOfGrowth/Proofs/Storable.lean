import Mathlib.Data.List.TakeWhile
import Mathlib.Tactic.SplitIfs
import OrderOfGrowth.Chart.Publish
import OrderOfGrowth.Proofs.Success

/-!
# Pages that can be stored

A file that is written is emptied before its text is encoded, so a page that cannot be encoded
would take an old page with it. The only text of a page that comes from outside is the ceiling of
the chart, and a ceiling that holds points is a number. Numbers, labels and colours have no halves
of surrogate pairs, and so the page of a chart with points can always be stored.
-/

namespace OrderOfGrowth

namespace Text

/-- A text without halves of surrogate pairs, which has a form in UTF-8. -/
def IsStorable (text : List Char) : Prop := ∀ c ∈ text, isSurrogate c = false

instance (text : List Char) : Decidable (IsStorable text) := text.decidableBAll _

/-- The empty text can be stored. -/
@[simp] theorem isStorable_nil : IsStorable [] := fun _ hc => absurd hc List.not_mem_nil

/-- A text can be stored if its first character and the rest can. -/
@[simp] theorem isStorable_cons {c : Char} {text : List Char} :
    IsStorable (c :: text) ↔ isSurrogate c = false ∧ IsStorable text := List.forall_mem_cons

/-- Two texts in a row can be stored if both can. -/
@[simp] theorem isStorable_append {first second : List Char} :
    IsStorable (first ++ second) ↔ IsStorable first ∧ IsStorable second := List.forall_mem_append

/-- Texts in a row can be stored if each of them can. -/
theorem isStorable_flatMap {α : Type} {f : α → List Char} {items : List α} :
    IsStorable (items.flatMap f) ↔ ∀ item ∈ items, IsStorable (f item) := List.forall_mem_flatMap

/-- A text of characters of a text that can be stored can be stored. -/
theorem IsStorable.of_subset {part text : List Char} (htext : IsStorable text)
    (hpart : part ⊆ text) : IsStorable part := fun c hc => htext c (hpart hc)

/-- A character that is repeated can be stored if it can be stored once. -/
theorem isStorable_replicate {c : Char} (hc : isSurrogate c = false) (count : ℕ) :
    IsStorable (List.replicate count c) := by
  intro d hd
  rwa [List.eq_of_mem_replicate hd]

/-- A text has no first halves of surrogate pairs exactly if it has none at all. -/
theorem surrogateRun?_eq_none_iff {text : List Char} :
    surrogateRun? text = none ↔ IsStorable text := by
  have hnone : surrogateRun? text = none ↔ text.dropWhile (!isSurrogate ·) = [] := by
    unfold surrogateRun? runAtRest?
    split <;> simp_all
  rw [hnone, List.dropWhile_eq_nil_iff]
  simp only [IsStorable, Bool.not_eq_true']

end Text

open Text

/-- The digits of a number can be stored. -/
theorem isStorable_digits (n : ℕ) : IsStorable (digits n) := by
  intro c hc
  have hdigit := Nat.isDigit_of_mem_toDigits (by decide) (by decide) hc
  have hsmall : c.toNat ≤ 57 := by
    simp only [Char.isDigit, Bool.and_eq_true, decide_eq_true_eq, UInt32.le_iff_toNat_le] at hdigit
    exact hdigit.2
  have hbelow : ¬ (0xFD800 ≤ c.toNat ∧ c.toNat < 0xFE000) := by omega
  rw [isSurrogate, surrogate?, if_neg hbelow]
  rfl

/-- A whole number in base ten can be stored. -/
theorem isStorable_integerText (n : Int) : IsStorable (integerText n) := by
  unfold integerText
  split_ifs
  · exact isStorable_cons.mpr ⟨by decide, isStorable_digits _⟩
  · exact isStorable_digits _

/-- An exponent can be stored. -/
theorem isStorable_exponentText (layout : NumberLayout) (exponent : Int) :
    IsStorable (layout.exponentText exponent) := by
  have hdigits := isStorable_digits exponent.natAbs
  have hzeros := isStorable_replicate (by decide : isSurrogate '0' = false)
    (layout.exponentDigits - (digits exponent.natAbs).length)
  refine isStorable_cons.mpr ⟨by decide, isStorable_cons.mpr ⟨?_, ?_⟩⟩
  · split <;> decide
  · exact isStorable_append.mpr ⟨hzeros, hdigits⟩

/-- A decimal number in either notation can be stored. -/
theorem isStorable_write (layout : NumberLayout) (d : Decimal) : IsStorable (layout.write d) := by
  have hpoint : isSurrogate '.' = false := by decide
  have hzero : isSurrogate '0' = false := by decide
  have hzeros := isStorable_replicate hzero
  have hshown : IsStorable (dropFinalZeros (digits d.coefficient)) := by
    apply (isStorable_digits d.coefficient).of_subset
    intro c hc
    have hdropped := List.mem_reverse.mp hc
    exact List.mem_reverse.mp ((List.dropWhile_sublist _).subset hdropped)
  have htake (count : ℕ) := hshown.of_subset (List.take_subset count _)
  have hdrop (count : ℕ) := hshown.of_subset (List.drop_subset count _)
  unfold NumberLayout.write
  dsimp only
  split_ifs
  · -- scientific notation with a single digit
    exact isStorable_append.mpr ⟨isStorable_append.mpr ⟨htake 1, isStorable_nil⟩,
      isStorable_exponentText _ _⟩
  · have hfraction := isStorable_cons.mpr ⟨hpoint, hdrop 1⟩
    exact isStorable_append.mpr ⟨isStorable_append.mpr ⟨htake 1, hfraction⟩,
      isStorable_exponentText _ _⟩
  · -- a number below one
    exact isStorable_cons.mpr ⟨hzero,
      isStorable_cons.mpr ⟨hpoint, isStorable_append.mpr ⟨hzeros _, hshown⟩⟩⟩
  · -- a whole number
    have hends := isStorable_cons.mpr ⟨hpoint, (by decide : IsStorable ['0'])⟩
    exact isStorable_append.mpr ⟨isStorable_append.mpr ⟨htake _, hzeros _⟩, hends⟩
  · exact isStorable_append.mpr ⟨isStorable_append.mpr ⟨htake _, hzeros _⟩,
      isStorable_cons.mpr ⟨hpoint, hdrop _⟩⟩

/-- A double in its fewest digits can be stored. -/
theorem isStorable_binary64 (x : Binary64) : IsStorable x.text := by
  have hminus : IsStorable ['-'] := by decide
  cases x with
  | undefined => decide
  | infinite negative => cases negative <;> decide
  | finite negative s e h =>
    unfold Binary64.text
    dsimp only
    refine isStorable_append.mpr ⟨?_, ?_⟩
    · split_ifs
      · exact hminus
      · exact isStorable_nil
    · split_ifs
      · decide
      · exact isStorable_write _ _

/-- A double with two places can be stored. -/
theorem isStorable_twoPlaces (x : Binary64) : IsStorable x.twoPlaces := by
  have hpoint : isSurrogate '.' = false := by decide
  have hzero : isSurrogate '0' = false := by decide
  have hminus : isSurrogate '-' = false := by decide
  cases x with
  | undefined => decide
  | infinite negative => cases negative <;> decide
  | finite negative s e h =>
    unfold Binary64.twoPlaces Binary64.hundredthsText
    dsimp only
    split_ifs <;> simp [isStorable_digits, hpoint, hzero, hminus]

/-- The text of a quantity can be stored. -/
theorem isStorable_quantity (q : Quantity) : IsStorable q.text := by
  cases q with
  | int n => exact isStorable_integerText n
  | float x => exact isStorable_binary64 x
  | truth b => cases b <;> decide

/-- A text with entities can be stored if it can be stored without. -/
theorem isStorable_escapeEntities {text : List Char} (htext : IsStorable text) :
    IsStorable (escapeEntities text) := by
  unfold escapeEntities
  rw [isStorable_flatMap]
  intro c hc
  unfold entityOf
  split_ifs
  iterate 5 decide
  exact isStorable_cons.mpr ⟨htext c hc, isStorable_nil⟩

namespace Json

/-- A string in JSON can be stored if its text can. -/
theorem isStorable_writeString {s : String} (hs : IsStorable s.toList) :
    IsStorable (writeString s) := by
  have hcharacters : IsStorable (s.toList.flatMap writeChar) := by
    rw [isStorable_flatMap]
    intro c hc
    have hescape : ∀ n < 0x20, IsStorable ('\\' :: 'u' :: Text.hexDigits 4 n) := by decide
    unfold writeChar
    split_ifs with _ _ _ _ _ _ _ hsmall
    iterate 7 decide
    · exact hescape c.toNat hsmall
    · exact isStorable_cons.mpr ⟨hs c hc, isStorable_nil⟩
  exact isStorable_cons.mpr ⟨by decide, isStorable_append.mpr ⟨hcharacters, by decide⟩⟩

/-- A number in JSON can be stored. -/
theorem isStorable_write_number (q : Quantity) : IsStorable (write (.number q)) := by
  rw [write]
  cases q with
  | int n => exact isStorable_integerText n
  | truth b => cases b <;> decide
  | float x =>
    cases x with
    | undefined => decide
    | infinite negative => cases negative <;> decide
    | finite negative s e h =>
      unfold writeQuantity
      exact isStorable_binary64 _

/-- A list in JSON can be stored if its items can. -/
theorem isStorable_write_list {items : List Json} (hitems : ∀ item ∈ items, IsStorable item.write) :
    IsStorable (write (.list items)) := by
  have hwritten : IsStorable (writeItems items) := by
    induction items with
    | nil => exact isStorable_nil
    | cons item rest ih =>
      have hitem := hitems item List.mem_cons_self
      have hrest := ih fun other hother => hitems other (List.mem_cons_of_mem item hother)
      cases rest with
      | nil => exact hitem
      | cons next rest =>
        refine isStorable_append.mpr ⟨hitem, ?_⟩
        exact isStorable_cons.mpr ⟨by decide, isStorable_cons.mpr ⟨by decide, hrest⟩⟩
  exact isStorable_cons.mpr ⟨by decide, isStorable_append.mpr ⟨hwritten, by decide⟩⟩

/-- An object in JSON can be stored if its names and values can. -/
theorem isStorable_write_object {members : List (String × Json)}
    (hmembers : ∀ member ∈ members, IsStorable member.1.toList ∧ IsStorable member.2.write) :
    IsStorable (write (.object members)) := by
  have hwritten : IsStorable (writeMembers members) := by
    induction members with
    | nil => exact isStorable_nil
    | cons member rest ih =>
      obtain ⟨hname, hvalue⟩ := hmembers member List.mem_cons_self
      have hrest := ih fun other hother => hmembers other (List.mem_cons_of_mem member hother)
      have hstart := isStorable_writeString hname
      cases rest with
      | nil =>
        refine isStorable_append.mpr ⟨hstart, ?_⟩
        exact isStorable_cons.mpr ⟨by decide, isStorable_cons.mpr ⟨by decide, hvalue⟩⟩
      | cons next rest =>
        refine isStorable_append.mpr ⟨hstart, isStorable_cons.mpr ⟨by decide,
          isStorable_cons.mpr ⟨by decide, isStorable_append.mpr ⟨hvalue, ?_⟩⟩⟩⟩
        exact isStorable_cons.mpr ⟨by decide, isStorable_cons.mpr ⟨by decide, hrest⟩⟩
  exact isStorable_cons.mpr ⟨by decide, isStorable_append.mpr ⟨hwritten, by decide⟩⟩

end Json

/-- A colour with an opacity can be stored. -/
theorem isStorable_rgba {colour text : String} {alpha : Quantity}
    (h : Colour.rgba colour alpha = .ok text) : IsStorable text.toList := by
  obtain ⟨red, -, h⟩ := bind_eq_ok.mp h
  obtain ⟨green, -, h⟩ := bind_eq_ok.mp h
  obtain ⟨blue, -, h⟩ := bind_eq_ok.mp h
  obtain ⟨_, hwritten, h⟩ := bind_eq_ok.mp h
  obtain ⟨-, rfl⟩ := Quantity.written_eq_ok.mp hwritten
  obtain rfl := Except.ok.inj h
  have hcomma : isSurrogate ',' = false := by decide
  have hblank : isSurrogate ' ' = false := by decide
  rw [String.toList_ofList]
  refine isStorable_append.mpr ⟨isStorable_append.mpr ⟨by decide, ?_⟩, by decide⟩
  simp [Text.joinWith, isStorable_integerText, isStorable_quantity, hcomma, hblank]

namespace Readout

/-- A number with its unit can be stored if both can. -/
theorem isStorable_withUnit {number : List Char} {unit : String} (hnumber : IsStorable number)
    (hunit : IsStorable unit.toList) : IsStorable (withUnit number unit).toList := by
  rw [withUnit, String.toList_ofList]
  exact isStorable_append.mpr ⟨hnumber, isStorable_cons.mpr ⟨by decide, hunit⟩⟩

/-- The two places of a quantity can be stored. -/
theorem isStorable_of_twoPlaces {q : Quantity} {number : List Char}
    (h : q.twoPlaces = .ok number) : IsStorable number := by
  unfold Quantity.twoPlaces at h
  cases hdouble : q.toDouble with
  | error failure =>
    rw [hdouble] at h
    cases h
  | ok x =>
    rw [hdouble] at h
    obtain rfl := Except.ok.inj h
    exact isStorable_twoPlaces x

/-- A running time can be stored. -/
theorem isStorable_runtime {milliseconds : Option Quantity} {text : String}
    (h : runtime milliseconds = .ok text) : IsStorable text.toList := by
  unfold runtime at h
  cases milliseconds with
  | none =>
    obtain rfl := Except.ok.inj h
    decide
  | some q =>
    dsimp only at h
    split_ifs at h
    · obtain rfl := Except.ok.inj h
      decide
    · obtain ⟨number, hnumber, h⟩ := bind_eq_ok.mp h
      obtain rfl := Except.ok.inj h
      exact isStorable_withUnit (isStorable_of_twoPlaces hnumber) (by decide)
    · obtain ⟨number, hnumber, h⟩ := bind_eq_ok.mp h
      obtain rfl := Except.ok.inj h
      exact isStorable_withUnit (isStorable_of_twoPlaces hnumber) (by decide)
    · obtain ⟨x, -, h⟩ := bind_eq_ok.mp h
      obtain rfl := Except.ok.inj h
      exact isStorable_withUnit (isStorable_twoPlaces x) (by decide)

/-- An amount of memory can be stored. -/
theorem isStorable_memory {value : Json} {text : String} (h : memory value = .ok text) :
    IsStorable text.toList := by
  unfold memory at h
  split_ifs at h
  · obtain rfl := Except.ok.inj h
    decide
  cases value with
  | number q =>
    dsimp only at h
    unfold bytes at h
    split_ifs at h
    · obtain rfl := Except.ok.inj h
      decide
    · obtain ⟨n, -, h⟩ := bind_eq_ok.mp h
      obtain ⟨_, hwritten, h⟩ := bind_eq_ok.mp h
      obtain ⟨-, rfl⟩ := Quantity.written_eq_ok.mp hwritten
      obtain rfl := Except.ok.inj h
      exact isStorable_withUnit (isStorable_integerText n) (by decide)
    · obtain ⟨x, -, h⟩ := bind_eq_ok.mp h
      obtain rfl := Except.ok.inj h
      exact isStorable_withUnit (isStorable_twoPlaces x) (by decide)
    · obtain ⟨x, -, h⟩ := bind_eq_ok.mp h
      obtain rfl := Except.ok.inj h
      exact isStorable_withUnit (isStorable_twoPlaces x) (by decide)
  | _ => cases h

/-- The note below an amount of memory can be stored. -/
theorem isStorable_memoryNote {limit : Json} {text : String} (h : memoryNote limit = .ok text) :
    IsStorable text.toList := by
  unfold memoryNote at h
  split_ifs at h
  · cases hmemory : memory limit with
    | error failure =>
      rw [hmemory] at h
      cases h
    | ok amount =>
      rw [hmemory] at h
      obtain rfl := Except.ok.inj h
      rw [String.toList_append]
      exact isStorable_append.mpr ⟨by decide, isStorable_memory hmemory⟩
  · obtain rfl := Except.ok.inj h
    decide

end Readout

end OrderOfGrowth

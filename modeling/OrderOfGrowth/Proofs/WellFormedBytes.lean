import Mathlib.Order.Bounds.Basic
import OrderOfGrowth.Proofs.Encoding

/-!
# Well-formed bytes

With the marks of UTF-8 a number can be spread over one to four bytes, and a small number in more
than one way. Well formed are the shortest ways of the numbers that are characters. This file shows
that these are the bytes which the decoder accepts, and that a problem it reports is where the
longest well-formed beginning of the bytes ends.
-/

namespace OrderOfGrowth.Text

/-- A number as one byte, or as a lead byte with six bits in each byte behind it. A small number
also has forms that are longer than needed. -/
inductive Spreads : ℕ → List UInt8 → Prop
  | one {n : ℕ} (h : n < 0x80) : Spreads n [UInt8.ofNat n]
  | two {n : ℕ} (h : n < 0x800) :
    Spreads n [UInt8.ofNat (0xC0 + n / 64), UInt8.ofNat (0x80 + n % 64)]
  | three {n : ℕ} (h : n < 0x10000) :
    Spreads n [UInt8.ofNat (0xE0 + n / 4096), UInt8.ofNat (0x80 + n / 64 % 64),
      UInt8.ofNat (0x80 + n % 64)]
  | four {n : ℕ} (h : n < 0x200000) :
    Spreads n [UInt8.ofNat (0xF0 + n / 262144), UInt8.ofNat (0x80 + n / 4096 % 64),
      UInt8.ofNat (0x80 + n / 64 % 64), UInt8.ofNat (0x80 + n % 64)]

/-- Bytes that stand for one number in a form that is not longer than needed. The number is not
above the last character, and it is no half of a surrogate pair. -/
def IsWellFormedUnit (bytes : List UInt8) : Prop :=
  ∃ n, Spreads n bytes ∧ (∀ other, Spreads n other → bytes.length ≤ other.length) ∧
    n ≤ 0x10FFFF ∧ ¬(0xD800 ≤ n ∧ n ≤ 0xDFFF)

/-- Bytes that are well formed: units in a row. -/
def IsWellFormed (bytes : List UInt8) : Prop :=
  ∃ units : List (List UInt8), (∀ unit ∈ units, IsWellFormedUnit unit) ∧ units.flatten = bytes

/-- The offset of the first sequence that is not well formed: up to there the bytes are well formed,
and no longer beginning of them is. -/
def IsFaultOffset (bytes : List UInt8) (offset : ℕ) : Prop :=
  IsGreatest {n | n ≤ bytes.length ∧ IsWellFormed (bytes.take n)} offset

/-- A character has a form of its bytes, and no shorter one. -/
theorem spreads_utf8Char (c : Char) :
    Spreads c.toNat (utf8Char c) ∧
      ∀ other, Spreads c.toNat other → (utf8Char c).length ≤ other.length := by
  have hvalid : c.toNat.isValidChar := c.valid
  unfold Nat.isValidChar at hvalid
  unfold utf8Char
  dsimp only
  split_ifs with hone htwo hthree
  · refine ⟨.one hone, fun other hother => ?_⟩
    cases hother <;> simp
  · refine ⟨.two htwo, fun other hother => ?_⟩
    cases hother
    · omega
    all_goals simp
  · refine ⟨.three hthree, fun other hother => ?_⟩
    cases hother
    · omega
    · omega
    all_goals simp
  · refine ⟨.four (by omega), fun other hother => ?_⟩
    cases hother
    · omega
    · omega
    · omega
    · simp

/-- The well-formed units are the bytes of the characters. -/
theorem isWellFormedUnit_iff {bytes : List UInt8} :
    IsWellFormedUnit bytes ↔ ∃ c, utf8Char c = bytes := by
  constructor
  · rintro ⟨n, hspreads, hshortest, hlast, hsurrogate⟩
    have hvalid : n.isValidChar := by
      unfold Nat.isValidChar
      omega
    refine ⟨Char.ofNat n, ?_⟩
    -- the form is the one of its length, as a shorter one would be needed otherwise
    unfold utf8Char
    rw [toNat_ofNat_of_isValidChar hvalid]
    dsimp only
    cases hspreads with
    | one h => rw [if_pos h]
    | two h =>
      have hone : ¬n < 0x80 := fun hn => absurd (hshortest _ (.one hn)) (by simp)
      rw [if_neg hone, if_pos h]
    | three h =>
      have htwo : ¬n < 0x800 := fun hn => absurd (hshortest _ (.two hn)) (by simp)
      rw [if_neg (by omega), if_neg htwo, if_pos h]
    | four h =>
      have hthree : ¬n < 0x10000 := fun hn => absurd (hshortest _ (.three hn)) (by simp)
      rw [if_neg (by omega), if_neg (by omega), if_neg hthree]
  · rintro ⟨c, rfl⟩
    have hvalid : c.toNat.isValidChar := c.valid
    unfold Nat.isValidChar at hvalid
    obtain ⟨hspreads, hshortest⟩ := spreads_utf8Char c
    exact ⟨c.toNat, hspreads, hshortest, by omega, by omega⟩

/-- Well-formed bytes are those of the texts. -/
theorem isWellFormed_iff {bytes : List UInt8} :
    IsWellFormed bytes ↔ ∃ text, utf8 text = bytes := by
  constructor
  · rintro ⟨units, hunits, rfl⟩
    induction units with
    | nil => exact ⟨[], rfl⟩
    | cons unit units ih =>
      rw [List.forall_mem_cons] at hunits
      obtain ⟨c, rfl⟩ := isWellFormedUnit_iff.mp hunits.1
      obtain ⟨text, htext⟩ := ih hunits.2
      exact ⟨c :: text, by rw [utf8, List.flatMap_cons, ← utf8, htext, List.flatten_cons]⟩
  · rintro ⟨text, rfl⟩
    refine ⟨text.map utf8Char, fun unit hunit => ?_, rfl⟩
    obtain ⟨c, -, rfl⟩ := List.mem_map.mp hunit
    exact isWellFormedUnit_iff.mpr ⟨c, rfl⟩

/-- The decoder accepts exactly the well-formed bytes. -/
theorem isWellFormed_iff_decode {bytes : List UInt8} :
    IsWellFormed bytes ↔ ∃ text, decode bytes = .ok text := by
  simp only [isWellFormed_iff, decode_eq_ok_iff]

/-- Behind the bytes of a text decoding goes on as it would from there. -/
theorem decodeFrom_utf8_append (offset : ℕ) (text : List Char) (rest : List UInt8) :
    decodeFrom offset 0 (utf8 text ++ rest) =
      (decodeFrom (offset + (utf8 text).length) 0 rest).map (text ++ ·) := by
  induction text generalizing offset with
  | nil => cases h : decodeFrom offset 0 rest <;> simp [utf8, h, Except.map]
  | cons c text ih =>
    have hbytes : utf8 (c :: text) = utf8Char c ++ utf8 text := List.flatMap_cons
    rw [hbytes, List.append_assoc, decodeFrom_utf8Char, ih, List.length_append, Nat.add_assoc]
    cases decodeFrom (offset + ((utf8Char c).length + (utf8 text).length)) 0 rest <;> rfl

/-- Where no character begins, decoding fails at this place. -/
theorem offset_of_decodeFrom {offset : ℕ} {byte : UInt8} {rest : List UInt8}
    {problem : Utf8Problem} (hnone : ∀ c, ¬utf8Char c <+: byte :: rest)
    (h : decodeFrom offset 0 (byte :: rest) = .error problem) : problem.offset = offset := by
  rw [decodeFrom] at h
  by_cases hbyte : byte < 0x80
  · -- a single byte is a character
    have hsingle : decodeFrom 0 0 [byte] = .ok [Char.ofNat byte.toNat] := by
      rw [decodeFrom, if_pos hbyte]
      rfl
    obtain ⟨c, behind, hc⟩ := exists_char_of_decodeFrom hsingle
    refine absurd ?_ (hnone c)
    exact (List.prefix_append _ behind).trans (hc ▸ List.prefix_append [byte] rest)
  · rw [if_neg hbyte] at h
    cases hlead : utf8Lead? byte with
    | none =>
      rw [hlead] at h
      obtain rfl := Except.error.inj h
      rfl
    | some lead =>
      rw [hlead] at h
      dsimp only at h
      cases htail : utf8Tail lead.low lead.high lead.following lead.payload 0 rest with
      | broken found fault =>
        rw [htail] at h
        obtain rfl := Except.error.inj h
        rfl
      | complete code =>
        obtain ⟨tail, behind, rfl, hlength, hwithin, hcode⟩ := utf8Tail_eq_complete_iff.mp htail
        obtain ⟨c, -, -, hbytes⟩ := announces_iff.mp ⟨lead, hlead, hlength, hwithin, hcode⟩
        exact absurd ⟨behind, by rw [hbytes, List.cons_append]⟩ (hnone c)

/-- Decoding fails behind the bytes of a text, at a place where no character begins. -/
theorem exists_text_of_decodeFrom_eq_error {offset : ℕ} {bytes : List UInt8}
    {problem : Utf8Problem} (h : decodeFrom offset 0 bytes = .error problem) :
    ∃ text rest, bytes = utf8 text ++ rest ∧ problem.offset = offset + (utf8 text).length ∧
      ∀ c, ¬utf8Char c <+: rest := by
  induction hlength : bytes.length using Nat.strongRecOn generalizing offset bytes with
  | ind length ih =>
    cases bytes with
    | nil => cases h
    | cons byte rest =>
      by_cases hbegins : ∃ c, utf8Char c <+: byte :: rest
      · obtain ⟨c, behind, hbytes⟩ := hbegins
        have hshort : behind.length < length := by
          have hpositive := List.length_pos_iff.mpr (utf8Char_ne_nil c)
          rw [← hbytes, List.length_append] at hlength
          omega
        rw [← hbytes, decodeFrom_utf8Char] at h
        cases hbehind : decodeFrom (offset + (utf8Char c).length) 0 behind with
        | ok text =>
          rw [hbehind] at h
          cases h
        | error found =>
          rw [hbehind] at h
          obtain rfl : found = problem := Except.error.inj h
          obtain ⟨text, ending, hending, hoffset, hnone⟩ := ih _ hshort hbehind rfl
          have hutf8 : utf8 (c :: text) = utf8Char c ++ utf8 text := List.flatMap_cons
          refine ⟨c :: text, ending, ?_, ?_, hnone⟩
          · rw [← hbytes, hutf8, hending, List.append_assoc]
          · rw [hoffset, hutf8, List.length_append, Nat.add_assoc]
      · rw [not_exists] at hbegins
        exact ⟨[], byte :: rest, rfl, offset_of_decodeFrom hbegins h, hbegins⟩

/-- Bytes that go on well formed behind the bytes of a text begin there with a character. -/
theorem exists_char_of_isWellFormed_append {text : List Char} {rest : List UInt8}
    (hrest : rest ≠ []) (h : IsWellFormed (utf8 text ++ rest)) : ∃ c, utf8Char c <+: rest := by
  obtain ⟨longer, hlonger⟩ := isWellFormed_iff_decode.mp h
  rw [decode, decodeFrom_utf8_append] at hlonger
  obtain ⟨byte, others, rfl⟩ := List.exists_cons_of_ne_nil hrest
  cases hbehind : decodeFrom (0 + (utf8 text).length) 0 (byte :: others) with
  | error problem =>
    rw [hbehind] at hlonger
    cases hlonger
  | ok behind =>
    obtain ⟨c, last, hc⟩ := exists_char_of_decodeFrom hbehind
    exact ⟨c, last, hc.symm⟩

/-- A problem of decoding is where the longest well-formed beginning of the bytes ends. -/
theorem isFaultOffset_of_decode {bytes : List UInt8} {problem : Utf8Problem}
    (h : decode bytes = .error problem) : IsFaultOffset bytes problem.offset := by
  obtain ⟨text, rest, rfl, hoffset, hnone⟩ := exists_text_of_decodeFrom_eq_error h
  rw [Nat.zero_add] at hoffset
  rw [hoffset]
  refine ⟨⟨by simp, isWellFormed_iff.mpr ⟨text, by simp⟩⟩, ?_⟩
  rintro n ⟨hlength, hformed⟩
  by_contra hlonger
  -- a longer well-formed beginning would go on with a character
  rw [List.length_append] at hlength
  rw [List.take_append, List.take_of_length_le (by omega)] at hformed
  have hrest : rest.take (n - (utf8 text).length) ≠ [] := by
    rw [Ne, List.take_eq_nil_iff, not_or, ← List.length_eq_zero_iff]
    omega
  obtain ⟨c, hc⟩ := exists_char_of_isWellFormed_append hrest hformed
  exact hnone c (hc.trans (List.take_prefix _ rest))

end OrderOfGrowth.Text

import Mathlib.Data.List.Basic
import OrderOfGrowth.Text.Utf8

/-!
# Reading and writing bytes

Decoding follows the bytes one by one and keeps a count of the bytes that belong to the character
before. This file connects that walk to the encoding of single characters: bytes decode to a text
exactly if they are the encoding of that text.
-/

namespace OrderOfGrowth.Text

/-- The number that bytes behind a lead make of its own bits, six bits each. -/
def continued (code : ℕ) (tail : List UInt8) : ℕ :=
  tail.foldl (fun code byte => code * 64 + (byte.toNat - 0x80)) code

/-- All bytes are continuation bytes, the first one between `low` and `high`. -/
def TailWithin : UInt8 → UInt8 → List UInt8 → Prop
  | _, _, [] => True
  | low, high, byte :: rest => low ≤ byte ∧ byte ≤ high ∧ TailWithin 0x80 0xBF rest

/-- No bytes add nothing. -/
theorem continued_nil (code : ℕ) : continued code [] = code := rfl

/-- The first byte of a tail adds its bits before the others do. -/
theorem continued_cons (code : ℕ) (byte : UInt8) (tail : List UInt8) :
    continued code (byte :: tail) = continued (code * 64 + (byte.toNat - 0x80)) tail := by
  rw [continued, List.foldl_cons, continued]

/-- The first byte of a tail has the narrower range. -/
theorem tailWithin_cons {low high byte : UInt8} {tail : List UInt8} :
    TailWithin low high (byte :: tail) ↔ low ≤ byte ∧ byte ≤ high ∧ TailWithin 0x80 0xBF tail := by
  rw [TailWithin]

/-- Reading a tail succeeds exactly on the wanted number of bytes in their ranges. -/
theorem utf8Tail_eq_complete_iff {low high : UInt8} {wanted code found value : ℕ}
    {bytes : List UInt8} :
    utf8Tail low high wanted code found bytes = .complete value ↔
      ∃ tail rest, bytes = tail ++ rest ∧ tail.length = wanted ∧ TailWithin low high tail ∧
        continued code tail = value := by
  induction wanted generalizing low high code found bytes with
  | zero => simp [utf8Tail, TailWithin, continued]
  | succ wanted ih =>
    cases bytes with
    | nil =>
      constructor
      · intro h
        simp [utf8Tail] at h
      · rintro ⟨tail, rest, hbytes, hlength, -, -⟩
        obtain ⟨rfl, -⟩ := List.append_eq_nil_iff.mp hbytes.symm
        simp at hlength
    | cons byte bytes =>
      rw [utf8Tail]
      constructor
      · intro h
        by_cases hrange : low ≤ byte ∧ byte ≤ high
        · rw [if_pos hrange] at h
          obtain ⟨tail, rest, rfl, hlength, hwithin, hvalue⟩ := ih.mp h
          refine ⟨byte :: tail, rest, rfl, by simp [hlength], ?_, ?_⟩
          · exact tailWithin_cons.mpr ⟨hrange.1, hrange.2, hwithin⟩
          · rw [continued_cons, hvalue]
        · rw [if_neg hrange] at h
          cases h
      · rintro ⟨tail, rest, hbytes, hlength, hwithin, hvalue⟩
        cases tail with
        | nil => simp at hlength
        | cons first tail =>
          obtain ⟨rfl, rfl⟩ := List.cons.inj hbytes
          obtain ⟨hlow, hhigh, hwithin⟩ := tailWithin_cons.mp hwithin
          rw [continued_cons] at hvalue
          rw [if_pos ⟨hlow, hhigh⟩]
          exact ih.mpr ⟨tail, rest, rfl, by simpa using hlength, hwithin, hvalue⟩

/-- A lead byte with the bytes it announces, which make up a number. -/
def Announces (byte : UInt8) (tail : List UInt8) (code : ℕ) : Prop :=
  ∃ lead, utf8Lead? byte = some lead ∧ tail.length = lead.following ∧
    TailWithin lead.low lead.high tail ∧ continued lead.payload tail = code

/-- What the leads of the three lengths have in common: where their bits stand, and how the second
byte is bounded so that no shorter form, no surrogate and no number above the last character can
follow. -/
theorem bounds_of_utf8Lead? {byte : UInt8} {lead : Utf8Lead} (hlead : utf8Lead? byte = some lead) :
    (lead.following = 1 ∧ byte.toNat = 0xC0 + lead.payload ∧ 2 ≤ lead.payload ∧
        lead.payload < 32 ∧ lead.low = 0x80 ∧ lead.high = 0xBF) ∨
      (lead.following = 2 ∧ byte.toNat = 0xE0 + lead.payload ∧ lead.payload < 16 ∧
        0x80 ≤ lead.low.toNat ∧ lead.high.toNat ≤ 0xBF ∧
        (lead.payload = 0 → 0xA0 ≤ lead.low.toNat) ∧
        (lead.payload = 13 → lead.high.toNat ≤ 0x9F)) ∨
      (lead.following = 3 ∧ byte.toNat = 0xF0 + lead.payload ∧ lead.payload ≤ 4 ∧
        0x80 ≤ lead.low.toNat ∧ lead.high.toNat ≤ 0xBF ∧
        (lead.payload = 0 → 0x90 ≤ lead.low.toNat) ∧
        (lead.payload = 4 → lead.high.toNat ≤ 0x8F)) := by
  unfold utf8Lead? at hlead
  dsimp only at hlead
  split_ifs at hlead <;> cases hlead <;> simp <;> omega

/-- The bytes of a character beyond the first 128, as numbers. -/
def longForm (n : ℕ) : List ℕ :=
  if n < 0x800 then [0xC0 + n / 64, 0x80 + n % 64]
  else if n < 0x10000 then [0xE0 + n / 4096, 0x80 + n / 64 % 64, 0x80 + n % 64]
  else [0xF0 + n / 262144, 0x80 + n / 4096 % 64, 0x80 + n / 64 % 64, 0x80 + n % 64]

/-- The bytes of a character beyond the first 128 are its long form. -/
theorem toNat_utf8Char {c : Char} (hc : 0x80 ≤ c.toNat) :
    (utf8Char c).map UInt8.toNat = longForm c.toNat := by
  have hvalid : c.toNat.isValidChar := c.valid
  unfold Nat.isValidChar at hvalid
  unfold utf8Char longForm
  dsimp only
  rw [if_neg (by omega)]
  split_ifs <;> simp <;> omega

/-- A tail is within its ranges exactly if its numbers are. -/
theorem tailWithin_iff {tail : List UInt8} :
    TailWithin 0x80 0xBF tail ↔ ∀ byte ∈ tail, 0x80 ≤ byte.toNat ∧ byte.toNat ≤ 0xBF := by
  induction tail with
  | nil => simp [TailWithin]
  | cons byte tail ih =>
    rw [tailWithin_cons, ih, UInt8.le_iff_toNat_le, UInt8.le_iff_toNat_le]
    simp [and_assoc]

/-- What a lead announces is the number of a character, and its bytes are the long form of that
number. -/
theorem Announces.longForm_eq {byte : UInt8} {tail : List UInt8} {code : ℕ}
    (h : Announces byte tail code) :
    0x80 ≤ code ∧ code.isValidChar ∧ (byte :: tail).map UInt8.toNat = longForm code := by
  obtain ⟨lead, hlead, hlength, hwithin, hcode⟩ := h
  unfold Nat.isValidChar
  rcases bounds_of_utf8Lead? hlead with
    ⟨hfollowing, hbyte, hleast, hmost, hlow, hhigh⟩ |
      ⟨hfollowing, hbyte, hmost, hlow, hhigh, hleast, hsurrogate⟩ |
      ⟨hfollowing, hbyte, hmost, hlow, hhigh, hleast, hlast⟩
  · obtain ⟨second, rfl⟩ := List.length_eq_one_iff.mp (hlength.trans hfollowing)
    rw [hlow, hhigh, tailWithin_iff] at hwithin
    have hsecond := hwithin second (by simp)
    rw [continued_cons, continued_nil] at hcode
    simp only [List.map_cons, List.map_nil, longForm]
    rw [if_pos (by omega)]
    simp only [List.cons.injEq, and_true]
    omega
  · obtain ⟨second, third, rfl⟩ := List.length_eq_two.mp (hlength.trans hfollowing)
    obtain ⟨hsecond, hsecond', hrest⟩ := tailWithin_cons.mp hwithin
    have hthird := tailWithin_iff.mp hrest third (by simp)
    rw [UInt8.le_iff_toNat_le] at hsecond hsecond'
    rw [continued_cons, continued_cons, continued_nil] at hcode
    simp only [List.map_cons, List.map_nil, longForm]
    rw [if_neg (by omega), if_pos (by omega)]
    simp only [List.cons.injEq, and_true]
    omega
  · obtain ⟨second, third, fourth, rfl⟩ := List.length_eq_three.mp (hlength.trans hfollowing)
    obtain ⟨hsecond, hsecond', hrest⟩ := tailWithin_cons.mp hwithin
    have hthird := tailWithin_iff.mp hrest third (by simp)
    have hfourth := tailWithin_iff.mp hrest fourth (by simp)
    rw [UInt8.le_iff_toNat_le] at hsecond hsecond'
    rw [continued_cons, continued_cons, continued_cons, continued_nil] at hcode
    simp only [List.map_cons, List.map_nil, longForm]
    rw [if_neg (by omega), if_neg (by omega)]
    simp only [List.cons.injEq, and_true]
    omega

/-- A lead for two bytes, with any bits but the two that a single byte could hold. -/
theorem announces_two {byte second : UInt8} {lead x : ℕ} (hbyte : byte.toNat = 0xC0 + lead)
    (hleast : 2 ≤ lead) (hlead : lead < 32) (hsecond : second.toNat = 0x80 + x) (hx : x < 64) :
    Announces byte [second] (lead * 64 + x) := by
  unfold Announces utf8Lead?
  dsimp only
  rw [if_pos (by omega)]
  refine ⟨_, rfl, rfl, tailWithin_iff.mpr (by simp; omega), ?_⟩
  rw [continued_cons, continued_nil]
  dsimp only
  omega

/-- A lead for three bytes narrows the second byte if its own bits are all zero, to keep shorter
forms away, and if they are those of the surrogates. -/
theorem utf8Lead?_three {byte : UInt8} {lead : ℕ} (hbyte : byte.toNat = 0xE0 + lead)
    (hlead : lead < 16) :
    ∃ low high, utf8Lead? byte = some ⟨low, high, 2, lead⟩ ∧
      low.toNat = (if lead = 0 then 0xA0 else 0x80) ∧
      high.toNat = (if lead = 13 then 0x9F else 0xBF) := by
  unfold utf8Lead?
  by_cases hzero : lead = 0
  · subst hzero
    exact ⟨0xA0, 0xBF, by simp [hbyte], rfl, rfl⟩
  by_cases hsurrogate : lead = 13
  · subst hsurrogate
    exact ⟨0x80, 0x9F, by simp [hbyte], rfl, rfl⟩
  refine ⟨0x80, 0xBF, ?_, by simp [hzero], by simp [hsurrogate]⟩
  dsimp only
  rw [hbyte, if_neg (by omega), if_neg (by omega), if_neg (by omega), if_pos (by omega),
    Nat.add_sub_cancel_left]

/-- A lead for four bytes narrows the second byte if its own bits are all zero, to keep shorter
forms away, and if they are those of the last characters. -/
theorem utf8Lead?_four {byte : UInt8} {lead : ℕ} (hbyte : byte.toNat = 0xF0 + lead)
    (hlead : lead ≤ 4) :
    ∃ low high, utf8Lead? byte = some ⟨low, high, 3, lead⟩ ∧
      low.toNat = (if lead = 0 then 0x90 else 0x80) ∧
      high.toNat = (if lead = 4 then 0x8F else 0xBF) := by
  unfold utf8Lead?
  by_cases hzero : lead = 0
  · subst hzero
    exact ⟨0x90, 0xBF, by simp [hbyte], rfl, rfl⟩
  by_cases hlast : lead = 4
  · subst hlast
    exact ⟨0x80, 0x8F, by simp [hbyte], rfl, rfl⟩
  refine ⟨0x80, 0xBF, ?_, by simp [hzero], by simp [hlast]⟩
  dsimp only
  rw [hbyte, if_neg (by omega), if_neg (by omega), if_neg (by omega), if_neg (by omega),
    if_neg (by omega), if_neg (by omega), if_pos (by omega), Nat.add_sub_cancel_left]

/-- A lead for three bytes, where the second byte keeps shorter forms and surrogates away. -/
theorem announces_three {byte second third : UInt8} {lead x y : ℕ}
    (hbyte : byte.toNat = 0xE0 + lead) (hlead : lead < 16) (hleast : lead = 0 → 32 ≤ x)
    (hsurrogate : lead = 13 → x < 32) (hsecond : second.toNat = 0x80 + x) (hx : x < 64)
    (hthird : third.toNat = 0x80 + y) (hy : y < 64) :
    Announces byte [second, third] ((lead * 64 + x) * 64 + y) := by
  have hrest : TailWithin 0x80 0xBF [third] := tailWithin_iff.mpr (by simp; omega)
  obtain ⟨low, high, hlook, hlow, hhigh⟩ := utf8Lead?_three hbyte hlead
  refine ⟨_, hlook, rfl, tailWithin_cons.mpr ⟨?_, ?_, hrest⟩, ?_⟩
  · rw [UInt8.le_iff_toNat_le, hlow]
    split_ifs <;> omega
  · rw [UInt8.le_iff_toNat_le, hhigh]
    split_ifs <;> omega
  · rw [continued_cons, continued_cons, continued_nil]
    dsimp only
    omega

/-- A lead for four bytes, where the second byte keeps shorter forms and numbers above the last
character away. -/
theorem announces_four {byte second third fourth : UInt8} {lead x y z : ℕ}
    (hbyte : byte.toNat = 0xF0 + lead) (hlead : lead ≤ 4) (hleast : lead = 0 → 16 ≤ x)
    (hlast : lead = 4 → x < 16) (hsecond : second.toNat = 0x80 + x) (hx : x < 64)
    (hthird : third.toNat = 0x80 + y) (hy : y < 64) (hfourth : fourth.toNat = 0x80 + z)
    (hz : z < 64) :
    Announces byte [second, third, fourth] (((lead * 64 + x) * 64 + y) * 64 + z) := by
  have hrest : TailWithin 0x80 0xBF [third, fourth] := tailWithin_iff.mpr (by simp; omega)
  obtain ⟨low, high, hlook, hlow, hhigh⟩ := utf8Lead?_four hbyte hlead
  refine ⟨_, hlook, rfl, tailWithin_cons.mpr ⟨?_, ?_, hrest⟩, ?_⟩
  · rw [UInt8.le_iff_toNat_le, hlow]
    split_ifs <;> omega
  · rw [UInt8.le_iff_toNat_le, hhigh]
    split_ifs <;> omega
  · rw [continued_cons, continued_cons, continued_cons, continued_nil]
    dsimp only
    omega

/-- The long form of a number of a character is announced by its first byte. -/
theorem announces_of_longForm {byte : UInt8} {tail : List UInt8} {code : ℕ} (hcode : 0x80 ≤ code)
    (hvalid : code.isValidChar) (hform : (byte :: tail).map UInt8.toNat = longForm code) :
    Announces byte tail code := by
  unfold Nat.isValidChar at hvalid
  unfold longForm at hform
  split_ifs at hform with htwo hthree
  · obtain ⟨second, rfl⟩ := List.length_eq_one_iff.mp (by simpa using congrArg List.length hform)
    simp only [List.map_cons, List.map_nil, List.cons.injEq, and_true] at hform
    have h := announces_two hform.1 (by omega) (by omega) hform.2 (by omega)
    rwa [show code / 64 * 64 + code % 64 = code by omega] at h
  · obtain ⟨second, third, rfl⟩ := List.length_eq_two.mp (by simpa using congrArg List.length hform)
    simp only [List.map_cons, List.map_nil, List.cons.injEq, and_true] at hform
    have h := announces_three hform.1 (by omega) (by omega) (by omega) hform.2.1 (by omega)
      hform.2.2 (by omega)
    rwa [show (code / 4096 * 64 + code / 64 % 64) * 64 + code % 64 = code by omega] at h
  · obtain ⟨second, third, fourth, rfl⟩ :=
      List.length_eq_three.mp (by simpa using congrArg List.length hform)
    simp only [List.map_cons, List.map_nil, List.cons.injEq, and_true] at hform
    have h := announces_four hform.1 (by omega) (by omega) (by omega) hform.2.1 (by omega)
      hform.2.2.1 (by omega) hform.2.2.2 (by omega)
    rwa [show ((code / 262144 * 64 + code / 4096 % 64) * 64 + code / 64 % 64) * 64 + code % 64 =
      code by omega] at h

/-- The character with a valid number has that number. -/
theorem toNat_ofNat_of_isValidChar {n : ℕ} (hvalid : n.isValidChar) : (Char.ofNat n).toNat = n := by
  rw [Char.ofNat, dif_pos hvalid]
  rfl

/-- What a lead announces is exactly the bytes of a character beyond the first 128. -/
theorem announces_iff {byte : UInt8} {tail : List UInt8} {code : ℕ} :
    Announces byte tail code ↔
      ∃ c : Char, c.toNat = code ∧ 0x80 ≤ c.toNat ∧ utf8Char c = byte :: tail := by
  constructor
  · intro h
    obtain ⟨hcode, hvalid, hform⟩ := h.longForm_eq
    have hc := toNat_ofNat_of_isValidChar hvalid
    refine ⟨Char.ofNat code, hc, by omega, ?_⟩
    apply List.map_injective_iff.mpr (fun _ _ => UInt8.toNat_inj.mp)
    rw [toNat_utf8Char (by omega), hc, hform]
  · rintro ⟨c, rfl, hc, hbytes⟩
    have hform := toNat_utf8Char hc
    rw [hbytes] at hform
    exact announces_of_longForm hc c.valid hform

/-- Every character has at least one byte. -/
theorem utf8Char_ne_nil (c : Char) : utf8Char c ≠ [] := by
  unfold utf8Char
  dsimp only
  split_ifs <;> simp

/-- The first 128 characters are single bytes. -/
theorem utf8Char_of_lt {c : Char} (hc : c.toNat < 0x80) : utf8Char c = [UInt8.ofNat c.toNat] := by
  unfold utf8Char
  dsimp only
  rw [if_pos hc]

/-- Bytes that belong to the character before are passed over. -/
theorem decodeFrom_append (offset : ℕ) (tail rest : List UInt8) :
    decodeFrom offset tail.length (tail ++ rest) = decodeFrom (offset + tail.length) 0 rest := by
  induction tail generalizing offset with
  | nil => rfl
  | cons byte tail ih =>
    rw [List.length_cons, List.cons_append, decodeFrom, ih]
    congr 1
    omega

/-- The bytes of a character are decoded to it, and decoding goes on behind them. -/
theorem decodeFrom_utf8Char (offset : ℕ) (c : Char) (rest : List UInt8) :
    decodeFrom offset 0 (utf8Char c ++ rest) =
      (decodeFrom (offset + (utf8Char c).length) 0 rest).map (c :: ·) := by
  by_cases hc : c.toNat < 0x80
  · have hbyte : (UInt8.ofNat c.toNat).toNat = c.toNat := by
      rw [UInt8.toNat_ofNat']
      omega
    rw [utf8Char_of_lt hc, List.singleton_append, decodeFrom, if_pos, hbyte, Char.ofNat_toNat]
    · rfl
    · rw [UInt8.lt_iff_toNat_lt, hbyte]
      exact hc
  · obtain ⟨byte, tail, hbytes⟩ := List.exists_cons_of_ne_nil (utf8Char_ne_nil c)
    obtain ⟨lead, hlead, hlength, hwithin, hcode⟩ :=
      announces_iff.mpr ⟨c, rfl, by omega, hbytes⟩
    have hbyte : ¬ byte < 0x80 := by
      have hbounds := bounds_of_utf8Lead? hlead
      rw [UInt8.lt_iff_toNat_lt]
      simp
      omega
    have htail : utf8Tail lead.low lead.high lead.following lead.payload 0 (tail ++ rest) =
        .complete c.toNat :=
      utf8Tail_eq_complete_iff.mpr ⟨tail, rest, rfl, hlength, hwithin, hcode⟩
    rw [hbytes, List.cons_append, decodeFrom, if_neg hbyte, hlead]
    dsimp only
    rw [htail]
    dsimp only
    rw [← hlength, decodeFrom_append, Char.ofNat_toNat, List.length_cons]
    congr 2
    omega

/-- The bytes of a text are decoded to the text. -/
theorem decodeFrom_utf8 (offset : ℕ) (text : List Char) :
    decodeFrom offset 0 (utf8 text) = .ok text := by
  induction text generalizing offset with
  | nil => rfl
  | cons c text ih =>
    rw [utf8, List.flatMap_cons, decodeFrom_utf8Char, ← utf8, ih]
    rfl

/-- Bytes that can be decoded begin with the bytes of a character. -/
theorem exists_char_of_decodeFrom {offset : ℕ} {byte : UInt8} {rest : List UInt8}
    {text : List Char} (htext : decodeFrom offset 0 (byte :: rest) = .ok text) :
    ∃ c behind, byte :: rest = utf8Char c ++ behind := by
  rw [decodeFrom] at htext
  by_cases hbyte : byte < 0x80
  · rw [UInt8.lt_iff_toNat_lt] at hbyte
    have hvalid : byte.toNat.isValidChar := Or.inl (by simp at hbyte; omega)
    have hc := toNat_ofNat_of_isValidChar hvalid
    refine ⟨Char.ofNat byte.toNat, rest, ?_⟩
    rw [utf8Char_of_lt (by rw [hc]; exact hbyte), hc, UInt8.ofNat_toNat, List.singleton_append]
  · rw [if_neg hbyte] at htext
    cases hlead : utf8Lead? byte with
    | none => simp [hlead] at htext
    | some lead =>
      rw [hlead] at htext
      dsimp only at htext
      cases htail : utf8Tail lead.low lead.high lead.following lead.payload 0 rest with
      | broken found fault => simp [htail] at htext
      | complete code =>
        obtain ⟨tail, behind, rfl, hlength, hwithin, hcode⟩ := utf8Tail_eq_complete_iff.mp htail
        obtain ⟨c, -, -, hbytes⟩ := announces_iff.mp ⟨lead, hlead, hlength, hwithin, hcode⟩
        exact ⟨c, behind, by rw [hbytes, List.cons_append]⟩

/-- Only the bytes of a text are decoded to it. -/
theorem utf8_of_decodeFrom {offset : ℕ} {bytes : List UInt8} {text : List Char}
    (htext : decodeFrom offset 0 bytes = .ok text) : utf8 text = bytes := by
  induction hlength : bytes.length using Nat.strongRecOn generalizing offset bytes text with
  | ind length ih =>
    cases bytes with
    | nil =>
      obtain rfl : [] = text := Except.ok.inj htext
      rfl
    | cons byte rest =>
      obtain ⟨c, behind, hbytes⟩ := exists_char_of_decodeFrom htext
      rw [hbytes, decodeFrom_utf8Char] at htext
      have hshort : behind.length < length := by
        have hpositive := List.length_pos_iff.mpr (utf8Char_ne_nil c)
        rw [hbytes, List.length_append] at hlength
        omega
      cases hbehind : decodeFrom (offset + (utf8Char c).length) 0 behind with
      | error problem =>
        rw [hbehind] at htext
        cases htext
      | ok others =>
        rw [hbehind] at htext
        obtain rfl : c :: others = text := Except.ok.inj htext
        rw [hbytes, utf8, List.flatMap_cons, ← utf8, ih _ hshort hbehind rfl]

/-- Bytes are decoded to a text exactly if they are its bytes. -/
theorem decode_eq_ok_iff {bytes : List UInt8} {text : List Char} :
    decode bytes = .ok text ↔ utf8 text = bytes := by
  constructor
  · exact utf8_of_decodeFrom
  · rintro rfl
    exact decodeFrom_utf8 0 text

/-- Different texts have different bytes. -/
theorem utf8_injective : Function.Injective utf8 := by
  intro first second h
  have hdecoded := decode_eq_ok_iff.mpr h
  rw [decode_eq_ok_iff.mpr rfl] at hdecoded
  exact (Except.ok.inj hdecoded).symm

/-- A text without carriage returns stays as it is. -/
theorem unifyNewlines_of_notMem {text : List Char} (h : '\r' ∉ text) :
    unifyNewlines text = text := by
  fun_induction unifyNewlines text with
  | case1 => simp at h
  | case2 c rest _ ih =>
    rw [List.mem_cons, not_or] at h
    rw [if_neg (Ne.symm h.1), ih h.2]
  | case3 => rfl

end OrderOfGrowth.Text

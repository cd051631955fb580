/-!
# UTF-8

Texts are stored as bytes in UTF-8. Writing always succeeds; reading stops at the first
byte sequence that is not well formed and says where it is and what is wrong with it. Forms
that are longer than needed, surrogates and numbers above U+10FFFF are not well formed: they
are excluded by the range of the second byte.
-/

namespace OrderOfGrowth.Text

/-- The bytes of one character. -/
def utf8Char (c : Char) : List UInt8 :=
  let n := c.toNat
  if n < 0x80 then [UInt8.ofNat n]
  else if n < 0x800 then [UInt8.ofNat (0xC0 + n / 64), UInt8.ofNat (0x80 + n % 64)]
  else if n < 0x10000 then
    [UInt8.ofNat (0xE0 + n / 4096), UInt8.ofNat (0x80 + n / 64 % 64), UInt8.ofNat (0x80 + n % 64)]
  else
    [UInt8.ofNat (0xF0 + n / 262144), UInt8.ofNat (0x80 + n / 4096 % 64),
      UInt8.ofNat (0x80 + n / 64 % 64), UInt8.ofNat (0x80 + n % 64)]

/-- The bytes of a text. -/
def utf8 (text : List Char) : List UInt8 := text.flatMap utf8Char

/-- What can be wrong with a byte sequence. -/
inductive Utf8Fault where
  | start
  | continuation
  | ending
  deriving DecidableEq

/-- A byte sequence that is not well formed: its first byte, the offset of that byte, the
number of bytes up to the fault, and the fault. -/
structure Utf8Problem where
  byte : UInt8
  offset : Nat
  length : Nat
  fault : Utf8Fault
  deriving DecidableEq

/-- The bytes that may follow a lead byte: the range of the second byte and the number of
bytes behind the lead. -/
structure Utf8Lead where
  low : UInt8
  high : UInt8
  following : Nat
  payload : Nat

/-- What a lead byte announces, if it is one. The range of the second byte is narrower
after E0, ED, F0 and F4. -/
def utf8Lead? (byte : UInt8) : Option Utf8Lead :=
  let n := byte.toNat
  if 0xC2 ≤ n ∧ n ≤ 0xDF then some ⟨0x80, 0xBF, 1, n - 0xC0⟩
  else if n = 0xE0 then some ⟨0xA0, 0xBF, 2, 0⟩
  else if n = 0xED then some ⟨0x80, 0x9F, 2, 0xD⟩
  else if 0xE1 ≤ n ∧ n ≤ 0xEF then some ⟨0x80, 0xBF, 2, n - 0xE0⟩
  else if n = 0xF0 then some ⟨0x90, 0xBF, 3, 0⟩
  else if n = 0xF4 then some ⟨0x80, 0x8F, 3, 4⟩
  else if 0xF1 ≤ n ∧ n ≤ 0xF3 then some ⟨0x80, 0xBF, 3, n - 0xF0⟩
  else none

/-- How the bytes behind a lead byte turn out. -/
inductive Utf8Tail where
  | complete (code : Nat)
  | broken (found : Nat) (fault : Utf8Fault)

/-- Reads `wanted` continuation bytes, the first one between `low` and `high`, and adds
their six bits each to `code`; `found` counts the bytes read before. -/
def utf8Tail (low high : UInt8) : Nat → Nat → Nat → List UInt8 → Utf8Tail
  | 0, code, _, _ => .complete code
  | _ + 1, _, found, [] => .broken found .ending
  | wanted + 1, code, found, byte :: rest =>
    if low ≤ byte ∧ byte ≤ high then
      utf8Tail 0x80 0xBF wanted (code * 64 + (byte.toNat - 0x80)) (found + 1) rest
    else .broken found .continuation

/-- The text that the bytes encode; `offset` is the number of bytes before them, and
`skip` of them belong to the character before. -/
def decodeFrom : Nat → Nat → List UInt8 → Except Utf8Problem (List Char)
  | _, _, [] => .ok []
  | offset, skip + 1, _ :: rest => decodeFrom (offset + 1) skip rest
  | offset, 0, byte :: rest =>
    if byte < 0x80 then (decodeFrom (offset + 1) 0 rest).map (Char.ofNat byte.toNat :: ·)
    else
      match utf8Lead? byte with
      | none => .error ⟨byte, offset, 1, .start⟩
      | some lead =>
        match utf8Tail lead.low lead.high lead.following lead.payload 0 rest with
        | .complete code =>
          (decodeFrom (offset + 1) lead.following rest).map (Char.ofNat code :: ·)
        | .broken found fault => .error ⟨byte, offset, found + 1, fault⟩

/-- The text that the bytes encode. -/
def decode (bytes : List UInt8) : Except Utf8Problem (List Char) := decodeFrom 0 0 bytes

/-- Every carriage return with the line feed behind it, and every single carriage return,
becomes a line feed. -/
def unifyNewlines : List Char → List Char
  | '\r' :: '\n' :: rest => '\n' :: unifyNewlines rest
  | c :: rest => (if c = '\r' then '\n' else c) :: unifyNewlines rest
  | [] => []

end OrderOfGrowth.Text

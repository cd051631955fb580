import OrderOfGrowth.Text.Surrogate
import OrderOfGrowth.Text.Utf8

/-!
# Names as bytes

A file system knows names as rows of bytes. A name is written in UTF-8, and so that every row of
bytes has a name, the halves of surrogate pairs from U+DC80 to U+DCFF stand for the single bytes
80 to FF. The other halves stand for nothing and cannot be part of a name. A stream may read its
bytes in the same way.
-/

namespace OrderOfGrowth.Text

/-- The byte that half of a surrogate pair stands for in a name, if it stands for one. -/
def byteOfHalf? (c : Char) : Option UInt8 :=
  match surrogate? c with
  | some half => if 0xDC80 ≤ half ∧ half ≤ 0xDCFF then some (UInt8.ofNat (half - 0xDC00)) else none
  | none => none

/-- The character that a single byte is written as in a name. -/
def charOfByte (byte : UInt8) : Char :=
  if byte < 0x80 then Char.ofNat byte.toNat else ofSurrogate (0xDC00 + byte.toNat)

/-- The text of bytes of which each one that is not well formed becomes half of a surrogate pair;
`skip` of the bytes belong to the character before. -/
def decodeEscapedFrom : Nat → List UInt8 → List Char
  | _, [] => []
  | skip + 1, _ :: rest => decodeEscapedFrom skip rest
  | 0, byte :: rest =>
    if byte < 0x80 then Char.ofNat byte.toNat :: decodeEscapedFrom 0 rest
    else
      match utf8Lead? byte with
      | none => charOfByte byte :: decodeEscapedFrom 0 rest
      | some lead =>
        match utf8Tail lead.low lead.high lead.following lead.payload 0 rest with
        | .complete code => Char.ofNat code :: decodeEscapedFrom lead.following rest
        | .broken _ _ => charOfByte byte :: decodeEscapedFrom 0 rest

/-- The text of bytes, with halves of surrogate pairs for those that are not well formed. -/
def decodeEscaped (bytes : List UInt8) : List Char := decodeEscapedFrom 0 bytes

/-- The first halves of surrogate pairs in a name that stand for no byte, if there are any,
with the halves that follow them. -/
def unnamedRun? (name : List Char) : Option SurrogateRun :=
  runAtRest? name (name.dropWhile fun c => !isSurrogate c || (byteOfHalf? c).isSome)

/-- The bytes of a name. -/
def nameBytes (name : List Char) : List UInt8 :=
  name.flatMap fun c =>
    match byteOfHalf? c with
    | some byte => [byte]
    | none => utf8Char c

/-- The one spelling of a name by which files are known: its bytes as a text in UTF-8, and
byte by byte if they are none. -/
def plainName (name : String) : String :=
  if name.toList.any isSurrogate then
    let bytes := nameBytes name.toList
    match decode bytes with
    | .ok text => String.ofList text
    | .error _ => String.ofList (bytes.map charOfByte)
  else name

end OrderOfGrowth.Text

/-!
# Bytes

The contents of blobs, files and messages are lists of bytes.  A text has one form as bytes, UTF-8,
and bytes are the form of at most one text (`Bytes.text?`).  Bytes that are none can still be read
character by character, with gaps (`Bytes.characters`); where they are only shown to somebody, the
gaps are filled (`Bytes.shownText`).
-/

set_option autoImplicit false

namespace BlobFs

/-- A run of bytes. -/
abbrev Bytes := List UInt8

namespace Bytes

/-- The bytes of a text. -/
def ofText (text : String) : Bytes :=
  text.toUTF8.toList

/-- The text that the bytes are the form of. -/
def text? (bytes : Bytes) : Option String :=
  String.fromUTF8? ⟨bytes.toArray⟩

/-! ## Bytes character by character -/

/-- How many bytes follow the first one of a character, and the least and the greatest that the next
one may be. -/
def followers (first : UInt8) : Nat × UInt8 × UInt8 :=
  if first < 0xC2 then (0, 0x80, 0xBF)
  else if first < 0xE0 then (1, 0x80, 0xBF)
  else if first = 0xE0 then (2, 0xA0, 0xBF)
  else if first = 0xED then (2, 0x80, 0x9F)
  else if first < 0xF0 then (2, 0x80, 0xBF)
  else if first = 0xF0 then (3, 0x90, 0xBF)
  else if first < 0xF4 then (3, 0x80, 0xBF)
  else if first = 0xF4 then (3, 0x80, 0x8F)
  else (0, 0x80, 0xBF)

/-- As many of the bytes after the first one as can belong to its character. -/
def following (first : UInt8) (rest : Bytes) : Bytes :=
  let (count, least, greatest) := followers first
  match rest.take count with
  | [] => []
  | next :: more =>
    if least ≤ next ∧ next ≤ greatest then
      next :: more.takeWhile fun b ↦ 0x80 ≤ b && b ≤ 0xBF
    else []

/-- The bytes after the first `skipped` cut into the forms of characters, each with as much of it as
is there. -/
def characterParts : (skipped : Nat) → Bytes → List Bytes
  | _, [] => []
  | skipped + 1, _ :: rest => characterParts skipped rest
  | 0, first :: rest =>
    let more := following first rest
    (first :: more) :: characterParts more.length rest

/-- The characters of the bytes, with a gap for each part that is not the whole form of one. -/
def characters (bytes : Bytes) : List (Option Char) :=
  (characterParts 0 bytes).map fun part ↦ (text? part).bind fun text ↦ text.toList.head?

/-- The bytes as a text, with U+FFFD in each gap. -/
def shownText (bytes : Bytes) : String :=
  String.ofList ((characters bytes).map (·.getD '\uFFFD'))

/-! ## Hexadecimal digits -/

/-- The hexadecimal digit of a number below 16. -/
def hexDigit (n : Nat) : Char :=
  Char.ofNat (if n < 10 then '0'.toNat + n else 'a'.toNat + (n - 10))

/-- The number of a hexadecimal digit, in either letter case. -/
def hexValue? (c : Char) : Option Nat :=
  if '0' ≤ c ∧ c ≤ '9' then some (c.toNat - '0'.toNat)
  else if 'a' ≤ c ∧ c ≤ 'f' then some (c.toNat - 'a'.toNat + 10)
  else if 'A' ≤ c ∧ c ≤ 'F' then some (c.toNat - 'A'.toNat + 10)
  else none

/-- Two hexadecimal digits for each byte. -/
def toHex (bytes : Bytes) : String :=
  String.ofList (bytes.flatMap fun b ↦ [hexDigit (b.toNat / 16), hexDigit (b.toNat % 16)])

/-- The bytes that pairs of hexadecimal digits write. -/
def ofHexDigits? : List Char → Option Bytes
  | [] => some []
  | high :: low :: rest =>
    match hexValue? high, hexValue? low, ofHexDigits? rest with
    | some high, some low, some bytes => some (UInt8.ofNat (16 * high + low) :: bytes)
    | _, _, _ => none
  | [_] => none

/-- The bytes that a text of hexadecimal digits writes. -/
def ofHex? (text : String) : Option Bytes :=
  ofHexDigits? text.toList

end Bytes

end BlobFs

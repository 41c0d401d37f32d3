import BlobFs.Bytes

/-!
# Percent encoding

Where a character may not stand as it is, its UTF-8 bytes are written as `%XX` in upper-case
hexadecimal.  Which characters may stand is different from place to place, so the functions here
take that as a predicate.  Decoding takes every `%` with two hexadecimal digits after it for a byte
and leaves everything else alone.
-/

set_option autoImplicit false

namespace BlobFs.Text

/-- A hexadecimal digit in upper case. -/
def upperHexDigit (n : Nat) : Char :=
  if n < 10 then Char.ofNat (0x30 + n) else Char.ofNat (0x37 + n)

/-- A byte as `%XX`. -/
def percentByte (b : UInt8) : List Char :=
  ['%', upperHexDigit (b.toNat / 16), upperHexDigit (b.toNat % 16)]

/-- A character as it stands, or its bytes percent-encoded. -/
def percentChar (stands : Char → Bool) (c : Char) : List Char :=
  if stands c then [c] else (Bytes.ofText (String.ofList [c])).flatMap percentByte

/-- A text in which only characters that may stand do so. -/
def percentEncode (stands : Char → Bool) (s : List Char) : List Char :=
  s.flatMap (percentChar stands)

/-- The bytes of a percent-encoded text. -/
def percentDecode : List Char → Bytes
  | '%' :: high :: low :: rest =>
    match Bytes.hexValue? high, Bytes.hexValue? low with
    | some h, some l => UInt8.ofNat (16 * h + l) :: percentDecode rest
    | _, _ => 0x25 :: percentDecode (high :: low :: rest)
  | c :: rest => Bytes.ofText (String.ofList [c]) ++ percentDecode rest
  | [] => []
termination_by s => s.length

/-! ## Forms -/

/-- Whether `c` stands as it is in a form. -/
def standsInForm (c : Char) : Bool :=
  c.isAlphanum || c == '*' || c == '-' || c == '.' || c == '_'

/-- A name or a value in a form; a space becomes a `+`. -/
def formEncode (s : String) : String :=
  String.ofList (s.toList.flatMap fun c ↦ if c = ' ' then ['+'] else percentChar standsInForm c)

/-- Names and values as one form, `name=value` with `&` between them. -/
def formText (pairs : List (String × String)) : String :=
  "&".intercalate (pairs.map fun (name, value) ↦ formEncode name ++ "=" ++ formEncode value)

end BlobFs.Text

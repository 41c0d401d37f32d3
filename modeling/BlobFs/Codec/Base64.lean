import BlobFs.Bytes

/-!
# Base64

Three bytes are written as four symbols of six bits each.  What is left over at the end, one byte or
two, is written as two symbols or three, filled up to four by `=` or left as they are.

* `encode` writes with `+` and `/` as the last two symbols and fills up with `=`.
* `encodeForUrl` writes with `-` and `_` and does not fill up.
* `decode` reads what `encode` writes and nothing else: the `=` must be there, and the bits of the
  last symbol that belong to no byte must be zero.
-/

set_option autoImplicit false

namespace BlobFs

/-- Why a text is not base64. -/
inductive Base64Problem where
  | badSymbol (symbol : Char) (offset : Nat)
  | badLength (length : Nat)
  | badLastSymbol (symbol : Char) (offset : Nat)
  | badPadding
  deriving DecidableEq

/-- The first byte of a character. -/
private def firstByte (c : Char) : Nat :=
  match Bytes.ofText (String.ofList [c]) with
  | [] => 0
  | b :: _ => b.toNat

/-- The problem in words. -/
def Base64Problem.describe : Base64Problem → String
  | .badSymbol symbol offset => s!"Invalid symbol {firstByte symbol}, offset {offset}."
  | .badLength length => s!"Invalid input length: {length}"
  | .badLastSymbol symbol offset => s!"Invalid last symbol {firstByte symbol}, offset {offset}."
  | .badPadding => "Invalid padding"

namespace Base64

/-! ## Symbols -/

/-- The symbol of a number below 64. -/
def symbol (n : Nat) : Char :=
  if n < 26 then Char.ofNat ('A'.toNat + n)
  else if n < 52 then Char.ofNat ('a'.toNat + (n - 26))
  else if n < 62 then Char.ofNat ('0'.toNat + (n - 52))
  else if n = 62 then '+'
  else '/'

/-- The symbol of a number below 64 where a text is part of a URL. -/
def urlSymbol (n : Nat) : Char :=
  if n = 62 then '-' else if n = 63 then '_' else symbol n

/-- The number of a symbol. -/
def value? (c : Char) : Option Nat :=
  if 'A' ≤ c ∧ c ≤ 'Z' then some (c.toNat - 'A'.toNat)
  else if 'a' ≤ c ∧ c ≤ 'z' then some (c.toNat - 'a'.toNat + 26)
  else if '0' ≤ c ∧ c ≤ '9' then some (c.toNat - '0'.toNat + 52)
  else if c = '+' then some 62
  else if c = '/' then some 63
  else none

/-- A symbol stands for its number. -/
theorem value?_symbol {n : Nat} (h : n < 64) : value? (symbol n) = some n := by
  have all : ∀ m ∈ List.range 64, value? (symbol m) = some m := by decide
  exact all n (List.mem_range.2 h)

/-! ## Writing -/

/-- The numbers of the symbols of three bytes, in groups of four, and of what is left over. -/
def sextets : Bytes → List (List Nat)
  | [] => []
  | [a] => [[a.toNat / 4, a.toNat % 4 * 16]]
  | [a, b] => [[a.toNat / 4, a.toNat % 4 * 16 + b.toNat / 16, b.toNat % 16 * 4]]
  | a :: b :: c :: rest =>
    [a.toNat / 4, a.toNat % 4 * 16 + b.toNat / 16, b.toNat % 16 * 4 + c.toNat / 64,
      c.toNat % 64] :: sextets rest

/-- A group of symbols, filled up to four. -/
def filledGroup (group : List Nat) : List Char :=
  group.map symbol ++ List.replicate (4 - group.length) '='

/-- The symbols of the bytes, filled up at the end. -/
def encode (bytes : Bytes) : List Char :=
  (sextets bytes).flatMap filledGroup

/-- The symbols of the bytes for use in a URL, not filled up. -/
def encodeForUrl (bytes : Bytes) : List Char :=
  (sextets bytes).flatMap fun group ↦ group.map urlSymbol

/-! ## Reading -/

/-- The numbers of symbols, or the first character that is none. -/
def values (offset : Nat) : List Char → Except Base64Problem (List Nat)
  | [] => .ok []
  | c :: rest =>
    match value? c with
    | none => .error (.badSymbol c offset)
    | some v =>
      match values (offset + 1) rest with
      | .ok vs => .ok (v :: vs)
      | .error e => .error e

/-- The bytes of a full group of numbers. -/
def groupBytes (a b c d : Nat) : Bytes :=
  [UInt8.ofNat (a * 4 + b / 16), UInt8.ofNat (b % 16 * 16 + c / 4), UInt8.ofNat (c % 4 * 64 + d)]

/-- The bytes of the last group, given as its numbers and the last symbol at its offset. -/
def lastBytes (last : Char) (offset : Nat) : List Nat → Except Base64Problem Bytes
  | [a, b, c, d] => .ok (groupBytes a b c d)
  | [a, b, c] =>
    if c % 4 = 0 then .ok [UInt8.ofNat (a * 4 + b / 16), UInt8.ofNat (b % 16 * 16 + c / 4)]
    else .error (.badLastSymbol last offset)
  | [a, b] =>
    if b % 16 = 0 then .ok [UInt8.ofNat (a * 4 + b / 16)]
    else .error (.badLastSymbol last offset)
  | _ => .error .badPadding

/-- Reads the last group, which may be filled up. -/
def decodeLast (offset : Nat) (s : List Char) : Except Base64Problem Bytes :=
  let symbols := s.takeWhile (· != '=')
  let filling := s.dropWhile (· != '=')
  match values offset symbols with
  | .error e => .error e
  | .ok vs =>
    if s = [] then .ok []
    else if filling ≠ [] ∧ (symbols.length < 2 ∨ filling.any (· != '=')) then
      .error (.badSymbol '=' (offset + symbols.length))
    else if symbols.length < 2 then .error (.badLength (offset + symbols.length))
    else if s.length ≠ 4 then .error .badPadding
    else lastBytes (symbols.getLast?.getD '=') (offset + symbols.length - 1) vs

/-- Reads what stands at `offset` of a text. -/
def decodeFrom (offset : Nat) : List Char → Except Base64Problem Bytes
  | a :: b :: c :: d :: e :: rest =>
    match values offset [a, b, c, d] with
    | .ok [a, b, c, d] =>
      match decodeFrom (offset + 4) (e :: rest) with
      | .ok bytes => .ok (groupBytes a b c d ++ bytes)
      | .error problem => .error problem
    | .ok _ => .error .badPadding
    | .error problem => .error problem
  | s => decodeLast offset s

/-- The bytes that the symbols write. -/
def decode (s : List Char) : Except Base64Problem Bytes :=
  decodeFrom 0 s

end Base64

end BlobFs

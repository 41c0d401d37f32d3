/-!
# Numbers that fit a 64-bit word

Sizes, counts and offsets are natural numbers below 2⁶⁴.  In a setting such a number is written in
decimal digits, with leading zeros and one leading `+` allowed and nothing else.
-/

set_option autoImplicit false

namespace BlobFs

/-- The first number that does not fit a 64-bit word. -/
def wordLimit : Nat := UInt64.size

namespace Text

/-- The value of a text of decimal digits, continuing from `value`. -/
def digitsValue? (value : Nat) : List Char → Option Nat
  | [] => some value
  | c :: rest =>
    if c.isDigit then digitsValue? (10 * value + (c.toNat - '0'.toNat)) rest else none

/-- A text without one leading `+`. -/
def dropPlus : List Char → List Char
  | '+' :: rest => rest
  | s => s

/-- The number below 2⁶⁴ that the text writes in decimal. -/
def word? (s : String) : Option Nat :=
  match dropPlus s.toList with
  | [] => none
  | digits => (digitsValue? 0 digits).filter (· < wordLimit)

end Text

end BlobFs

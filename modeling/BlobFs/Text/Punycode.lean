/-!
# Names in plain letters

Names of hosts are sent in ASCII.  A label with other characters is written by its ASCII characters,
a hyphen, and digits that say which characters to put in and where.

Each number says how many places to move on from the last insertion.  All places for one character
come before the places for the next one, so one number may also move on to a later character.  A
number is written with its least significant digit first, and the digit that ends it is recognised
by being below a threshold; the thresholds follow the size of the numbers seen so far (the bias).

* `Punycode.encode` writes a label, and `Punycode.decode?` reads one.
-/

set_option autoImplicit false

namespace BlobFs.Punycode

/-! ## Digits and thresholds -/

/-- The digit of a value below 36: letters first, then figures. -/
def digitOf (value : Nat) : Char :=
  if value < 26 then Char.ofNat ('a'.toNat + value) else Char.ofNat ('0'.toNat + (value - 26))

/-- The value of a digit. -/
def valueOf? (c : Char) : Option Nat :=
  if 'a' ≤ c ∧ c ≤ 'z' then some (c.toNat - 'a'.toNat)
  else if '0' ≤ c ∧ c ≤ '9' then some (c.toNat - '0'.toNat + 26)
  else none

/-- The value below which a digit at this position is the last one of its number. -/
def threshold (bias position : Nat) : Nat :=
  max 1 (min 26 (position - bias))

theorem threshold_pos (bias position : Nat) : 0 < threshold bias position := by
  unfold threshold
  omega

/-- The bias for numbers of about this size. -/
def biasFor (position size : Nat) : Nat :=
  if 455 < size then biasFor (position + 36) (size / 35)
  else position + 36 * size / (size + 38)
termination_by size
decreasing_by omega

/-- The bias after a number, by which the label has got so many characters. -/
def nextBias (number count : Nat) (isFirst : Bool) : Nat :=
  let size := if isFirst then number / 700 else number / 2
  biasFor 0 (size + size / count)

/-! ## Numbers -/

/-- The digits of a number from a position on. -/
def writeNumber (bias position number : Nat) : List Char :=
  let limit := threshold bias position
  if number < limit then [digitOf number]
  else
    digitOf (limit + (number - limit) % (36 - limit)) ::
      writeNumber bias (position + 36) ((number - limit) / (36 - limit))
termination_by number
decreasing_by
  have := threshold_pos bias position
  exact Nat.lt_of_le_of_lt (Nat.div_le_self _ _) (by omega)

/-- The number that digits write from a position on, and what follows it. -/
def readNumber? (bias : Nat) : Nat → Nat → Nat → List Char → Option (Nat × List Char)
  | _, _, _, [] => none
  | position, weight, number, c :: rest =>
    match valueOf? c with
    | none => none
    | some value =>
      let limit := threshold bias position
      if value < limit then some (number + value * weight, rest)
      else readNumber? bias (position + 36) (weight * (36 - limit)) (number + value * weight) rest

/-- A number takes up a digit at least. -/
theorem length_lt_of_readNumber? {bias position weight number n : Nat} {s rest : List Char}
    (h : readNumber? bias position weight number s = some (n, rest)) : rest.length < s.length := by
  induction s generalizing position weight number with
  | nil => simp [readNumber?] at h
  | cons c s ih =>
    rw [readNumber?] at h
    split at h
    · cases h
    · dsimp only at h
      split at h
      · simp only [Option.some.injEq, Prod.mk.injEq] at h
        simp [h.2]
      · have := ih h
        simp only [List.length_cons]
        omega

/-! ## Writing a label -/

/-- A label on its way: the digits so far, the places passed since the last insertion, the bias and
the number of characters that are in their places. -/
structure Writing where
  digits : List Char
  passed : Nat
  bias : Nat
  placed : Nat

/-- What a character of the label adds when `next` is being put in. -/
def Writing.step (plain next : Nat) (w : Writing) (c : Char) : Writing :=
  if c.toNat < next then { w with passed := w.passed + 1 }
  else if c.toNat = next then
    { digits := w.digits ++ writeNumber w.bias 36 w.passed
      passed := 0
      bias := nextBias w.passed (w.placed + 1) (w.placed == plain)
      placed := w.placed + 1 }
  else w

/-- Puts in one character after another, the last of which is given with its successor. -/
def Writing.all (label : List Char) (plain : Nat) : Nat → List Nat → Writing → Writing
  | _, [], w => w
  | start, next :: later, w =>
    let moved := { w with passed := w.passed + (next - start) * (w.placed + 1) }
    let w := label.foldl (Writing.step plain next) moved
    Writing.all label plain (next + 1) later { w with passed := w.passed + 1 }

/-- Whether `c` stands as it is. -/
def isPlain (c : Char) : Bool :=
  c.toNat < 0x80

/-- The characters to put in, each once and in ascending order. -/
def insertions (label : List Char) : List Nat :=
  (((label.filter (!isPlain ·)).map Char.toNat).mergeSort).eraseDups

/-- A label in ASCII. -/
def encode (label : List Char) : List Char :=
  let plain := label.filter isPlain
  let start : Writing := { digits := [], passed := 0, bias := 72, placed := plain.length }
  (if plain.isEmpty then [] else plain ++ ['-']) ++
    (Writing.all label plain.length 0x80 (insertions label) start).digits

/-! ## Reading a label -/

/-- Whether a number is the code point of a character. -/
def isCodePoint (n : Nat) : Bool :=
  n < 0xD800 || (0xDFFF < n && n < 0x110000)

/-- The label after all insertions that the digits describe, from a character and a place on. -/
def insertAll? (code place bias : Nat) (isFirst : Bool) (label digits : List Char) :
    Option (List Char) :=
  if digits.isEmpty then some label
  else match _h : readNumber? bias 36 1 0 digits with
    | none => none
    | some (number, rest) =>
      let count := label.length + 1
      let code := code + (place + number) / count
      let place := (place + number) % count
      if isCodePoint code then
        insertAll? code (place + 1) (nextBias number count isFirst) false
          (label.take place ++ Char.ofNat code :: label.drop place) rest
      else none
termination_by digits.length
decreasing_by exact length_lt_of_readNumber? ‹_›

/-- The ASCII characters and the digits of a written label. -/
def parts (text : List Char) : List Char × List Char :=
  let digits := (text.reverse.takeWhile (· != '-')).reverse
  (text.take (text.length - digits.length - 1), digits)

/-- The label that a text in ASCII writes. -/
def decode? (text : List Char) : Option (List Char) :=
  let (plain, digits) := parts text
  if text.all isPlain then insertAll? 0x80 0 72 true plain digits else none

end BlobFs.Punycode

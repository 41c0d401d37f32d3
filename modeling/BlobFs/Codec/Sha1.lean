import BlobFs.Bytes

/-!
# The SHA-1 digest

A message is filled up to whole blocks of 64 bytes: one bit that is set, bits that are not, and the
length of the message in bits as the last eight bytes.  A state of five words is carried through the
blocks; each block takes it through eighty rounds, one for each word of its schedule, and adds what
comes out to what went in.
-/

set_option autoImplicit false

namespace BlobFs.Sha1

/-- The state between rounds and between blocks. -/
structure State where
  a : UInt32
  b : UInt32
  c : UInt32
  d : UInt32
  e : UInt32
  deriving DecidableEq

/-- The state before the first block. -/
def State.start : State :=
  { a := 0x67452301, b := 0xEFCDAB89, c := 0x98BADCFE, d := 0x10325476, e := 0xC3D2E1F0 }

/-- Rotation to the left, for a count from 1 to 31. -/
def rotateLeft (word count : UInt32) : UInt32 :=
  (word <<< count) ||| (word >>> (32 - count))

/-- The bytes of a number, the highest first. -/
def bigEndian (count n : Nat) : Bytes :=
  (List.range count).map fun i ↦ UInt8.ofNat (n >>> (8 * (count - 1 - i)))

/-- A message filled up to whole blocks. -/
def padded (message : Bytes) : Bytes :=
  message ++ 0x80 :: List.replicate ((119 - message.length % 64) % 64) 0 ++
    bigEndian 8 (8 * message.length)

/-- The words of a block, the last one first. -/
def wordsOf : List UInt32 → Bytes → List UInt32
  | acc, a :: b :: c :: d :: rest =>
    wordsOf
      ((a.toUInt32 <<< 24 ||| b.toUInt32 <<< 16 ||| c.toUInt32 <<< 8 ||| d.toUInt32) :: acc) rest
  | acc, _ => acc

/-- The next word of a schedule that is given with its last word first. -/
def nextWord (schedule : List UInt32) : UInt32 :=
  let word (back : Nat) := (schedule[back - 1]?).getD 0
  rotateLeft (word 3 ^^^ word 8 ^^^ word 14 ^^^ word 16) 1

/-- A schedule with so many more words, the last one first. -/
def extend : Nat → List UInt32 → List UInt32
  | 0, schedule => schedule
  | n + 1, schedule => extend n (nextWord schedule :: schedule)

/-- The eighty words of a block's schedule. -/
def schedule (block : Bytes) : List UInt32 :=
  (extend 64 (wordsOf [] block)).reverse

/-- How a round mixes three words, and the constant it adds. -/
def mixing (round : Nat) (b c d : UInt32) : UInt32 × UInt32 :=
  if round < 20 then ((b &&& c) ||| (~~~b &&& d), 0x5A827999)
  else if round < 40 then (b ^^^ c ^^^ d, 0x6ED9EBA1)
  else if round < 60 then ((b &&& c) ||| (b &&& d) ||| (c &&& d), 0x8F1BBCDC)
  else (b ^^^ c ^^^ d, 0xCA62C1D6)

/-- One round with its word of the schedule. -/
def roundStep (s : State) (item : UInt32 × Nat) : State :=
  let (mixed, constant) := mixing item.2 s.b s.c s.d
  { a := rotateLeft s.a 5 + mixed + s.e + constant + item.1
    b := s.a
    c := rotateLeft s.b 30
    d := s.c
    e := s.d }

/-- One block. -/
def blockStep (s : State) (block : Bytes) : State :=
  let t := (schedule block).zipIdx.foldl roundStep s
  { a := s.a + t.a, b := s.b + t.b, c := s.c + t.c, d := s.d + t.d, e := s.e + t.e }

/-- The state after so many blocks. -/
def blocks : Nat → State → Bytes → State
  | 0, s, _ => s
  | n + 1, s, bytes => blocks n (blockStep s (bytes.take 64)) (bytes.drop 64)

/-- The twenty bytes of a message's digest. -/
def digest (message : Bytes) : Bytes :=
  let filled := padded message
  let s := blocks (filled.length / 64) .start filled
  [s.a, s.b, s.c, s.d, s.e].flatMap fun word ↦ bigEndian 4 word.toNat

end BlobFs.Sha1

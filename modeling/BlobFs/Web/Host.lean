import BlobFs.Text.Lower
import BlobFs.Text.Percent
import BlobFs.Text.Punycode
import BlobFs.Text.Quoted
import BlobFs.Text.Split

/-!
# Hosts of web addresses

The host of a web address is a name, four bytes (`127.0.0.1`) or eight words in brackets (`[::1]`).

* A name is percent-decoded, brought to lower case and must not hold a character that has a meaning
  in an address (`isForbidden`).  Full-width letters and dots count as the plain ones, and some
  invisible characters do not count at all.  Labels with characters beyond ASCII are written in
  ASCII.
* A name whose last label is a number must be an IPv4 address; its parts may be written in decimal,
  octal or hexadecimal, and the last part may stand for several bytes.
* Where a scheme has no rules for hosts, the host is taken as it stands (`WebHost.opaqueOf`).
-/

set_option autoImplicit false

namespace BlobFs

/-- Why a text is no web address. -/
inductive WebUrlProblem where
  | emptyHost
  | badName
  | badPort
  | badIpv4
  | badIpv6
  | badHostCharacter
  | relative
  deriving DecidableEq

/-- The problem in words. -/
def WebUrlProblem.describe : WebUrlProblem → String
  | .emptyHost => "empty host"
  | .badName => "invalid international domain name"
  | .badPort => "invalid port number"
  | .badIpv4 => "invalid IPv4 address"
  | .badIpv6 => "invalid IPv6 address"
  | .badHostCharacter => "invalid domain character"
  | .relative => "relative URL without a base"

/-- The host of a web address. -/
inductive WebHost where
  | name (text : String)
  | ipv4 (address : Nat)
  | ipv6 (words : List Nat)
  deriving DecidableEq

namespace WebHost

/-! ## Four bytes -/

/-- The number that digits of a base write; the empty text is zero. -/
def numberIn? (base : Nat) (digits : List Char) : Option Nat :=
  digits.foldl (fun acc c ↦
    match acc, Bytes.hexValue? c with
    | some n, some d => if d < base then some (n * base + d) else none
    | _, _ => none) (some 0)

/-- One part of an IPv4 address. -/
def ipv4Part? : List Char → Option Nat
  | [] => none
  | '0' :: 'x' :: digits => numberIn? 16 digits
  | '0' :: 'X' :: digits => numberIn? 16 digits
  | '0' :: d :: digits => numberIn? 8 (d :: digits)
  | digits => numberIn? 10 digits

/-- The parts of a name between its dots; a last dot says nothing. -/
def labels (text : List Char) : List (List Char) :=
  let all := Text.splitOn '.' text
  if all.getLast? = some [] then all.dropLast else all

/-- Whether a name has to be an IPv4 address. -/
def endsInNumber (text : List Char) : Bool :=
  match (labels text).getLast? with
  | none => false
  | some last =>
    (!last.isEmpty && last.all Char.isDigit) || (ipv4Part? last).isSome

/-- The address that the parts write, the last part standing for all bytes that are left. -/
def ipv4OfParts? (parts : List Nat) : Option Nat :=
  match parts.reverse with
  | [] => none
  | last :: before =>
    let count := before.length
    if 3 < count ∨ 1 <<< (8 * (4 - count)) ≤ last ∨ before.any (255 < ·) then none
    else
      let high := before.reverse.foldl (fun acc part ↦ acc * 256 + part) 0
      some (high <<< (8 * (4 - count)) + last)

/-- The address that a name writes. -/
def parseIpv4 (text : List Char) : Except WebUrlProblem WebHost :=
  match (labels text).mapM ipv4Part? with
  | none => .error .badIpv4
  | some parts =>
    match ipv4OfParts? parts with
    | some address => .ok (.ipv4 address)
    | none => .error .badIpv4

/-! ## Eight words -/

/-- A word of one to four hexadecimal digits. -/
def ipv6Word? (digits : List Char) : Option Nat :=
  if digits.isEmpty ∨ 4 < digits.length then none else numberIn? 16 digits

/-- A byte in decimal, without leading zeros. -/
def decimalByte? (digits : List Char) : Option Nat :=
  if digits.isEmpty ∨ 3 < digits.length ∨ (1 < digits.length ∧ digits.head? = some '0') then none
  else (numberIn? 10 digits).filter (· < 256)

/-- The two words that four decimal bytes write. -/
def embeddedIpv4? (text : List Char) : Option (List Nat) :=
  match (Text.splitOn '.' text).mapM decimalByte? with
  | some [a, b, c, d] => some [a * 256 + b, c * 256 + d]
  | _ => none

/-- The words of a run between colons, the last of which may be four decimal bytes. -/
def ipv6Run? : List (List Char) → Option (List Nat)
  | [] => some []
  | [last] =>
    if last.contains '.' then embeddedIpv4? last else (ipv6Word? last).map fun word ↦ [word]
  | first :: rest =>
    match ipv6Word? first, ipv6Run? rest with
    | some word, some words => some (word :: words)
    | _, _ => none

/-- The words of a text between colons, of which there may be none at all. -/
def ipv6Words? (text : List Char) : Option (List Nat) :=
  if text.isEmpty then some [] else ipv6Run? (Text.splitOn ':' text)

/-- The address that a text without its brackets writes; one `::` stands for all missing words. -/
def parseIpv6 (text : List Char) : Except WebUrlProblem WebHost :=
  match Text.cutAt [':', ':'] text with
  | none =>
    match ipv6Words? text with
    | some words => if words.length = 8 then .ok (.ipv6 words) else .error .badIpv6
    | none => .error .badIpv6
  | some (before, after) =>
    match before.contains '.', ipv6Words? before, ipv6Words? after with
    | false, some high, some low =>
      if high.length + low.length < 8 then
        .ok (.ipv6 (high ++ List.replicate (8 - high.length - low.length) 0 ++ low))
      else .error .badIpv6
    | _, _, _ => .error .badIpv6

/-- An address in brackets. -/
def parseBracketed (text : List Char) : Except WebUrlProblem WebHost :=
  if text.getLast? = some ']' then parseIpv6 (text.drop 1).dropLast else .error .badIpv6

/-! ## Names -/

/-- Whether a name must not hold `c`. -/
def isForbidden (c : Char) : Bool :=
  c.toNat ≤ 0x20 || c.toNat == 0x7F || "%#/:<>?@[\\]^|".toList.contains c

/-- Whether `c` does not count in a name. -/
def isIgnored (c : Char) : Bool :=
  let n := c.toNat
  n == 0xAD || n == 0x200B || n == 0x2060 || n == 0xFEFF || (0xFE00 ≤ n && n ≤ 0xFE0F)

/-- Whether `c` is not allowed in a name though it is no ASCII character. -/
def isUnfit (c : Char) : Bool :=
  let n := c.toNat
  (0x80 ≤ n && n ≤ 0xA0) || (0x2000 ≤ n && n ≤ 0x200F) || (0x2028 ≤ n && n ≤ 0x202F) ||
    n == 0x205F || n == 0x3000 || (0xE000 ≤ n && n ≤ 0xF8FF) || (0xFFF0 ≤ n && n ≤ 0xFFFF) ||
    0xE0000 ≤ n

/-- The character that counts in place of `c`. -/
def plainChar (c : Char) : Char :=
  let n := c.toNat
  if n = 0x3002 ∨ n = 0xFF61 then '.'
  else if 0xFF01 ≤ n ∧ n ≤ 0xFF5E then Text.lowerChar (Char.ofNat (n - 0xFEE0))
  else Text.lowerChar c

/-- Whether a label begins with something that could stand by itself. -/
def beginsWell (label : List Char) : Bool :=
  label.head?.all fun c ↦ !Text.isSpelled c

/-- Whether a label can be part of a name.  One that says that it is written in ASCII has to be the
writing of a label that needs it. -/
def isFitLabel : List Char → Bool
  | 'x' :: 'n' :: '-' :: '-' :: written =>
    match Punycode.decode? written with
    | none => false
    | some label =>
      label.any (!Punycode.isPlain ·) && beginsWell label &&
        label.all fun c ↦ plainChar c == c && !(isIgnored c || isForbidden c || isUnfit c)
  | label => beginsWell label

/-- A label in ASCII. -/
def asciiLabel (label : List Char) : List Char :=
  if label.all Punycode.isPlain then label else "xn--".toList ++ Punycode.encode label

/-- A host name in its plain form, in ASCII. -/
def parseName (bytes : Bytes) : Except WebUrlProblem (List Char) :=
  match Bytes.text? bytes with
  | none => .error .badName
  | some text =>
    let plain := (text.toList.filter fun c ↦ !isIgnored c).map plainChar
    let parts := Text.splitOn '.' plain
    if plain.any (fun c ↦ isForbidden c || isUnfit c) ∨ ¬parts.all isFitLabel then .error .badName
    else if plain.isEmpty then .error .emptyHost
    else .ok (Text.joinWith '.' (parts.map asciiLabel))

/-- The host that a text names under the usual rules. -/
def parse (text : List Char) : Except WebUrlProblem WebHost :=
  if text.head? = some '[' then parseBracketed text
  else match parseName (Text.percentDecode text) with
    | .error e => .error e
    | .ok plain => if endsInNumber plain then parseIpv4 plain else .ok (.name (String.ofList plain))

/-- Whether a host without rules must not hold `c`. -/
def isForbiddenInOpaque (c : Char) : Bool :=
  c.toNat == 0 || "\t\n\r #/:<>?@[\\]^|".toList.contains c

/-- The host that a text names where the scheme has no rules for hosts. -/
def opaqueOf (text : List Char) : Except WebUrlProblem WebHost :=
  if text.head? = some '[' then parseBracketed text
  else if text.any isForbiddenInOpaque then .error .badHostCharacter
  else .ok (.name (String.ofList
    (Text.percentEncode (fun c ↦ 0x20 ≤ c.toNat && c.toNat < 0x7F) text)))

/-! ## Writing -/

/-- The bytes of an address with dots between them. -/
def ipv4Text (address : Nat) : String :=
  ".".intercalate ([3, 2, 1, 0].map fun i ↦ toString (address >>> (8 * i) % 256))

/-- How many zeros stand at the start. -/
def leadingZeros (words : List Nat) : Nat :=
  (words.takeWhile (· == 0)).length

/-- The longest run of zeros, the first of the longest, as its start and its length. -/
def longestZeros : Nat → List Nat → Nat × Nat
  | start, [] => (start, 0)
  | start, word :: rest =>
    let here := leadingZeros (word :: rest)
    let later := longestZeros (start + 1) rest
    if later.2 ≤ here then (start, here) else later

/-- Words with colons between them. -/
def wordsText (words : List Nat) : String :=
  ":".intercalate (words.map fun word ↦ String.ofList (Nat.toDigits 16 word))

/-- The words of an address, the longest run of two zeros or more left out. -/
def ipv6Text (words : List Nat) : String :=
  let (start, count) := longestZeros 0 words
  if count < 2 then wordsText words
  else wordsText (words.take start) ++ "::" ++ wordsText (words.drop (start + count))

/-- The host as it stands in an address. -/
def render : WebHost → String
  | .name text => text
  | .ipv4 address => ipv4Text address
  | .ipv6 words => "[" ++ ipv6Text words ++ "]"

end WebHost

end BlobFs

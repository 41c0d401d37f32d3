import BlobFs.Bytes
import BlobFs.Json.Basic

/-!
# Reading JSON

A recursive-descent reader on a list of characters.  Every step answers what is left of the list,
and the whole list must be one value with nothing but blanks around it.

What came as bytes may have gaps between its characters, where bytes are the form of none.  A gap
can stand only within quotes, and makes what is quoted no text; that is an error no sooner than
somebody asks for it.

Each call for a value, an item or a member takes at least every other time a character off the list,
so the depth of the calls is bounded by twice its length; that is the number `read?` starts with.
-/

set_option autoImplicit false

namespace BlobFs.JsonValue

/-- The blanks that may stand between the parts of a value. -/
def isJsonBlank (c : Char) : Bool :=
  c == ' ' || c == '\t' || c == '\n' || c == '\r'

/-- Characters to read, and gaps between them. -/
abbrev Source := List (Option Char)

/-- What follows the blanks at the start. -/
def skipBlanks (s : Source) : Source :=
  s.dropWhile fun c ↦ c.any isJsonBlank

/-! ## Texts -/

/-- The number of four hexadecimal digits. -/
def hexWord? (a b c d : Char) : Option Nat :=
  match Bytes.hexValue? a, Bytes.hexValue? b, Bytes.hexValue? c, Bytes.hexValue? d with
  | some a, some b, some c, some d => some (((a * 16 + b) * 16 + c) * 16 + d)
  | _, _, _, _ => none

/-- The character of an escape of one letter. -/
def shortEscape? : Char → Option Char
  | '"' => some '"'
  | '\\' => some '\\'
  | '/' => some '/'
  | 'b' => some (Char.ofNat 0x08)
  | 'f' => some (Char.ofNat 0x0C)
  | 'n' => some '\n'
  | 'r' => some '\r'
  | 't' => some '\t'
  | _ => none

/-- The code units of a text after its opening quote, and what follows the closing one.  A character
that is not escaped is one unit, and a gap stays one. -/
def readUnits : Source → Option (List (Option Nat) × Source)
  | some '"' :: rest => some ([], rest)
  | some '\\' :: some 'u' :: some a :: some b :: some c :: some d :: rest =>
    match hexWord? a b c d, readUnits rest with
    | some unit, some (units, rest) => some (some unit :: units, rest)
    | _, _ => none
  | some '\\' :: some c :: rest =>
    match shortEscape? c, readUnits rest with
    | some c, some (units, rest) => some (some c.toNat :: units, rest)
    | _, _ => none
  | some '\\' :: _ => none
  | c :: rest =>
    if c.any fun c ↦ c.toNat < 0x20 then none
    else match readUnits rest with
      | some (units, rest) => some (c.map Char.toNat :: units, rest)
      | none => none
  | [] => none

/-- Whether a unit is the first half of a surrogate pair. -/
def isLeading (unit : Nat) : Bool :=
  0xD800 ≤ unit && unit < 0xDC00

/-- Whether a unit is the second half of a surrogate pair. -/
def isTrailing (unit : Nat) : Bool :=
  0xDC00 ≤ unit && unit < 0xE000

/-- The characters of code units, if every half of a surrogate pair has its other half. -/
def charsOfUnits? : List Nat → Option (List Char)
  | [] => some []
  | [unit] =>
    if isLeading unit || isTrailing unit then none else some [Char.ofNat unit]
  | unit :: next :: rest =>
    if isLeading unit then
      if isTrailing next then
        (charsOfUnits? rest).map
          (Char.ofNat (0x10000 + (unit - 0xD800) * 0x400 + (next - 0xDC00)) :: ·)
      else none
    else if isTrailing unit then none
    else (charsOfUnits? (next :: rest)).map (Char.ofNat unit :: ·)

/-- A text after its opening quote, and what follows it. -/
def readText (s : Source) : Option (Option String × Source) :=
  (readUnits s).map fun (units, rest) ↦
    (((units.mapM id).bind charsOfUnits?).map String.ofList, rest)

/-! ## Numbers -/

/-- The digits at the start, of which there must be one, and what follows them. -/
def readDigits (s : Source) : Option (List Char × Source) :=
  let isDigit (c : Option Char) : Bool := c.any Char.isDigit
  match (s.takeWhile isDigit).filterMap id with
  | [] => none
  | digits => some (digits, s.dropWhile isDigit)

/-- What follows a fraction, and whether there is one. -/
def readFraction : Source → Option (Bool × Source)
  | some '.' :: rest => (readDigits rest).map fun (_, rest) ↦ (true, rest)
  | rest => some (false, rest)

/-- What follows the sign of an exponent. -/
def skipSign : Source → Source
  | some '+' :: rest => rest
  | some '-' :: rest => rest
  | rest => rest

/-- What follows an exponent, and whether there is one. -/
def readExponent : Source → Option (Bool × Source)
  | some 'e' :: rest => (readDigits (skipSign rest)).map fun (_, rest) ↦ (true, rest)
  | some 'E' :: rest => (readDigits (skipSign rest)).map fun (_, rest) ↦ (true, rest)
  | rest => some (false, rest)

/-- The number that digits write. -/
def digitsNumber (digits : List Char) : Nat :=
  digits.foldl (fun value c ↦ 10 * value + (c.toNat - '0'.toNat)) 0

/-- A number without a sign, and what follows it.  A leading zero stands alone. -/
def readUnsigned (s : Source) : Option (Option Nat × Source) :=
  match readDigits s with
  | none => none
  | some (digits, rest) =>
    if digits.head? = some '0' ∧ digits ≠ ['0'] then none
    else match readFraction rest with
      | none => none
      | some (hasFraction, rest) =>
        match readExponent rest with
        | none => none
        | some (hasExponent, rest) =>
          some (if hasFraction || hasExponent then none else some (digitsNumber digits), rest)

/-- A number, and what follows it. -/
def readNumber : Source → Option (JsonValue × Source)
  | some '-' :: rest => (readUnsigned rest).map fun (_, rest) ↦ (.number none, rest)
  | s => (readUnsigned s).map fun (value, rest) ↦ (.number value, rest)

/-! ## Values -/

mutual

/-- A value at the start, and what follows it. -/
def readValue : Nat → Source → Option (JsonValue × Source)
  | 0, _ => none
  | depth + 1, s =>
    match s with
    | some '"' :: rest => (readText rest).map fun (value, rest) ↦ (.text value, rest)
    | some '[' :: rest =>
      match skipBlanks rest with
      | some ']' :: rest => some (.array [], rest)
      | rest => (readItems depth rest).map fun (items, rest) ↦ (.array items, rest)
    | some '\x7b' :: rest =>
      match skipBlanks rest with
      | some '\x7d' :: rest => some (.object [], rest)
      | rest => (readMembers depth rest).map fun (members, rest) ↦ (.object members, rest)
    | some 'n' :: some 'u' :: some 'l' :: some 'l' :: rest => some (.null, rest)
    | some 't' :: some 'r' :: some 'u' :: some 'e' :: rest => some (.boolean true, rest)
    | some 'f' :: some 'a' :: some 'l' :: some 's' :: some 'e' :: rest =>
      some (.boolean false, rest)
    | s => readNumber s

/-- The items of an array from one of them on, and what follows the array. -/
def readItems : Nat → Source → Option (List JsonValue × Source)
  | 0, _ => none
  | depth + 1, s =>
    match readValue depth s with
    | none => none
    | some (item, rest) =>
      match skipBlanks rest with
      | some ',' :: rest =>
        (readItems depth (skipBlanks rest)).map fun (items, rest) ↦ (item :: items, rest)
      | some ']' :: rest => some ([item], rest)
      | _ => none

/-- The members of an object from one of them on, and what follows the object. -/
def readMembers : Nat → Source → Option (List (Option String × JsonValue) × Source)
  | 0, _ => none
  | depth + 1, s =>
    match s with
    | some '"' :: rest =>
      match readText rest with
      | none => none
      | some (name, rest) =>
        match skipBlanks rest with
        | some ':' :: rest =>
          match readValue depth (skipBlanks rest) with
          | none => none
          | some (value, rest) =>
            match skipBlanks rest with
            | some ',' :: rest =>
              (readMembers depth (skipBlanks rest)).map fun (members, rest) ↦
                ((name, value) :: members, rest)
            | some '\x7d' :: rest => some ([(name, value)], rest)
            | _ => none
        | _ => none
    | _ => none

end

/-- The value that all the characters write. -/
def read? (s : Source) : Option JsonValue :=
  match readValue (2 * s.length + 2) (skipBlanks s) with
  | some (value, rest) => if (skipBlanks rest).isEmpty then some value else none
  | none => none

/-- The value that a text writes. -/
def parse? (text : String) : Option JsonValue :=
  read? (text.toList.map some)

/-- The value that bytes write. -/
def ofBytes? (bytes : Bytes) : Option JsonValue :=
  read? bytes.characters

end BlobFs.JsonValue

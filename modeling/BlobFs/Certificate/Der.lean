import BlobFs.Bytes

/-!
# DER items

Keys and certificates are trees of tagged items.  An item begins with a byte for its class and tag,
a length follows, then so many bytes of contents.  Of the tree only what tells one kind of key from
another is kept (`DerItem`); everything else is checked and forgotten.

A run of bytes is read as one item after another (`DerItem.readAll?`); there must be at least one,
inside a sequence or a set too.  The bytes of the contents are fewer than those of the item, which
bounds the depth of the reading.
-/

set_option autoImplicit false

namespace BlobFs

/-- An item of a DER text, as far as it matters here. -/
inductive DerItem where
  | sequence (items : List DerItem)
  | integer (bytes : Bytes)
  | bitString (bytes : Bytes)
  | octetString (bytes : Bytes)
  | objectId (arcs : List Nat)
  | other

namespace DerItem

/-! ## Headers -/

/-- A number in groups of seven bits, the last of which has no high bit, and what follows it. -/
def readGroups : Nat → Bytes → Option (Nat × Bytes)
  | _, [] => none
  | value, b :: rest =>
    let value := value * 128 + b.toNat % 128
    if b.toNat < 128 then some (value, rest) else readGroups value rest

/-- What a header says of its item. -/
structure Header where
  /-- Whether the tag is one of the standard's own. -/
  universal : Bool
  constructed : Bool
  tag : Nat
  length : Nat

/-- A length, and what follows it.  One that takes more than eight bytes is refused. -/
def readLength : Bytes → Option (Nat × Bytes)
  | [] => none
  | b :: rest =>
    if b.toNat < 128 then some (b.toNat, rest)
    else
      let count := b.toNat - 128
      if count > 8 ∨ rest.length < count then none
      else some ((rest.take count).foldl (fun n b ↦ n * 256 + b.toNat) 0, rest.drop count)

/-- A header, and what follows it. -/
def readHeader : Bytes → Option (Header × Bytes)
  | [] => none
  | b :: rest =>
    let tagged := if b.toNat % 32 = 31 then readGroups 0 rest else some (b.toNat % 32, rest)
    match tagged with
    | none => none
    | some (tag, rest) =>
      match readLength rest with
      | none => none
      | some (length, rest) =>
        some ({ universal := b.toNat < 64, constructed := b.toNat / 32 % 2 = 1, tag, length }, rest)

/-! ## Contents without items of their own -/

/-- The numbers after the first two of an object identifier. -/
def readArcs : Nat → Bytes → Option (List Nat)
  | 0, _ => some []
  | _ + 1, [] => some []
  | depth + 1, bytes =>
    match readGroups 0 bytes with
    | none => none
    | some (arc, rest) => (readArcs depth rest).map (arc :: ·)

/-- An object identifier; its first byte stands for two numbers. -/
def readObjectId : Bytes → Option DerItem
  | [] => none
  | b :: rest =>
    let first := min (b.toNat / 40) 2
    (readArcs rest.length rest).map fun arcs ↦ .objectId (first :: (b.toNat - 40 * first) :: arcs)

/-- A bit string; its first byte counts the unused bits at the end. -/
def readBitString : Bytes → Option DerItem
  | [] => some (.bitString [])
  | unused :: rest => if 8 * rest.length < unused.toNat then none else some (.bitString rest)

/-- Whether the byte may stand in a printable string. -/
def isPrintable (b : UInt8) : Bool :=
  let c := Char.ofNat b.toNat
  c.isAlphanum || " '()+,-./:=?".toList.contains c

/-- Whether the bytes are a time of so many digits, written with a `Z`. -/
def isTime (digits : Nat) (bytes : Bytes) : Bool :=
  bytes.length == digits + 1 && (bytes.take digits).all (fun b ↦ (Char.ofNat b.toNat).isDigit) &&
    bytes.getLast? == some 0x5A

/-- Items with contents that are forgotten once they are checked. -/
def readForgotten (tag : Nat) (bytes : Bytes) : Option DerItem :=
  let sound := match tag with
    | 0x01 => bytes.length == 1
    | 0x0C | 0x14 => (Bytes.text? bytes).isSome
    | 0x13 => bytes.all isPrintable
    | 0x17 => isTime 12 bytes
    | 0x18 => isTime 14 bytes
    | _ => true
  if sound then some .other else none

/-! ## Items -/

/-- The items in a run of bytes, of which there is at least one, down to a depth. -/
def readItems : Nat → Bytes → Option (List DerItem)
  | 0, _ => none
  | depth + 1, bytes =>
    match readHeader bytes with
    | none => none
    | some (header, rest) =>
      if rest.length < header.length then none
      else
        let contents := rest.take header.length
        let item : Option DerItem :=
          if header.universal then
            match header.tag with
            | 0x02 => some (.integer contents)
            | 0x03 => readBitString contents
            | 0x04 => some (.octetString contents)
            | 0x06 => readObjectId contents
            | 0x10 => (readItems depth contents).map .sequence
            | 0x11 => (readItems depth contents).map fun _ ↦ .other
            | tag => readForgotten tag contents
          else some .other
        match item, rest.drop header.length with
        | none, _ => none
        | some item, [] => some [item]
        | some item, rest => (readItems depth rest).map (item :: ·)

/-- The items that a run of bytes is. -/
def readAll? (bytes : Bytes) : Option (List DerItem) :=
  readItems bytes.length bytes

/-! ## Looking into items -/

mutual

/-- The first thing of interest in an item or, for a sequence, in its items. -/
def findIn {α : Type} (interest : DerItem → Option α) : DerItem → Option α
  | .sequence items => findFirst interest items
  | item => interest item

/-- The first thing of interest in some items. -/
def findFirst {α : Type} (interest : DerItem → Option α) : List DerItem → Option α
  | [] => none
  | item :: rest =>
    match findIn interest item with
    | some a => some a
    | none => findFirst interest rest

end

end DerItem

end BlobFs

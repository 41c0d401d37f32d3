import BlobFs.Entries

/-!
# JSON values

A settings file, a registered secret and the answer of a token endpoint are JSON texts.  This file
holds the values that such a text stands for and what is asked of them.

* A number is kept only when it is written as a natural number, since no other one means anything
  here.
* A text is kept only when it is a text: an escape can name half of a surrogate pair, and what came
  as bytes can hold some that are no character.  Such a text does no harm as long as nobody asks for
  it.
* A record (`record?`) is an object whose members are looked up by name, or an array that holds them
  in their order.  Members with other names are passed over; a member that is there twice, or an
  element too many, makes it no record.
-/

set_option autoImplicit false

namespace BlobFs

/-- A JSON value. -/
inductive JsonValue where
  | null
  | boolean (value : Bool)
  /-- A number, kept if it is written as a natural number. -/
  | number (value : Option Nat)
  /-- A text, kept if all of it are characters. -/
  | text (value : Option String)
  | array (items : List JsonValue)
  | object (members : List (Option String × JsonValue))

namespace JsonValue

/-- The text that the value is. -/
def text? : JsonValue → Option String
  | .text value => value
  | _ => none

/-- The natural number that the value is. -/
def number? : JsonValue → Option Nat
  | .number value => value
  | _ => none

/-- The texts that the value is an array of. -/
def texts? : JsonValue → Option (List String)
  | .array items => items.mapM text?
  | _ => none

/-- One member of an object of texts. -/
def textMember? (member : Option String × JsonValue) : Option (String × String) :=
  match member.1, member.2.text? with
  | some name, some value => some (name, value)
  | _, _ => none

/-- The named texts that the value is an object of; of members with one name the last one counts. -/
def entries? : JsonValue → Option Entries
  | .object members => (members.mapM textMember?).map .ofList
  | _ => none

/-! ## Records -/

/-- The members of an object, if every name is a text. -/
def named? (members : List (Option String × JsonValue)) : Option (List (String × JsonValue)) :=
  members.mapM fun member ↦ member.1.map fun name ↦ (name, member.2)

/-- The member with this name: there may be none, but not two. -/
def member? (members : List (String × JsonValue)) (name : String) : Option (Option JsonValue) :=
  match members.filter fun member ↦ member.1 == name with
  | [] => some none
  | [member] => some (some member.2)
  | _ => none

/-- The first items, one for each name, as far as there are any. -/
def positional? : List String → List JsonValue → Option (List (Option JsonValue))
  | [], [] => some []
  | [], _ :: _ => none
  | _ :: names, [] => (positional? names []).map (none :: ·)
  | _ :: names, item :: items => (positional? names items).map (some item :: ·)

/-- The members with these names, in the order of the names. -/
def record? (names : List String) : JsonValue → Option (List (Option JsonValue))
  | .object members => (named? members).bind fun members ↦ names.mapM (member? members)
  | .array items => positional? names items
  | _ => none

/-- What a member means, or `fallback` if it is missing. -/
def memberOr {α : Type} (read : JsonValue → Option α) (fallback : α) :
    Option JsonValue → Option α
  | none => some fallback
  | some value => read value

end JsonValue

end BlobFs

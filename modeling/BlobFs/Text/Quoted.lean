import BlobFs.Text.CaseTable
import BlobFs.Text.PrintableTable

/-!
# Quoted text

Descriptions of values (the `debug` texts) show a text between double quotes.  Quotes, backslashes
and the usual controls have short escapes; any other character that would not be seen on its own is
written by its code point, `\u{…}` in lower-case hexadecimal.

A file path is quoted in the same way, except that an apostrophe in it is escaped too.
-/

set_option autoImplicit false

namespace BlobFs.Text

private def hexText (n : Nat) : List Char :=
  Nat.toDigits 16 n

/-- Whether `c` is shown by its code point. -/
def isSpelled (c : Char) : Bool :=
  if c.toNat < 0x7F then c.toNat < 0x20
  else c.toNat == 0x7F || inRuns c.toNat 0 spelledRuns

/-- One character of a quoted text. -/
def quoteChar (c : Char) : List Char :=
  if c = '"' then ['\\', '"']
  else if c = '\\' then ['\\', '\\']
  else if c = '\n' then ['\\', 'n']
  else if c = '\r' then ['\\', 'r']
  else if c = '\t' then ['\\', 't']
  else if c.toNat = 0 then ['\\', '0']
  else if isSpelled c then ['\\', 'u', Char.ofNat 0x7B] ++ hexText c.toNat ++ [Char.ofNat 0x7D]
  else [c]

/-- The text between double quotes, with escapes. -/
def quote (s : String) : String :=
  String.ofList ('"' :: s.toList.flatMap quoteChar ++ ['"'])

/-- A file path between double quotes, with escapes. -/
def quotePath (s : String) : String :=
  String.ofList
    ('"' :: s.toList.flatMap (fun c ↦ if c.toNat = 0x27 then ['\\', c] else quoteChar c) ++ ['"'])

/-- A value that may be missing, described. -/
def describeOption {α : Type} (describe : α → String) : Option α → String
  | none => "None"
  | some a => "Some(" ++ describe a ++ ")"

theorem describeOption_congr {α β : Type} {describe : α → String} {describe' : β → String}
    {a : Option α} {b : Option β} (h : Option.Rel (fun a b ↦ describe a = describe' b) a b) :
    describeOption describe a = describeOption describe' b := by
  cases h with
  | some h => rw [describeOption, describeOption, h]
  | none => rfl

/-- Items between square brackets. -/
def describeList {α : Type} (describe : α → String) (items : List α) : String :=
  "[" ++ ", ".intercalate (items.map describe) ++ "]"

/-- A named value with named fields. -/
def describeRecord (name : String) (fields : List (String × String)) : String :=
  name ++ " \x7b " ++
    ", ".intercalate (fields.map fun (field, text) ↦ field ++ ": " ++ text) ++ " \x7d"

end BlobFs.Text

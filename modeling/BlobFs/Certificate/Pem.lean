import BlobFs.Bytes
import BlobFs.Codec.Base64
import BlobFs.Text.Blank
import BlobFs.Text.Split

/-!
# Sections of a PEM text

A PEM text holds sections, each between a BEGIN and an END marker with the same label, and anything
at all around them.  `Pem.section?` takes the first section of a label as it stands, markers
included.

The contents of a section are read in two ways.

* `Pem.looseContents` takes the base64 of a certificate whichever way it is laid out: blanks do not
  count, nor does any line that begins like a marker.
* `Pem.strictContents?` takes the contents of a key: lines of base64 that may end in blanks, and
  before them, set off by an empty line, headers that each have a `:`.
-/

set_option autoImplicit false

namespace BlobFs.Pem

/-- The dashes at both ends of a marker. -/
def dashes : List Char := "-----".toList

/-- The marker before a section. -/
def beginMarker (label : String) : List Char :=
  dashes ++ "BEGIN ".toList ++ label.toList ++ dashes

/-- The marker after a section. -/
def endMarker (label : String) : List Char :=
  dashes ++ "END ".toList ++ label.toList ++ dashes

/-- The first section with this label, with its markers. -/
def section? (label : String) (pem : List Char) : Option (List Char) :=
  match Text.cutAt (beginMarker label) pem with
  | none => none
  | some (_, after) =>
    (Text.cutAt (endMarker label) (beginMarker label ++ after)).map fun (before, _) ↦
      before ++ endMarker label

/-- The base64 of a section of any layout. -/
def looseContents (sectionText : List Char) : List Char :=
  ((Text.splitOn '\n' sectionText).filter fun line ↦ !dashes.isPrefixOf line).flatMap
    fun line ↦ line.filter fun c ↦ !Text.isBlank c

/-! ## Strict contents -/

/-- A line without the carriage return at its end. -/
def dropReturn (line : List Char) : List Char :=
  if line.getLast? = some '\r' then line.dropLast else line

/-- The lines of a text; what follows the last line end counts if it is not empty. -/
def lines (text : List Char) : List (List Char) :=
  let all := (Text.splitOn '\n' text).map dropReturn
  if all.getLast? = some [] then all.dropLast else all

/-- A line without the blanks at its end. -/
def dropEndBlanks (line : List Char) : List Char :=
  (line.reverse.dropWhile Text.isBlank).reverse

/-- Whether `c` is skipped after a marker. -/
def isPadding (c : Char) : Bool :=
  c == ' ' || c == '\t' || c == '\n' || c == '\r'

/-- The headers and the data of a section's body. -/
def splitBody (body : List Char) : List Char × List Char :=
  match Text.cutAt ['\n', '\n'] body with
  | some (headers, data) => (headers, data)
  | none =>
    match Text.cutAt ['\r', '\n', '\r', '\n'] body with
    | some (headers, data) => (headers, data)
    | none => ([], body)

/-- The label and the body of a section whose two markers agree. -/
def labelAndBody? (sectionText : List Char) : Option (List Char × List Char) := do
  let (_, rest) ← Text.cutAt (dashes ++ "BEGIN ".toList) sectionText
  let (label, rest) ← Text.cutAt dashes rest
  let (body, rest) ← Text.cutAt (dashes ++ "END ".toList) (rest.dropWhile isPadding)
  let (endLabel, _) ← Text.cutAt dashes rest
  if label = endLabel ∧ label ≠ [] then some (label, body) else none

/-- The bytes of a section that keeps to the strict layout. -/
def strictContents? (sectionText : List Char) : Option Bytes := do
  let (_, body) ← labelAndBody? sectionText
  let (headers, data) := splitBody body
  if (lines headers).all (·.contains ':') then
    (Base64.decode ((lines data).flatMap dropEndBlanks)).toOption
  else none

end BlobFs.Pem

import BlobFs.Text.Percent
import BlobFs.Text.Split

/-!
# Object paths

A store keeps its objects under paths: texts of non-empty segments with a `/` between neighbours.
Two ways lead from a name to a path.

* A blob's name is taken as it stands (`ObjectPath.parse`).  One leading and one trailing `/` are
  dropped; after that no segment may be empty, `.` or `..`, or hold an ASCII control character.
* A container's name becomes a path in which nothing is special any more (`ObjectPath.encode`):
  empty segments are left out and the bytes that a path could trip over are percent-encoded.

Paths are ordered as texts, character by character.
-/

set_option autoImplicit false

namespace BlobFs

/-- Where a store keeps an object; the empty text is the root. -/
structure ObjectPath where
  text : String
  deriving DecidableEq

/-- Why a name is no object path. -/
inductive PathProblem where
  | emptySegment
  | illegal (part segment : String)
  deriving DecidableEq

/-- The problem with `name` in words. -/
def PathProblem.describe (name : String) : PathProblem → String
  | .emptySegment => s!"Path \"{name}\" contained empty path segment"
  | .illegal part segment =>
    s!"Error parsing Path \"{name}\": Encountered illegal character sequence \"{part}\" whilst parsing path segment \"{segment}\""

namespace ObjectPath

/-- The path above all others. -/
def root : ObjectPath := ⟨""⟩

/-! ## From a blob's name -/

/-- Whether `c` is an ASCII control character. -/
def isControl (c : Char) : Bool :=
  c.toNat < 0x20 || c.toNat == 0x7F

/-- What is wrong with one segment, if anything is. -/
def segmentProblem? (segment : List Char) : Option PathProblem :=
  if segment = [] then some .emptySegment
  else if segment = ['.'] ∨ segment = ['.', '.'] then
    some (.illegal (String.ofList segment) (String.ofList segment))
  else (segment.find? isControl).map fun c ↦ .illegal (String.ofList [c]) (String.ofList segment)

/-- A text without one leading `/`. -/
def dropLeadingSlash : List Char → List Char
  | '/' :: rest => rest
  | s => s

/-- A text without one trailing `/`. -/
def dropTrailingSlash (s : List Char) : List Char :=
  if s.getLast? = some '/' then s.dropLast else s

/-- The path of a blob's name, or what is wrong with its first bad segment. -/
def parse (name : String) : Except PathProblem ObjectPath :=
  let stripped := dropLeadingSlash name.toList
  if stripped = [] then .ok root
  else
    let body := dropTrailingSlash stripped
    match (Text.splitOn '/' body).findSome? segmentProblem? with
    | some problem => .error problem
    | none => .ok ⟨String.ofList body⟩

/-! ## From a container's name -/

/-- The printable ASCII characters that a path segment must not hold as they stand. -/
def reserved : List Char :=
  ['\\', Char.ofNat 0x7B, '^', Char.ofNat 0x7D, '%', Char.ofNat 0x60, ']', '"', '>', '[', '~', '<',
    '#', '|', '*', '?']

/-- Whether `c` stands as it is in a container's path. -/
def stands (c : Char) : Bool :=
  c.toNat < 0x80 && !isControl c && !reserved.contains c

/-- One segment of a container's name as a path segment. -/
def encodeSegment (segment : List Char) : List Char :=
  if segment = ['.'] then "%2E".toList
  else if segment = ['.', '.'] then "%2E%2E".toList
  else Text.percentEncode stands segment

/-- The path that stands for a container. -/
def encode (container : String) : ObjectPath :=
  ⟨String.ofList (Text.joinWith '/'
    (((Text.splitOn '/' container.toList).filter (· ≠ [])).map encodeSegment))⟩

/-! ## Paths below one another -/

/-- The path `below` under `base`. -/
def append (base below : ObjectPath) : ObjectPath :=
  if base.text.isEmpty then below
  else if below.text.isEmpty then base
  else ⟨base.text ++ "/" ++ below.text⟩

/-- What is left of the path below `base`, if it lies strictly below it. -/
def below? (base p : ObjectPath) : Option ObjectPath :=
  if base.text.isEmpty then
    if p.text.isEmpty then none else some p
  else (Text.dropStart? p.text (base.text ++ "/")).map ObjectPath.mk

/-- Whether `p` comes before `q` in the order of a store. -/
def precedes (p q : ObjectPath) : Bool :=
  decide (p.text < q.text)

end ObjectPath

end BlobFs

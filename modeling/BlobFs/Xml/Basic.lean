import BlobFs.Text.Split

/-!
# XML trees

A listing comes as XML.  Of an element only its name and what it holds is kept: no attribute means
anything here, and comments and instructions are passed over.

Every call for content or an element takes at least every other time a character off the text, so
twice its length bounds the depth of the calls; that is the number `parse?` starts with.
-/

set_option autoImplicit false

namespace BlobFs

/-- A part of an XML text. -/
inductive XmlNode where
  | text (content : String)
  | element (name : String) (children : List XmlNode)

namespace XmlNode

/-! ## Characters -/

/-- Whether `c` is white space of XML. -/
def isSpace (c : Char) : Bool :=
  c == ' ' || c == '\t' || c == '\n' || c == '\r'

/-- Whether `c` may stand in a name. -/
def isNameChar (c : Char) : Bool :=
  !isSpace c && !"<>/=\"'&".toList.contains c

/-- The character that a reference to a number names. -/
def numbered? (base : Nat) (digits : List Char) : Option Char :=
  let digit? (c : Char) : Option Nat :=
    if c.isDigit then some (c.toNat - '0'.toNat)
    else if 'a' ≤ c.toLower ∧ c.toLower ≤ 'f' then some (c.toLower.toNat - 'a'.toNat + 10)
    else none
  let value := digits.foldl (fun acc c ↦
    match acc, digit? c with
    | some n, some d => if d < base then some (n * base + d) else none
    | _, _ => none) (if digits.isEmpty then none else some 0)
  value.bind fun n ↦ if n.isValidChar ∧ n ≠ 0 then some (Char.ofNat n) else none

/-- The character that a reference names. -/
def referenced? (name : List Char) : Option Char :=
  match name with
  | '#' :: 'x' :: digits => numbered? 16 digits
  | '#' :: digits => numbered? 10 digits
  | name =>
    match String.ofList name with
    | "lt" => some '<'
    | "gt" => some '>'
    | "amp" => some '&'
    | "quot" => some '"'
    | "apos" => some (Char.ofNat 0x27)
    | _ => none

/-- A text with its references carried out.  `open?` is the name of a reference that has begun. -/
def unescape : Option (List Char) → List Char → Option (List Char)
  | none, [] => some []
  | some _, [] => none
  | none, '&' :: rest => unescape (some []) rest
  | none, c :: rest => (unescape none rest).map (c :: ·)
  | some name, ';' :: rest =>
    match referenced? name.reverse with
    | some c => (unescape none rest).map (c :: ·)
    | none => none
  | some name, c :: rest => unescape (some (c :: name)) rest

/-! ## Tags -/

/-- What follows the `>` of a tag, and whether a `/` stands before it.  Quoted values are passed
over. -/
def skipTag : Option Char → Bool → List Char → Option (Bool × List Char)
  | _, _, [] => none
  | some quote, _, c :: rest => skipTag (if c = quote then none else some quote) false rest
  | none, slash, c :: rest =>
    if c = '>' then some (slash, rest)
    else if c = '"' ∨ c = Char.ofNat 0x27 then skipTag (some c) false rest
    else skipTag none (c == '/') rest

/-- What follows the first place where `marker` stands. -/
def skipPast (marker : String) (s : List Char) : Option (List Char) :=
  (Text.cutAt marker.toList s).map Prod.snd

/-! ## Content -/

mutual

/-- What an element holds up to its end tag, and what follows that tag; outside of elements, up to
the end of the text. -/
def readContent : Nat → Option (List Char) → List Char → Option (List XmlNode × List Char)
  | 0, _, _ => none
  | depth + 1, inside, s =>
    match s with
    | [] => if inside.isNone then some ([], []) else none
    | '<' :: '!' :: '-' :: '-' :: rest =>
      (skipPast "-->" rest).bind (readContent depth inside)
    | '<' :: '!' :: '[' :: 'C' :: 'D' :: 'A' :: 'T' :: 'A' :: '[' :: rest =>
      match Text.cutAt "]]>".toList rest with
      | none => none
      | some (data, rest) =>
        (readContent depth inside rest).map fun (nodes, rest) ↦
          (.text (String.ofList data) :: nodes, rest)
    | '<' :: '?' :: rest => (skipPast "?>" rest).bind (readContent depth inside)
    | '<' :: '!' :: rest => (skipPast ">" rest).bind (readContent depth inside)
    | '<' :: '/' :: rest =>
      match inside, skipTag none false rest with
      | some name, some (_, after) =>
        if rest.takeWhile isNameChar = name then some ([], after) else none
      | _, _ => none
    | '<' :: rest =>
      match readElement depth rest with
      | none => none
      | some (node, rest) =>
        (readContent depth inside rest).map fun (nodes, rest) ↦ (node :: nodes, rest)
    | s =>
      match unescape none (s.takeWhile (· != '<')) with
      | none => none
      | some plain =>
        (readContent depth inside (s.dropWhile (· != '<'))).map fun (nodes, rest) ↦
          (.text (String.ofList plain) :: nodes, rest)

/-- An element after its `<`, and what follows it. -/
def readElement : Nat → List Char → Option (XmlNode × List Char)
  | 0, _ => none
  | depth + 1, s =>
    let name := s.takeWhile isNameChar
    if name.isEmpty then none
    else match skipTag none false (s.dropWhile isNameChar) with
      | none => none
      | some (true, rest) => some (.element (String.ofList name) [], rest)
      | some (false, rest) =>
        (readContent depth (some name) rest).map fun (children, rest) ↦
          (.element (String.ofList name) children, rest)

end

/-- The text without a byte-order mark. -/
def dropMark : List Char → List Char
  | c :: rest => if c.toNat = 0xFEFF then rest else c :: rest
  | [] => []

/-- The first element of an XML text. -/
def parse? (text : String) : Option XmlNode :=
  let s := dropMark text.toList
  match readContent (2 * s.length + 2) none s with
  | none => none
  | some (nodes, _) =>
    nodes.find? fun node ↦
      match node with
      | .element .. => true
      | .text _ => false

/-! ## Looking into an element -/

/-- What an element holds. -/
def children : XmlNode → List XmlNode
  | .element _ children => children
  | .text _ => []

/-- Whether the node is an element of this name. -/
def isNamed (name : String) : XmlNode → Bool
  | .element other _ => other == name
  | .text _ => false

/-- The elements of a name directly in an element. -/
def all (node : XmlNode) (name : String) : List XmlNode :=
  node.children.filter (isNamed name)

/-- The first element of a name directly in an element. -/
def child? (node : XmlNode) (name : String) : Option XmlNode :=
  node.children.find? (isNamed name)

/-- The text directly in an element. -/
def content (node : XmlNode) : String :=
  String.join (node.children.map fun part ↦
    match part with
    | .text content => content
    | .element .. => "")

/-- The text of the first element of a name. -/
def childText? (node : XmlNode) (name : String) : Option String :=
  (node.child? name).map content

end XmlNode

end BlobFs

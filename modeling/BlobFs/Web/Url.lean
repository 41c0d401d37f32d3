import BlobFs.Web.Host

/-!
# Web addresses

The addresses of accounts, proxies and token endpoints, read as browsers read them.

* Blanks and controls around the address do not count, nor do tabs and line ends anywhere in it.
* Five schemes are special: they need a host, take `\` for `/`, any number of slashes before the
  host and know a default port.  `file` is special too, but its host may be missing and takes no
  port.
* What stands before the last `@` of the authority is a user and, after the first `:`, a password.
* The segments `.` and `..` of a path are carried out, and characters that may not stand where they
  are are percent-encoded.

The user and the password are kept in their encoded form; the empty text says that there is none.
-/

set_option autoImplicit false

namespace BlobFs

/-- A web address, taken apart. -/
structure WebUrl where
  scheme : String
  userName : String
  password : String
  host : Option WebHost
  /-- The port, unless it is the scheme's own. -/
  port : Option Nat
  path : String
  query : Option String
  fragment : Option String
  deriving DecidableEq

namespace WebUrl

/-! ## Schemes -/

/-- How the rest of an address is read. -/
inductive SchemeKind where
  | file
  | special
  | other
  deriving DecidableEq

/-- The kind of a scheme. -/
def kindOf (scheme : String) : SchemeKind :=
  if scheme = "file" then .file
  else if ["http", "https", "ws", "wss", "ftp"].contains scheme then .special
  else .other

/-- The port that a scheme has when none is given. -/
def defaultPort? : String → Option Nat
  | "http" | "ws" => some 80
  | "https" | "wss" => some 443
  | "ftp" => some 21
  | _ => none

/-- The address as it is read: without blanks and controls around it, and without tabs and line
ends. -/
def significant (text : List Char) : List Char :=
  let outer (c : Char) : Bool := c.toNat ≤ 0x20
  (((text.dropWhile outer).reverse.dropWhile outer).reverse).filter
    fun c ↦ !(c == '\t' || c == '\n' || c == '\r')

/-- Whether `c` may stand in a scheme after its first letter. -/
def isSchemeChar (c : Char) : Bool :=
  c.isAlphanum || c == '+' || c == '-' || c == '.'

/-- The scheme in lower case and what follows its colon. -/
def splitScheme? (s : List Char) : Option (String × List Char) :=
  match Text.cutFirst ':' s with
  | some (c :: before, after) =>
    if c.isAlpha ∧ before.all isSchemeChar then
      some (String.ofList ((c :: before).map Char.toLower), after)
    else none
  | _ => none

/-! ## What may stand where -/

private def isPrintableExcept (excluded : String) (c : Char) : Bool :=
  0x20 < c.toNat && c.toNat < 0x7F && !excluded.toList.contains c

/-- Whether `c` stands as it is in a user or a password. -/
def standsInUser (c : Char) : Bool :=
  isPrintableExcept "\"<>\x60#?\x7b\x7d/:;=@[\\]^|" c

/-- Whether `c` stands as it is in a path. -/
def standsInPath (c : Char) : Bool :=
  isPrintableExcept "\"<>\x60#?^\x7b\x7d" c

/-- Whether `c` stands as it is in a path segment that is added to an address. -/
def standsInSegment (c : Char) : Bool :=
  isPrintableExcept "\"<>\x60#?^\x7b\x7d/%\\" c

/-- Whether `c` stands as it is in a query. -/
def standsInQuery (kind : SchemeKind) (c : Char) : Bool :=
  isPrintableExcept (if kind = .other then "\"#<>" else "\"#<>\x27") c

/-- Whether `c` stands as it is in a fragment. -/
def standsInFragment (c : Char) : Bool :=
  isPrintableExcept "\"<>\x60" c

/-! ## The authority -/

/-- Whether `c` ends the authority. -/
def endsAuthority (kind : SchemeKind) (c : Char) : Bool :=
  c == '/' || c == '?' || c == '#' || (c == '\\' && kind != .other)

/-- The user and the password that a text names. -/
def userAndPassword (text : List Char) : String × String :=
  let encoded (s : List Char) : String := String.ofList (Text.percentEncode standsInUser s)
  match Text.cutFirst ':' text with
  | some (user, password) => (encoded user, encoded password)
  | none => (encoded text, "")

/-- The host and the text of the port, from the first colon outside of brackets on. -/
def splitPort : Bool → List Char → List Char × Option (List Char)
  | _, [] => ([], none)
  | inside, c :: rest =>
    if c = ':' ∧ inside = false then ([], some rest)
    else
      let inside := if c = '[' then true else if c = ']' then false else inside
      let (host, port) := splitPort inside rest
      (c :: host, port)

/-- The port that digits write; no digits write none, and a `\` ends them. -/
def parsePort (scheme : String) (text : List Char) : Except WebUrlProblem (Option Nat) :=
  match WebHost.numberIn? 10 (text.takeWhile (· != '\\')) with
  | none => .error .badPort
  | some n =>
    if 65535 < n then .error .badPort
    else .ok (if (text.takeWhile (· != '\\')).isEmpty ∨ defaultPort? scheme = some n then none
      else some n)

/-- A host in an address of this kind; the empty one is none. -/
def parseHost (kind : SchemeKind) (text : List Char) : Except WebUrlProblem (Option WebHost) :=
  if text.isEmpty then if kind = .special then .error .emptyHost else .ok none
  else match kind with
    | .other => (WebHost.opaqueOf text).map some
    | _ => (WebHost.parse text).map some

/-- The user, the password, the host and the port of an authority. -/
def parseAuthority (scheme : String) (text : List Char) :
    Except WebUrlProblem (String × String × Option WebHost × Option Nat) := do
  let kind := kindOf scheme
  let (credentials, hostAndPort) := match Text.cutLast '@' text with
    | some (before, after) => (before, after)
    | none => ([], text)
  if hostAndPort.isEmpty ∧ text ≠ [] then .error .emptyHost
  let (hostText, portText) := splitPort false hostAndPort
  let host ← parseHost kind hostText
  if host.isNone ∧ portText.isSome then .error .emptyHost
  let port ← match portText with
    | some digits => parsePort scheme digits
    | none => .ok none
  let (user, password) := userAndPassword credentials
  if host.isNone ∧ (user, password) ≠ ("", "") then .error .emptyHost
  return (user, password, host, port)

/-! ## Path, query and fragment -/

/-- Whether a segment stands for the segment itself. -/
def isSingleDot (segment : List Char) : Bool :=
  [".", "%2e"].contains (String.ofList (segment.map Char.toLower))

/-- Whether a segment stands for the one above. -/
def isDoubleDot (segment : List Char) : Bool :=
  ["..", ".%2e", "%2e.", "%2e%2e"].contains (String.ofList (segment.map Char.toLower))

/-- Whether a segment names a drive, with `:` or `|` after its letter. -/
def isDrive : List Char → Bool
  | [letter, mark] => letter.isAlpha && (mark == ':' || mark == '|')
  | _ => false

/-- The segments, in reverse, without the last one; the drive of a file is never left. -/
def parentOf (kind : SchemeKind) (before : List (List Char)) : List (List Char) :=
  match before with
  | [only] => if kind = .file ∧ isDrive only then before else []
  | _ => before.drop 1

/-- The segments, in reverse, after one more. -/
def pushSegment (kind : SchemeKind) (before : List (List Char)) (segment : List Char)
    (isLast : Bool) : List (List Char) :=
  if isDoubleDot segment then
    if isLast then [] :: parentOf kind before else parentOf kind before
  else if isSingleDot segment then
    if isLast then [] :: before else before
  else if kind = .file ∧ before = [] ∧ isDrive segment then [segment.take 1 ++ [':']]
  else Text.percentEncode standsInPath segment :: before

/-- The segments, in reverse, after all of these. -/
def pushSegments (kind : SchemeKind) (before : List (List Char)) :
    List (List Char) → List (List Char)
  | [] => before
  | segment :: rest =>
    pushSegments kind (pushSegment kind before segment rest.isEmpty) rest

/-- The path that a text with its first slash left out writes. -/
def pathOf (kind : SchemeKind) (text : List Char) : String :=
  let text := if kind = .other then text else text.map fun c ↦ if c = '\\' then '/' else c
  String.ofList ('/' :: Text.joinWith '/' (pushSegments kind [] (Text.splitOn '/' text)).reverse)

/-- A text before its first `?` or `#`, the query and the fragment. -/
def splitTail (kind : SchemeKind) (s : List Char) : List Char × Option String × Option String :=
  let (before, fragment) := match Text.cutFirst '#' s with
    | some (before, after) =>
      (before, some (String.ofList (Text.percentEncode standsInFragment after)))
    | none => (s, none)
  match Text.cutFirst '?' before with
  | some (path, after) =>
    (path, some (String.ofList (Text.percentEncode (standsInQuery kind) after)), fragment)
  | none => (before, none, fragment)

/-- The path after an authority; a special address has one in any case. -/
def pathAfterAuthority (kind : SchemeKind) (text : List Char) : String :=
  match text with
  | [] => if kind = .other then "" else "/"
  | _ :: rest => pathOf kind rest

/-! ## Whole addresses -/

/-- Whether `c` is a slash for an address of this kind. -/
def isSlash (kind : SchemeKind) (c : Char) : Bool :=
  c == '/' || (c == '\\' && kind != .other)

/-- Reads an address from its authority on. -/
def parseWithAuthority (scheme : String) (s : List Char) : Except WebUrlProblem WebUrl := do
  let kind := kindOf scheme
  let authority := s.takeWhile fun c ↦ !endsAuthority kind c
  let (pathText, query, fragment) := splitTail kind (s.dropWhile fun c ↦ !endsAuthority kind c)
  let (userName, password, host, port) ← parseAuthority scheme authority
  return { scheme, userName, password, host, port, path := pathAfterAuthority kind pathText, query,
           fragment }

/-- Reads an address that has no authority. -/
def parseWithoutAuthority (scheme : String) (s : List Char) : WebUrl :=
  let kind := kindOf scheme
  let (pathText, query, fragment) := splitTail kind s
  let path :=
    if (pathText.head?.map (isSlash kind)).getD false then pathOf kind (pathText.drop 1)
    else if kind = .file then pathOf kind pathText
    else String.ofList (Text.percentEncode (fun c ↦ 0x20 ≤ c.toNat && c.toNat < 0x7F) pathText)
  { scheme, userName := "", password := "", host := none, port := none, path, query, fragment }

/-- Reads a `file` address after its two slashes; the host `localhost` is none, and a drive is no
host but the first segment of the path. -/
def parseFileHost (s : List Char) : Except WebUrlProblem WebUrl := do
  let hostText := s.takeWhile fun c ↦ !endsAuthority .file c
  if isDrive hostText then return parseWithoutAuthority "file" ('/' :: s)
  let (pathText, query, fragment) := splitTail .file (s.dropWhile fun c ↦ !endsAuthority .file c)
  let host ← parseHost .file hostText
  return { scheme := "file", userName := "", password := "", port := none
           host := if host = some (.name "localhost") then none else host
           path := pathAfterAuthority .file pathText, query, fragment }

/-- Reads a web address. -/
def parse (text : String) : Except WebUrlProblem WebUrl :=
  match splitScheme? (significant text.toList) with
  | none => .error .relative
  | some (scheme, rest) =>
    match kindOf scheme, rest with
    | .special, rest => parseWithAuthority scheme (rest.dropWhile (isSlash .special))
    | .other, '/' :: '/' :: rest => parseWithAuthority scheme rest
    | .file, a :: b :: rest =>
      if isSlash .file a ∧ isSlash .file b then parseFileHost rest
      else .ok (parseWithoutAuthority scheme (a :: b :: rest))
    | _, rest => .ok (parseWithoutAuthority scheme rest)

/-- Whether the address names a host. -/
def hasHost (u : WebUrl) : Bool :=
  u.host.isSome

/-! ## Changing an address -/

/-- Whether the address can carry a user and a password. -/
def canCarryUser (u : WebUrl) : Bool :=
  u.hasHost && u.scheme != "file"

/-- The address with a user. -/
def withUser? (u : WebUrl) (user : String) : Option WebUrl :=
  if u.canCarryUser then
    some { u with userName := String.ofList (Text.percentEncode standsInUser user.toList) }
  else none

/-- The address with a password. -/
def withPassword? (u : WebUrl) (password : String) : Option WebUrl :=
  if u.canCarryUser then
    some { u with password := String.ofList (Text.percentEncode standsInUser password.toList) }
  else none

/-- The path with one more segment, in which nothing is special. -/
def appendSegment (path segment : String) : String :=
  if segment = "." ∨ segment = ".." then path
  else (if path = "/" then path else path ++ "/") ++
    String.ofList (Text.percentEncode standsInSegment segment.toList)

/-- The address with more segments at the end of its path. -/
def extend (u : WebUrl) (segments : List String) : WebUrl :=
  { u with path := segments.foldl appendSegment u.path }

/-! ## Writing -/

/-- The host and the port. -/
def hostText (u : WebUrl) : String :=
  (u.host.map WebHost.render).getD "" ++ (u.port.map fun port ↦ ":" ++ toString port).getD ""

/-- The address of the resource, without user, password, query and fragment. -/
def location (u : WebUrl) : String :=
  u.scheme ++ "://" ++ u.hostText ++ u.path

/-- What is asked for at the host: the path and the query. -/
def target (u : WebUrl) : String :=
  u.path ++ (u.query.map fun query ↦ "?" ++ query).getD ""

/-- The address without user and password, which no request carries in its address.  A path that
begins with two slashes is set apart from a host. -/
def render (u : WebUrl) : String :=
  let authority :=
    if u.hasHost then "//" ++ u.hostText
    else if u.scheme = "file" then "//"
    else if Text.startsWith u.path "//" then "/."
    else ""
  u.scheme ++ ":" ++ authority ++ u.target ++
    (u.fragment.map fun fragment ↦ "#" ++ fragment).getD ""

end WebUrl

end BlobFs

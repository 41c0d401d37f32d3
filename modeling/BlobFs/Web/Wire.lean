import BlobFs.Text.Blank
import BlobFs.Text.Word
import BlobFs.Web.Message

/-!
# Messages on the wire

Requests and responses as bytes, in the manner of HTTP/1.1: a first line, a line for each header, an
empty line and the body.  A request asks for the connection to be closed after it, so a response
ends at the latest where the connection does.

* `HttpRequest.wire` writes a request.  One that goes through a proxy names the whole address, any
  other only what is asked for at the host.
* `HttpResponse.ofWire?` reads a response.  Its body is written in chunks, or has as many bytes as a
  header says, or goes on to the end; the response to a `HEAD` request has none.

Neither encryption nor signing is dealt with here: `HttpRequest.obstacle?` says which requests need
them.
-/

set_option autoImplicit false

namespace BlobFs

namespace WebUrl

/-- The port to connect to. -/
def connectionPort (u : WebUrl) : Nat :=
  (u.port <|> defaultPort? u.scheme).getD 80

/-- The name or the address to connect to. -/
def connectionHost (u : WebUrl) : String :=
  match u.host with
  | some (.ipv6 words) => WebHost.ipv6Text words
  | some host => host.render
  | none => ""

end WebUrl

namespace HttpRequest

/-! ## Requests -/

/-- The version of the service's interface that requests are made for. -/
def interfaceVersion : String := "2023-11-03"

/-- What the connection is made to: the proxy, or else the host itself. -/
def peer (r : HttpRequest) : WebUrl :=
  r.proxy.getD r.url

/-- Why a request cannot be sent as it stands, if it cannot. -/
def obstacle? (r : HttpRequest) : Option String :=
  if r.url.scheme ≠ "http" ∨ r.peer.scheme ≠ "http" then
    some "encrypted connections are not supported"
  else match r.authorization with
    | some (.sharedKey account _) => some s!"requests to {account} cannot be signed with its key"
    | _ => none

/-- The headers of a request. -/
def headers (r : HttpRequest) : List (String × String) :=
  [("host", r.url.hostText), ("x-ms-version", interfaceVersion), ("connection", "close")] ++
    (match r.authorization with
      | some (.bearer token) => [("authorization", "Bearer " ++ token)]
      | _ => []) ++
    (match r.proxy.bind WebUrl.proxyAuthorization with
      | some value => [("proxy-authorization", value)]
      | none => []) ++
    match r.range with
    | some (start, stop) => [("range", s!"bytes={start}-{stop - 1}")]
    | none => []

/-- What the first line names. -/
def target (r : HttpRequest) : String :=
  if r.proxy.isSome then r.url.scheme ++ "://" ++ r.url.hostText ++ r.url.target else r.url.target

/-- A request as it is sent. -/
def wire (r : HttpRequest) : Bytes :=
  let lines := s!"{r.method} {r.target} HTTP/1.1" :: r.headers.map fun (name, value) ↦
    name ++ ": " ++ value
  Bytes.ofText (String.join ((lines ++ [""]).map (· ++ "\r\n")))

end HttpRequest

namespace HttpResponse

/-! ## Responses -/

/-- The end of a line. -/
def lineEnd : Bytes := [0x0D, 0x0A]

/-- The number that hexadecimal digits write, and nothing for no digits. -/
def chunkSize? (line : Bytes) : Option Nat :=
  match Bytes.text? (line.takeWhile (· != 0x3B)) with
  | none => none
  | some text =>
    let digits := (Text.trim text).toList
    if digits.isEmpty then none else WebHost.numberIn? 16 digits

/-- The data of chunk after chunk, up to the empty one. -/
def unchunk? (bytes : Bytes) : Option Bytes :=
  match _h : Text.cutAt lineEnd bytes with
  | none => none
  | some (line, rest) =>
    match chunkSize? line with
    | none => none
    | some 0 => some []
    | some size =>
      if (rest.drop size).take 2 = lineEnd then
        (unchunk? (rest.drop (size + 2))).map (rest.take size ++ ·)
      else none
termination_by bytes.length
decreasing_by
  have := congrArg List.length (Text.eq_append_of_cutAt ‹_›)
  simp only [List.length_append, List.length_drop, lineEnd, List.length_cons] at this ⊢
  omega

/-- The status that a first line gives. -/
def statusOf? (line : String) : Option Nat :=
  match Text.pieces ' ' line with
  | version :: status :: _ => if Text.startsWith version "HTTP/1." then Text.word? status else none
  | _ => none

/-- A header as a line gives it. -/
def headerOf? (line : String) : Option (String × String) :=
  (Text.cut? ':' line).map fun (name, value) ↦ (name, Text.trim value)

/-- The body of a response to a request with this method, from what follows the headers. -/
def bodyOf? (method : String) (head : HttpResponse) (rest : Bytes) : Option Bytes :=
  if method = "HEAD" ∨ head.status = 204 ∨ head.status = 304 then some []
  else if (head.header? "transfer-encoding").any (Text.eqIgnoringCase "chunked") then unchunk? rest
  else match head.header? "content-length" with
    | none => some rest
    | some length =>
      match Text.word? length with
      | some length => if rest.length < length then none else some (rest.take length)
      | none => none

/-- The response to a request with this method, from all that was received. -/
def ofWire? (method : String) (received : Bytes) : Option HttpResponse := do
  let (head, rest) ← Text.cutAt (lineEnd ++ lineEnd) received
  let lines := (Text.pieces '\n' (← Bytes.text? head)).map (Text.dropTrailing '\r')
  let status ← statusOf? (lines.headD "")
  let headers ← (lines.drop 1).mapM headerOf?
  let head : HttpResponse := { status, headers, body := [] }
  return { head with body := ← bodyOf? method head rest }

end HttpResponse

end BlobFs

import BlobFs.Codec.Base64
import BlobFs.Web.Url

/-!
# Requests and responses

What goes to a server and what comes back, as far as this library looks at it.  A request says where
it goes, through which proxy and what proves its right; dates, signatures and connections are left
to whatever carries it.
-/

set_option autoImplicit false

namespace BlobFs

/-- What proves the right to make a request. -/
inductive Authorization where
  /-- A signature made with the key of an account. -/
  | sharedKey (account : String) (key : Bytes)
  | bearer (token : String)
  deriving DecidableEq

/-- A request without a body. -/
structure HttpRequest where
  method : String
  url : WebUrl
  /-- The bytes that are asked for, as the first and the one after the last. -/
  range : Option (Nat × Nat)
  authorization : Option Authorization
  proxy : Option WebUrl
  deriving DecidableEq

/-- What came back. -/
structure HttpResponse where
  status : Nat
  headers : List (String × String)
  body : Bytes
  deriving DecidableEq

namespace WebUrl

/-- The address with more pairs in its query. -/
def withPairs (u : WebUrl) (pairs : List (String × String)) : WebUrl :=
  if pairs.isEmpty then u
  else
    let added := Text.formText pairs
    { u with query := some ((u.query.map (· ++ "&" ++ added)).getD added) }

/-- The pairs of the query as they stand. -/
def rawPairs (u : WebUrl) : List String :=
  match u.query with
  | none => []
  | some query => (Text.pieces '&' query).filter (· ≠ "")

/-- Whether `c` may stand in the host of a request; a host may hold a few more. -/
def standsInRequestHost (c : Char) : Bool :=
  !"\"\x60\x7b\x7d".toList.contains c

/-- How many bytes the address of a request may have. -/
def maxRequestLength : Nat := 65534

/-- Whether requests can be sent to the address: over HTTP, to a host, and both can be written in a
request. -/
def takesRequests (u : WebUrl) : Bool :=
  u.hasHost && (u.scheme == "http" || u.scheme == "https") &&
    u.hostText.toList.all standsInRequestHost && u.render.utf8ByteSize ≤ maxRequestLength

/-- What a proxy is sent to sign in to it, if its address names a user or a password. -/
def proxyAuthorization (proxy : WebUrl) : Option String :=
  if proxy.userName.isEmpty ∧ proxy.password.isEmpty then none
  else some ("Basic " ++ String.ofList (Base64.encode
    (Text.percentDecode proxy.userName.toList ++ [0x3A] ++
      Text.percentDecode proxy.password.toList)))

end WebUrl

namespace HttpResponse

/-- Whether the server did what it was asked. -/
def isSuccess (response : HttpResponse) : Bool :=
  200 ≤ response.status && response.status < 300

/-- The body as a text, if it is one. -/
def text? (response : HttpResponse) : Option String :=
  Bytes.text? response.body

/-- The body as it is shown in the description of a failure. -/
def shownText (response : HttpResponse) : String :=
  Bytes.shownText response.body

/-- The value of a header; its name is compared without regard to ASCII case. -/
def header? (response : HttpResponse) (name : String) : Option String :=
  (response.headers.find? fun header ↦ Text.eqIgnoringCase header.1 name).map Prod.snd

/-- The usual phrases of status codes. -/
def phrases : List (Nat × String) :=
  [(100, "Continue"), (101, "Switching Protocols"), (102, "Processing"), (103, "Early Hints"),
    (200, "OK"), (201, "Created"), (202, "Accepted"), (203, "Non Authoritative Information"),
    (204, "No Content"), (205, "Reset Content"), (206, "Partial Content"), (207, "Multi-Status"),
    (208, "Already Reported"), (226, "IM Used"),
    (300, "Multiple Choices"), (301, "Moved Permanently"), (302, "Found"), (303, "See Other"),
    (304, "Not Modified"), (305, "Use Proxy"), (307, "Temporary Redirect"),
    (308, "Permanent Redirect"),
    (400, "Bad Request"), (401, "Unauthorized"), (402, "Payment Required"), (403, "Forbidden"),
    (404, "Not Found"), (405, "Method Not Allowed"), (406, "Not Acceptable"),
    (407, "Proxy Authentication Required"), (408, "Request Timeout"), (409, "Conflict"),
    (410, "Gone"), (411, "Length Required"), (412, "Precondition Failed"),
    (413, "Payload Too Large"), (414, "URI Too Long"), (415, "Unsupported Media Type"),
    (416, "Range Not Satisfiable"), (417, "Expectation Failed"), (418, "I'm a teapot"),
    (421, "Misdirected Request"), (422, "Unprocessable Entity"), (423, "Locked"),
    (424, "Failed Dependency"), (425, "Too Early"), (426, "Upgrade Required"),
    (428, "Precondition Required"), (429, "Too Many Requests"),
    (431, "Request Header Fields Too Large"), (451, "Unavailable For Legal Reasons"),
    (500, "Internal Server Error"), (501, "Not Implemented"), (502, "Bad Gateway"),
    (503, "Service Unavailable"), (504, "Gateway Timeout"), (505, "HTTP Version Not Supported"),
    (506, "Variant Also Negotiates"), (507, "Insufficient Storage"), (508, "Loop Detected"),
    (510, "Not Extended"), (511, "Network Authentication Required")]

/-- A status with its phrase. -/
def statusText (status : Nat) : String :=
  toString status ++ " " ++ (phrases.lookup status).getD "<unknown status code>"

end HttpResponse

end BlobFs

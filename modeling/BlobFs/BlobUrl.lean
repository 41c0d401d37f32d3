import BlobFs.Text.Split

/-!
# Blob URLs

A blob is named by a URL of one of two shapes:

* `az://<container>/<path>`
* `az://<account>.<endpoint>/<container>/<path>`

with `azure://` accepted wherever `az://` is.  A `.` before the first `/` selects the second shape,
so a container named directly after the scheme holds no `.`.  The account and the endpoint come as
a pair (`Authority`): a URL names both or neither, and either may be empty.  The path is everything
after the container's `/`, whatever characters it has.

`BlobUrl.parse` and `BlobUrl.render` are inverse to each other on the URLs of these shapes.
-/

set_option autoImplicit false

namespace BlobFs

/-- The two spellings of the scheme. -/
inductive Scheme where
  | azure
  | az
  deriving DecidableEq

/-- The scheme as it stands at the start of a URL. -/
def Scheme.text : Scheme → String
  | .azure => "azure://"
  | .az => "az://"

/-- The account and the endpoint that a URL names together. -/
structure Authority where
  account : String
  endpoint : String
  deriving DecidableEq

/-- A blob URL, taken apart. -/
structure BlobUrl where
  scheme : Scheme
  authority : Option Authority
  container : String
  /-- The blob's name within the container, without a leading `/` of its own. -/
  path : String
  deriving DecidableEq

/-- Why a text is not a blob URL. -/
inductive UrlProblem where
  | unknownScheme
  | noSlashAfterHost
  | noSlashAfterContainer
  | emptyContainer
  deriving DecidableEq

/-- The problem with `url` in words. -/
def UrlProblem.describe (url : String) : UrlProblem → String
  | .unknownScheme => s!"URL needs to start with azure:// or az://, got '{url}'"
  | .noSlashAfterHost => s!"URL needs to contain a '/' after the host: {url}"
  | .noSlashAfterContainer => s!"URL needs to contain a '/' after the container: {url}"
  | .emptyContainer => s!"URL has an empty container: {url}"

namespace BlobUrl

/-- The service endpoint meant when nothing names one. -/
def defaultEndpoint : String := "blob.core.windows.net"

/-! ## Reading -/

/-- The scheme at the start of a URL and what follows it. -/
def splitScheme? (url : String) : Option (Scheme × String) :=
  match Text.dropStart? url Scheme.azure.text with
  | some rest => some (.azure, rest)
  | none => (Text.dropStart? url Scheme.az.text).map fun rest ↦ (.az, rest)

/-- The URL with these parts, unless the container is empty. -/
def withContainer (scheme : Scheme) (authority : Option Authority)
    (container path : String) : Except UrlProblem BlobUrl :=
  if container.isEmpty then .error .emptyContainer
  else .ok { scheme, authority, container, path }

/-- Takes a URL apart after its scheme. -/
def parseAfterScheme (scheme : Scheme) (rest : String) : Except UrlProblem BlobUrl :=
  match Text.cut? '/' rest with
  | none => .error .noSlashAfterHost
  | some (host, after) =>
    match Text.cut? '.' host with
    | none => withContainer scheme none host after
    | some (account, endpoint) =>
      match Text.cut? '/' after with
      | none => .error .noSlashAfterContainer
      | some (container, path) => withContainer scheme (some { account, endpoint }) container path

/-- Takes a blob URL apart. -/
def parse (url : String) : Except UrlProblem BlobUrl :=
  match splitScheme? url with
  | none => .error .unknownScheme
  | some (scheme, rest) => parseAfterScheme scheme rest

/-- Whether the text begins with one of the schemes. -/
def hasScheme (url : String) : Bool :=
  Text.startsWith url Scheme.azure.text || Text.startsWith url Scheme.az.text

/-! ## Writing -/

/-- Everything before the path. -/
def containerUrl (u : BlobUrl) : String :=
  match u.authority with
  | some authority =>
    u.scheme.text ++ authority.account ++ "." ++ authority.endpoint ++ "/" ++ u.container ++ "/"
  | none => u.scheme.text ++ u.container ++ "/"

/-- The URL of the blob `name` in the same container. -/
def urlFor (u : BlobUrl) (name : String) : String :=
  u.containerUrl ++ name

/-- The URL as a text. -/
def render (u : BlobUrl) : String :=
  u.urlFor u.path

/-! ## Parts with a default -/

/-- The account that the URL names, empty if it names none. -/
def account (u : BlobUrl) : String :=
  (u.authority.map Authority.account).getD ""

/-- The endpoint that the URL names, empty if it names none. -/
def endpoint (u : BlobUrl) : String :=
  (u.authority.map Authority.endpoint).getD ""

/-- The endpoint that the URL names, else the default one. -/
def endpointOrDefault (u : BlobUrl) : String :=
  (u.authority.map Authority.endpoint).getD defaultEndpoint

end BlobUrl

end BlobFs

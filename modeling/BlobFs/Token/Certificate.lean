import BlobFs.Certificate.Basic
import BlobFs.Host
import BlobFs.Json.Records
import BlobFs.Token.Chained
import BlobFs.Web.Message

/-!
# Tokens for a client certificate

A service principal with a certificate gets its tokens from a token endpoint: it sends an assertion
that is signed with the private key and gets a token back, which is good for so many seconds.
Neither the signing nor the sending is done here, so both are parameters; either may fail.  A
request is made only if the assertion could be signed and the address of the endpoint is one that
requests can be sent to (`CertificateCredential.requestAt`).

A token is kept and handed out again as long as it is good for more than five minutes
(`CachedToken.isFresh`).  The reading of the clock is an input of each call, so a whole run of calls
is a function of its readings and of the answers of the endpoint.  A call that fails leaves the kept
token as it was.

The clock counts nanoseconds and has no end.  A machine's clock has one, and a lifetime that goes
beyond it ends the process there; here it makes a token like any other.
-/

set_option autoImplicit false

namespace BlobFs

/-- A second, in readings of the clock. -/
def Clock.second : Nat := 1000000000

/-- What is sent, signed, to prove who asks for a token. -/
structure ClientAssertion where
  algorithm : String
  thumbprint : String
  audience : String
  issuer : String
  subject : String
  notBefore : Nat
  expires : Nat
  deriving DecidableEq

/-- How many seconds an assertion is good for. -/
def ClientAssertion.lifetime : Nat := 600

/-- The length of the fresh identifier that each assertion is sent with. -/
def ClientAssertion.identifierLength : Nat := 36

/-- What signs an assertion with a key: the text that it is sent as, with a fresh identifier in it,
or why there is none. -/
abbrev SignAssertion := RsaKey → ClientAssertion → Except String String

/-- A request for a token, sent as a form. -/
structure TokenRequest where
  url : WebUrl
  form : List (String × String)
  /-- What is signed in the form. -/
  assertion : ClientAssertion

/-- The media type of a form. -/
def TokenRequest.contentType : String := "application/x-www-form-urlencoded"

/-- A token and the reading of the clock at the end of its time. -/
structure CachedToken where
  token : String
  expiresAt : Nat
  deriving DecidableEq

/-- How long a token must be good for to be handed out again. -/
def CachedToken.margin : Nat := 300 * Clock.second

/-- Whether the token is good for long enough. -/
def CachedToken.isFresh (cached : CachedToken) (now : Nat) : Bool :=
  now + CachedToken.margin < cached.expiresAt

/-- A service principal with a certificate. -/
structure CertificateCredential where
  tenant : String
  client : String
  authorityHost : String
  certificate : ClientCertificate
  /-- The proxy between here and the token endpoint. -/
  proxy : Option WebUrl
  cache : Option CachedToken

/-- A step that sends a request for a token and answers what came back. -/
abbrev AskEndpoint (τ : Type) := TokenRequest → τ → Except String HttpResponse × τ

namespace CertificateCredential

variable {τ : Type}

/-! ## Loading -/

/-- The authority asked when nothing names one. -/
def defaultAuthorityHost : String := "https://login.microsoftonline.com"

/-- What is said of an address that requests cannot use. -/
def unusableAddress : String := "builder error"

/-- The proxy that a text names; without a scheme it is taken for one that speaks plain HTTP. -/
def proxyOf (text : String) : Except StorageError WebUrl :=
  let plain : Except StorageError WebUrl :=
    match WebUrl.parse ("http://" ++ text) with
    | .ok url => .ok url
    | .error _ => .error (.invalidTokenProxy unusableAddress)
  match WebUrl.parse text with
  | .ok url => if url.hasHost then .ok url else plain
  | .error .relative => plain
  | .error _ => .error (.invalidTokenProxy unusableAddress)

/-- The optional proxy that an optional text names. -/
def optionalProxyOf (text : Option String) : Except StorageError (Option WebUrl) :=
  match text with
  | none => .ok none
  | some text => (proxyOf text).map some

/-- The credential of a certificate file. -/
def load (host : Host) (tenant client path : String) (proxy : Option String) :
    Except StorageError CertificateCredential :=
  match host.fileText path with
  | .error problem => .error (.unreadableCertificate path problem.describe)
  | .ok pem =>
    match ClientCertificate.ofPem pem.toList with
    | .error problem => .error (.unusableCertificate path problem)
    | .ok certificate =>
      match optionalProxyOf proxy with
      | .error e => .error e
      | .ok proxy =>
        .ok { tenant, client, certificate, proxy, cache := none
              authorityHost := (host.filled? "AZURE_AUTHORITY_HOST").getD defaultAuthorityHost }

/-- The credential described without its key. -/
def debug (c : CertificateCredential) : String :=
  Text.describeRecord "ClientCertificateCredential" [
    ("tenant_id", Text.quote c.tenant),
    ("client_id", Text.quote c.client),
    ("authority_host", Text.quote c.authorityHost),
    ("thumbprint", Text.quote c.certificate.thumbprint)]

/-! ## Asking the endpoint -/

/-- The address of the token endpoint. -/
def tokenUrl (c : CertificateCredential) : String :=
  Text.dropTrailing '/' c.authorityHost ++ "/" ++ c.tenant ++ "/oauth2/v2.0/token"

/-- The assertion made at a moment; its own times are in seconds. -/
def assertionAt (c : CertificateCredential) (now : Nat) : ClientAssertion :=
  { algorithm := "RS256"
    thumbprint := c.certificate.thumbprint
    audience := c.tokenUrl
    issuer := c.client
    subject := c.client
    notBefore := now / Clock.second
    expires := now / Clock.second + ClientAssertion.lifetime }

/-- The fields of the form, with the signed assertion as a text. -/
def formFields (c : CertificateCredential) (signed : String) : List (String × String) :=
  [("client_id", c.client),
    ("scope", "https://storage.azure.com/.default"),
    ("client_assertion_type", "urn:ietf:params:oauth:client-assertion-type:jwt-bearer"),
    ("client_assertion", signed),
    ("grant_type", "client_credentials")]

/-- The address to send requests to, or why nothing can be sent there. -/
def endpoint (c : CertificateCredential) : Except String WebUrl :=
  match WebUrl.parse c.tokenUrl with
  | .error _ => .error unusableAddress
  | .ok url =>
    if url.takesRequests then .ok url else .error s!"{unusableAddress} for url ({url.render})"

/-- The request for a token at a moment, or why there is none.  The assertion is signed before
anybody looks at the address. -/
def requestAt (sign : SignAssertion) (c : CertificateCredential) (now : Nat) :
    Except StorageError TokenRequest :=
  match sign c.certificate.key (c.assertionAt now) with
  | .error reason => .error (.unsignedAssertion reason)
  | .ok signed =>
    match c.endpoint with
    | .error reason => .error (.unreachableAuthority c.tokenUrl reason)
    | .ok url => .ok { url, form := c.formFields signed, assertion := c.assertionAt now }

/-- The token and its lifetime in an answer. -/
def tokenOfBody? (response : HttpResponse) : Option (String × Nat) := do
  let value ← JsonValue.ofBytes? response.body
  match ← value.record? ["access_token", "expires_in"] with
  | [some token, some lifetime] => return (← token.text?, ← lifetime.word?)
  | _ => none

/-- The token in an answer to a request that was sent at a moment. -/
def tokenOfResponse (c : CertificateCredential) (now : Nat) (response : HttpResponse) :
    Except StorageError CachedToken :=
  if !response.isSuccess then
    .error (.tokenRefused c.client (HttpResponse.statusText response.status) response.shownText)
  else match tokenOfBody? response with
    | none => .error (.unreadableToken c.tokenUrl "error decoding response body")
    | some (token, lifetime) => .ok { token, expiresAt := now + lifetime * Clock.second }

/-- What is made of an answer of the endpoint. -/
def tokenOfAnswer (c : CertificateCredential) (now : Nat) :
    Except String HttpResponse → Except StorageError CachedToken
  | .error reason => .error (.unreachableAuthority c.tokenUrl reason)
  | .ok response => c.tokenOfResponse now response

/-- Gets a new token from the endpoint. -/
def fetchToken (sign : SignAssertion) (ask : AskEndpoint τ) (c : CertificateCredential) (now : Nat)
    (state : τ) : Except StorageError CachedToken × τ :=
  match c.requestAt sign now with
  | .error e => (.error e, state)
  | .ok request =>
    let (answer, state) := ask request state
    (c.tokenOfAnswer now answer, state)

/-- Asks for a token: the kept one if it is good for long enough, else a new one. -/
def getToken (sign : SignAssertion) (ask : AskEndpoint τ) (c : CertificateCredential) (now : Nat)
    (state : τ) : Except StoreError String × CertificateCredential × τ :=
  match c.cache.filter (·.isFresh now) with
  | some cached => (.ok cached.token, c, state)
  | none =>
    match fetchToken sign ask c now state with
    | (.error e, state) => (.error (credentialFailure e.message), c, state)
    | (.ok cached, state) => (.ok cached.token, { c with cache := some cached }, state)

end CertificateCredential

end BlobFs

import BlobFs.BlobUrl
import BlobFs.Credential.Source
import BlobFs.Text.Quoted

/-!
# Failures

Two layers fail in their own ways.

* `RemoteError` is what a blob service answers in place of a result: a refusal by the service with
  its status and code, a name that is no object path, or anything else as a text.
* `StorageError` is what the file system answers.  Its constructors are the causes; the wording is
  in one place (`StorageError.detail`), and each cause belongs to one of eight kinds
  (`StorageError.kind`), which callers tell apart.

`StorageError.remote` carries a failure of the service up through the file system together with what
was being done, and keeps the service's code and reason phrase.
-/

set_option autoImplicit false

namespace BlobFs

/-! ## Failures of the service -/

/-- What a blob service answers in place of a result. -/
inductive RemoteError where
  /-- The service refused the request. -/
  | service (status : Nat) (code reason message : String)
  /-- The blob's name is not an object path, so no request was made. -/
  | invalidPath (message : String)
  | other (message : String)
  deriving DecidableEq

/-- The failure in words. -/
def RemoteError.describe : RemoteError → String
  | .service status code reason message => s!"{status} {code} ({reason}): {message}"
  | .invalidPath message => "Invalid blob path: " ++ message
  | .other message => message

/-! ## Failures of the file system -/

/-- The kinds of failure that callers tell apart. -/
inductive ErrorKind where
  | invalidFormat
  | invalidConfig
  | missingField
  | missingCredentials
  | unsupportedProvider
  | invalidCredentials
  | io
  | notSupported
  deriving DecidableEq

/-- The kind's name. -/
def ErrorKind.name : ErrorKind → String
  | .invalidFormat => "InvalidFormat"
  | .invalidConfig => "InvalidConfig"
  | .missingField => "MissingField"
  | .missingCredentials => "MissingCredentials"
  | .unsupportedProvider => "UnsupportedProvider"
  | .invalidCredentials => "InvalidCredentials"
  | .io => "Io"
  | .notSupported => "NotSupported"

/-- What a message of this kind begins with. -/
def ErrorKind.heading : ErrorKind → String
  | .invalidFormat => "Invalid URL format: "
  | .invalidConfig => "Invalid configuration: "
  | .missingField => "Missing field: "
  | .missingCredentials => "Missing credentials: "
  | .unsupportedProvider => "Unsupported provider: "
  | .invalidCredentials => "Invalid credentials: "
  | .io => "IO error: "
  | .notSupported => "Not supported: "

/-- Why a client certificate file is not usable. -/
inductive CertificateProblem where
  | noCertificate
  | badBase64 (reason : String)
  | noPrivateKey
  | badPrivateKey (reason : String)
  deriving DecidableEq

/-- The problem in words. -/
def CertificateProblem.describe : CertificateProblem → String
  | .noCertificate => "no CERTIFICATE block found"
  | .badBase64 reason => "certificate is not valid base64: " ++ reason
  | .noPrivateKey => "no unencrypted RSA private key found"
  | .badPrivateKey reason => "private key is not a valid RSA key: " ++ reason

/-- Why an operation of the file system failed. -/
inductive StorageError where
  -- URLs
  | malformedUrl (problem : UrlProblem) (url : String)
  -- settings
  | invalidNumber (key text : String)
  | invalidBoolean (key text : String)
  | zeroSetting (key : String)
  | unknownTransport (value : String)
  -- credentials
  | unknownChainSource (name : String)
  | emptyChain
  | unusableChain
  | invalidConnectionString
  | connectionStringMismatch (account : String)
  | missingSecretValue (key secret : String)
  | missingClientAuth (secret : String)
  | unsupportedProvider (provider : String)
  | noCredentials
  -- connecting
  | invalidProxy (host reason : String)
  | proxyWithoutUser (host : String)
  | proxyWithoutPassword (host : String)
  | unreadableBundle (path reason : String)
  | unreadableCertificate (path reason : String)
  | unusableCertificate (path : String) (problem : CertificateProblem)
  | invalidTokenProxy (reason : String)
  | sourceRejected (source : ChainSource) (reason : String)
  | clientRejected (reason : String)
  | connectionRefused (reason : String)
  -- tokens
  | unsignedAssertion (reason : String)
  | unreachableAuthority (url reason : String)
  | tokenRefused (client status body : String)
  | unreadableToken (url reason : String)
  -- contexts
  | retiredContext
  -- the service
  | remote (context : String) (cause : RemoteError)
  | openFailed (path message : String)
  | repeatedToken (path token : String)
  -- reading
  | outOfBounds (count offset : Nat) (path : String) (size : Nat)
  | wrongLength (path : String) (received expected : Nat)
  -- what is not offered
  | writingUnsupported
  | syncUnsupported
  deriving DecidableEq

namespace StorageError

/-- The kind that a cause belongs to. -/
def kind : StorageError → ErrorKind
  | .malformedUrl .. | .remote _ (.invalidPath _) => .invalidFormat
  | .invalidNumber .. | .invalidBoolean .. | .zeroSetting _ | .unknownTransport _
  | .unknownChainSource _ | .emptyChain | .unusableChain | .invalidConnectionString
  | .missingClientAuth _ | .invalidProxy .. | .proxyWithoutUser _ | .proxyWithoutPassword _
  | .unreadableBundle .. | .unreadableCertificate .. | .unusableCertificate ..
  | .invalidTokenProxy _ | .sourceRejected .. | .clientRejected _ | .connectionRefused _ =>
    .invalidConfig
  | .missingSecretValue .. => .missingField
  | .noCredentials => .missingCredentials
  | .unsupportedProvider _ => .unsupportedProvider
  | .connectionStringMismatch _ | .unsignedAssertion _ | .tokenRefused .. => .invalidCredentials
  | .unreachableAuthority .. | .unreadableToken .. | .retiredContext
  | .remote _ (.service ..) | .remote _ (.other _) | .openFailed .. | .repeatedToken ..
  | .outOfBounds .. | .wrongLength .. => .io
  | .writingUnsupported | .syncUnsupported => .notSupported

/-- The cause in words. -/
def detail : StorageError → String
  | .malformedUrl problem url => problem.describe url
  | .invalidNumber key text => s!"Invalid value '{text}' for setting '{key}'"
  | .invalidBoolean key text => s!"Invalid boolean '{text}' for setting '{key}'"
  | .zeroSetting key => s!"Setting '{key}' must be greater than zero"
  | .unknownTransport value => s!"transport_option_type cannot take value '{value}'"
  | .unknownChainSource name => "Unknown credential provider found: " ++ name
  | .emptyChain => "Credential chain must name at least one provider"
  | .unusableChain => "Credential chain has no usable source"
  | .invalidConnectionString => "An invalid connection string has been provided."
  | .connectionStringMismatch account =>
    "The provided connection string does not match the storage account named " ++ account
  | .missingSecretValue key secret =>
    s!"Failed to fetch key '{key}' from secret '{secret}' of type 'azure'"
  | .missingClientAuth secret =>
    s!"Failed to fetch key 'client_secret' or 'client_certificate_path' from secret '{secret}' of type 'azure'"
  | .unsupportedProvider provider => s!"Unsupported provider type {provider} for azure"
  | .noCredentials => "No valid Azure credentials found!"
  | .invalidProxy host reason => s!"Invalid proxy '{host}': {reason}"
  | .proxyWithoutUser host => s!"Proxy '{host}' cannot carry a user"
  | .proxyWithoutPassword host => s!"Proxy '{host}' cannot carry a password"
  | .unreadableBundle path reason => s!"Failed to read CA bundle '{path}': {reason}"
  | .unreadableCertificate path reason => s!"Failed to read client certificate '{path}': {reason}"
  | .unusableCertificate path problem =>
    s!"Invalid client certificate '{path}': " ++ problem.describe
  | .invalidTokenProxy reason => "Invalid proxy for token requests: " ++ reason
  | .sourceRejected source reason => "Failed to create " ++ source.label ++ " credential: " ++ reason
  | .clientRejected reason => "Failed to create Azure client: " ++ reason
  | .connectionRefused reason => reason
  | .unsignedAssertion reason => "Failed to sign client assertion: " ++ reason
  | .unreachableAuthority url reason => s!"Token request to '{url}' failed: {reason}"
  | .tokenRefused client status body =>
    s!"Token request for client_id={client} failed with status {status}: {body}"
  | .unreadableToken url reason => s!"Invalid token response from '{url}': {reason}"
  | .retiredContext => "Connection context has been retired, a new one must be created"
  | .remote context (.service _ code reason message) =>
    s!"{context} failed with code '{code}', Reason Phrase: '{reason}', Message: '{message}'"
  | .remote context (.invalidPath message) => s!"{context}: {message}"
  | .remote context (.other message) => s!"{context} failed: {message}"
  | .openFailed path message =>
    s!"AzureStorageFileSystem could not open file: '{path}', unknown error occurred, this could mean the credentials used were wrong. Original error message: '{message}'"
  | .repeatedToken path token =>
    s!"AzureStorageFileSystem list of '{path}' returned continuation token '{token}' twice"
  | .outOfBounds count offset path size =>
    s!"Read of {count} bytes at offset {offset} is out of bounds for '{path}' of length {size}"
  | .wrongLength path received expected =>
    s!"AzureStorageFileSystem Read to '{path}' returned {received} bytes, expected {expected}"
  | .writingUnsupported => "Writing to Azure containers is currently not supported"
  | .syncUnsupported => "FileSync for Azure Storage files not implemented"

/-- The whole message: the kind, then the cause. -/
def message (e : StorageError) : String :=
  e.kind.heading ++ e.detail

/-- The service's code, when the service refused. -/
def code? : StorageError → Option String
  | .remote _ (.service _ code _ _) => some code
  | _ => none

/-- The service's reason phrase, when the service refused. -/
def reason? : StorageError → Option String
  | .remote _ (.service _ _ reason _) => some reason
  | _ => none

/-- The failure described as a value. -/
def debug (e : StorageError) : String :=
  match e.kind with
  | .io => Text.describeRecord "Io" [
      ("message", Text.quote e.detail),
      ("code", Text.describeOption Text.quote e.code?),
      ("reason", Text.describeOption Text.quote e.reason?)]
  | kind => kind.name ++ "(" ++ Text.quote e.detail ++ ")"

end StorageError

end BlobFs

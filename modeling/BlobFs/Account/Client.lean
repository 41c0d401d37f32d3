import BlobFs.Certificate.Bundle
import BlobFs.Resolve
import BlobFs.Token.Certificate

/-!
# Clients of accounts

A client is what a connection becomes once everything about it has been checked: where requests go,
through which proxy, and what proves the right to make them.  Making one sends nothing.

The checks come in the order in which a user would meet them: the proxy and the bundle of
certificate authorities it is trusted with, then the credential, then the account's address.
-/

set_option autoImplicit false

namespace BlobFs

/-- Where a client gets its tokens from. -/
inductive TokenSource where
  | managedIdentity
  | clientSecret (tenant client secret : String)
  | certificate (credential : CertificateCredential)
  | chain (credential : ChainedCredential)

/-- What proves the right to make a request. -/
inductive RequestSigning where
  | unsigned
  | sharedKey (account : String) (key : Bytes)
  /-- A signature made beforehand, as pairs of the query. -/
  | sharedAccess (pairs : List (String × String))
  | tokens (source : TokenSource)

/-- A client of one account. -/
structure AccountClient where
  accountUrl : String
  /-- The address below which the containers lie. -/
  base : WebUrl
  proxy : Option WebUrl
  signing : RequestSigning
  /-- Whether this is the storage emulator. -/
  isEmulator : Bool

namespace AccountClient

/-! ## The proxy -/

/-- The address of a proxy without its user; a bare `host:port` is taken for plain HTTP. -/
def proxyBase (address : String) : Except StorageError WebUrl :=
  let plain : Except StorageError WebUrl :=
    match WebUrl.parse ("http://" ++ address) with
    | .ok url => .ok url
    | .error problem => .error (.invalidProxy address problem.describe)
  match WebUrl.parse address with
  | .ok url => if url.hasHost then .ok url else plain
  | .error _ => plain

/-- The address of a proxy with its user and password. -/
def proxyUrl (proxy : Proxy) : Except StorageError WebUrl := do
  let url ← proxyBase proxy.host
  let url ← match proxy.userName with
    | none => .ok url
    | some user => match url.withUser? user with
      | some url => .ok url
      | none => .error (.proxyWithoutUser proxy.host)
  match proxy.password with
  | none => .ok url
  | some password => match url.withPassword? password with
    | some url => .ok url
    | none => .error (.proxyWithoutPassword proxy.host)

/-- The bundle that a proxy is trusted with; none is read without a proxy. -/
def proxyBundle (host : Host) (transport : Transport) : Except StorageError (Option String) :=
  match transport.proxy, transport.caInfo with
  | some _, some path =>
    match host.fileText path with
    | .ok text => .ok (some text)
    | .error problem => .error (.unreadableBundle path problem.describe)
  | _, _ => .ok none

/-! ## Credentials -/

/-- What a failure of this library's own clients is called. -/
def failureText (message : String) : String :=
  (credentialFailure message).describe

/-- Reads the address of an account, or says what is wrong with it. -/
def parseAddress (address : String) : Except String WebUrl :=
  match WebUrl.parse address with
  | .ok url => .ok url
  | .error problem => .error
    (failureText s!"Unable parse source url. Url: {address}, Error: {problem.describe}")

/-- What is wrong with a bundle of authorities, in the words of a client that cannot use it. -/
def bundleProblem? (bundle : Option String) : Option String :=
  (bundle.bind Bundle.problem?).map fun reason ↦
    "Generic HTTP client error: builder error: " ++ reason

/-- Whether the environment describes a service principal. -/
def environmentHasPrincipal (host : Host) : Bool :=
  (host.filled? "AZURE_CLIENT_ID").isSome && (host.filled? "AZURE_TENANT_ID").isSome &&
    ((host.filled? "AZURE_CLIENT_SECRET").isSome ||
      (host.filled? "AZURE_FEDERATED_TOKEN_FILE").isSome)

/-- The sources of a chain that can be asked at all. -/
def usableSources (host : Host) (sources : List ChainSource) : List ChainSource :=
  (ChainSource.expand sources).filter fun source ↦
    source != .env || environmentHasPrincipal host

/-- The address that a source of a chain is set up with. -/
def sourceAddress (host : Host) (account : String) (source : ChainSource) : String :=
  match source, host.environment "AZURE_ENDPOINT" with
  | .env, some endpoint => endpoint
  | _, _ => ConnectionSpec.urlOf account BlobUrl.defaultEndpoint

/-- Why a source of a chain cannot be set up, if it cannot. -/
def sourceProblem? (host : Host) (account : String) (bundle : Option String)
    (source : ChainSource) : Option StorageError :=
  match parseAddress (sourceAddress host account source) with
  | .error reason => some (.sourceRejected source reason)
  | .ok _ => (bundleProblem? bundle).map (.sourceRejected source)

/-- The credential of a chain. -/
def chainCredential (host : Host) (account : String) (bundle : Option String)
    (sources : List ChainSource) : Except StorageError ChainedCredential :=
  let usable := usableSources host sources
  match usable.findSome? (sourceProblem? host account bundle) with
  | some e => .error e
  | none => ChainedCredential.ofSources usable

/-- The pairs of a signature that was made beforehand. -/
def signaturePairs (signature : String) : List (String × String) :=
  (Text.pieces '&' (Text.dropLeading '?' signature)).filterMap (Text.cut? '=')

/-- The key of the storage emulator. -/
def developmentKey : String :=
  "Eby8vdM02xNOcqFlqUwJPLlmEtlCDXJ1OUzFT50uSRZ6IFsuFq2UVErCz4I6tq/K1SZFPTOtr/KBHBeksoGMGw=="

/-- The signing with an account's key. -/
def keySigning (account key : String) : Except StorageError RequestSigning :=
  match Base64.decode key.toList with
  | .ok key => .ok (.sharedKey account key)
  | .error problem =>
    .error (.clientRejected (failureText ("Invalid Access Key: " ++ problem.describe)))

/-- The signing that a connection string asks for; its key comes before its signature. -/
def connectionStringSigning (account : String) (cs : ConnectionString) :
    Except StorageError RequestSigning :=
  match cs.accountKey, cs.sharedAccessSignature with
  | some key, _ => keySigning account key
  | none, some signature => .ok (.sharedAccess (signaturePairs signature))
  | none, none => .ok (.tokens .managedIdentity)

/-- What a credential needs besides the account's address; it is checked before the address. -/
def earlySigning (host : Host) (spec : ConnectionSpec) (proxy : Option WebUrl)
    (bundle : Option String) : Except StorageError (Option RequestSigning) :=
  match spec.credential with
  | .connectionString _ => .ok none
  | .anonymous => .ok (some .unsigned)
  | .chain sources =>
    (chainCredential host spec.accountName bundle sources).map (some <| .tokens <| .chain ·)
  | .clientSecret tenant client secret => .ok (some (.tokens (.clientSecret tenant client secret)))
  | .clientCertificate tenant client path =>
    match CertificateCredential.load host tenant client path none with
    | .error e => .error e
    | .ok credential => .ok (some (.tokens (.certificate { credential with proxy := proxy })))

/-! ## Clients -/

/-- The address of the storage emulator, to which the account's name is added. -/
def developmentBase : String := "http://127.0.0.1:10000"

/-- Whether the storage emulator is meant. -/
def usesEmulator (spec : ConnectionSpec) : Bool :=
  match spec.credential with
  | .connectionString cs => cs.usesDevelopmentStorage
  | _ => false

/-- The address below which the containers of an account lie. -/
def baseOf (spec : ConnectionSpec) : Except StorageError WebUrl :=
  if usesEmulator spec then
    ((parseAddress developmentBase).map (·.extend [ConnectionString.developmentAccount])).mapError
      .clientRejected
  else (parseAddress spec.accountUrl).mapError .clientRejected

/-- The signing that is left to find once the address is known. -/
def lateSigning (spec : ConnectionSpec) : Except StorageError RequestSigning :=
  match spec.credential with
  | .connectionString cs =>
    if cs.usesDevelopmentStorage then
      keySigning ConnectionString.developmentAccount developmentKey
    else connectionStringSigning spec.accountName cs
  | _ => .ok .unsigned

/-- The client of a connection. -/
def ofSpec (host : Host) (spec : ConnectionSpec) : Except StorageError AccountClient := do
  let proxy ← match spec.transport.proxy with
    | none => .ok none
    | some proxy => (proxyUrl proxy).map some
  let bundle ← proxyBundle host spec.transport
  let early ← earlySigning host spec proxy bundle
  let base ← baseOf spec
  let signing ← match early with
    | some signing => .ok signing
    | none => lateSigning spec
  match bundleProblem? bundle with
  | some reason => .error (.clientRejected reason)
  | none =>
    return { accountUrl := spec.accountUrl, base, proxy, signing, isEmulator := usesEmulator spec }

/-- The client described by its account. -/
def debug (c : AccountClient) : String :=
  "BlobServiceClient(account_url=" ++ c.accountUrl ++ ")"

end AccountClient

end BlobFs

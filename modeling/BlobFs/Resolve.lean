import BlobFs.Credential.Basic
import BlobFs.Secret.Registry
import BlobFs.Transport

/-!
# Resolving a connection

From the URL of a blob, the registered secrets and the settings of a session follows how to reach
its account: the account's name and URL, the credential and the transport (`ConnectionSpec`).

A secret of the right type whose scope reaches the path always decides alone; the credential
settings count only when there is none.  A connection string in a secret must fit the account that
the URL names, one in the settings is passed over when it does not.
-/

set_option autoImplicit false

namespace BlobFs

/-- Everything that a connection to an account needs. -/
structure ConnectionSpec where
  accountName : String
  accountUrl : String
  credential : Credential
  transport : Transport
  deriving DecidableEq

namespace ConnectionSpec

/-- The connection described without what proves an identity. -/
def debug (spec : ConnectionSpec) : String :=
  Text.describeRecord "ConnectionSpec" [
    ("account_name", Text.quote spec.accountName),
    ("account_url", Text.quote spec.accountUrl),
    ("credential", spec.credential.debug),
    ("transport", spec.transport.debug)]

/-- The URL of an account at an endpoint. -/
def urlOf (account endpoint : String) : String :=
  "https://" ++ account ++ "." ++ endpoint

/-- The connection that a connection string describes by itself. -/
def ofConnectionString (cs : ConnectionString) (transport : Transport) :
    Except StorageError ConnectionSpec :=
  match cs.blobEndpoint with
  | none => .error .invalidConnectionString
  | some url =>
    .ok { accountName :=
            if cs.usesDevelopmentStorage then ConnectionString.developmentAccount
            else cs.accountName.getD ""
          accountUrl := url
          credential := .connectionString cs
          transport := transport }

/-- The credential of a secret that has no connection string. -/
def credentialOf : AzureSecret → Credential
  | .config _ => .anonymous
  | .credentialChain chain => .chain chain
  | .servicePrincipal tenant client (.secret value) => .clientSecret tenant client value
  | .servicePrincipal tenant client (.certificate path) => .clientCertificate tenant client path

/-- The account: the one that the URL names, else the secret's. -/
def accountFromSecret (secret : Secret) (url : BlobUrl) : Except StorageError String :=
  if url.account.isEmpty then secret.require "account_name" else .ok url.account

/-- The endpoint: the one that the URL names, else the secret's, else the default. -/
def endpointFromSecret (secret : Secret) (url : BlobUrl) : String :=
  if url.endpoint.isEmpty then (secret.get? "endpoint").getD BlobUrl.defaultEndpoint
  else url.endpoint

/-- The connection that a secret decides. -/
def fromSecret (host : Host) (settings : Settings) (secret : Secret) (url : BlobUrl) :
    Except StorageError ConnectionSpec := do
  let meaning ← AzureSecret.ofSecret secret
  let transport ← Transport.resolve host settings (some secret)
  match meaning with
  | .config (some cs) =>
    let fits ← cs.matchesAccount url.account
    if fits then ofConnectionString cs transport
    else .error (.connectionStringMismatch url.account)
  | meaning =>
    let account ← accountFromSecret secret url
    return {
      accountName := account
      accountUrl := urlOf account (endpointFromSecret secret url)
      credential := credentialOf meaning
      transport := transport }

/-- The account: the one that the URL names, else the setting. -/
def accountFromSettings (settings : Settings) (url : BlobUrl) : Except StorageError String :=
  if url.account.isEmpty then
    match Settings.nonBlank (settings.get? Settings.accountName) with
    | some account => .ok account
    | none => .error .noCredentials
  else .ok url.account

/-- The endpoint: the one that the URL names, else the setting, else the default. -/
def endpointFromSettings (settings : Settings) (url : BlobUrl) : String :=
  if url.endpoint.isEmpty then
    (Settings.nonBlank (settings.get? Settings.endpoint)).getD BlobUrl.defaultEndpoint
  else url.endpoint

/-- The credential that the settings ask for. -/
def credentialFromSettings (settings : Settings) : Except StorageError Credential :=
  match Settings.nonBlank (settings.get? Settings.credentialChain) with
  | none => .ok .anonymous
  | some chain =>
    match ChainSource.parseChain chain with
    | .ok sources => .ok (.chain sources)
    | .error e => .error e

/-- The connection string among the settings, if it is for the account that the URL names. -/
def fittingConnectionString (settings : Settings) (url : BlobUrl) :
    Except StorageError (Option ConnectionString) :=
  match Settings.nonBlank (settings.get? Settings.storageConnectionString) with
  | none => .ok none
  | some raw =>
    let cs := ConnectionString.parse raw
    match cs.matchesAccount url.account with
    | .ok fits => .ok (if fits then some cs else none)
    | .error e => .error e

/-- The connection that the settings decide. -/
def fromSettings (host : Host) (settings : Settings) (url : BlobUrl) :
    Except StorageError ConnectionSpec := do
  let transport ← Transport.resolve host settings none
  match ← fittingConnectionString settings url with
  | some cs => ofConnectionString cs transport
  | none =>
    let account ← accountFromSettings settings url
    let credential ← credentialFromSettings settings
    return {
      accountName := account
      accountUrl := urlOf account (endpointFromSettings settings url)
      credential := credential
      transport := transport }

/-- How to reach the account of `url`; `path` is the URL as it was given. -/
def resolve (host : Host) (settings : Settings) (secrets : SecretRegistry) (path : String)
    (url : BlobUrl) : Except StorageError ConnectionSpec :=
  match secrets.lookup path Secret.azureType with
  | some secret => fromSecret host settings secret url
  | none => fromSettings host settings url

end ConnectionSpec

end BlobFs

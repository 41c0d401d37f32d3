import BlobFs.Credential.Chain
import BlobFs.Credential.ConnectionString
import BlobFs.Secret.Basic

/-!
# Credentials

* `Credential` — how a connection authenticates.
* `AzureSecret` — what a registered secret asks for, by its provider: a plain configuration, a
  credential chain or a service principal.

Descriptions of both never show what proves an identity.
-/

set_option autoImplicit false

namespace BlobFs

/-- How a connection authenticates. -/
inductive Credential where
  | connectionString (cs : ConnectionString)
  | anonymous
  | chain (sources : List ChainSource)
  | clientSecret (tenant client secret : String)
  | clientCertificate (tenant client certificatePath : String)
  deriving DecidableEq

namespace Credential

/-- The name of the way. -/
def kind : Credential → String
  | .connectionString _ => "connection_string"
  | .anonymous => "anonymous"
  | .chain _ => "credential_chain"
  | .clientSecret .. => "client_secret"
  | .clientCertificate .. => "client_certificate"

/-- The credential described without what proves the identity. -/
def debug : Credential → String
  | .connectionString cs => "ConnectionString(" ++ cs.debug ++ ")"
  | .anonymous => "Anonymous"
  | .chain sources => "Chain(" ++ ChainSource.debugList sources ++ ")"
  | .clientSecret tenant client _ =>
    "ClientSecret \x7b tenant_id: " ++ Text.quote tenant ++ ", client_id: " ++ Text.quote client ++
      ", .. \x7d"
  | .clientCertificate tenant client path =>
    Text.describeRecord "ClientCertificate" [
      ("tenant_id", Text.quote tenant),
      ("client_id", Text.quote client),
      ("certificate_path", Text.quotePath path)]

end Credential

/-- How a service principal proves who it is. -/
inductive ClientAuth where
  | secret (value : String)
  | certificate (path : String)
  deriving DecidableEq

/-- The proof described without the secret. -/
def ClientAuth.debug : ClientAuth → String
  | .secret _ => "Secret(***)"
  | .certificate path => "Certificate(" ++ Text.quotePath path ++ ")"

/-- What a registered secret asks for. -/
inductive AzureSecret where
  | config (connectionString : Option ConnectionString)
  | credentialChain (chain : List ChainSource)
  | servicePrincipal (tenant client : String) (auth : ClientAuth)
  deriving DecidableEq

/-- A value that the secret must have. -/
def Secret.require (s : Secret) (key : String) : Except StorageError String :=
  match s.get? key with
  | some value => .ok value
  | none => .error (.missingSecretValue key s.name)

namespace AzureSecret

/-- How the service principal of a secret proves who it is; a client secret comes before a
certificate. -/
def clientAuth (s : Secret) : Except StorageError ClientAuth :=
  match s.get? "client_secret", s.get? "client_certificate_path" with
  | some value, _ => .ok (.secret value)
  | none, some path => .ok (.certificate path)
  | none, none => .error (.missingClientAuth s.name)

/-- The service principal that a secret describes. -/
def principal (s : Secret) : Except StorageError AzureSecret := do
  let tenant ← s.require "tenant_id"
  let client ← s.require "client_id"
  let auth ← clientAuth s
  return .servicePrincipal tenant client auth

/-- What the secret asks for, by its provider. -/
def ofSecret (s : Secret) : Except StorageError AzureSecret :=
  match s.provider with
  | "config" => .ok (.config ((s.get? "connection_string").map ConnectionString.parse))
  | "credential_chain" =>
    match ChainSource.parseChain ((s.get? "chain").getD "default") with
    | .ok chain => .ok (.credentialChain chain)
    | .error e => .error e
  | "service_principal" => principal s
  | other => .error (.unsupportedProvider other)

/-- The meaning of a secret described without what proves an identity. -/
def debug : AzureSecret → String
  | .config cs => Text.describeRecord "Config" [
      ("connection_string", Text.describeOption ConnectionString.debug cs)]
  | .credentialChain chain => Text.describeRecord "CredentialChain" [
      ("chain", ChainSource.debugList chain)]
  | .servicePrincipal tenant client auth => Text.describeRecord "ServicePrincipal" [
      ("tenant_id", Text.quote tenant),
      ("client_id", Text.quote client),
      ("auth", auth.debug)]

end AzureSecret

end BlobFs

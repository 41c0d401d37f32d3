import BlobFs.Host
import BlobFs.Secret.Basic
import BlobFs.Settings

/-!
# Network transport

How the requests of a connection travel: by which implementation, through which proxy, and trusting
which certificate authorities.  A secret's own proxy values come before the settings, and the
settings before the environment.
-/

set_option autoImplicit false

namespace BlobFs

/-- The implementation that carries requests. -/
inductive TransportKind where
  | default
  | curl
  deriving DecidableEq

/-- The implementation's name. -/
def TransportKind.name : TransportKind → String
  | .default => "Default"
  | .curl => "Curl"

/-- The implementation that a setting asks for. -/
def TransportKind.ofSetting (value : Option String) : Except StorageError TransportKind :=
  match (value.map Text.trim).getD "" with
  | "" | "default" => .ok .default
  | "curl" => .ok .curl
  | other => .error (.unknownTransport other)

/-- A proxy and how to sign in to it. -/
structure Proxy where
  host : String
  userName : Option String
  password : Option String
  deriving DecidableEq

/-- The proxy described without its password. -/
def Proxy.debug (p : Proxy) : String :=
  Text.describeRecord "ProxyOptions" [
    ("host", Text.quote p.host),
    ("user_name", Text.describeOption Text.quote p.userName),
    ("password", Text.describeOption (fun _ ↦ Text.quote "***") p.password)]

/-- How the requests of a connection travel. -/
structure Transport where
  kind : TransportKind
  proxy : Option Proxy
  /-- A file of trusted certificate authorities. -/
  caInfo : Option String
  /-- A directory of trusted certificate authorities. -/
  caPath : Option String
  deriving DecidableEq

namespace Transport

/-- The transport described without the proxy's password. -/
def debug (t : Transport) : String :=
  Text.describeRecord "TransportOptions" [
    ("kind", t.kind.name),
    ("proxy", Text.describeOption Proxy.debug t.proxy),
    ("ca_info", Text.describeOption Text.quotePath t.caInfo),
    ("ca_path", Text.describeOption Text.quotePath t.caPath)]

/-- Where bundles of certificate authorities are usually found, in the order of looking. -/
def bundleCandidates : List String :=
  ["/etc/ssl/certs/ca-certificates.crt",
    "/etc/pki/tls/certs/ca-bundle.crt",
    "/etc/ssl/ca-bundle.pem",
    "/etc/pki/tls/cacert.pem",
    "/etc/pki/ca-trust/extracted/pem/tls-ca-bundle.pem",
    "/etc/ssl/cert.pem"]

/-- The bundle asked for, else the first candidate that is a file. -/
def findBundle (isFile : String → Bool) (explicit : Option String) (candidates : List String) :
    Option String :=
  match explicit with
  | some path => some path
  | none => candidates.find? isFile

/-- A proxy value: the secret's own, else the setting if it is not blank. -/
def proxyValue (settings : Settings) (secret : Option Secret) (secretKey settingKey : String) :
    Option String :=
  match secret.bind fun s ↦ s.get? secretKey with
  | some value => some value
  | none => Settings.nonBlank (settings.get? settingKey)

/-- The proxy that the secret, the settings or the environment ask for. -/
def resolveProxy (host : Host) (settings : Settings) (secret : Option Secret) : Option Proxy :=
  let address := match proxyValue settings secret "http_proxy" Settings.httpProxy with
    | some value => some value
    | none => Settings.nonBlank (host.environment "HTTP_PROXY")
  address.map fun address ↦
    { host := address
      userName := proxyValue settings secret "proxy_user_name" Settings.proxyUserName
      password := proxyValue settings secret "proxy_password" Settings.proxyPassword }

/-- The transport of a connection. -/
def resolve (host : Host) (settings : Settings) (secret : Option Secret) :
    Except StorageError Transport :=
  match TransportKind.ofSetting (settings.get? Settings.transportOptionType) with
  | .error e => .error e
  | .ok .default =>
    .ok { kind := .default, proxy := resolveProxy host settings secret, caInfo := none
          caPath := none }
  | .ok .curl =>
    .ok { kind := .curl
          proxy := resolveProxy host settings secret
          caInfo := findBundle host.isFile (Settings.nonBlank (host.environment "CURL_CA_INFO"))
            bundleCandidates
          caPath := Settings.nonBlank (host.environment "CURL_CA_PATH") }

end Transport

end BlobFs

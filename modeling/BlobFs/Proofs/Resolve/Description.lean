import BlobFs.Proofs.Credential.Description
import BlobFs.Proofs.Resolve.Isolation

/-!
# What a description of a connection shows

Two sessions look alike if they differ at most in what is hidden: in client secrets, passwords and
the keys and signatures inside connection strings.  `BlobFs.Proofs.Credential.Description` compares
secrets in this way, and this file the rest of a session.

A resolution goes the same way in both sessions (`ConnectionSpec.resolve_alike`): the same secret is
found, but for what is hidden in it (`SecretRegistry.LooksLike.lookup_rel`), what cannot be resolved
fails for the same reason, and what can be resolved looks alike.  So none of the descriptions that
are written along the way tells the sessions apart (`ConnectionSpec.debug_of_looksLike`).
-/

set_option autoImplicit false

namespace BlobFs

/-! ## Settings -/

namespace Settings

/-- What the settings show. -/
def masking : Masking :=
  { hidden := [proxyPassword]
    connectionString := storageConnectionString
    isSet := fun value ↦ !Text.isBlankText value
    isSet_eq := fun h ↦ by rw [h.isBlankText_eq] }

/-- Two sessions' settings that differ at most in what is hidden. -/
def LooksLike (settings settings' : Settings) : Prop :=
  masking.SameEntries settings settings'

namespace LooksLike

variable {settings settings' : Settings}

theorem nonBlank_rel (h : settings.LooksLike settings') (key : String) :
    Option.Rel (masking.SameValue key) (nonBlank (settings.get? key))
      (nonBlank (settings'.get? key)) :=
  h.rel_filter key

theorem get?_eq (h : settings.LooksLike settings') {key : String}
    (hkey : key ∉ masking.connectionString :: masking.hidden) :
    settings.get? key = settings'.get? key :=
  Masking.SameEntries.get?_eq h hkey

end LooksLike

end Settings

/-! ## Transports -/

/-- Two proxies that differ at most in the password. -/
structure Proxy.LooksLike (p q : Proxy) : Prop where
  host : p.host = q.host
  userName : p.userName = q.userName
  password : Option.Rel (fun _ _ ↦ True) p.password q.password

theorem Proxy.LooksLike.debug_eq {p q : Proxy} (h : p.LooksLike q) : p.debug = q.debug := by
  rw [debug, debug, h.host, h.userName,
    Text.describeOption_congr (rel_imp h.password fun _ _ _ ↦ rfl)]

namespace Transport

/-- Two transports that differ at most in the proxy's password. -/
structure LooksLike (t u : Transport) : Prop where
  kind : t.kind = u.kind
  proxy : Option.Rel Proxy.LooksLike t.proxy u.proxy
  caInfo : t.caInfo = u.caInfo
  caPath : t.caPath = u.caPath

theorem LooksLike.debug_eq {t u : Transport} (h : t.LooksLike u) : t.debug = u.debug := by
  rw [debug, debug, h.kind, h.caInfo, h.caPath,
    Text.describeOption_congr (rel_imp h.proxy fun _ _ hproxy ↦ hproxy.debug_eq)]

variable {settings settings' : Settings} {secret secret' : Option Secret}

/-- The secret's own value or the setting is taken in both sessions. -/
theorem proxyValue_rel {related : String → String → Prop} {secretKey settingKey : String}
    (hsecret : Option.Rel related (secret.bind fun s ↦ s.get? secretKey)
      (secret'.bind fun s ↦ s.get? secretKey))
    (hsetting : Option.Rel related (Settings.nonBlank (settings.get? settingKey))
      (Settings.nonBlank (settings'.get? settingKey))) :
    Option.Rel related (proxyValue settings secret secretKey settingKey)
      (proxyValue settings' secret' secretKey settingKey) := by
  rw [proxyValue, proxyValue]
  generalize (secret.bind fun s ↦ s.get? secretKey) = own at hsecret ⊢
  generalize (secret'.bind fun s ↦ s.get? secretKey) = own' at hsecret ⊢
  cases hsecret with
  | some h => exact .some h
  | none => exact hsetting

/-- A proxy value other than the password is shown. -/
theorem proxyValue_eq {secretKey settingKey : String}
    (hsecret : Option.Rel Secret.LooksLike secret secret')
    (hsettings : settings.LooksLike settings')
    (hsecretKey : secretKey ∉ Secret.masking.connectionString :: Secret.masking.hidden)
    (hsettingKey : settingKey ∉ Settings.masking.connectionString :: Settings.masking.hidden) :
    proxyValue settings secret secretKey settingKey =
      proxyValue settings' secret' secretKey settingKey := by
  have hown : (secret.bind fun s ↦ s.get? secretKey) = secret'.bind fun s ↦ s.get? secretKey := by
    cases hsecret with
    | some h => exact h.get?_eq hsecretKey
    | none => rfl
  exact proxyValue_congr hown (hsettings.get?_eq hsettingKey)

/-- There is a password in both sessions or in neither. -/
theorem proxyPassword_rel (hsecret : Option.Rel Secret.LooksLike secret secret')
    (hsettings : settings.LooksLike settings') :
    Option.Rel (fun _ _ ↦ True)
      (proxyValue settings secret "proxy_password" Settings.proxyPassword)
      (proxyValue settings' secret' "proxy_password" Settings.proxyPassword) := by
  refine proxyValue_rel ?_ (rel_imp (hsettings.nonBlank_rel _) fun _ _ _ ↦ trivial)
  cases hsecret with
  | some h => exact rel_imp (h.get?_rel _) fun _ _ _ ↦ trivial
  | none => exact .none

theorem resolveProxy_rel (host : Host) (hsecret : Option.Rel Secret.LooksLike secret secret')
    (hsettings : settings.LooksLike settings') :
    Option.Rel Proxy.LooksLike (resolveProxy host settings secret)
      (resolveProxy host settings' secret') := by
  have haddress : proxyValue settings secret "http_proxy" Settings.httpProxy = _ :=
    proxyValue_eq hsecret hsettings (by decide) (by decide)
  have huser : proxyValue settings secret "proxy_user_name" Settings.proxyUserName = _ :=
    proxyValue_eq hsecret hsettings (by decide) (by decide)
  simp only [resolveProxy, haddress, huser]
  split
  · exact .some ⟨rfl, rfl, proxyPassword_rel hsecret hsettings⟩
  · cases Settings.nonBlank (host.environment "HTTP_PROXY") with
    | some address => exact .some ⟨rfl, rfl, proxyPassword_rel hsecret hsettings⟩
    | none => exact .none

theorem resolve_alike (host : Host) (hsecret : Option.Rel Secret.LooksLike secret secret')
    (hsettings : settings.LooksLike settings') :
    Alike LooksLike (resolve host settings secret) (resolve host settings' secret') := by
  have hkind : settings.get? Settings.transportOptionType = _ := hsettings.get?_eq (by decide)
  have hproxy := resolveProxy_rel host hsecret hsettings
  rw [resolve, resolve, hkind]
  split
  · exact .error _
  · exact .ok ⟨rfl, hproxy, rfl, rfl⟩
  · exact .ok ⟨rfl, hproxy, rfl, rfl⟩

end Transport

/-! ## The registry -/

namespace SecretRegistry

/-- Two registries whose secrets, in order, differ at most in what is hidden. -/
def LooksLike (r r' : SecretRegistry) : Prop :=
  List.Forall₂ Secret.LooksLike r.secrets r'.secrets

/-- Two best secrets so far, equally good, that differ at most in what is hidden. -/
def SameBest : Option (Nat × Secret) → Option (Nat × Secret) → Prop :=
  Option.Rel fun best best' ↦ best.1 = best'.1 ∧ best.2.LooksLike best'.2

theorem better_same (path : String) {best best' : Option (Nat × Secret)} {s t : Secret}
    (hbest : SameBest best best') (h : s.LooksLike t) :
    SameBest (better path best s) (better path best' t) := by
  have hlength : s.matchLength path = t.matchLength path := by
    rw [Secret.matchLength, Secret.matchLength, h.scope]
  rw [better.eq_def, better.eq_def, hlength]
  cases t.matchLength path with
  | none => exact hbest
  | some length =>
    cases hbest with
    | none => exact .some ⟨rfl, h⟩
    | some hfound =>
      dsimp only
      rw [hfound.1]
      split
      · exact .some ⟨rfl, h⟩
      · exact .some hfound

/-- **What is hidden in secrets does not decide which one is found.** -/
theorem LooksLike.lookup_rel {r r' : SecretRegistry} (h : r.LooksLike r') (path type : String) :
    Option.Rel Secret.LooksLike (r.lookup path type) (r'.lookup path type) := by
  have hsecrets : List.Forall₂ Secret.LooksLike
      (r.secrets.filter fun secret ↦ secret.type == type)
      (r'.secrets.filter fun secret ↦ secret.type == type) :=
    List.rel_filter (fun s t hst ↦ by simp only [hst.type]) h
  have hbest : SameBest _ _ :=
    List.rel_foldl (fun _ _ hbest s t (hst : Secret.LooksLike s t) ↦ better_same path hbest hst)
      Option.Rel.none hsecrets
  exact rel_map hbest fun _ _ hfound ↦ hfound.2

end SecretRegistry

/-! ## Connections -/

namespace Credential

/-- Two credentials that differ at most in what is hidden. -/
inductive LooksLike : Credential → Credential → Prop
  | same (credential : Credential) : LooksLike credential credential
  | connectionString {cs cs' : ConnectionString} (h : cs.LooksLike cs') :
      LooksLike (.connectionString cs) (.connectionString cs')
  | clientSecret (tenant client value value' : String) :
      LooksLike (.clientSecret tenant client value) (.clientSecret tenant client value')

theorem LooksLike.debug_eq {credential credential' : Credential}
    (h : credential.LooksLike credential') : credential.debug = credential'.debug := by
  cases h with
  | same => rfl
  | connectionString h => exact congrArg (fun text ↦ "ConnectionString(" ++ text ++ ")") h.debug_eq
  | clientSecret tenant client value value' => rfl

end Credential

namespace ConnectionSpec

/-- Two connections that differ at most in what is hidden. -/
structure LooksLike (spec spec' : ConnectionSpec) : Prop where
  accountName : spec.accountName = spec'.accountName
  accountUrl : spec.accountUrl = spec'.accountUrl
  credential : spec.credential.LooksLike spec'.credential
  transport : spec.transport.LooksLike spec'.transport

theorem LooksLike.debug_eq {spec spec' : ConnectionSpec} (h : spec.LooksLike spec') :
    spec.debug = spec'.debug := by
  rw [debug, debug, h.accountName, h.accountUrl, h.credential.debug_eq, h.transport.debug_eq]

variable {settings settings' : Settings} {secret secret' : Secret}
  {secrets secrets' : SecretRegistry}

theorem ofConnectionString_alike {cs cs' : ConnectionString} {transport transport' : Transport}
    (hcs : cs.LooksLike cs') (htransport : transport.LooksLike transport') :
    Alike LooksLike (ofConnectionString cs transport) (ofConnectionString cs' transport') := by
  rw [ofConnectionString, ofConnectionString, hcs.blobEndpoint_eq, hcs.usesDevelopmentStorage_eq,
    hcs.accountName_eq]
  split
  · exact .error _
  · exact .ok ⟨rfl, rfl, .connectionString hcs, htransport⟩

theorem credentialOf_looksLike {meaning meaning' : AzureSecret} (h : meaning.LooksLike meaning') :
    (credentialOf meaning).LooksLike (credentialOf meaning') := by
  cases h with
  | config h => exact .same .anonymous
  | credentialChain chain => exact .same (.chain chain)
  | servicePrincipal tenant client hauth =>
    cases hauth with
    | secret value value' => exact .clientSecret tenant client value value'
    | certificate path => exact .same (.clientCertificate tenant client path)

theorem fromSecret_alike (host : Host) (url : BlobUrl) (hsecret : secret.LooksLike secret')
    (hsettings : settings.LooksLike settings') :
    Alike LooksLike (fromSecret host settings secret url)
      (fromSecret host settings' secret' url) := by
  have haccount : accountFromSecret secret url = accountFromSecret secret' url := by
    rw [accountFromSecret, accountFromSecret, hsecret.require_eq (by decide)]
  have hurl (account : String) : urlOf account (endpointFromSecret secret url) =
      urlOf account (endpointFromSecret secret' url) := by
    rw [endpointFromSecret, endpointFromSecret, hsecret.get?_eq (by decide)]
  refine (AzureSecret.ofSecret_alike hsecret).bind fun meaning meaning' hmeaning ↦ ?_
  refine (Transport.resolve_alike host (.some hsecret) hsettings).bind
    fun transport transport' htransport ↦ ?_
  have hcredential := credentialOf_looksLike hmeaning
  cases hmeaning with
  | config hcs =>
    cases hcs with
    | none =>
      exact .bind_of_eq haccount fun account ↦ .ok ⟨rfl, hurl account, hcredential, htransport⟩
    | some hcs =>
      refine .bind_of_eq (hcs.matchesAccount_eq url.account) fun fits ↦ ?_
      cases fits with
      | true => exact ofConnectionString_alike hcs htransport
      | false => exact .error _
  | credentialChain chain =>
    exact .bind_of_eq haccount fun account ↦ .ok ⟨rfl, hurl account, hcredential, htransport⟩
  | servicePrincipal tenant client hauth =>
    exact .bind_of_eq haccount fun account ↦ .ok ⟨rfl, hurl account, hcredential, htransport⟩

theorem fittingConnectionString_alike (url : BlobUrl) (hsettings : settings.LooksLike settings') :
    Alike (Option.Rel ConnectionString.LooksLike) (fittingConnectionString settings url)
      (fittingConnectionString settings' url) := by
  have hraw := hsettings.nonBlank_rel Settings.storageConnectionString
  rw [fittingConnectionString, fittingConnectionString]
  generalize Settings.nonBlank (settings.get? Settings.storageConnectionString) = raw at hraw ⊢
  generalize Settings.nonBlank (settings'.get? Settings.storageConnectionString) = raw' at hraw ⊢
  cases hraw with
  | none => exact .ok .none
  | @some raw raw' hraw =>
    have hcs : (ConnectionString.parse raw).LooksLike (.parse raw') :=
      hraw.parse_looksLike (by decide)
    dsimp only
    rw [hcs.matchesAccount_eq]
    split
    · split
      · exact .ok (.some hcs)
      · exact .ok .none
    · exact .error _

theorem fromSettings_alike (host : Host) (url : BlobUrl) (hsettings : settings.LooksLike settings') :
    Alike LooksLike (fromSettings host settings url) (fromSettings host settings' url) := by
  have haccount : accountFromSettings settings url = accountFromSettings settings' url := by
    rw [accountFromSettings, accountFromSettings, hsettings.get?_eq (by decide)]
  have hcredential : credentialFromSettings settings = credentialFromSettings settings' := by
    rw [credentialFromSettings, credentialFromSettings, hsettings.get?_eq (by decide)]
  have hurl (account : String) : urlOf account (endpointFromSettings settings url) =
      urlOf account (endpointFromSettings settings' url) := by
    rw [endpointFromSettings, endpointFromSettings, hsettings.get?_eq (by decide)]
  refine (Transport.resolve_alike host .none hsettings).bind
    fun transport transport' htransport ↦ ?_
  refine (fittingConnectionString_alike url hsettings).bind fun found found' hfound ↦ ?_
  cases hfound with
  | some hcs => exact ofConnectionString_alike hcs htransport
  | none =>
    exact .bind_of_eq haccount fun account ↦ .bind_of_eq hcredential fun credential ↦
      .ok ⟨rfl, hurl account, .same credential, htransport⟩

/-- **What is hidden decides nothing.**  In sessions that look alike, what cannot be resolved fails
for the same reason, and what is resolved looks alike. -/
theorem resolve_alike (host : Host) (hsettings : settings.LooksLike settings')
    (hsecrets : secrets.LooksLike secrets') (path : String) (url : BlobUrl) :
    Alike LooksLike (resolve host settings secrets path url)
      (resolve host settings' secrets' path url) := by
  have hfound := hsecrets.lookup_rel path Secret.azureType
  rw [resolve, resolve]
  generalize secrets.lookup path Secret.azureType = found at hfound ⊢
  generalize secrets'.lookup path Secret.azureType = found' at hfound ⊢
  cases hfound with
  | some hsecret => exact fromSecret_alike host url hsecret hsettings
  | none => exact fromSettings_alike host url hsettings

/-- **Descriptions do not show what is hidden.**  In sessions that look alike, what is resolved has
one description, and so have its credential and its transport; what is not resolved fails for one
reason.  The secret that the path finds has one description too, and so has what it means. -/
theorem debug_of_looksLike (host : Host) (hsettings : settings.LooksLike settings')
    (hsecrets : secrets.LooksLike secrets') (path : String) (url : BlobUrl) :
    Alike (fun spec spec' ↦ spec.debug = spec'.debug ∧
        spec.credential.debug = spec'.credential.debug ∧
        spec.transport.debug = spec'.transport.debug)
      (resolve host settings secrets path url) (resolve host settings' secrets' path url) ∧
    Option.Rel (fun secret secret' ↦ secret.debug = secret'.debug ∧
        Alike (fun meaning meaning' ↦ meaning.debug = meaning'.debug)
          (AzureSecret.ofSecret secret) (AzureSecret.ofSecret secret'))
      (secrets.lookup path Secret.azureType) (secrets'.lookup path Secret.azureType) := by
  constructor
  · exact (resolve_alike host hsettings hsecrets path url).imp fun spec spec' h ↦
      ⟨h.debug_eq, h.credential.debug_eq, h.transport.debug_eq⟩
  · exact rel_imp (hsecrets.lookup_rel path Secret.azureType) fun secret secret' h ↦
      ⟨h.debug_eq, (AzureSecret.ofSecret_alike h).imp fun _ _ hmeaning ↦ hmeaning.debug_eq⟩

/-! ### Two sessions with different keys and passwords -/

/-- Settings with a proxy that asks for a password. -/
def settingsWithPassword (password : String) : Settings :=
  .ofList [(Settings.httpProxy, "proxy:3128"), (Settings.proxyPassword, password)]

/-- A secret with a connection string and nothing else. -/
def keyedSecret (connectionString : String) : Secret :=
  { name := "keyed", type := Secret.azureType, provider := "config", scope := ["az://c/"]
    values := .ofList [("connection_string", connectionString)] }

theorem settingsWithPassword_looksLike {password password' : String}
    (h : Settings.masking.isSet password = true) (h' : Settings.masking.isSet password' = true) :
    (settingsWithPassword password).LooksLike (settingsWithPassword password') := by
  intro key
  by_cases hpassword : key = Settings.proxyPassword
  · subst hpassword
    exact .some (.hidden (by decide) h h')
  · by_cases hproxy : key = Settings.httpProxy
    · subst hproxy
      exact .some (.same _)
    · simp [settingsWithPassword, Entries.ofList, hpassword, hproxy]

theorem keyedSecret_looksLike {raw raw' : String} (h : ConnectionString.SameText raw raw') :
    (keyedSecret raw).LooksLike (keyedSecret raw') := by
  refine ⟨rfl, rfl, rfl, rfl, fun key ↦ ?_⟩
  by_cases hkey : key = "connection_string"
  · subst hkey
    exact .some (.connectionString rfl h)
  · simp [keyedSecret, Entries.ofList, hkey]

/-- The connection that these make. -/
def keyedConnection (pairs : List (String × String)) (password : String) : ConnectionSpec :=
  { accountName := "acct"
    accountUrl := "https://acct.blob.core.windows.net"
    credential := .connectionString ⟨("AccountName", "acct") :: pairs⟩
    transport :=
      { kind := .default
        proxy := some { host := "proxy:3128", userName := none, password := some password }
        caInfo := none
        caPath := none } }

/-- A connection string with its key in an odd letter case, and an empty one after it. -/
def oneKey : String := "AccountName=acct;accountKEY=a2V5;AccountKey="

/-- The same with other keys. -/
def otherKeys : String := "AccountName=acct;accountKEY=c3BhcmU=;AccountKey=b2xk"

theorem oneKey_sameText : ConnectionString.SameText oneKey otherKeys := by
  have hone : Text.pieces ';' oneKey = ["AccountName=acct", "accountKEY" ++ "=" ++ "a2V5",
      "AccountKey" ++ "=" ++ ""] := by decide
  have hother : Text.pieces ';' otherKeys = ["AccountName=acct", "accountKEY" ++ "=" ++ "c3BhcmU=",
      "AccountKey" ++ "=" ++ "b2xk"] := by decide
  rw [ConnectionString.SameText, hone, hother]
  exact .cons (.same _) (.cons (.hidden _ _ (by decide) (by decide))
    (.cons (.hidden _ _ (by decide) (by decide)) .nil))

/-- A blob that any secret for its container reaches. -/
def blobInContainer : BlobUrl :=
  { scheme := .az, authority := none, container := "c", path := "x" }

/-- A key is hidden in any letter case and wherever it stands, and so is a password. -/
theorem keys_and_passwords_are_hidden :
    let spec := keyedConnection [("accountKEY", "a2V5"), ("AccountKey", "")] "open"
    let spec' := keyedConnection [("accountKEY", "c3BhcmU="), ("AccountKey", "b2xk")] "sesame"
    (settingsWithPassword "open").LooksLike (settingsWithPassword "sesame") ∧
      SecretRegistry.LooksLike ⟨[keyedSecret oneKey]⟩ ⟨[keyedSecret otherKeys]⟩ ∧
      resolve .empty (settingsWithPassword "open") ⟨[keyedSecret oneKey]⟩ "az://c/x"
        blobInContainer = .ok spec ∧
      resolve .empty (settingsWithPassword "sesame") ⟨[keyedSecret otherKeys]⟩ "az://c/x"
        blobInContainer = .ok spec' ∧
      spec.debug = spec'.debug ∧
      (keyedSecret oneKey).debug = (keyedSecret otherKeys).debug := by
  intro spec spec'
  have hsettings : (settingsWithPassword "open").LooksLike (settingsWithPassword "sesame") :=
    settingsWithPassword_looksLike (by decide) (by decide)
  have hsecrets : SecretRegistry.LooksLike ⟨[keyedSecret oneKey]⟩ ⟨[keyedSecret otherKeys]⟩ :=
    .cons (keyedSecret_looksLike oneKey_sameText) .nil
  have hspec : resolve .empty (settingsWithPassword "open") ⟨[keyedSecret oneKey]⟩ "az://c/x"
      blobInContainer = .ok spec := rfl
  have hspec' : resolve .empty (settingsWithPassword "sesame") ⟨[keyedSecret otherKeys]⟩ "az://c/x"
      blobInContainer = .ok spec' := rfl
  obtain ⟨halike, hfound⟩ := debug_of_looksLike .empty hsettings hsecrets "az://c/x" blobInContainer
  rw [hspec, hspec'] at halike
  cases halike with
  | ok hdebug =>
    cases hfound with
    | some hsecret => exact ⟨hsettings, hsecrets, hspec, hspec', hdebug.1, hsecret.1⟩

end ConnectionSpec

end BlobFs

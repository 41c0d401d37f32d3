import BlobFs.Proofs.Outcome
import BlobFs.Resolve

/-!
# Whom a connection speaks to, and as whom

A connection is resolved from a secret or from the settings, and either way from a connection string
or from an account, an endpoint and a credential that are named apart.  This file says what every
connection that is resolved has in common.

* `Secret.AsksFor` and `Settings.AskFor` — the credential that a secret or the settings ask for, as
  rules.  `Secret.Unusable` are the secrets that ask for none.
* `ConnectionSpec.Reaches` — how a connection comes by its account: a connection string that fits
  the account of the URL speaks for itself, and else the URL's account is the connection's.
* `asksFor_of_fromSecret` and `askFor_of_fromSettings` — whatever is resolved is asked for and
  reaches the account in one of these ways.

The two results follow.  A URL that names an account gets that account, unless a connection string
of it sends it to the storage emulator (`accountName_of_resolve`).  A connection has the credential
that was asked for, so it is anonymous only if nothing was asked for, and a secret that is not
usable is an error (`credential_of_resolve`).
-/

set_option autoImplicit false

namespace BlobFs

/-! ## Connection strings that fit an account -/

namespace ConnectionString

variable {cs : ConnectionString} {account : String}

theorem matchesAccount_eq_true_iff :
    cs.matchesAccount account = .ok true ↔ account = "" ∨ cs.accountName = some account := by
  rw [matchesAccount]
  by_cases haccount : account = ""
  · simp [haccount]
  · cases hname : cs.accountName <;> simp [haccount]

theorem matchesAccount_eq_false_iff :
    cs.matchesAccount account = .ok false ↔
      account ≠ "" ∧ ∃ name, cs.accountName = some name ∧ name ≠ account := by
  rw [matchesAccount]
  by_cases haccount : account = ""
  · simp [haccount]
  · cases hname : cs.accountName <;> simp [haccount]

end ConnectionString

/-- Whether the storage emulator is meant. -/
def Credential.usesDevelopmentStorage : Credential → Bool
  | .connectionString cs => cs.usesDevelopmentStorage
  | _ => false

/-! ## What is asked for -/

/-- The credential that a secret asks for. -/
inductive Secret.AsksFor (s : Secret) : Credential → Prop
  | connectionString {raw : String} (provider : s.provider = "config")
      (value : s.get? "connection_string" = some raw) :
      AsksFor s (.connectionString (.parse raw))
  | anonymous (provider : s.provider = "config") (value : s.get? "connection_string" = none) :
      AsksFor s .anonymous
  | chain {sources : List ChainSource} (provider : s.provider = "credential_chain")
      (value : ChainSource.parseChain ((s.get? "chain").getD "default") = .ok sources) :
      AsksFor s (.chain sources)
  | clientSecret {tenant client value : String} (provider : s.provider = "service_principal")
      (tenantValue : s.get? "tenant_id" = some tenant)
      (clientValue : s.get? "client_id" = some client)
      (secretValue : s.get? "client_secret" = some value) :
      AsksFor s (.clientSecret tenant client value)
  | clientCertificate {tenant client path : String} (provider : s.provider = "service_principal")
      (tenantValue : s.get? "tenant_id" = some tenant)
      (clientValue : s.get? "client_id" = some client)
      (noSecret : s.get? "client_secret" = none)
      (pathValue : s.get? "client_certificate_path" = some path) :
      AsksFor s (.clientCertificate tenant client path)

/-- A secret that asks for no credential: its provider is not known, its chain names a source that
is not known, or its service principal is not complete. -/
inductive Secret.Unusable (s : Secret) : Prop
  | provider (unknown : s.provider ∉ ["config", "credential_chain", "service_principal"])
  | chain {item : String} (provider : s.provider = "credential_chain")
      (named : item ∈ ChainSource.chainItems ((s.get? "chain").getD "default"))
      (unknown : ChainSource.ofName? item = none)
  | tenant (provider : s.provider = "service_principal") (missing : s.get? "tenant_id" = none)
  | client (provider : s.provider = "service_principal") (missing : s.get? "client_id" = none)
  | auth (provider : s.provider = "service_principal")
      (noSecret : s.get? "client_secret" = none)
      (noCertificate : s.get? "client_certificate_path" = none)

/-- The settings have no connection string, or one of another account than the one asked for. -/
def Settings.PassesOver (settings : Settings) (account : String) : Prop :=
  ∀ raw, Settings.nonBlank (settings.get? Settings.storageConnectionString) = some raw →
    account ≠ "" ∧ ∃ name, (ConnectionString.parse raw).accountName = some name ∧ name ≠ account

/-- The credential that the settings ask for, for a URL that names `account`. -/
inductive Settings.AskFor (settings : Settings) (account : String) : Credential → Prop
  | connectionString {raw : String}
      (value : Settings.nonBlank (settings.get? Settings.storageConnectionString) = some raw)
      (fits : account = "" ∨ (ConnectionString.parse raw).accountName = some account) :
      AskFor settings account (.connectionString (.parse raw))
  | chain {raw : String} {sources : List ChainSource} (passed : settings.PassesOver account)
      (value : Settings.nonBlank (settings.get? Settings.credentialChain) = some raw)
      (known : ChainSource.parseChain raw = .ok sources) :
      AskFor settings account (.chain sources)
  | anonymous (passed : settings.PassesOver account)
      (value : Settings.nonBlank (settings.get? Settings.credentialChain) = none) :
      AskFor settings account .anonymous

/-- A secret asks for no credential only if it is a plain configuration without a connection
string. -/
theorem Secret.AsksFor.eq_anonymous_iff {s : Secret} {credential : Credential}
    (h : s.AsksFor credential) :
    credential = .anonymous ↔ s.provider = "config" ∧ s.get? "connection_string" = none := by
  cases h with
  | connectionString provider value => simp [value]
  | anonymous provider value => simp [provider, value]
  | chain provider value => simp [provider]
  | clientSecret provider tenantValue clientValue secretValue => simp [provider]
  | clientCertificate provider tenantValue clientValue noSecret pathValue => simp [provider]

/-- The settings ask for no credential only if they have neither a connection string that counts nor
a chain. -/
theorem Settings.AskFor.eq_anonymous_iff {settings : Settings} {account : String}
    {credential : Credential} (h : settings.AskFor account credential) :
    credential = .anonymous ↔
      Settings.nonBlank (settings.get? Settings.credentialChain) = none ∧
        settings.PassesOver account := by
  cases h with
  | @connectionString raw value fits =>
    have hnot : ¬ settings.PassesOver account := by
      intro passed
      obtain ⟨hne, name, hname, hother⟩ := passed raw value
      rcases fits with rfl | hfits
      · exact hne rfl
      · exact hother (Option.some.inj (hname.symm.trans hfits))
    simp [hnot]
  | chain passed value known => simp [value]
  | anonymous passed value => simp [value, passed]

/-! ## Reading a secret -/

theorem Secret.require_eq_ok_iff {s : Secret} {key value : String} :
    s.require key = .ok value ↔ s.get? key = some value := by
  rw [require]
  cases s.get? key <;> simp

namespace AzureSecret

/-- A service principal that can be read is asked for with its identity and a proof of it. -/
theorem asksFor_of_principal {s : Secret} {meaning : AzureSecret}
    (hprovider : s.provider = "service_principal") (h : principal s = .ok meaning) :
    (∀ cs, meaning ≠ .config (some cs)) ∧ s.AsksFor (ConnectionSpec.credentialOf meaning) := by
  obtain ⟨tenant, htenant, h⟩ := exists_of_bind_eq_ok h
  obtain ⟨client, hclient, h⟩ := exists_of_bind_eq_ok h
  obtain ⟨auth, hauth, h⟩ := exists_of_bind_eq_ok h
  rw [Secret.require_eq_ok_iff] at htenant hclient
  cases h
  refine ⟨nofun, ?_⟩
  rw [clientAuth] at hauth
  split at hauth
  · next value _ hsecret =>
    cases hauth
    exact .clientSecret hprovider htenant hclient hsecret
  · next path hsecret hpath =>
    cases hauth
    exact .clientCertificate hprovider htenant hclient hsecret hpath
  · cases hauth

/-- What a secret means is what it asks for. -/
theorem asksFor_of_ofSecret {s : Secret} {meaning : AzureSecret} (h : ofSecret s = .ok meaning) :
    (∃ cs, meaning = .config (some cs) ∧ s.AsksFor (.connectionString cs)) ∨
      (∀ cs, meaning ≠ .config (some cs)) ∧ s.AsksFor (ConnectionSpec.credentialOf meaning) := by
  rw [ofSecret] at h
  split at h
  · next hprovider =>
    cases h
    cases hvalue : s.get? "connection_string" with
    | some raw => exact .inl ⟨.parse raw, rfl, .connectionString hprovider hvalue⟩
    | none => exact .inr ⟨nofun, .anonymous hprovider hvalue⟩
  · next hprovider =>
    split at h
    · next sources hsources =>
      cases h
      exact .inr ⟨nofun, .chain hprovider hsources⟩
    · cases h
  · next hprovider => exact .inr (asksFor_of_principal hprovider h)
  · cases h

end AzureSecret

/-- A chain with an unknown name cannot be read. -/
theorem ChainSource.parseChain_ne_ok {raw item : String} (hitem : item ∈ chainItems raw)
    (hunknown : ofName? item = none) (sources : List ChainSource) : parseChain raw ≠ .ok sources := by
  have hnames (names : List String) (hmem : item ∈ names) (sources : List ChainSource) :
      ofNames names ≠ .ok sources := by
    induction names generalizing sources with
    | nil => cases hmem
    | cons first rest ih =>
      rw [ofNames]
      cases hfirst : ofName? first with
      | none => exact nofun
      | some source =>
        have hrest : item ∈ rest := by
          rcases List.mem_cons.1 hmem with rfl | hrest
          · rw [hfirst] at hunknown
            cases hunknown
          · exact hrest
        cases hread : ofNames rest with
        | error e => exact nofun
        | ok found => exact absurd hread (ih hrest found)
  rw [parseChain]
  cases hread : ofNames (chainItems raw) with
  | error e => exact nofun
  | ok found => exact absurd hread (hnames _ hitem found)

/-- A secret that is not usable asks for nothing. -/
theorem Secret.Unusable.not_asksFor {s : Secret} (h : s.Unusable) (credential : Credential) :
    ¬ s.AsksFor credential := by
  intro hasks
  cases h with
  | provider unknown => cases hasks <;> simp_all
  | chain provider named unknown =>
    cases hasks with
    | chain _ value => exact ChainSource.parseChain_ne_ok named unknown _ value
    | _ => simp_all
  | tenant provider missing => cases hasks <;> simp_all
  | client provider missing => cases hasks <;> simp_all
  | auth provider noSecret noCertificate => cases hasks <;> simp_all

/-- A secret that is not usable cannot be read. -/
theorem Secret.Unusable.ofSecret_eq_error {s : Secret} (h : s.Unusable) :
    ∃ e, AzureSecret.ofSecret s = .error e := by
  cases hread : AzureSecret.ofSecret s with
  | error e => exact ⟨e, rfl⟩
  | ok meaning =>
    rcases AzureSecret.asksFor_of_ofSecret hread with ⟨cs, -, hasks⟩ | ⟨-, hasks⟩
    · exact absurd hasks (h.not_asksFor _)
    · exact absurd hasks (h.not_asksFor _)

/-! ## What is resolved -/

namespace ConnectionSpec

/-- How a connection comes by its account: by a connection string that fits the account of the URL,
or by the URL's account itself where it names one. -/
inductive Reaches (spec : ConnectionSpec) (account : String) : Prop
  | byString {cs : ConnectionString} (credential : spec.credential = .connectionString cs)
      (fits : account = "" ∨ cs.accountName = some account)
      (named : spec.accountName =
        if cs.usesDevelopmentStorage then ConnectionString.developmentAccount
        else cs.accountName.getD "")
  | byName (noString : ∀ cs, spec.credential ≠ .connectionString cs)
      (named : account ≠ "" → spec.accountName = account)

variable {host : Host} {settings : Settings} {secrets : SecretRegistry} {secret : Secret}
  {path account : String} {url : BlobUrl} {spec : ConnectionSpec}

theorem credentialOf_ne_connectionString (meaning : AzureSecret) (cs : ConnectionString) :
    credentialOf meaning ≠ .connectionString cs := by
  rw [credentialOf.eq_def]
  split <;> exact nofun

/-- A connection string that fits the account speaks for itself. -/
theorem reaches_of_ofConnectionString {cs : ConnectionString} {transport : Transport}
    (hfits : cs.matchesAccount account = .ok true) (h : ofConnectionString cs transport = .ok spec) :
    spec.credential = .connectionString cs ∧ spec.Reaches account := by
  rw [ofConnectionString] at h
  split at h
  · cases h
  · cases h
    exact ⟨rfl, .byString rfl (ConnectionString.matchesAccount_eq_true_iff.1 hfits) rfl⟩

/-- **What a secret decides is what it asks for**, and it reaches the account. -/
theorem asksFor_of_fromSecret (h : fromSecret host settings secret url = .ok spec) :
    secret.AsksFor spec.credential ∧ spec.Reaches url.account := by
  obtain ⟨meaning, hmeaning, hrest⟩ := exists_of_bind_eq_ok h
  obtain ⟨transport, -, hdecided⟩ := exists_of_bind_eq_ok hrest
  rcases AzureSecret.asksFor_of_ofSecret hmeaning with ⟨cs, rfl, hasks⟩ | ⟨hplain, hasks⟩
  · obtain ⟨fits, hfits, hmade⟩ := exists_of_bind_eq_ok hdecided
    cases fits with
    | false => cases hmade
    | true =>
      obtain ⟨hcredential, hreaches⟩ := reaches_of_ofConnectionString hfits hmade
      exact ⟨hcredential ▸ hasks, hreaches⟩
  · split at hdecided
    · next cs => exact absurd rfl (hplain cs)
    · obtain ⟨account, haccount, hmade⟩ := exists_of_bind_eq_ok hdecided
      cases hmade
      refine ⟨hasks, .byName (credentialOf_ne_connectionString meaning) fun hne ↦ ?_⟩
      rw [accountFromSecret, if_neg (by simpa using hne)] at haccount
      exact (Except.ok.inj haccount).symm

/-- A connection string among the settings that counts is one that fits; if none counts, there is
none, or one of another account. -/
theorem fittingConnectionString_eq_ok {found : Option ConnectionString}
    (h : fittingConnectionString settings url = .ok found) :
    (∃ raw, found = some (.parse raw) ∧
      Settings.nonBlank (settings.get? Settings.storageConnectionString) = some raw ∧
      (ConnectionString.parse raw).matchesAccount url.account = .ok true) ∨
    found = none ∧ settings.PassesOver url.account := by
  rw [fittingConnectionString] at h
  split at h
  · next hnone =>
    cases h
    exact .inr ⟨rfl, fun raw hraw ↦ by rw [hnone] at hraw; cases hraw⟩
  next raw hraw =>
  dsimp only at h
  split at h
  · next fits hfits =>
    cases h
    cases fits with
    | true => exact .inl ⟨raw, rfl, hraw, hfits⟩
    | false =>
      refine .inr ⟨rfl, fun other hother ↦ ?_⟩
      cases hraw.symm.trans hother
      exact ConnectionString.matchesAccount_eq_false_iff.1 hfits
  · cases h

/-- Where no connection string counts, the settings ask for a chain or for nothing. -/
theorem askFor_of_credentialFromSettings {credential : Credential}
    (hpassed : settings.PassesOver account) (h : credentialFromSettings settings = .ok credential) :
    settings.AskFor account credential ∧ ∀ cs, credential ≠ .connectionString cs := by
  rw [credentialFromSettings] at h
  split at h
  · next hnone =>
    cases h
    exact ⟨.anonymous hpassed hnone, nofun⟩
  next raw hraw =>
  split at h
  · next sources hsources =>
    cases h
    exact ⟨.chain hpassed hraw hsources, nofun⟩
  · cases h

/-- **What the settings decide is what they ask for**, and it reaches the account. -/
theorem askFor_of_fromSettings (h : fromSettings host settings url = .ok spec) :
    settings.AskFor url.account spec.credential ∧ spec.Reaches url.account := by
  obtain ⟨transport, -, hrest⟩ := exists_of_bind_eq_ok h
  obtain ⟨found, hfound, hdecided⟩ := exists_of_bind_eq_ok hrest
  rcases fittingConnectionString_eq_ok hfound with ⟨raw, rfl, hraw, hfits⟩ | ⟨rfl, hpassed⟩
  · obtain ⟨hcredential, hreaches⟩ := reaches_of_ofConnectionString hfits hdecided
    rw [hcredential]
    exact ⟨.connectionString hraw (ConnectionString.matchesAccount_eq_true_iff.1 hfits), hreaches⟩
  · obtain ⟨account, haccount, hnamed⟩ := exists_of_bind_eq_ok hdecided
    obtain ⟨credential, hcredential, hmade⟩ := exists_of_bind_eq_ok hnamed
    cases hmade
    obtain ⟨hasks, hnoString⟩ := askFor_of_credentialFromSettings hpassed hcredential
    refine ⟨hasks, .byName hnoString fun hne ↦ ?_⟩
    rw [accountFromSettings, if_neg (by simpa using hne)] at haccount
    exact (Except.ok.inj haccount).symm

/-- The credential asked for by what decides on a path: the secret that it finds, else the settings.
-/
def Asked (settings : Settings) (secrets : SecretRegistry) (path : String) (url : BlobUrl)
    (credential : Credential) : Prop :=
  match secrets.lookup path Secret.azureType with
  | some secret => secret.AsksFor credential
  | none => settings.AskFor url.account credential

theorem asked_of_resolve (h : resolve host settings secrets path url = .ok spec) :
    Asked settings secrets path url spec.credential ∧ spec.Reaches url.account := by
  rw [resolve] at h
  rw [Asked]
  cases hsecret : secrets.lookup path Secret.azureType with
  | some secret =>
    rw [hsecret] at h
    exact asksFor_of_fromSecret h
  | none =>
    rw [hsecret] at h
    exact askFor_of_fromSettings h

/-! ## The account -/

/-- **A URL that names an account gets that account.**  The connection has the account of the URL,
but for a connection string that means the storage emulator, which has an account of its own.  Even
that connection string, like any other, is one for the account of the URL. -/
theorem accountName_of_resolve (hne : url.account ≠ "")
    (h : resolve host settings secrets path url = .ok spec) :
    (spec.accountName = if spec.credential.usesDevelopmentStorage then
        ConnectionString.developmentAccount
      else url.account) ∧
    ∀ cs, spec.credential = .connectionString cs → cs.accountName = some url.account := by
  cases (asked_of_resolve h).2 with
  | @byString cs credential fits named =>
    have hname : cs.accountName = some url.account := fits.resolve_left hne
    constructor
    · rw [named, credential, hname]
      rfl
    · intro other hother
      cases credential.symm.trans hother
      exact hname
  | byName noString named =>
    constructor
    · rw [named hne]
      cases hcredential : spec.credential with
      | connectionString cs => exact absurd hcredential (noString cs)
      | _ => rfl
    · exact fun cs hcs ↦ absurd hcs (noString cs)

/-! ### A connection string that means the emulator -/

/-- A blob of the account `acct`. -/
def blobOfAcct : BlobUrl :=
  { scheme := .az, authority := some { account := "acct", endpoint := "one.example" }
    container := "c", path := "x" }

/-- Settings with a connection string and nothing else. -/
def settingsWith (connectionString : String) : Settings :=
  .ofList [(Settings.storageConnectionString, connectionString)]

/-- A secret with a connection string of `acct`, for the blobs of that account. -/
def secretOfAcct : Secret :=
  { name := "own", type := Secret.azureType, provider := "config", scope := ["az://acct."]
    values := .ofList [("connection_string", "AccountKey=a2V5==; accountname = acct ")] }

/-- The connection that a credential makes to `acct`, when nothing is said of the transport. -/
def connectionToAcct (accountName accountUrl : String) (credential : Credential) : ConnectionSpec :=
  { accountName, accountUrl, credential
    transport := { kind := .default, proxy := none, caInfo := none, caPath := none } }

/-- With a secret of its own, the account is reached whatever connection string is set. -/
theorem acct_by_its_own_secret :
    let spec := connectionToAcct "acct" "https://acct.blob.core.windows.net"
      (.connectionString ⟨[("AccountKey", "a2V5=="), ("accountname", "acct")]⟩)
    resolve .empty (settingsWith "UseDevelopmentStorage=true;AccountName=acct") ⟨[secretOfAcct]⟩
        "az://acct.one.example/c/x" blobOfAcct = .ok spec ∧
      spec.accountName = "acct" ∧
      ∀ cs, spec.credential = .connectionString cs → cs.accountName = some "acct" := by
  intro spec
  have hne : blobOfAcct.account ≠ "" := by decide
  have hspec : resolve .empty (settingsWith "UseDevelopmentStorage=true;AccountName=acct")
      ⟨[secretOfAcct]⟩ "az://acct.one.example/c/x" blobOfAcct = .ok spec := rfl
  exact ⟨hspec, accountName_of_resolve hne hspec⟩

/-- A connection string can be one of the account and send its blobs to the emulator. -/
theorem emulator_in_place_of_acct :
    BlobUrl.parse "az://acct.one.example/c/x" = .ok blobOfAcct ∧ blobOfAcct.account = "acct" ∧
    ∃ spec, resolve .empty (settingsWith "UseDevelopmentStorage=true;AccountName=acct") .empty
        "az://acct.one.example/c/x" blobOfAcct = .ok spec ∧
      spec.accountName ≠ "acct" :=
  ⟨rfl, rfl, _, rfl, by decide⟩

/-! ## The credential -/

/-- **A connection has the credential that was asked for.**  The secret that the path finds asks for
it, and only where it finds none do the settings.  So a connection is anonymous only if that secret
is a plain configuration without a connection string, or if there is no secret and the settings have
no chain and no connection string that counts.  A secret that is not usable is an error. -/
theorem credential_of_resolve (host : Host) (settings : Settings) (secrets : SecretRegistry)
    (path : String) (url : BlobUrl) :
    (∀ spec, resolve host settings secrets path url = .ok spec →
      Asked settings secrets path url spec.credential ∧
      (spec.credential = .anonymous ↔
        (∃ secret, secrets.lookup path Secret.azureType = some secret ∧
          secret.provider = "config" ∧ secret.get? "connection_string" = none) ∨
        secrets.lookup path Secret.azureType = none ∧
          Settings.nonBlank (settings.get? Settings.credentialChain) = none ∧
          settings.PassesOver url.account)) ∧
    ∀ secret, secrets.lookup path Secret.azureType = some secret → secret.Unusable →
      ∃ e, resolve host settings secrets path url = .error e := by
  refine ⟨fun spec h ↦ ?_, fun secret hsecret hunusable ↦ ?_⟩
  · have hasked := (asked_of_resolve h).1
    refine ⟨hasked, ?_⟩
    rw [Asked] at hasked
    cases hsecret : secrets.lookup path Secret.azureType with
    | some secret =>
      rw [hsecret] at hasked
      simpa using hasked.eq_anonymous_iff
    | none =>
      rw [hsecret] at hasked
      simpa using hasked.eq_anonymous_iff
  · obtain ⟨e, he⟩ := hunusable.ofSecret_eq_error
    exact ⟨e, by rw [resolve, hsecret]; simp only [fromSecret, he]; rfl⟩

/-- A secret with half a service principal. -/
def halfPrincipal : Secret :=
  { name := "half", type := Secret.azureType, provider := "service_principal", scope := []
    values := .ofList [("tenant_id", "t"), ("client_secret", "s"), ("client_id", "")] }

/-- A connection string of another account leaves the blob to be read anonymously; a secret that
lacks something does not. -/
theorem anonymous_but_not_for_half_a_principal :
    let settings := settingsWith "AccountName=other;AccountKey=a2V5"
    let spec := connectionToAcct "acct" "https://acct.one.example" .anonymous
    resolve .empty settings .empty "az://acct.one.example/c/x" blobOfAcct = .ok spec ∧
    spec.credential = .anonymous ∧
    ∃ e, resolve .empty settings ⟨[halfPrincipal]⟩ "az://acct.one.example/c/x" blobOfAcct =
      .error e := by
  intro settings spec
  have hspec : resolve .empty settings .empty "az://acct.one.example/c/x" blobOfAcct = .ok spec :=
    rfl
  have hpassed : settings.PassesOver blobOfAcct.account := by
    intro raw hraw
    cases hraw
    exact ⟨by decide, "other", rfl, by decide⟩
  obtain ⟨hfound, -⟩ := credential_of_resolve .empty settings .empty "az://acct.one.example/c/x"
    blobOfAcct
  obtain ⟨-, hunusable⟩ := credential_of_resolve .empty settings ⟨[halfPrincipal]⟩
    "az://acct.one.example/c/x" blobOfAcct
  exact ⟨hspec, (hfound spec hspec).2.2 (.inr ⟨rfl, rfl, hpassed⟩),
    hunusable halfPrincipal rfl (.client rfl rfl)⟩

end ConnectionSpec

end BlobFs

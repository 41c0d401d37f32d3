import BlobFs.Resolve

/-!
# What a resolution reads

A connection is resolved in a session with many settings and secrets, of which it reads few.  Of the
secrets it reads the one that the path finds.  If there is one, it reads only those settings that
say how requests travel (`Transport.settingsRead`); if there is none, it reads besides those the
settings that stand in for a secret (`ConnectionSpec.settingsRead`).

So two sessions that agree on what is read get the same connection, or the same failure, whatever
else they hold (`resolve_of_agreement`).  In particular a session's own credentials never make up
for what a secret lacks.
-/

set_option autoImplicit false

namespace BlobFs

/-- Two settings with the same values for these names. -/
def Settings.AgreeOn (names : List String) (settings settings' : Settings) : Prop :=
  ∀ name ∈ names, settings.get? name = settings'.get? name

/-- The same secret, in whatever order its values are held. -/
structure Secret.Same (s t : Secret) : Prop where
  name : s.name = t.name
  type : s.type = t.type
  provider : s.provider = t.provider
  scope : s.scope = t.scope
  values : ∀ key, s.values.get? key = t.values.get? key

theorem Secret.Same.get?_eq {s t : Secret} (h : s.Same t) (key : String) : s.get? key = t.get? key := by
  rw [get?, get?, h.values key]

theorem Settings.AgreeOn.mono {names fewer : List String} {settings settings' : Settings}
    (h : AgreeOn names settings settings') (hsubset : fewer ⊆ names) :
    AgreeOn fewer settings settings' :=
  fun name hname ↦ h name (hsubset hname)

/-! ## The settings that say how requests travel -/

namespace Transport

/-- The settings that a transport is resolved from. -/
def settingsRead : List String :=
  [Settings.transportOptionType, Settings.httpProxy, Settings.proxyUserName,
    Settings.proxyPassword]

variable {settings settings' : Settings} {secret secret' : Option Secret}

theorem proxyValue_congr {secretKey settingKey : String}
    (hsecret : (secret.bind fun s ↦ s.get? secretKey) = secret'.bind fun s ↦ s.get? secretKey)
    (hsetting : settings.get? settingKey = settings'.get? settingKey) :
    proxyValue settings secret secretKey settingKey =
      proxyValue settings' secret' secretKey settingKey := by
  rw [proxyValue, proxyValue, hsecret, hsetting]

theorem resolve_congr (host : Host)
    (hsecret : ∀ key, (secret.bind fun s ↦ s.get? key) = secret'.bind fun s ↦ s.get? key)
    (h : Settings.AgreeOn settingsRead settings settings') :
    resolve host settings secret = resolve host settings' secret' := by
  have hkind := h Settings.transportOptionType (by simp [settingsRead])
  have haddress := proxyValue_congr (hsecret "http_proxy")
    (h Settings.httpProxy (by simp [settingsRead]))
  have huser := proxyValue_congr (hsecret "proxy_user_name")
    (h Settings.proxyUserName (by simp [settingsRead]))
  have hpassword := proxyValue_congr (hsecret "proxy_password")
    (h Settings.proxyPassword (by simp [settingsRead]))
  have hproxy : resolveProxy host settings secret = resolveProxy host settings' secret' := by
    rw [resolveProxy, resolveProxy, haddress, huser, hpassword]
  rw [resolve, resolve, hkind, hproxy]

end Transport

/-! ## The settings that stand in for a secret -/

theorem AzureSecret.ofSecret_congr {s t : Secret} (h : s.Same t) : ofSecret s = ofSecret t := by
  simp only [ofSecret, principal, clientAuth, Secret.require, h.provider, h.name, h.get?_eq]

namespace ConnectionSpec

/-- The settings that a connection is resolved from when there is no secret. -/
def settingsRead : List String :=
  Transport.settingsRead ++ [Settings.storageConnectionString, Settings.credentialChain,
    Settings.accountName, Settings.endpoint]

variable {settings settings' : Settings}

/-- A secret leaves only the transport to the settings. -/
theorem fromSecret_congr (host : Host) {secret secret' : Secret} (url : BlobUrl)
    (hsecret : secret.Same secret')
    (h : Settings.AgreeOn Transport.settingsRead settings settings') :
    fromSecret host settings secret url = fromSecret host settings' secret' url := by
  have htransport : Transport.resolve host settings (some secret) =
      Transport.resolve host settings' (some secret') :=
    Transport.resolve_congr host (fun key ↦ hsecret.get?_eq key) h
  simp only [fromSecret, AzureSecret.ofSecret_congr hsecret, htransport, accountFromSecret,
    endpointFromSecret, Secret.require, hsecret.name, hsecret.get?_eq]

theorem fromSettings_congr (host : Host) (url : BlobUrl)
    (h : Settings.AgreeOn settingsRead settings settings') :
    fromSettings host settings url = fromSettings host settings' url := by
  have htransport : Transport.resolve host settings none = Transport.resolve host settings' none :=
    Transport.resolve_congr host (fun _ ↦ rfl)
      (h.mono (List.subset_append_left Transport.settingsRead _))
  have hstring := h Settings.storageConnectionString (by simp [settingsRead])
  have hchain := h Settings.credentialChain (by simp [settingsRead])
  have haccount := h Settings.accountName (by simp [settingsRead])
  have hendpoint := h Settings.endpoint (by simp [settingsRead])
  simp only [fromSettings, fittingConnectionString, accountFromSettings, credentialFromSettings,
    endpointFromSettings, htransport, hstring, hchain, haccount, hendpoint]

/-- **A resolution reads the secret that the path finds and few settings.**  Where two sessions on
one machine find the same secret for a path, it is enough that they agree on the transport; where
both find none, that they agree on what stands in for a secret too. -/
theorem resolve_of_agreement (host : Host) (settings settings' : Settings)
    (secrets secrets' : SecretRegistry) (path : String) (url : BlobUrl) :
    (∀ secret secret', secrets.lookup path Secret.azureType = some secret →
      secrets'.lookup path Secret.azureType = some secret' → secret.Same secret' →
      Settings.AgreeOn Transport.settingsRead settings settings' →
      resolve host settings secrets path url = resolve host settings' secrets' path url) ∧
    (secrets.lookup path Secret.azureType = none →
      secrets'.lookup path Secret.azureType = none →
      Settings.AgreeOn settingsRead settings settings' →
      resolve host settings secrets path url = resolve host settings' secrets' path url) := by
  constructor
  · intro secret secret' hfound hfound' hsame hagree
    rw [resolve, resolve, hfound, hfound']
    exact fromSecret_congr host url hsame hagree
  · intro hnone hnone' hagree
    rw [resolve, resolve, hnone, hnone']
    exact fromSettings_congr host url hagree

/-! ### Two sessions that differ in all that is not read -/

/-- A secret for the blobs below `scope`. -/
def chainSecret (name type : String) (scope : List String) (values : List (String × String)) :
    Secret :=
  { name, type, provider := "credential_chain", scope, values := .ofList values }

/-- The settings of a session that has a connection string of its own. -/
def settingsWithString : Settings :=
  .ofList [(Settings.storageConnectionString, "AccountName=acct;AccountKey=a2V5"),
    (Settings.httpProxy, "proxy:3128")]

/-- The settings of a session that asks for a chain, with the same proxy. -/
def settingsWithChain : Settings :=
  .ofList [(Settings.httpProxy, "proxy:3128"), (Settings.credentialChain, "env"),
    (Settings.accountName, "other")]

/-- Neither the connection string or the chain that is set nor further secrets change what a secret
decides; a secret of another type changes nothing either. -/
theorem same_whatever_else_is_held :
    let url : BlobUrl := { scheme := .az, authority := none, container := "c", path := "x" }
    let own := chainSecret "own" Secret.azureType ["az://c/"]
      [("chain", "cli"), ("account_name", "acct")]
    let again := chainSecret "own" Secret.azureType ["az://c/"]
      [("account_name", "acct"), ("chain", "cli")]
    let wide := chainSecret "wide" Secret.azureType [] [("account_name", "wide")]
    let foreign := chainSecret "foreign" "s3" ["az://c/x"] [("account_name", "foreign")]
    resolve .empty settingsWithString ⟨[own]⟩ "az://c/x" url =
        resolve .empty settingsWithChain ⟨[wide, foreign, again]⟩ "az://c/x" url ∧
      resolve .empty settingsWithChain .empty "az://c/x" url =
        resolve .empty settingsWithChain ⟨[foreign]⟩ "az://c/x" url := by
  intro url own again wide foreign
  have hsame : own.Same again := by
    refine ⟨rfl, rfl, rfl, rfl, fun key ↦ ?_⟩
    by_cases hchain : key = "chain"
    · subst hchain
      rfl
    · by_cases haccount : key = "account_name" <;>
        simp [own, again, chainSecret, Entries.ofList, hchain, haccount]
  have hproxy : Settings.AgreeOn Transport.settingsRead settingsWithString settingsWithChain := by
    change ∀ name ∈ Transport.settingsRead, _
    decide
  exact ⟨(resolve_of_agreement .empty settingsWithString settingsWithChain ⟨[own]⟩
      ⟨[wide, foreign, again]⟩ "az://c/x" url).1 own again rfl rfl hsame hproxy,
    (resolve_of_agreement .empty settingsWithChain settingsWithChain .empty ⟨[foreign]⟩
      "az://c/x" url).2 rfl rfl fun _ _ ↦ rfl⟩

end ConnectionSpec

end BlobFs

import BlobFs.Proofs.Session.Contexts
import BlobFs.Service.Rehearsed

/-!
# What caching keeps

A session that keeps contexts keeps one for each account that a URL names, whatever else the URL and
the path say.  So along a run of accesses, with the settings and the secrets fixed, an access gets
the connection that was made for the first access to the same account for which one could be made
(`context_of_first_creation`), and fails only if none could be made for it and for all those before.

What was resolved for the first access need not be what would be resolved for a later one:
`one_account_two_endpoints` has two URLs with one account name, and the second is sent where the
first points.  It is the same if the two URLs agree on the endpoint and find the same secret
(`resolve_congr`); the options for reading are the same always, since they come from the settings.
-/

set_option autoImplicit false

namespace BlobFs

/-! ## What a connection is resolved from -/

/-- Besides the settings and the machine, a connection depends on the account, the endpoint and the
secret that the path finds. -/
theorem ConnectionSpec.resolve_congr (host : Host) (settings : Settings) (secrets : SecretRegistry)
    {path path' : String} {url url' : BlobUrl} (haccount : url.account = url'.account)
    (hendpoint : url.endpoint = url'.endpoint)
    (hsecret : secrets.lookup path Secret.azureType = secrets.lookup path' Secret.azureType) :
    resolve host settings secrets path url = resolve host settings secrets path' url' := by
  rw [resolve, resolve, hsecret]
  cases secrets.lookup path' Secret.azureType with
  | some secret =>
    simp only [fromSecret, accountFromSecret, endpointFromSecret, haccount, hendpoint]
  | none =>
    simp only [fromSettings, fittingConnectionString, accountFromSettings, endpointFromSettings,
      haccount, hendpoint]

namespace FileSystem

variable {σ κ : Type}

/-- A connection has what was resolved for its URL and the options of the settings. -/
theorem spec_of_create {service : BlobService σ κ} {host : Host} {secrets : SecretRegistry}
    {path : String} {url : BlobUrl} {scene : Scene σ κ} {connection : Connection κ}
    (h : (create service host secrets path url scene).1 = .ok connection) :
    ConnectionSpec.resolve host scene.session.settings secrets path url = .ok connection.spec ∧
      ReadOptions.ofSettings scene.session.settings = .ok connection.readOptions := by
  rw [create, connect] at h
  split at h
  · cases h
  next spec hspec =>
  split at h
  · cases h
  next options hoptions =>
  split at h
  · cases h
  · split at h
    · cases h
    · cases h
      exact ⟨hspec, hoptions⟩

/-! ## Runs of accesses -/

/-- An access to a blob: the URL as it was given, and taken apart. -/
structure Access where
  path : String
  url : BlobUrl

section

variable (service : BlobService σ κ) (host : Host) (secrets : SecretRegistry)

/-- The scene after some accesses in turn. -/
def accessAll (accesses : List Access) (scene : Scene σ κ) : Scene σ κ :=
  accesses.foldl (fun scene access ↦
    (contextFor service host secrets access.path access.url scene).2) scene

/-- For every access of a run, the connection that would be made for it at that point. -/
def creations : List Access → Scene σ κ → List (Access × Except StorageError (Connection κ))
  | [], _ => []
  | access :: rest, scene =>
    (access, (create service host secrets access.path access.url scene).1) ::
      creations rest (contextFor service host secrets access.path access.url scene).2

/-- The first access to an account for which a connection could be made, and the connection. -/
def firstCreation (account : String) (accesses : List Access) (scene : Scene σ κ) :
    Option (Access × Connection κ) :=
  (creations service host secrets accesses scene).findSome? fun (access, answer) ↦
    if access.url.account = account then answer.toOption.map fun connection ↦ (access, connection)
    else none

end

variable {service : BlobService σ κ} {host : Host} {secrets : SecretRegistry}

/-- An access leaves the session as it is, or keeps one more context for its account. -/
theorem session_contextFor (path : String) (url : BlobUrl) {scene : Scene σ κ}
    (hcaches : Caches scene.session) :
    (contextFor service host secrets path url scene).2.session =
      match scene.session.contexts.kept? url.account,
        (create service host secrets path url scene).1 with
      | none, .ok connection => { scene.session with
          contexts := scene.session.contexts.keep url.account connection }
      | _, _ => scene.session := by
  cases hkept : scene.session.contexts.kept? url.account with
  | some connection =>
    obtain ⟨id, hfor, -⟩ := contextFor_of_kept service host secrets path hcaches hkept
    rw [hfor]
  | none =>
    rcases hcreate : create service host secrets path url scene with ⟨e | connection, world⟩
    · rw [contextFor_of_not_created hcaches hkept hcreate]
    · rw [contextFor_of_created hcaches hkept hcreate]

/-- What stays the same along a run. -/
structure Steady (settings : Settings) (session : Session κ) : Prop where
  settings_eq : session.settings = settings
  caches : Caches session
  numbers : session.contexts.WellNumbered

theorem Steady.contextFor {settings : Settings} {scene : Scene σ κ}
    (h : Steady settings scene.session) (service : BlobService σ κ) (host : Host)
    (secrets : SecretRegistry) (path : String) (url : BlobUrl) :
    Steady settings (contextFor service host secrets path url scene).2.session := by
  rw [session_contextFor path url h.caches]
  split
  · exact ⟨h.settings_eq, h.caches, h.numbers.keep _ _⟩
  · exact h

/-- **What an access keeps**: for its own account, what was kept before or else what could be made
for it; for other accounts, what was kept before. -/
theorem kept?_contextFor {settings : Settings} {scene : Scene σ κ}
    (h : Steady settings scene.session) (path : String) (url : BlobUrl) (account : String) :
    (contextFor service host secrets path url scene).2.session.contexts.kept? account =
      (scene.session.contexts.kept? account).or (if url.account = account then
        (create service host secrets path url scene).1.toOption else none) := by
  rw [session_contextFor path url h.caches]
  cases hkept : scene.session.contexts.kept? url.account with
  | some connection =>
    by_cases ha : url.account = account
    · rw [← ha, hkept, Option.some_or]
    · rw [if_neg ha, Option.or_none]
  | none =>
    cases hcreate : (create service host secrets path url scene).1 with
    | error e => simp [Except.toOption]
    | ok connection =>
      dsimp only
      rw [ContextCache.kept?_keep h.numbers]
      by_cases ha : account = url.account
      · rw [if_pos ha, ha, hkept, if_pos rfl, Option.none_or, Except.toOption]
      · rw [if_neg ha, if_neg (Ne.symm ha), Option.or_none]

theorem firstCreation_cons (account : String) (access : Access) (rest : List Access)
    (scene : Scene σ κ) :
    firstCreation service host secrets account (access :: rest) scene =
      (if access.url.account = account then
        (create service host secrets access.path access.url scene).1.toOption.map
          fun connection ↦ (access, connection)
        else none).or
      (firstCreation service host secrets account rest
        (contextFor service host secrets access.path access.url scene).2) := by
  rw [firstCreation, creations, List.findSome?_cons]
  split
  · next found hfound =>
    dsimp only at hfound
    rw [hfound, Option.some_or]
  · next hfound =>
    dsimp only at hfound
    rw [hfound, Option.none_or, firstCreation]

theorem creations_append (earlier : List Access) (access : Access) (scene : Scene σ κ) :
    creations service host secrets (earlier ++ [access]) scene =
      creations service host secrets earlier scene ++
        [(access, (create service host secrets access.path access.url
          (accessAll service host secrets earlier scene)).1)] := by
  induction earlier generalizing scene with
  | nil => rfl
  | cons first rest ih =>
    rw [List.cons_append, creations, ih, creations, List.cons_append]
    rfl

/-- Along a run the first connection that could be made for an account is kept for it. -/
theorem kept?_accessAll {settings : Settings} (accesses : List Access) {scene : Scene σ κ}
    (h : Steady settings scene.session) (account : String) :
    (accessAll service host secrets accesses scene).session.contexts.kept? account =
      (scene.session.contexts.kept? account).or
        ((firstCreation service host secrets account accesses scene).map Prod.snd) := by
  induction accesses generalizing scene with
  | nil => rw [firstCreation, creations, List.findSome?_nil, Option.map_none, Option.or_none]; rfl
  | cons access rest ih =>
    have hstep := ih (h.contextFor service host secrets access.path access.url)
    rw [kept?_contextFor h, Option.or_assoc] at hstep
    rw [firstCreation_cons]
    refine hstep.trans ?_
    congr 1
    by_cases ha : access.url.account = account
    · rw [if_pos ha, if_pos ha]
      cases (create service host secrets access.path access.url scene).1.toOption <;> rfl
    · rw [if_neg ha, if_neg ha, Option.none_or, Option.none_or]

theorem Steady.accessAll {settings : Settings} (accesses : List Access) {scene : Scene σ κ}
    (h : Steady settings scene.session) :
    Steady settings (accessAll service host secrets accesses scene).session := by
  induction accesses generalizing scene with
  | nil => exact h
  | cons access rest ih => exact ih (h.contextFor service host secrets access.path access.url)

/-- What could be made at some point of a run has the settings' options and was resolved from its
own URL and path. -/
theorem spec_of_mem_creations {settings : Settings} {accesses : List Access} {scene : Scene σ κ}
    (h : Steady settings scene.session) {access : Access} {connection : Connection κ}
    (hmem : (access, .ok connection) ∈ creations service host secrets accesses scene) :
    access ∈ accesses ∧
      ConnectionSpec.resolve host settings secrets access.path access.url = .ok connection.spec ∧
      ReadOptions.ofSettings settings = .ok connection.readOptions := by
  induction accesses generalizing scene with
  | nil => cases hmem
  | cons first rest ih =>
    rcases List.mem_cons.1 hmem with heq | hrest
    · obtain ⟨rfl, hcreate⟩ := Prod.mk.inj heq
      rw [← h.settings_eq]
      exact ⟨List.mem_cons_self, spec_of_create hcreate.symm⟩
    · obtain ⟨hin, hspec⟩ := ih (h.contextFor service host secrets first.path first.url) hrest
      exact ⟨List.mem_cons_of_mem first hin, hspec⟩

theorem mem_creations_of_firstCreation {account : String} {accesses : List Access}
    {scene : Scene σ κ} {first : Access} {connection : Connection κ}
    (h : firstCreation service host secrets account accesses scene = some (first, connection)) :
    (first, .ok connection) ∈ creations service host secrets accesses scene ∧
      first.url.account = account := by
  obtain ⟨⟨access, answer⟩, hmem, hfound⟩ := List.exists_of_findSome?_eq_some h
  obtain ⟨ha, hfound⟩ := Option.ite_none_right_eq_some.1 hfound
  obtain ⟨made, hmade, heq⟩ := Option.map_eq_some_iff.1 hfound
  obtain ⟨rfl, rfl⟩ := Prod.mk.inj heq
  cases answer with
  | error e => cases hmade
  | ok made' =>
    cases hmade
    exact ⟨hmem, ha⟩

/-- The first connection that could be made for an account was resolved from its own URL and path,
and is what would be resolved for any access that agrees on the endpoint and finds the same secret.
-/
theorem resolve_of_firstCreation {settings : Settings} {account : String}
    {accesses : List Access} {scene : Scene σ κ} (h : Steady settings scene.session)
    {first : Access} {connection : Connection κ}
    (hfirst : firstCreation service host secrets account accesses scene =
      some (first, connection)) :
    first ∈ accesses ∧ first.url.account = account ∧
      ConnectionSpec.resolve host settings secrets first.path first.url = .ok connection.spec ∧
      ReadOptions.ofSettings settings = .ok connection.readOptions ∧
      ∀ access : Access, access.url.account = account → access.url.endpoint = first.url.endpoint →
        secrets.lookup access.path Secret.azureType =
          secrets.lookup first.path Secret.azureType →
        ConnectionSpec.resolve host settings secrets access.path access.url =
          .ok connection.spec := by
  obtain ⟨hmem, haccount⟩ := mem_creations_of_firstCreation hfirst
  obtain ⟨hin, hresolve, hoptions⟩ := spec_of_mem_creations h hmem
  refine ⟨hin, haccount, hresolve, hoptions, fun access ha hendpoint hsecret ↦ ?_⟩
  rw [← hresolve]
  exact ConnectionSpec.resolve_congr host settings secrets (ha.trans haccount.symm) hendpoint
    hsecret

/-- One access more may be the first. -/
theorem firstCreation_append (service : BlobService σ κ) (host : Host) (secrets : SecretRegistry)
    (earlier : List Access) (access : Access) (scene : Scene σ κ) :
    firstCreation service host secrets access.url.account (earlier ++ [access]) scene =
      (firstCreation service host secrets access.url.account earlier scene).or
        ((create service host secrets access.path access.url
          (accessAll service host secrets earlier scene)).1.toOption.map
            fun connection ↦ (access, connection)) := by
  rw [firstCreation, creations_append, List.findSome?_append, firstCreation,
    List.findSome?_singleton]
  simp

/-- **An access gets the first connection that could be made for its account.**  In a session that
keeps contexts and has none yet, with fixed settings and secrets, after any accesses:

* if a connection could be made for some access to the account so far, this one included, the
  context has the connection of the first of them, resolved from the URL and the path of that one.
  Its options for reading are those of the settings, and it is what would be resolved for this
  access if the two agree on the endpoint and find the same secret;
* if not, the access fails as making a connection for it fails. -/
theorem context_of_first_creation {settings : Settings} {scene : Scene σ κ}
    (h : Steady settings scene.session)
    (hfresh : ∀ account, scene.session.contexts.kept? account = none)
    (earlier : List Access) (access : Access) :
    let now := accessAll service host secrets earlier scene
    let answer := contextFor service host secrets access.path access.url now
    match firstCreation service host secrets access.url.account (earlier ++ [access]) scene with
    | some (first, connection) =>
      (∃ id, answer.1 = .ok id ∧ answer.2.session.contexts.connectionOf id = .ok connection) ∧
        first ∈ earlier ++ [access] ∧ first.url.account = access.url.account ∧
        ConnectionSpec.resolve host settings secrets first.path first.url = .ok connection.spec ∧
        ReadOptions.ofSettings settings = .ok connection.readOptions ∧
        (access.url.endpoint = first.url.endpoint →
          secrets.lookup access.path Secret.azureType =
            secrets.lookup first.path Secret.azureType →
          ConnectionSpec.resolve host settings secrets access.path access.url =
            .ok connection.spec)
    | none => ∃ e, answer.1 = .error e ∧
        (create service host secrets access.path access.url now).1 = .error e := by
  intro now answer
  have hnow : Steady settings now.session := h.accessAll earlier
  have hkept : now.session.contexts.kept? access.url.account =
      (firstCreation service host secrets access.url.account earlier scene).map Prod.snd := by
    rw [kept?_accessAll earlier h, hfresh, Option.none_or]
  have hsplit := firstCreation_append service host secrets earlier access scene
  cases hearlier : firstCreation service host secrets access.url.account earlier scene with
  | some found =>
    obtain ⟨first, connection⟩ := found
    rw [hearlier, Option.some_or] at hsplit
    rw [hearlier, Option.map_some] at hkept
    obtain ⟨id, hfor, hconnection⟩ :=
      contextFor_of_kept service host secrets access.path hnow.caches hkept
    obtain ⟨hin, haccount, hresolve, hoptions, hsame⟩ := resolve_of_firstCreation h hsplit
    have hanswer : answer = (.ok id, now) := hfor
    rw [hsplit, hanswer]
    exact ⟨⟨id, rfl, hconnection⟩, hin, haccount, hresolve, hoptions, hsame access rfl⟩
  | none =>
    rw [hearlier, Option.none_or] at hsplit
    rw [hearlier, Option.map_none] at hkept
    rcases hcreate : create service host secrets access.path access.url now with
      ⟨e | connection, world⟩
    · have hanswer : answer = _ := contextFor_of_not_created hnow.caches hkept hcreate
      rw [hcreate, Except.toOption, Option.map_none] at hsplit
      rw [hsplit, hanswer]
      exact ⟨e, rfl, rfl⟩
    · have hanswer : answer = _ := contextFor_of_created hnow.caches hkept hcreate
      rw [hcreate, Except.toOption, Option.map_some] at hsplit
      obtain ⟨hin, haccount, hresolve, hoptions, hsame⟩ := resolve_of_firstCreation h hsplit
      rw [hsplit, hanswer]
      exact ⟨⟨_, rfl, ContextCache.connectionOf_make _ connection⟩, hin, haccount, hresolve,
        hoptions, hsame access rfl⟩

/-! ### One account at two endpoints -/

/-- A new session over an empty store that refuses the first connections. -/
def refusingScene (refusals : Nat) : Scene MemoryWorld Unit :=
  { session := .new .empty
    world :=
      { store := { store := .empty, faults := [] }
        broken := []
        attempts := { specs := [], refusals, made := 0 } } }

/-- An access to a blob of the account `acct` at an endpoint. -/
def accessAt (endpoint : String) : Access :=
  { path := "az://acct." ++ endpoint ++ "/c/x"
    url := { scheme := .az, authority := some { account := "acct", endpoint }, container := "c"
             path := "x" } }

/-- The connection that is made for such an access. -/
def connectionTo (endpoint : String) : Connection Unit :=
  { client := ()
    spec :=
      { accountName := "acct"
        accountUrl := "https://acct." ++ endpoint
        credential := .anonymous
        transport := { kind := .default, proxy := none, caInfo := none, caPath := none } }
    readOptions := .standard
    recorded := false }

/-- After an access that is refused and one that is not, a third one gets the connection of the
second. -/
theorem third_access_after_refusal :
    let now := accessAll .inMemory .empty .empty
      [accessAt "one.example", accessAt "one.example"] (refusingScene 1)
    let answer := contextFor .inMemory .empty .empty (accessAt "two.example").path
      (accessAt "two.example").url now
    ∃ id, answer.1 = .ok id ∧
      answer.2.session.contexts.connectionOf id = .ok (connectionTo "one.example") := by
  intro now answer
  have hsteady : Steady .empty (refusingScene 1).session :=
    ⟨rfl, ⟨rfl, rfl⟩, ContextCache.wellNumbered_empty⟩
  have hfresh : ∀ account, (refusingScene 1).session.contexts.kept? account = none := fun _ ↦ rfl
  have hfirst : firstCreation .inMemory .empty .empty "acct"
      [accessAt "one.example", accessAt "one.example", accessAt "two.example"] (refusingScene 1) =
        some (accessAt "one.example", connectionTo "one.example") := rfl
  have hrun := @context_of_first_creation _ _ .inMemory .empty .empty _ _ hsteady hfresh
    [accessAt "one.example", accessAt "one.example"] (accessAt "two.example")
  dsimp only [List.cons_append, List.nil_append] at hrun
  rw [show (accessAt "two.example").url.account = "acct" from rfl, hfirst] at hrun
  exact hrun.1

/-- An access to another endpoint of the account gets a connection that is not the one that would be
made for it. -/
theorem one_account_two_endpoints :
    let now := accessAll .inMemory .empty .empty [accessAt "one.example"] (refusingScene 0)
    let later := accessAt "two.example"
    let answer := contextFor .inMemory .empty .empty later.path later.url now
    parseUrl later.path = .ok later.url ∧ Caches now.session ∧ answer.1 = .ok 0 ∧
      answer.2.session.contexts.connectionOf 0 = .ok (connectionTo "one.example") ∧
      (create .inMemory .empty .empty later.path later.url now).1 =
        .ok (connectionTo "two.example") ∧
      (connectionTo "one.example").spec.accountUrl ≠ (connectionTo "two.example").spec.accountUrl :=
  ⟨rfl, ⟨rfl, rfl⟩, rfl, rfl, rfl, by decide⟩

end FileSystem

end BlobFs

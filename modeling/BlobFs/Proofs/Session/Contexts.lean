import BlobFs.FileSystem
import BlobFs.Proofs.Service.Listing

/-!
# The contexts of a session

A cache of contexts is, for its users, a map from accounts to connections (`ContextCache.kept?`):
the numbers and the retired contexts in between do not show.  Making a context and keeping it for an
account changes that map at one account (`kept?_keep`, and `lookup_keep` with numbers).

`FileSystem.contextFor` is then two cases.  Where a connection is kept for the account of the URL,
its context is given and nothing happens (`contextFor_of_kept`).  Where none is, everything hangs on
`FileSystem.create`, which makes a connection for this very URL: what it makes is given and kept
(`contextFor_of_created`), and when it fails so does the access, and nothing is kept
(`contextFor_of_not_created`).  A session that keeps nothing (`Renews`) makes a connection for every
access.

A store in memory is not touched by any of this (`plain_of_world`), and once an account has been
connected to, it can be again (`exists_connectionFor_again`).
-/

set_option autoImplicit false

namespace BlobFs

namespace ContextCache

variable {α : Type}

/-! ## The cache as a map -/

/-- Whether every entry is the number of some context. -/
def WellNumbered (c : ContextCache α) : Prop :=
  ∀ entry ∈ c.entries, entry.2 < c.contexts.length

/-- The connection of the context with this number, while it is active. -/
def active? (c : ContextCache α) (id : Nat) : Option α :=
  (c.context? id).bind fun context ↦ if context.retired then none else some context.connection

/-- The connection that is kept for an account. -/
def kept? (c : ContextCache α) (account : String) : Option α :=
  (c.entries.lookup account).bind c.active?

/-- The cache with one more context, kept for an account. -/
def keep (c : ContextCache α) (account : String) (connection : α) : ContextCache α :=
  (c.make connection).2.insert account (c.make connection).1

theorem connectionOf_eq_ok_iff {c : ContextCache α} {id : Nat} {connection : α} :
    c.connectionOf id = .ok connection ↔ c.active? id = some connection := by
  rw [connectionOf, active?]
  cases c.context? id with
  | none => simp
  | some context => cases hretired : context.retired <;> simp [hretired]

theorem isActive_eq_isSome (c : ContextCache α) (id : Nat) :
    c.isActive id = (c.active? id).isSome := by
  rw [isActive, active?]
  cases c.context? id with
  | none => rfl
  | some context => cases hretired : context.retired <;> simp [hretired]

/-- Whatever is kept for an account is what the number found for it stands for. -/
theorem kept?_eq_bind_lookup (c : ContextCache α) (account : String) :
    c.kept? account = (c.lookup account).bind c.active? := by
  rw [kept?, lookup]
  cases c.entries.lookup account with
  | none => rfl
  | some id =>
    rw [Option.bind_some, Option.filter_some, isActive_eq_isSome]
    cases hactive : c.active? id <;> simp [hactive]

/-- No number is found where nothing is kept. -/
theorem lookup_eq_none_of_kept? {c : ContextCache α} {account : String}
    (h : c.kept? account = none) : c.lookup account = none := by
  refine Option.eq_none_iff_forall_ne_some.2 fun id hid ↦ ?_
  have hactive : c.isActive id = true := (Option.filter_eq_some_iff.1 hid).2
  rw [kept?_eq_bind_lookup, hid, Option.bind_some] at h
  rw [isActive_eq_isSome, h] at hactive
  cases hactive

/-- What is kept for an account is used by the number found for it. -/
theorem exists_lookup_of_kept? {c : ContextCache α} {account : String} {connection : α}
    (h : c.kept? account = some connection) :
    ∃ id, c.lookup account = some id ∧ c.connectionOf id = .ok connection := by
  rw [kept?_eq_bind_lookup] at h
  obtain ⟨id, hid, hactive⟩ := Option.bind_eq_some_iff.1 h
  exact ⟨id, hid, connectionOf_eq_ok_iff.2 hactive⟩

/-! ## Keeping a new context -/

theorem wellNumbered_empty : (empty : ContextCache α).WellNumbered :=
  nofun

theorem WellNumbered.keep {c : ContextCache α} (h : c.WellNumbered) (account : String)
    (connection : α) : (c.keep account connection).WellNumbered := by
  have hlength : (c.keep account connection).contexts.length = c.contexts.length + 1 :=
    List.length_append
  intro entry he
  rw [hlength]
  rcases List.mem_cons.1 he with rfl | he
  · exact Nat.lt_succ_self _
  · exact Nat.lt_succ_of_lt (h entry (List.mem_filter.1 he).1)

/-- A new context can be used. -/
theorem connectionOf_make (c : ContextCache α) (connection : α) :
    (c.make connection).2.connectionOf (c.make connection).1 = .ok connection := by
  simp [connectionOf, context?, make]

/-- Making a context leaves the others as they are. -/
theorem active?_make (c : ContextCache α) (connection : α) {id : Nat}
    (h : id < c.contexts.length) : (c.make connection).2.active? id = c.active? id := by
  simp [active?, context?, make, List.getElem?_append_left h]

private theorem lookup_filter_ne {account other : String} (h : other ≠ account)
    (entries : List (String × Nat)) :
    (entries.filter fun entry ↦ entry.1 != account).lookup other = entries.lookup other := by
  induction entries with
  | nil => rfl
  | cons entry entries ih =>
    by_cases he : entry.1 = account
    · have hne : (other == entry.1) = false := by simpa [he] using h
      rw [List.filter_cons_of_neg (by simp [he]), ih, List.lookup_cons, hne]
    · rw [List.filter_cons_of_pos (by simpa using he), List.lookup_cons, List.lookup_cons, ih]

/-- The entries for other accounts stay. -/
theorem lookup_entries_keep (c : ContextCache α) {account other : String} (connection : α)
    (h : other ≠ account) :
    (c.keep account connection).entries.lookup other = c.entries.lookup other := by
  have hne : (other == account) = false := beq_eq_false_iff_ne.2 h
  change List.lookup other ((account, c.contexts.length) :: _) = _
  rw [List.lookup_cons, hne]
  exact lookup_filter_ne h c.entries

/-- A number that is found is that of some context. -/
theorem WellNumbered.lt_of_lookup {c : ContextCache α} (h : c.WellNumbered) {account : String}
    {id : Nat} (hid : c.lookup account = some id) : id < c.contexts.length := by
  obtain ⟨before, after, hsplit, -⟩ :=
    List.lookup_eq_some_iff.1 (Option.filter_eq_some_iff.1 hid).1
  exact h (account, id) (by simp [hsplit])

/-- Making a context does not change what is found for an account. -/
theorem lookup_make {c : ContextCache α} (h : c.WellNumbered) (connection : α) (account : String) :
    (c.make connection).2.lookup account = c.lookup account := by
  have hentries : (c.make connection).2.entries = c.entries := rfl
  rw [lookup, lookup, hentries]
  cases hid : c.entries.lookup account with
  | none => rfl
  | some id =>
    obtain ⟨before, after, hsplit, -⟩ := List.lookup_eq_some_iff.1 hid
    have hlt : id < c.contexts.length := h (account, id) (by simp [hsplit])
    rw [Option.filter_some, Option.filter_some, isActive_eq_isSome, isActive_eq_isSome,
      active?_make c connection hlt]

/-- A new context that is kept for an account is found for it. -/
theorem lookup_keep_self (c : ContextCache α) (account : String) (connection : α) :
    (c.keep account connection).lookup account = some c.contexts.length := by
  have hself : (c.keep account connection).entries.lookup account = some c.contexts.length :=
    List.lookup_cons_self
  have hactive : (c.keep account connection).isActive c.contexts.length = true := by
    rw [isActive_eq_isSome]
    exact Option.isSome_iff_exists.2
      ⟨connection, connectionOf_eq_ok_iff.1 (connectionOf_make c connection)⟩
  rw [lookup, hself, Option.filter_some, if_pos hactive]

/-- It is found for no other account. -/
theorem lookup_keep {c : ContextCache α} (h : c.WellNumbered) (account : String) (connection : α)
    (other : String) :
    (c.keep account connection).lookup other =
      if other = account then some c.contexts.length else c.lookup other := by
  by_cases ho : other = account
  · rw [if_pos ho, ho, lookup_keep_self]
  · rw [if_neg ho, ← lookup_make h connection, lookup, lookup_entries_keep c connection ho]
    rfl

theorem kept?_keep_self (c : ContextCache α) (account : String) (connection : α) :
    (c.keep account connection).kept? account = some connection := by
  rw [kept?_eq_bind_lookup, lookup_keep_self, Option.bind_some]
  exact connectionOf_eq_ok_iff.1 (connectionOf_make c connection)

/-- **Keeping a new context for an account changes the map there and nowhere else.** -/
theorem kept?_keep {c : ContextCache α} (h : c.WellNumbered) (account : String) (connection : α)
    (other : String) :
    (c.keep account connection).kept? other =
      if other = account then some connection else c.kept? other := by
  by_cases ho : other = account
  · rw [if_pos ho, ho, kept?_keep_self]
  · have hactive : (c.keep account connection).active? = (c.make connection).2.active? := rfl
    rw [if_neg ho, kept?_eq_bind_lookup, lookup_keep h, if_neg ho, hactive, kept?_eq_bind_lookup]
    cases hid : c.lookup other with
    | none => rfl
    | some id => exact active?_make c connection (h.lt_of_lookup hid)

end ContextCache

/-- The service with something beside its state that it leaves alone: a place for notes. -/
def BlobService.beside {σ κ ρ : Type} (service : BlobService σ κ) : BlobService (σ × ρ) κ where
  connect spec state :=
    let (answer, inner) := service.connect spec state.1
    (answer, inner, state.2)
  properties client blob state :=
    let (answer, inner) := service.properties client blob state.1
    (answer, inner, state.2)
  download client blob offset length transfer state :=
    let (answer, inner) := service.download client blob offset length transfer state.1
    (answer, inner, state.2)
  list client container request state :=
    let (answer, inner) := service.list client container request state.1
    (answer, inner, state.2)

/-! ## The context for a URL -/

namespace FileSystem

variable {σ κ : Type}

/-- Makes a connection for a URL with what the session has, whatever is kept. -/
def create (service : BlobService σ κ) (host : Host) (secrets : SecretRegistry) (path : String)
    (url : BlobUrl) (scene : Scene σ κ) : Except StorageError (Connection κ) × σ :=
  connect service host scene.session.settings secrets scene.session.keepsStats path url scene.world

/-- Whether the session keeps connections for later accesses. -/
def Caches (session : Session κ) : Prop :=
  session.settings.switch Settings.contextCaching true = .ok true ∧ session.keepsContexts = true

/-- Whether the session makes a connection for every access. -/
def Renews (session : Session κ) : Prop :=
  ∃ caching, session.settings.switch Settings.contextCaching true = .ok caching ∧
    (caching && session.keepsContexts) = false

section

variable {service : BlobService σ κ} {host : Host} {secrets : SecretRegistry} {path : String}
  {url : BlobUrl} {scene : Scene σ κ}

/-- Making a connection fails before the service is asked for one, or asks it exactly once. -/
theorem world_of_create (service : BlobService σ κ) (host : Host) (secrets : SecretRegistry)
    (path : String) (url : BlobUrl) (scene : Scene σ κ) :
    (∃ e, create service host secrets path url scene = (.error e, scene.world)) ∨
      ∃ spec, (create service host secrets path url scene).2 =
        (service.connect spec scene.world).2 := by
  rw [create, connect]
  split
  · exact .inl ⟨_, rfl⟩
  next spec _ =>
  split
  · exact .inl ⟨_, rfl⟩
  refine .inr ⟨spec, ?_⟩
  split
  · next hconnect => rw [hconnect]
  · next hconnect =>
    rw [hconnect]
    split <;> rfl

theorem makeContext_eq :
    makeContext service host secrets path url scene =
      match create service host secrets path url scene with
      | (.error e, world) => (.error e, { scene with world })
      | (.ok connection, world) =>
        (.ok (scene.session.contexts.contexts.length, connection),
          { session := { scene.session with
              contexts := (scene.session.contexts.make connection).2 }, world }) :=
  rfl

/-- A connection that is kept for the account is used again, and nothing else happens. -/
theorem contextFor_of_kept (service : BlobService σ κ) (host : Host) (secrets : SecretRegistry)
    (path : String) (hcaches : Caches scene.session) {connection : Connection κ}
    (h : scene.session.contexts.kept? url.account = some connection) :
    ∃ id, contextFor service host secrets path url scene = (.ok id, scene) ∧
      scene.session.contexts.connectionOf id = .ok connection := by
  obtain ⟨id, hid, hconnection⟩ := ContextCache.exists_lookup_of_kept? h
  refine ⟨id, ?_, hconnection⟩
  simp [contextFor, hcaches.1, hcaches.2, hid]

/-- Where nothing is kept, the context is a new one, kept from now on. -/
theorem contextFor_of_created (hcaches : Caches scene.session)
    (h : scene.session.contexts.kept? url.account = none) {connection : Connection κ} {world : σ}
    (hcreate : create service host secrets path url scene = (.ok connection, world)) :
    contextFor service host secrets path url scene =
      (.ok scene.session.contexts.contexts.length,
        { session := { scene.session with
            contexts := scene.session.contexts.keep url.account connection }, world }) := by
  have hlookup := ContextCache.lookup_eq_none_of_kept? h
  simp only [contextFor, hcaches.1, hcaches.2, hlookup, makeContext_eq, hcreate, Bool.and_self,
    if_true]
  rfl

/-- Where nothing is kept and no connection can be made, the access fails as making it did. -/
theorem contextFor_of_not_created (hcaches : Caches scene.session)
    (h : scene.session.contexts.kept? url.account = none) {e : StorageError} {world : σ}
    (hcreate : create service host secrets path url scene = (.error e, world)) :
    contextFor service host secrets path url scene = (.error e, { scene with world }) := by
  have hlookup := ContextCache.lookup_eq_none_of_kept? h
  simp only [contextFor, hcaches.1, hcaches.2, hlookup, makeContext_eq, hcreate, Bool.and_self,
    if_true]

/-- After an access that has succeeded, its connection is kept. -/
theorem exists_kept?_of_contextFor (hcaches : Caches scene.session) {id : Nat} {after : Scene σ κ}
    (h : contextFor service host secrets path url scene = (.ok id, after)) :
    Caches after.session ∧
      ∃ connection, after.session.contexts.kept? url.account = some connection := by
  cases hkept : scene.session.contexts.kept? url.account with
  | some connection =>
    obtain ⟨found, hfound, -⟩ := contextFor_of_kept service host secrets path hcaches hkept
    cases hfound.symm.trans h
    exact ⟨hcaches, connection, hkept⟩
  | none =>
    rcases hcreate : create service host secrets path url scene with ⟨e | connection, world⟩
    · cases (contextFor_of_not_created hcaches hkept hcreate).symm.trans h
    · cases (contextFor_of_created hcaches hkept hcreate).symm.trans h
      exact ⟨hcaches, connection, ContextCache.kept?_keep_self _ _ _⟩

/-- An access succeeds only where the session says whether it keeps connections. -/
theorem caches_or_renews {id : Nat} {after : Scene σ κ}
    (h : contextFor service host secrets path url scene = (.ok id, after)) :
    Caches scene.session ∨ Renews scene.session := by
  rw [contextFor] at h
  split at h
  · cases h
  next caching hswitch =>
  cases hkeeps : caching && scene.session.keepsContexts with
  | false => exact .inr ⟨caching, hswitch, hkeeps⟩
  | true =>
    obtain ⟨rfl, hkeeps⟩ := Bool.and_eq_true_iff.1 hkeeps
    exact .inl ⟨hswitch, hkeeps⟩

/-- Where nothing is kept from one access to the next, one that succeeds has made a connection. -/
theorem exists_create_of_contextFor (hrenews : Renews scene.session) {id : Nat}
    {after : Scene σ κ} (h : contextFor service host secrets path url scene = (.ok id, after)) :
    ∃ connection, create service host secrets path url scene = (.ok connection, after.world) ∧
      after.session.settings = scene.session.settings ∧
      after.session.keepsContexts = scene.session.keepsContexts := by
  obtain ⟨caching, hswitch, hkeeps⟩ := hrenews
  rcases hcreate : create service host secrets path url scene with ⟨e | connection, world⟩
  · simp [contextFor, hswitch, hkeeps, makeContext_eq, hcreate] at h
  · simp only [contextFor, hswitch, hkeeps, makeContext_eq, hcreate, Bool.false_eq_true,
      if_false, Prod.mk.injEq] at h
    obtain ⟨-, rfl⟩ := h
    exact ⟨connection, rfl, rfl, rfl⟩

/-- There an access succeeds if a connection can be made, and uses it. -/
theorem connectionFor_of_renews (hrenews : Renews scene.session) {connection : Connection κ}
    {world : σ} (hcreate : create service host secrets path url scene = (.ok connection, world)) :
    (connectionFor service host secrets path url scene).1 = .ok connection := by
  obtain ⟨caching, hswitch, hkeeps⟩ := hrenews
  simp only [connectionFor, contextFor, hswitch, hkeeps, makeContext_eq, hcreate]
  exact ContextCache.connectionOf_make _ _

/-- A new context is there, in the world that making its connection left. -/
theorem context_of_makeContext {id : Nat} {connection : Connection κ} {after : Scene σ κ}
    (h : makeContext service host secrets path url scene = (.ok (id, connection), after)) :
    after.session.contexts.context? id = some { connection, retired := false } ∧
      after.world = (create service host secrets path url scene).2 := by
  rw [makeContext_eq] at h
  rcases hcreate : create service host secrets path url scene with ⟨e | made, world⟩
  · rw [hcreate] at h
    cases h
  · rw [hcreate] at h
    cases h
    exact ⟨by simp [ContextCache.context?, ContextCache.make], rfl⟩

/-- Whether or not connections are kept, a context that is given is there, and the world is as it
was or as making a connection left it. -/
theorem context_of_contextFor {id : Nat} {after : Scene σ κ}
    (h : contextFor service host secrets path url scene = (.ok id, after)) :
    (∃ context, after.session.contexts.context? id = some context) ∧
      (after.world = scene.world ∨
        after.world = (create service host secrets path url scene).2) := by
  rw [contextFor] at h
  split at h
  · cases h
  split at h
  · split at h
    · next found hfound =>
      cases h
      have hactive := (Option.filter_eq_some_iff.1 hfound).2
      rw [ContextCache.isActive] at hactive
      split at hactive
      · next context hcontext => exact ⟨⟨context, hcontext⟩, .inl rfl⟩
      · cases hactive
    · split at h
      · cases h
      · next hmake =>
        cases h
        obtain ⟨hcontext, hworld⟩ := context_of_makeContext hmake
        exact ⟨⟨_, hcontext⟩, .inr hworld⟩
  · split at h
    · cases h
    · next hmake =>
      cases h
      obtain ⟨hcontext, hworld⟩ := context_of_makeContext hmake
      exact ⟨⟨_, hcontext⟩, .inr hworld⟩

/-- The connection of a context is made where the context is. -/
theorem world_of_connectionFor {connection : Connection κ} {after : Scene σ κ}
    (h : connectionFor service host secrets path url scene = (.ok connection, after)) :
    after.world = scene.world ∨
      after.world = (create service host secrets path url scene).2 := by
  rw [connectionFor] at h
  split at h
  · cases h
  · next hcontext =>
    obtain ⟨-, rfl⟩ := Prod.mk.inj h
    exact (context_of_contextFor hcontext).2

/-- The connection that is kept for the account is used again. -/
theorem connectionFor_of_kept (service : BlobService σ κ) (host : Host)
    (secrets : SecretRegistry) (path : String) (hcaches : Caches scene.session)
    {connection : Connection κ}
    (h : scene.session.contexts.kept? url.account = some connection) :
    connectionFor service host secrets path url scene = (.ok connection, scene) := by
  obtain ⟨id, hcontext, hconnection⟩ :=
    contextFor_of_kept service host secrets path hcaches h
  rw [connectionFor, hcontext]
  simp only [hconnection]

end

/-! ## Over a store in memory -/

section

variable {host : Host} {secrets : SecretRegistry} {path container : String} {url : BlobUrl}
  {scene : Scene MemoryWorld Unit}

/-- Making a connection leaves the store in memory as it is. -/
theorem store_of_create (scene : Scene MemoryWorld Unit) :
    let after := (create .inMemory host secrets path url scene).2
    after.store = scene.world.store ∧ after.broken = scene.world.broken := by
  intro after
  rcases world_of_create .inMemory host secrets path url scene with ⟨e, h⟩ | ⟨spec, h⟩
  · rw [show after = scene.world from congrArg Prod.snd h]
    exact ⟨rfl, rfl⟩
  · rw [show after = _ from h]
    exact ⟨rfl, rfl⟩

/-- So whether or not one was made, the container can be opened in the same store as before. -/
theorem plain_of_world (hplain : scene.world.Plain container) {w : MemoryWorld}
    (hworld : w = scene.world ∨ w = (create .inMemory host secrets path url scene).2) :
    w.Plain container ∧ w.store = scene.world.store := by
  have hsame : w.store = scene.world.store ∧ w.broken = scene.world.broken := by
    rcases hworld with rfl | rfl
    · exact ⟨rfl, rfl⟩
    · exact store_of_create scene
  refine ⟨⟨?_, ?_, ?_⟩, hsame.1⟩
  · rw [hsame.1]
    exact hplain.wellFormed
  · rw [hsame.1]
    exact hplain.faultless
  · rw [hsame.2]
    exact hplain.opens

/-- A service in memory connects where a connection can be resolved, with options and a switch that
can be read, and no refusal is due. -/
theorem exists_create_iff :
    (∃ connection, (create .inMemory host secrets path url scene).1 = .ok connection) ↔
      (∃ spec, ConnectionSpec.resolve host scene.session.settings secrets path url = .ok spec) ∧
      (∃ options, ReadOptions.ofSettings scene.session.settings = .ok options) ∧
      scene.world.attempts.refusals = 0 ∧
      ∃ on, scene.session.settings.switch Settings.httpStats false = .ok on := by
  rw [create, connect]
  cases ConnectionSpec.resolve host scene.session.settings secrets path url with
  | error e => simp
  | ok spec =>
    cases ReadOptions.ofSettings scene.session.settings with
    | error e => simp
    | ok options =>
      cases hrefusals : scene.world.attempts.refusals with
      | succ n => simp [BlobService.inMemory, Attempts.connect, hrefusals]
      | zero =>
        cases scene.session.settings.switch Settings.httpStats false <;>
          simp [BlobService.inMemory, Attempts.connect, hrefusals]

/-- After a connection has been made, no refusal is due. -/
theorem refusals_of_create {connection : Connection Unit} {w : MemoryWorld}
    (h : create .inMemory host secrets path url scene = (.ok connection, w)) :
    w.attempts.refusals = 0 := by
  obtain ⟨-, -, hrefusals, -⟩ := exists_create_iff.1 ⟨connection, congrArg Prod.fst h⟩
  rcases world_of_create .inMemory host secrets path url scene with ⟨e, hcreate⟩ | ⟨spec, hworld⟩
  · cases hcreate.symm.trans h
  · rw [h] at hworld
    rw [show w = _ from hworld]
    simp [BlobService.inMemory, Attempts.connect, hrefusals]

/-- **After an access that has succeeded, so does another one to the same account**, if the session
keeps connections, or if the same is resolved for both. -/
theorem exists_connectionFor_again {id : Nat} {middle : Scene MemoryWorld Unit}
    (h : contextFor .inMemory host secrets path url scene = (.ok id, middle))
    {path' : String} {url' : BlobUrl} (haccount : url'.account = url.account)
    (hagain : Caches scene.session ∨
      ConnectionSpec.resolve host scene.session.settings secrets path' url' =
        ConnectionSpec.resolve host scene.session.settings secrets path url)
    (stats : HttpStats) :
    let next : Scene MemoryWorld Unit :=
      { middle with session := { middle.session with stats } }
    ∃ connection, (connectionFor .inMemory host secrets path' url' next).1 = .ok connection := by
  intro next
  by_cases hcaches : Caches scene.session
  · obtain ⟨hmiddle, connection, hkept⟩ := exists_kept?_of_contextFor hcaches h
    have hnext : Caches next.session := hmiddle
    have hkept' : next.session.contexts.kept? url'.account = some connection := haccount ▸ hkept
    exact ⟨connection, congrArg Prod.fst
      (connectionFor_of_kept .inMemory host secrets path' hnext hkept')⟩
  · have hrenews := (caches_or_renews h).resolve_left hcaches
    obtain ⟨made, hcreate, hsettings, hkeeps⟩ := exists_create_of_contextFor hrenews h
    obtain ⟨hspec, hoptions, -, hon⟩ := exists_create_iff.1 ⟨made, congrArg Prod.fst hcreate⟩
    rw [← hagain.resolve_left hcaches] at hspec
    replace hsettings : next.session.settings = scene.session.settings := hsettings
    replace hkeeps : next.session.keepsContexts = scene.session.keepsContexts := hkeeps
    have hrefusals : next.world.attempts.refusals = 0 := refusals_of_create hcreate
    rw [← hsettings] at hspec hoptions hon
    have hnext : Renews next.session := by rwa [Renews, hsettings, hkeeps]
    obtain ⟨connection, hmade⟩ := exists_create_iff.2 ⟨hspec, hoptions, hrefusals, hon⟩
    exact ⟨connection, connectionFor_of_renews hnext (Prod.ext hmade rfl)⟩

end

end FileSystem

end BlobFs

import BlobFs.Proofs.Session.Caching
import BlobFs.Proofs.Session.Retiring
import Mathlib.Data.List.DropRight

/-!
# The life of contexts

A session sees accesses, ends of work, and changes of its settings and secrets, in any order;
caching may be switched on and off at any time.  This file tells for every access of such a course
of events which context it gets, whether the service is asked for a connection, and what becomes of
the cache.

* `FileSystem.Gives` — all that asking for a context can do, in four cases: the settings are
  malformed, a context is kept, no connection can be made, or a new context is made.
* `FileSystem.Event` and `FileSystem.Happening` — what befalls a session, and how it went.
  `firstGiven` reads off what happened the context that an account has now: that of the first access
  to it that found caching switched on and succeeded, since the work last ended.
* `FileSystem.Reflects` — the invariant: what the cache finds for an account is `firstGiven` of what
  happened.  Each event keeps it (`Reflects.after`), so it holds after every course of events.

`context_of_history` puts the parts together, over any service (`BlobService.noted` is the service
with a note of the connections that it was asked for).
-/

set_option autoImplicit false

namespace BlobFs

/-- The service with a note of every connection that it is asked for. -/
def BlobService.noted {σ κ : Type} (service : BlobService σ κ) :
    BlobService (σ × List ConnectionSpec) κ :=
  { service.beside with
    connect := fun spec state ↦
      let (answer, inner) := service.connect spec state.1
      (answer, inner, state.2 ++ [spec]) }

namespace FileSystem

variable {σ κ : Type}

/-! ## What befalls a session -/

/-- Something that befalls a session. -/
inductive Event where
  /-- A context is asked for. -/
  | access (access : Access)
  /-- The work ends. -/
  | finish
  /-- The settings become these. -/
  | configure (settings : Settings)
  /-- The secrets become these. -/
  | share (secrets : SecretRegistry)

/-- Whether the work ends. -/
def Event.isFinish : Event → Bool
  | .finish => true
  | _ => false

/-- A session in its scene, and the secrets that it finds. -/
structure Stage (σ κ : Type) where
  scene : Scene σ κ
  secrets : SecretRegistry

/-- How an event went. -/
structure Happening where
  event : Event
  /-- Whether caching was switched on. -/
  caching : Bool
  /-- The number of the context that was given, if one was. -/
  given : Option Nat

namespace Stage

/-- The contexts of the session. -/
def contexts (stage : Stage σ κ) : ContextCache (Connection κ) :=
  stage.scene.session.contexts

/-- Whether caching is switched on, if that can be told. -/
def caching (stage : Stage σ κ) : Except StorageError Bool :=
  stage.scene.session.settings.switch Settings.contextCaching true

/-- The stage with other contexts. -/
def withContexts (stage : Stage σ κ) (contexts : ContextCache (Connection κ)) : Stage σ κ :=
  { stage with scene := { stage.scene with session := { stage.scene.session with contexts } } }

/-- The stage in another world. -/
def withWorld (stage : Stage σ κ) (world : σ) : Stage σ κ :=
  { stage with scene := { stage.scene with world } }

@[simp] theorem contexts_withContexts (stage : Stage σ κ)
    (contexts : ContextCache (Connection κ)) : (stage.withContexts contexts).contexts = contexts :=
  rfl

@[simp] theorem contexts_withWorld (stage : Stage σ κ) (world : σ) :
    (stage.withWorld world).contexts = stage.contexts :=
  rfl

section

variable (service : BlobService σ κ) (host : Host)

/-- Makes a connection for an access, whatever is kept. -/
def create (stage : Stage σ κ) (access : Access) : Except StorageError (Connection κ) × σ :=
  FileSystem.create service host stage.secrets access.path access.url stage.scene

/-- Asks for a context. -/
def give (stage : Stage σ κ) (access : Access) : Except StorageError Nat × Stage σ κ :=
  let (answer, scene) :=
    contextFor service host stage.secrets access.path access.url stage.scene
  (answer, { stage with scene })

/-- The stage after an event. -/
def after (stage : Stage σ κ) : Event → Stage σ κ
  | .access access => (stage.give service host access).2
  | .finish => { stage with
      scene := { stage.scene with session := stage.scene.session.finish } }
  | .configure settings => { stage with
      scene := { stage.scene with session := { stage.scene.session with settings } } }
  | .share secrets => { stage with secrets }

theorem contexts_after_finish (stage : Stage σ κ) :
    (stage.after service host .finish).contexts = stage.contexts.retireAll :=
  rfl

/-- The stage after some events in turn. -/
def afterAll (stage : Stage σ κ) (events : List Event) : Stage σ κ :=
  events.foldl (fun stage event ↦ stage.after service host event) stage

/-- How an event goes. -/
def happening (stage : Stage σ κ) (event : Event) : Happening where
  event := event
  caching := stage.caching.toOption.getD false
  given :=
    match event with
    | .access access => (stage.give service host access).1.toOption
    | _ => none

/-- How some events go in turn. -/
def history : Stage σ κ → List Event → List Happening
  | _, [] => []
  | stage, event :: events =>
    stage.happening service host event :: history (stage.after service host event) events

end

end Stage

/-! ## Asking for a context -/

/-- What asking for a context does, in a session that may keep connections. -/
inductive Gives (service : BlobService σ κ) (host : Host) (stage : Stage σ κ) (access : Access) :
    Except StorageError Nat × Stage σ κ → Prop
  /-- It cannot be told whether connections are to be kept. -/
  | malformed {e : StorageError} (hcaching : stage.caching = .error e) :
      Gives service host stage access (.error e, stage)
  /-- The context that is kept for the account is given. -/
  | kept {id : Nat} (hcaching : stage.caching = .ok true)
      (hid : stage.contexts.lookup access.url.account = some id) :
      Gives service host stage access (.ok id, stage)
  /-- No connection can be made. -/
  | refused {caching : Bool} {e : StorageError} {world : σ} (hcaching : stage.caching = .ok caching)
      (hnone : caching = true → stage.contexts.lookup access.url.account = none)
      (hcreate : stage.create service host access = (.error e, world)) :
      Gives service host stage access (.error e, stage.withWorld world)
  /-- A new context is made, and kept if connections are to be kept. -/
  | made {caching : Bool} {connection : Connection κ} {world : σ}
      (hcaching : stage.caching = .ok caching)
      (hnone : caching = true → stage.contexts.lookup access.url.account = none)
      (hcreate : stage.create service host access = (.ok connection, world)) :
      Gives service host stage access
        (.ok stage.contexts.contexts.length,
          (stage.withContexts
            (if caching then stage.contexts.keep access.url.account connection
              else (stage.contexts.make connection).2)).withWorld world)

/-- There are no other cases. -/
theorem gives_give (service : BlobService σ κ) (host : Host) {stage : Stage σ κ}
    (hkeeps : stage.scene.session.keepsContexts = true) (access : Access) :
    Gives service host stage access (stage.give service host access) := by
  rw [Stage.give, contextFor, hkeeps, makeContext_eq]
  cases hcaching : stage.scene.session.settings.switch Settings.contextCaching true with
  | error e => exact .malformed hcaching
  | ok caching =>
    rcases hcreate : FileSystem.create service host stage.secrets access.path access.url
      stage.scene with ⟨e | connection, world⟩
    · cases caching with
      | false => exact .refused hcaching (fun h ↦ absurd h Bool.false_ne_true) hcreate
      | true =>
        cases hid : stage.scene.session.contexts.lookup access.url.account with
        | some id => exact .kept hcaching hid
        | none => exact .refused hcaching (fun _ ↦ hid) hcreate
    · cases caching with
      | false => exact .made hcaching (fun h ↦ absurd h Bool.false_ne_true) hcreate
      | true =>
        cases hid : stage.scene.session.contexts.lookup access.url.account with
        | some id => exact .kept hcaching hid
        | none => exact .made hcaching (fun _ ↦ hid) hcreate

/-! ## The first context since the work last ended -/

/-- The context that was given, if it is one for this account and caching was switched on. -/
def Happening.givenFor? (account : String) (happening : Happening) : Option Nat :=
  match happening.event with
  | .access access =>
    if happening.caching = true ∧ access.url.account = account then happening.given else none
  | _ => none

/-- What the first access to an account was given that found caching switched on and did not fail,
since the work last ended. -/
def firstGiven (account : String) (history : List Happening) : Option Nat :=
  (history.rtakeWhile fun happening ↦ !happening.event.isFinish).findSome?
    (Happening.givenFor? account)

/-- The end of the work makes a new start. -/
theorem firstGiven_append_of_finish (account : String) (history : List Happening)
    {happening : Happening} (h : happening.event.isFinish = true) :
    firstGiven account (history ++ [happening]) = none := by
  rw [firstGiven, List.rtakeWhile_concat_neg _ _ _ (by simp [h]), List.findSome?_nil]

/-- Anything else can only be the first if there was none before. -/
theorem firstGiven_append (account : String) (history : List Happening) {happening : Happening}
    (h : happening.event.isFinish = false) :
    firstGiven account (history ++ [happening]) =
      (firstGiven account history).or (happening.givenFor? account) := by
  rw [firstGiven, List.rtakeWhile_concat_pos _ _ _ (by simp [h]), List.findSome?_append, firstGiven,
    List.findSome?_singleton]

/-! ## What the cache reflects -/

/-- Whether the cache of a session reflects what happened. -/
structure Reflects (history : List Happening) (stage : Stage σ κ) : Prop where
  keepsContexts : stage.scene.session.keepsContexts = true
  numbers : stage.contexts.WellNumbered
  distinct : stage.contexts.Distinct
  lookup_eq : ∀ account, stage.contexts.lookup account = firstGiven account history

section

variable {service : BlobService σ κ} {host : Host} {stage : Stage σ κ} {past : List Happening}
  {access : Access}

/-- An access changes what is found for its own account only, and only if nothing was found there
and caching is on. -/
theorem lookup_of_gives (hnumbers : stage.contexts.WellNumbered)
    {answer : Except StorageError Nat} {after : Stage σ κ}
    (h : Gives service host stage access (answer, after)) (account : String) :
    after.contexts.lookup account =
      (stage.contexts.lookup account).or
        (if stage.caching.toOption.getD false = true ∧ access.url.account = account then
          answer.toOption else none) := by
  cases h with
  | malformed hcaching => rw [Except.toOption, ite_self, Option.or_none]
  | kept hcaching hid =>
    by_cases ha : access.url.account = account
    · rw [← ha, hid, Option.some_or]
    · rw [if_neg (fun hboth ↦ ha hboth.2), Option.or_none]
  | refused hcaching hnone hcreate =>
    rw [Except.toOption, ite_self, Option.or_none, Stage.contexts_withWorld]
  | @made caching connection world hcaching hnone hcreate =>
    rw [hcaching, Stage.contexts_withWorld, Stage.contexts_withContexts]
    cases caching with
    | false =>
      have hoff : ¬((Except.ok false : Except StorageError Bool).toOption.getD false = true ∧
        access.url.account = account) := by simp [Except.toOption]
      rw [if_neg hoff, Option.or_none]
      exact ContextCache.lookup_make hnumbers connection account
    | true =>
      rw [if_pos rfl, ContextCache.lookup_keep hnumbers]
      by_cases ha : access.url.account = account
      · rw [← ha, hnone rfl, if_pos rfl, if_pos ⟨rfl, rfl⟩, Option.none_or, Except.toOption]
      · rw [if_neg (Ne.symm ha), if_neg (fun hboth ↦ ha hboth.2), Option.or_none]

theorem keepsContexts_of_gives {answer : Except StorageError Nat} {after : Stage σ κ}
    (h : Gives service host stage access (answer, after)) :
    after.scene.session.keepsContexts = stage.scene.session.keepsContexts := by
  cases h <;> rfl

/-- The contexts stay as they are, or a new one is made, and kept only where none was found. -/
theorem contexts_of_gives {answer : Except StorageError Nat} {after : Stage σ κ}
    (h : Gives service host stage access (answer, after)) :
    after.contexts = stage.contexts ∨ ∃ connection,
      after.contexts = (stage.contexts.make connection).2 ∨
        stage.contexts.lookup access.url.account = none ∧
          after.contexts = stage.contexts.keep access.url.account connection := by
  cases h with
  | malformed => exact .inl rfl
  | kept => exact .inl rfl
  | refused => exact .inl rfl
  | @made caching connection _ _ hnone =>
    cases caching with
    | false => exact .inr ⟨connection, .inl rfl⟩
    | true => exact .inr ⟨connection, .inr ⟨hnone rfl, rfl⟩⟩

theorem numbers_of_gives (hnumbers : stage.contexts.WellNumbered)
    {answer : Except StorageError Nat} {after : Stage σ κ}
    (h : Gives service host stage access (answer, after)) : after.contexts.WellNumbered := by
  rcases contexts_of_gives h with hsame | ⟨connection, hmade | ⟨-, hkept⟩⟩
  · rw [hsame]
    exact hnumbers
  · rw [hmade]
    exact hnumbers.make connection
  · rw [hkept]
    exact hnumbers.keep access.url.account connection

theorem distinct_of_gives (hdistinct : stage.contexts.Distinct)
    {answer : Except StorageError Nat} {after : Stage σ κ}
    (h : Gives service host stage access (answer, after)) : after.contexts.Distinct := by
  rcases contexts_of_gives h with hsame | ⟨connection, hmade | ⟨-, hkept⟩⟩
  · rw [hsame]
    exact hdistinct
  · rw [hmade]
    exact hdistinct
  · rw [hkept]
    exact hdistinct.keep access.url.account connection

theorem extends_of_gives {answer : Except StorageError Nat} {after : Stage σ κ}
    (h : Gives service host stage access (answer, after)) :
    stage.contexts.Extends after.contexts := by
  rcases contexts_of_gives h with hsame | ⟨connection, hmade | ⟨-, hkept⟩⟩
  · rw [hsame]
    exact .refl _
  · rw [hmade]
    exact stage.contexts.extends_make connection
  · rw [hkept]
    exact stage.contexts.extends_make connection

/-- An access takes no entry away but that of a retired context. -/
theorem mem_or_retired_of_gives (hnumbers : stage.contexts.WellNumbered)
    (hdistinct : stage.contexts.Distinct) {answer : Except StorageError Nat} {after : Stage σ κ}
    (h : Gives service host stage access (answer, after)) {entry : String × Nat}
    (he : entry ∈ stage.contexts.entries) :
    entry ∈ after.contexts.entries ∨ stage.contexts.Retired entry.2 := by
  rcases contexts_of_gives h with hsame | ⟨connection, hmade | ⟨hnone, hkept⟩⟩
  · rw [hsame]
    exact .inl he
  · rw [hmade]
    exact .inl he
  · rw [hkept]
    exact hdistinct.mem_keep_or hnumbers hnone connection he

/-- A context that is given is active. -/
theorem isActive_of_gives {id : Nat} {after : Stage σ κ}
    (h : Gives service host stage access (.ok id, after)) : after.contexts.isActive id = true := by
  cases h with
  | kept hcaching hid => exact (Option.filter_eq_some_iff.1 hid).2
  | @made caching connection =>
    rw [ContextCache.isActive_eq_isSome, Option.isSome_iff_exists]
    refine ⟨connection, ContextCache.connectionOf_eq_ok_iff.1 ?_⟩
    cases caching with
    | false => exact stage.contexts.connectionOf_make connection
    | true => exact stage.contexts.connectionOf_make connection

/-- With caching on, a context that is found is given, and nothing else happens. -/
theorem eq_of_gives_of_lookup {answer : Except StorageError Nat} {after : Stage σ κ}
    (h : Gives service host stage access (answer, after)) (hcaching : stage.caching = .ok true)
    {id : Nat} (hid : stage.contexts.lookup access.url.account = some id) :
    answer = .ok id ∧ after = stage := by
  cases h with
  | malformed hmalformed => cases hmalformed.symm.trans hcaching
  | kept _ hkept =>
    cases hkept.symm.trans hid
    exact ⟨rfl, rfl⟩
  | refused hcaching' hnone hcreate =>
    cases hcaching'.symm.trans hcaching
    cases (hnone rfl).symm.trans hid
  | made hcaching' hnone hcreate =>
    cases hcaching'.symm.trans hcaching
    cases (hnone rfl).symm.trans hid

/-- Where no context is to be found, everything hangs on making a connection, and a context that is
given is a new one with that connection. -/
theorem new_of_gives {answer : Except StorageError Nat} {after : Stage σ κ}
    (h : Gives service host stage access (answer, after)) {caching : Bool}
    (hcaching : stage.caching = .ok caching)
    (hnone : caching = true → stage.contexts.lookup access.url.account = none) :
    ((∃ id, answer = .ok id) ↔
      ∃ connection, (stage.create service host access).1 = .ok connection) ∧
    ∀ id, answer = .ok id → stage.contexts.context? id = none ∧
      after.scene.world = (stage.create service host access).2 ∧
      ∃ connection, (stage.create service host access).1 = .ok connection ∧
        after.contexts.connectionOf id = .ok connection := by
  cases h with
  | malformed hmalformed => cases hmalformed.symm.trans hcaching
  | kept hcaching' hid =>
    cases hcaching'.symm.trans hcaching
    cases (hnone rfl).symm.trans hid
  | refused _ _ hcreate =>
    rw [hcreate]
    refine ⟨⟨?_, ?_⟩, ?_⟩
    · rintro ⟨id, hid⟩
      cases hid
    · rintro ⟨connection, hconnection⟩
      cases hconnection
    · rintro id hid
      cases hid
  | @made caching' connection world _ _ hcreate =>
    rw [hcreate]
    refine ⟨⟨fun _ ↦ ⟨connection, rfl⟩, fun _ ↦ ⟨_, rfl⟩⟩, ?_⟩
    rintro id ⟨⟩
    refine ⟨List.getElem?_eq_none (Nat.le_refl _), rfl, connection, rfl, ?_⟩
    cases caching' with
    | false => exact stage.contexts.connectionOf_make connection
    | true => exact stage.contexts.connectionOf_make connection

/-- With caching off, the cache and the contexts so far stay as they are. -/
theorem same_of_gives_of_off {answer : Except StorageError Nat} {after : Stage σ κ}
    (h : Gives service host stage access (answer, after)) (hcaching : stage.caching = .ok false) :
    after.contexts.entries = stage.contexts.entries ∧
      ∀ id context, stage.contexts.context? id = some context →
        after.contexts.context? id = some context := by
  cases h with
  | malformed hmalformed => cases hmalformed.symm.trans hcaching
  | kept hcaching' hid => cases hcaching'.symm.trans hcaching
  | refused => exact ⟨rfl, fun _ _ hid ↦ hid⟩
  | @made _ connection _ hcaching' =>
    cases hcaching'.symm.trans hcaching
    exact ⟨rfl, fun _ _ hid ↦ stage.contexts.context?_make connection hid⟩

/-- An access that fails leaves the session as it is. -/
theorem session_of_gives_error {e : StorageError} {after : Stage σ κ}
    (h : Gives service host stage access (.error e, after)) :
    after.scene.session = stage.scene.session ∧
      (after = stage ∨ after.scene.world = (stage.create service host access).2) := by
  cases h with
  | malformed => exact ⟨rfl, .inl rfl⟩
  | refused _ _ hcreate => exact ⟨rfl, .inr (by rw [hcreate]; rfl)⟩

/-- Malformed settings are a failure before anything happens. -/
theorem eq_of_gives_of_malformed {answer : Except StorageError Nat} {after : Stage σ κ}
    (h : Gives service host stage access (answer, after)) {e : StorageError}
    (hcaching : stage.caching = .error e) : answer = .error e ∧ after = stage := by
  cases h with
  | malformed hmalformed =>
    cases hmalformed.symm.trans hcaching
    exact ⟨rfl, rfl⟩
  | kept hcaching' => cases hcaching'.symm.trans hcaching
  | refused hcaching' => cases hcaching'.symm.trans hcaching
  | made hcaching' => cases hcaching'.symm.trans hcaching

/-- A session that has seen nothing reflects just that. -/
theorem reflects_new (settings : Settings) (world : σ) (secrets : SecretRegistry) :
    Reflects [] ({ scene := { session := .new settings, world }, secrets } : Stage σ κ) :=
  ⟨rfl, ContextCache.wellNumbered_empty, nofun, fun _ ↦ rfl⟩

/-- **Every event keeps the invariant.** -/
theorem Reflects.after (h : Reflects past stage) (service : BlobService σ κ) (host : Host)
    (event : Event) :
    Reflects (past ++ [stage.happening service host event]) (stage.after service host event) := by
  cases event with
  | access access =>
    have hgives := gives_give service host h.keepsContexts access
    refine ⟨(keepsContexts_of_gives hgives).trans h.keepsContexts,
      numbers_of_gives h.numbers hgives, distinct_of_gives h.distinct hgives, fun account ↦ ?_⟩
    rw [firstGiven_append _ _ rfl, ← h.lookup_eq]
    exact lookup_of_gives h.numbers hgives account
  | finish =>
    refine ⟨h.keepsContexts, h.numbers.retireAll, ?_, fun account ↦ ?_⟩
    · rw [ContextCache.Distinct, Stage.contexts_after_finish, ContextCache.entries_retireAll]
      exact h.distinct
    · rw [firstGiven_append_of_finish _ _ rfl, Stage.contexts_after_finish]
      exact stage.contexts.lookup_retireAll account
  | configure settings =>
    refine ⟨h.keepsContexts, h.numbers, h.distinct, fun account ↦ ?_⟩
    rw [firstGiven_append _ _ rfl, ← h.lookup_eq]
    exact Option.or_none.symm
  | share secrets =>
    refine ⟨h.keepsContexts, h.numbers, h.distinct, fun account ↦ ?_⟩
    rw [firstGiven_append _ _ rfl, ← h.lookup_eq]
    exact Option.or_none.symm

/-- So it holds after every course of events. -/
theorem Reflects.afterAll (h : Reflects past stage) (service : BlobService σ κ) (host : Host)
    (events : List Event) :
    Reflects (past ++ stage.history service host events) (stage.afterAll service host events) := by
  induction events generalizing past stage with
  | nil =>
    rw [Stage.history, List.append_nil]
    exact h
  | cons event events ih =>
    have hrest := ih (h.after service host event)
    rw [List.append_assoc] at hrest
    exact hrest

/-- An event only adds and retires contexts. -/
theorem Reflects.extends_after (h : Reflects past stage) (service : BlobService σ κ) (host : Host)
    (event : Event) : stage.contexts.Extends (stage.after service host event).contexts := by
  cases event with
  | access access => exact extends_of_gives (gives_give service host h.keepsContexts access)
  | finish => exact stage.contexts.extends_retireAll
  | configure settings => exact .refl _
  | share secrets => exact .refl _

theorem Reflects.extends_afterAll (h : Reflects past stage) (service : BlobService σ κ)
    (host : Host) (events : List Event) :
    stage.contexts.Extends (stage.afterAll service host events).contexts := by
  induction events generalizing past stage with
  | nil => exact .refl _
  | cons event events ih =>
    exact (h.extends_after service host event).trans (ih (h.after service host event))

/-- An event takes no entry away but that of a retired context. -/
theorem Reflects.mem_or_retired (h : Reflects past stage) (service : BlobService σ κ) (host : Host)
    (event : Event) {entry : String × Nat} (he : entry ∈ stage.contexts.entries) :
    entry ∈ (stage.after service host event).contexts.entries ∨
      stage.contexts.Retired entry.2 := by
  cases event with
  | access access =>
    exact mem_or_retired_of_gives h.numbers h.distinct
      (gives_give service host h.keepsContexts access) he
  | finish =>
    rw [Stage.contexts_after_finish, ContextCache.entries_retireAll]
    exact .inl he
  | configure settings => exact .inl he
  | share secrets => exact .inl he

/-- Whatever is kept before the work ends is retired afterwards. -/
theorem Reflects.retired_of_finish (h : Reflects past stage) (service : BlobService σ κ)
    (host : Host) (events : List Event) {entry : String × Nat}
    (he : entry ∈ stage.contexts.entries) :
    (stage.afterAll service host (events ++ [Event.finish])).contexts.Retired entry.2 := by
  induction events generalizing past stage with
  | nil => exact h.numbers.retired_retireAll he
  | cons event events ih =>
    rcases h.mem_or_retired service host event he with hin | hretired
    · exact ih (h.after service host event) hin
    · have hextends := h.extends_afterAll service host (event :: (events ++ [Event.finish]))
      exact hretired.of_extends hextends

end

/-! ## Which context an access gets -/

/-- The connections that a noted service was asked for. -/
def Stage.notes (stage : Stage (σ × List ConnectionSpec) κ) : List ConnectionSpec :=
  stage.scene.world.2

/-- Making a connection fails before the service is asked for one, or asks it exactly once. -/
theorem notes_of_create (service : BlobService σ κ) (host : Host)
    (stage : Stage (σ × List ConnectionSpec) κ) (access : Access) :
    (∃ e, stage.create service.noted host access = (.error e, stage.scene.world)) ∨
      ∃ spec, (stage.create service.noted host access).2.2 = stage.notes ++ [spec] := by
  rcases world_of_create service.noted host stage.secrets access.path access.url stage.scene with
    h | ⟨spec, h⟩
  · exact .inl h
  · exact .inr ⟨spec, congrArg Prod.snd h⟩

/-- **Which context an access gets, and what it costs.**  Let any events befall a new session over
any service, and then an access.

* A context that is given is active.
* With caching on, the access gets the context that the first access to its account got, of those
  since the work last ended that found caching on and succeeded.  Nothing else happens then.
* With caching off, or where there is no such context, the access succeeds exactly if a connection
  can be made for it.  Its context is a new one with this connection, for which the service was
  asked once.
* With caching off, the cache and all contexts so far stay as they are.
* If the access fails, the session stays as it is, and the service was asked at most once; not at
  all if it cannot be told whether caching is on.
* What was in the cache at any time before the work ended is not given any more.
* A context keeps its number and its connection, and once it is retired it stays so. -/
theorem context_of_history (service : BlobService σ κ) (host : Host) (settings : Settings)
    (secrets : SecretRegistry) (world : σ) (events : List Event) (access : Access) :
    let start : Stage (σ × List ConnectionSpec) κ :=
      { scene := { session := .new settings, world := (world, []) }, secrets }
    let history := start.history service.noted host events
    let now := start.afterAll service.noted host events
    let answer := (now.give service.noted host access).1
    let after := (now.give service.noted host access).2
    (∀ id, answer = .ok id → after.contexts.isActive id = true) ∧
    (now.caching = .ok true → ∀ id, firstGiven access.url.account history = some id →
      answer = .ok id ∧ after = now) ∧
    (∀ caching, now.caching = .ok caching →
      (caching = true → firstGiven access.url.account history = none) →
        ((∃ id, answer = .ok id) ↔
          ∃ connection, (now.create service.noted host access).1 = .ok connection) ∧
        ∀ id, answer = .ok id → now.contexts.context? id = none ∧
          (∃ connection, (now.create service.noted host access).1 = .ok connection ∧
            after.contexts.connectionOf id = .ok connection) ∧
          ∃ spec, after.notes = now.notes ++ [spec]) ∧
    (now.caching = .ok false → after.contexts.entries = now.contexts.entries ∧
      ∀ id context, now.contexts.context? id = some context →
        after.contexts.context? id = some context) ∧
    (∀ e, answer = .error e → after.scene.session = now.scene.session ∧
      (after.notes = now.notes ∨ ∃ spec, after.notes = now.notes ++ [spec])) ∧
    (∀ e, now.caching = .error e → answer = .error e ∧ after = now) ∧
    (∀ earlier middle later, events = earlier ++ (middle ++ [Event.finish]) ++ later →
      ∀ entry ∈ (start.afterAll service.noted host earlier).contexts.entries,
        answer ≠ .ok entry.2) ∧
    (∀ earlier later, events = earlier ++ later →
      (start.afterAll service.noted host earlier).contexts.Extends after.contexts) := by
  intro start history now answer after
  have hstart : Reflects [] start := reflects_new settings (world, []) secrets
  have hnow : Reflects history now := hstart.afterAll service.noted host events
  have hgives : Gives service.noted host now access (answer, after) :=
    gives_give service.noted host hnow.keepsContexts access
  have hafterAll (earlier later : List Event) :
      start.afterAll service.noted host (earlier ++ later) =
        (start.afterAll service.noted host earlier).afterAll service.noted host later :=
    List.foldl_append
  have hextends : ∀ earlier later, events = earlier ++ later →
      (start.afterAll service.noted host earlier).contexts.Extends after.contexts := by
    intro earlier later hevents
    have hsplit : now = _ := (congrArg (start.afterAll service.noted host) hevents).trans
      (hafterAll earlier later)
    have hearlier := hstart.afterAll service.noted host earlier
    have hlater := hearlier.extends_afterAll service.noted host later
    rw [← hsplit] at hlater
    exact hlater.trans (extends_of_gives hgives)
  refine ⟨fun id hid ↦ ?_, fun hcaching id hid ↦ ?_, fun caching hcaching hnone ↦ ?_,
    fun hcaching ↦ same_of_gives_of_off hgives hcaching, fun e he ↦ ?_,
    fun e hcaching ↦ eq_of_gives_of_malformed hgives hcaching, ?_, hextends⟩
  · rw [hid] at hgives
    exact isActive_of_gives hgives
  · exact eq_of_gives_of_lookup hgives hcaching ((hnow.lookup_eq access.url.account).trans hid)
  · obtain ⟨hiff, hnew⟩ := new_of_gives hgives hcaching
      fun hon ↦ (hnow.lookup_eq access.url.account).trans (hnone hon)
    refine ⟨hiff, fun id hid ↦ ?_⟩
    obtain ⟨hfresh, hworld, connection, hconnection, hgiven⟩ := hnew id hid
    refine ⟨hfresh, ⟨connection, hconnection, hgiven⟩, ?_⟩
    rcases notes_of_create service host now access with ⟨e, hcreate⟩ | ⟨spec, hcreate⟩
    · rw [hcreate] at hconnection
      cases hconnection
    · exact ⟨spec, (congrArg Prod.snd hworld).trans hcreate⟩
  · rw [he] at hgives
    obtain ⟨hsession, hworld⟩ := session_of_gives_error hgives
    refine ⟨hsession, ?_⟩
    rcases hworld with hsame | hworld
    · exact .inl (congrArg Stage.notes hsame)
    · rcases notes_of_create service host now access with ⟨e', hcreate⟩ | ⟨spec, hcreate⟩
      · rw [hcreate] at hworld
        exact .inl (congrArg Prod.snd hworld)
      · exact .inr ⟨spec, (congrArg Prod.snd hworld).trans hcreate⟩
  · intro earlier middle later hevents entry he hid
    have hfinish := (hstart.afterAll service.noted host earlier).retired_of_finish service.noted
      host middle he
    rw [← hafterAll] at hfinish
    have hinactive := (hfinish.of_extends (hextends _ later hevents)).not_isActive
    rw [hid] at hgives
    rw [isActive_of_gives hgives] at hinactive
    cases hinactive

/-! ### A context that was given up -/

/-- A new session over an empty store. -/
def firstStage : Stage (MemoryWorld × List ConnectionSpec) Unit :=
  { scene := { session := .new .empty, world := ((refusingScene 0).world, []) }, secrets := .empty }

/-- The context that was kept when the work ended is not given again. -/
theorem another_context_after_finish :
    let access := accessAt "one.example"
    let now := firstStage.afterAll BlobService.inMemory.noted .empty [.access access, .finish]
    (firstStage.give BlobService.inMemory.noted .empty access).1 = .ok 0 ∧
      (now.give BlobService.inMemory.noted .empty access).1 ≠ .ok 0 := by
  obtain ⟨-, -, -, -, -, -, hfinish, -⟩ := context_of_history .inMemory .empty .empty .empty
    (refusingScene 0).world [.access (accessAt "one.example"), .finish] (accessAt "one.example")
  have hkept : ("acct", 0) ∈ (firstStage.afterAll BlobService.inMemory.noted .empty
      [.access (accessAt "one.example")]).contexts.entries := by
    decide +kernel
  exact ⟨rfl, hfinish [.access (accessAt "one.example")] [] [] rfl ("acct", 0) hkept⟩

/-- With caching off an access gets a context of its own, and what was kept is found again later. -/
example :
    (firstStage.history BlobService.inMemory.noted .empty
      [.access (accessAt "one.example"),
        .configure (.ofList [(Settings.contextCaching, "off")]),
        .access (accessAt "one.example"), .configure .empty, .access (accessAt "two.example"),
        .finish, .access (accessAt "one.example")]).map Happening.given =
      [some 0, none, some 1, none, some 0, none, some 2] :=
  rfl

end FileSystem

end BlobFs

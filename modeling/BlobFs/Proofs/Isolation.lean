import BlobFs.Proofs.File.Opening
import BlobFs.Proofs.Glob
import BlobFs.Proofs.Service.Isolation

/-!
# A container shows nothing of the others

Files in one container are opened, read and looked for in two runs, over services that answer alike
for that container (`BlobService.Respects`).  Every step of the file system is then the same in both
runs and leaves scenes that are the same but for the world behind the service (`Scene.Same`):
`connectionFor_paired`, `openFile_paired`, `FileHandle.readAt_paired`, `read_paired` and
`rel_glob`, one lemma for each layer in between.

The service in memory is such a service for any two stores that agree at the path of the container
and below it.  So whatever other containers hold, it makes no difference
(`same_answers_of_agreement`).
-/

set_option autoImplicit false

namespace BlobFs

variable {σ κ : Type} {related : σ → σ → Prop} {container : String} {service : BlobService σ κ}

/-- Two scenes with the same session and related worlds. -/
structure Scene.Same (related : σ → σ → Prop) (a b : Scene σ κ) : Prop where
  session_eq : a.session = b.session
  world : related a.world b.world

/-- Steps that are the same on the counters and the world are the same on scenes. -/
theorem Scene.Same.run {α : Type} {a b : Scene σ κ} (h : Scene.Same related a b)
    {step : HttpStats × σ → α × HttpStats × σ}
    (hstep : ∀ {s t}, Paired related s t → Paired (Paired related) (step s) (step t)) :
    Paired (Scene.Same related) (a.run step) (b.run step) := by
  obtain ⟨session, w⟩ := a
  obtain ⟨session', v⟩ := b
  obtain rfl : session = session' := h.session_eq
  have hpair : Paired related (session.stats, w) (session.stats, v) := ⟨rfl, h.world⟩
  obtain ⟨answer, ⟨stats, w'⟩, ⟨stats', v'⟩, hw, hv, hafter⟩ := (hstep hpair).exists_eq
  obtain rfl : stats = stats' := hafter.fst_eq
  simp only [Scene.run, hw, hv]
  exact ⟨rfl, rfl, hafter.snd⟩

/-- The same for steps that may come to no answer. -/
theorem Scene.Same.run? {α : Type} {a b : Scene σ κ} (h : Scene.Same related a b)
    {step : HttpStats × σ → Option (α × HttpStats × σ)}
    (hstep : ∀ {s t}, Paired related s t →
      Option.Rel (Paired (Paired related)) (step s) (step t)) :
    Option.Rel (Paired (Scene.Same related)) (a.run? step) (b.run? step) := by
  obtain ⟨session, w⟩ := a
  obtain ⟨session', v⟩ := b
  obtain rfl : session = session' := h.session_eq
  have hpair : Paired related (session.stats, w) (session.stats, v) := ⟨rfl, h.world⟩
  have hboth := hstep hpair
  rw [Scene.run?, Scene.run?]
  generalize step (session.stats, w) = first at hboth ⊢
  generalize step (session.stats, v) = second at hboth ⊢
  cases hboth with
  | none => exact .none
  | @some one other hafter =>
    obtain ⟨answer, stats, w'⟩ := one
    obtain ⟨answer', stats', v'⟩ := other
    obtain rfl : stats = stats' := hafter.snd.fst_eq
    exact .some ⟨hafter.fst_eq, rfl, hafter.snd.snd⟩

/-- Counting requests keeps two runs together. -/
theorem BlobService.Respects.withStats (h : service.Respects container related) (on : Bool) :
    (service.withStats on).Respects container (Paired related) where
  connect spec s t hst := by
    have hstep := h.connect spec hst.snd
    cases on <;> exact ⟨hstep.fst_eq, hst.fst_eq, hstep.snd⟩
  properties client name s t hst := by
    have hstep := h.properties client name hst.snd
    cases on with
    | false => exact ⟨hstep.fst_eq, hst.fst_eq, hstep.snd⟩
    | true => exact ⟨hstep.fst_eq, congrArg HttpStats.addHead hst.fst_eq, hstep.snd⟩
  download client name offset length transfer s t hst := by
    have hstep := h.download client name offset length transfer hst.snd
    cases on with
    | false => exact ⟨hstep.fst_eq, hst.fst_eq, hstep.snd⟩
    | true =>
      -- what is counted depends on the answer
      obtain ⟨answer, s', t', hs, ht, hafter⟩ := hstep.exists_eq
      simp only [BlobService.withStats, if_true, recorded, hs, ht, hst.fst_eq]
      cases answer <;> exact ⟨rfl, rfl, hafter⟩
  list client request s t hst := by
    have hstep := h.list client request hst.snd
    cases on with
    | false => exact ⟨hstep.fst_eq, hst.fst_eq, hstep.snd⟩
    | true => exact ⟨hstep.fst_eq, congrArg HttpStats.addList hst.fst_eq, hstep.snd⟩

/-! ## Reading -/

/-- Whether fetches in related states bring the same and leave related states. -/
def Fetch.Respects {τ : Type} (fetch : Fetch τ) (alike : τ → τ → Prop) : Prop :=
  ∀ offset length {s t}, alike s t → Paired alike (fetch offset length s) (fetch offset length t)

namespace Reader

variable {τ : Type} {alike : τ → τ → Prop} {fetch : Fetch τ} {s t : τ}

theorem fetchExactly_paired (r : Reader) (h : fetch.Respects alike) (offset length : Nat)
    (hst : alike s t) :
    Paired alike (r.fetchExactly fetch offset length s) (r.fetchExactly fetch offset length t) := by
  obtain ⟨answer, s', t', hs, ht, hafter⟩ := (h offset length hst).exists_eq
  simp only [fetchExactly, hs, ht]
  cases answer with
  | error e => exact ⟨rfl, hafter⟩
  | ok data =>
    dsimp only
    split <;> exact ⟨rfl, hafter⟩

theorem readDirect_paired (r : Reader) (h : fetch.Respects alike) (offset count : Nat)
    (hst : alike s t) :
    Paired (Paired alike) (r.readDirect fetch offset count s)
      (r.readDirect fetch offset count t) := by
  obtain ⟨answer, s', t', hs, ht, hafter⟩ := (r.fetchExactly_paired h offset count hst).exists_eq
  simp only [readDirect, hs, ht]
  cases answer <;> exact ⟨rfl, rfl, hafter⟩

theorem readRest_paired (r : Reader) (h : fetch.Respects alike) (handed : Bytes) (missing : Nat)
    (hst : alike s t) :
    Paired (Paired alike) (r.readRest fetch handed missing s)
      (r.readRest fetch handed missing t) := by
  simp only [readRest]
  split
  · obtain ⟨answer, s', t', hs, ht, hafter⟩ :=
      (r.fetchExactly_paired h r.position missing hst).exists_eq
    simp only [hs, ht]
    cases answer <;> exact ⟨rfl, rfl, hafter⟩
  · obtain ⟨answer, s', t', hs, ht, hafter⟩ := (r.fetchExactly_paired h r.position
      (min r.window.capacity (r.size - r.position)) hst).exists_eq
    simp only [hs, ht]
    cases answer <;> exact ⟨rfl, rfl, hafter⟩

theorem readBuffered_paired (r : Reader) (h : fetch.Respects alike) (offset count : Nat)
    (hst : alike s t) :
    Paired (Paired alike) (r.readBuffered fetch offset count s)
      (r.readBuffered fetch offset count t) := by
  simp only [readBuffered]
  split
  · exact ⟨rfl, rfl, hst⟩
  · exact readRest_paired _ h _ _ hst

theorem readAt_paired (r : Reader) (h : fetch.Respects alike) (offset count : Nat)
    (hst : alike s t) :
    Paired (Paired alike) (r.readAt fetch offset count s) (r.readAt fetch offset count t) := by
  rw [readAt, readAt]
  split
  · split
    · exact r.readDirect_paired h offset count hst
    · exact r.readBuffered_paired h offset count hst
  · exact ⟨rfl, rfl, hst⟩

theorem read_paired (r : Reader) (h : fetch.Respects alike) (count : Nat) (hst : alike s t) :
    Paired (Paired alike) (r.read fetch count s) (r.read fetch count t) := by
  rw [read, read]
  split
  · exact ⟨rfl, rfl, hst⟩
  · exact r.readAt_paired h r.position (r.readable count) hst

end Reader

namespace FileHandle

variable {handle : FileHandle κ} {a b : Scene σ κ}

theorem fetch_respects (h : service.Respects container related)
    (hblob : handle.blob.container = container) :
    (handle.fetch service).Respects (Paired related) := by
  subst hblob
  exact fun offset length {s t} hst ↦ (h.withStats handle.recorded).download handle.client
    handle.blob.path offset length handle.readOptions.transfer hst

/-- What a read of the reader comes to for the handle and the scene. -/
def reading (handle : FileHandle κ)
    (step : HttpStats × σ → ReadOutcome × Reader × HttpStats × σ) (scene : Scene σ κ) :
    ReadOutcome × FileHandle κ × Scene σ κ :=
  let (outcome, reader, stats, world) := step (scene.session.stats, scene.world)
  (outcome, { handle with reader }, { session := { scene.session with stats }, world })

theorem reading_paired {step : HttpStats × σ → ReadOutcome × Reader × HttpStats × σ}
    (hstep : ∀ {s t}, Paired related s t → Paired (Paired (Paired related)) (step s) (step t))
    (hab : Scene.Same related a b) :
    Paired (Paired (Scene.Same related)) (handle.reading step a) (handle.reading step b) := by
  obtain ⟨session, w⟩ := a
  obtain ⟨session', v⟩ := b
  obtain rfl : session = session' := hab.session_eq
  have hpair : Paired related (session.stats, w) (session.stats, v) := ⟨rfl, hab.world⟩
  obtain ⟨houtcome, hreader, hstats, hworld⟩ := hstep hpair
  simp only [reading, houtcome, hreader, hstats]
  exact ⟨rfl, rfl, rfl, hworld⟩

theorem readAt_paired (h : service.Respects container related)
    (hblob : handle.blob.container = container) (offset count : Nat)
    (hab : Scene.Same related a b) :
    Paired (Paired (Scene.Same related)) (handle.readAt service offset count a)
      (handle.readAt service offset count b) :=
  reading_paired (fun {_ _} hst ↦
    handle.reader.readAt_paired (fetch_respects h hblob) offset count hst) hab

theorem read_paired (h : service.Respects container related)
    (hblob : handle.blob.container = container) (count : Nat) (hab : Scene.Same related a b) :
    Paired (Paired (Scene.Same related)) (handle.read service count a)
      (handle.read service count b) :=
  reading_paired (fun {_ _} hst ↦
    handle.reader.read_paired (fetch_respects h hblob) count hst) hab

end FileHandle

/-! ## Connecting and opening -/

namespace FileSystem

section

variable (host : Host) (secrets : SecretRegistry) (path : String) (url : BlobUrl)
  {a b : Scene σ κ}

theorem connect_paired (h : service.Respects container related) (settings : Settings)
    (keepsStats : Bool) {w v : σ} (hwv : related w v) :
    Paired related (connect service host settings secrets keepsStats path url w)
      (connect service host settings secrets keepsStats path url v) := by
  rw [connect, connect]
  cases ConnectionSpec.resolve host settings secrets path url with
  | error e => exact ⟨rfl, hwv⟩
  | ok spec =>
    cases ReadOptions.ofSettings settings with
    | error e => exact ⟨rfl, hwv⟩
    | ok options =>
      obtain ⟨answer, w', v', hw, hv, hafter⟩ := (h.connect spec hwv).exists_eq
      simp only [hw, hv]
      cases answer with
      | error e => exact ⟨rfl, hafter⟩
      | ok client =>
        dsimp only
        cases settings.switch Settings.httpStats false <;> exact ⟨rfl, hafter⟩

theorem makeContext_paired (h : service.Respects container related)
    (hab : Scene.Same related a b) :
    Paired (Scene.Same related) (makeContext service host secrets path url a)
      (makeContext service host secrets path url b) := by
  obtain ⟨session, w⟩ := a
  obtain ⟨session', v⟩ := b
  obtain rfl : session = session' := hab.session_eq
  obtain ⟨answer, w', v', hw, hv, hafter⟩ := (connect_paired host secrets path url h
    session.settings session.keepsStats hab.world).exists_eq
  simp only [makeContext, hw, hv]
  cases answer <;> exact ⟨rfl, rfl, hafter⟩

theorem contextFor_paired (h : service.Respects container related)
    (hab : Scene.Same related a b) :
    Paired (Scene.Same related) (contextFor service host secrets path url a)
      (contextFor service host secrets path url b) := by
  obtain ⟨made, a', b', ha, hb, hafter⟩ :=
    (makeContext_paired host secrets path url h hab).exists_eq
  simp only [contextFor, hab.session_eq, ha, hb]
  cases b.session.settings.switch Settings.contextCaching true with
  | error e => exact ⟨rfl, hab⟩
  | ok caching =>
    dsimp only
    split
    · cases b.session.contexts.lookup url.account with
      | some id => exact ⟨rfl, hab⟩
      | none =>
        cases made with
        | error e => exact ⟨rfl, hafter⟩
        | ok made =>
          dsimp only
          rw [hafter.session_eq]
          exact ⟨rfl, rfl, hafter.world⟩
    · cases made <;> exact ⟨rfl, hafter⟩

theorem connectionFor_paired (h : service.Respects container related)
    (hab : Scene.Same related a b) :
    Paired (Scene.Same related) (connectionFor service host secrets path url a)
      (connectionFor service host secrets path url b) := by
  obtain ⟨answer, a', b', ha, hb, hafter⟩ :=
    (contextFor_paired host secrets path url h hab).exists_eq
  simp only [connectionFor, ha, hb]
  cases answer with
  | error e => exact ⟨rfl, hafter⟩
  | ok id =>
    dsimp only
    rw [hafter.session_eq]
    exact ⟨rfl, hafter⟩

end

variable {path : String} {url : BlobUrl} {a b : Scene σ κ}

/-- Opening a file of the container gives the same handle or the same failure. -/
theorem openFile_paired (h : service.Respects container related) (host : Host)
    (secrets : SecretRegistry) (hurl : parseUrl path = .ok url)
    (hcontainer : url.container = container) (flags : OpenFlags) (hab : Scene.Same related a b) :
    Paired (Scene.Same related) (openFile service host secrets path flags a)
      (openFile service host secrets path flags b) := by
  subst hcontainer
  rw [openFile, openFile, hurl]
  split
  · exact ⟨rfl, hab⟩
  obtain ⟨answer, a', b', ha, hb, hafter⟩ :=
    (connectionFor_paired host secrets path url h hab).exists_eq
  simp only [ha, hb]
  cases answer with
  | error e => exact ⟨rfl, hafter⟩
  | ok connection =>
    obtain ⟨properties, a'', b'', ha, hb, hlast⟩ := (hafter.run fun {_ _} hst ↦
      (h.withStats connection.recorded).properties connection.client url.path hst).exists_eq
    simp only [ha, hb]
    cases properties <;> exact ⟨rfl, hlast⟩

/-! ## Looking for blobs -/

section

variable {τ : Type} {list : ListRequest → τ → Except RemoteError ListPage × τ}
  {alike : τ → τ → Prop} {path : String} {select : ListPage → List String}

/-- If reading page after page comes to an end in one run, it does in the other one, and gathers the
same. -/
theorem gatherPages_paired
    (hlist : ∀ request {s t}, alike s t → Paired alike (list request s) (list request t))
    {request : ListRequest} {seen : List String} {s t : τ} (hst : alike s t)
    {result : Except StorageError (List String) × τ}
    (hread : request.gatherPages list path select seen s = some result) :
    ∃ result', request.gatherPages list path select seen t = some result' ∧
      Paired alike result result' := by
  refine ListRequest.gatherPages.partial_correctness list path select
    (fun request seen s result ↦ ∀ t, alike s t → ∃ result',
      request.gatherPages list path select seen t = some result' ∧ Paired alike result result')
    ?_ request seen s result hread t hst
  intro rest ih request seen s result hread t hst
  obtain ⟨answer, s', t', hs, ht, hafter⟩ := (hlist request hst).exists_eq
  simp only [hs] at hread
  cases answer with
  | error e =>
    cases hread
    exact ⟨_, gatherPages_of_error ht, rfl, hafter⟩
  | ok page =>
    cases hnext : page.nextToken with
    | none =>
      simp only [hnext] at hread
      cases hread
      exact ⟨_, gatherPages_of_none ht hnext, rfl, hafter⟩
    | some token =>
      simp only [hnext] at hread
      by_cases hseen : token ∈ seen
      · rw [if_pos hseen] at hread
        cases hread
        exact ⟨_, gatherPages_of_seen ht hnext hseen, rfl, hafter⟩
      · rw [if_neg hseen] at hread
        obtain ⟨⟨more, s''⟩, hmore, hresult⟩ := Option.bind_eq_some_iff.1 hread
        cases hresult
        obtain ⟨⟨more', t''⟩, hmore', hpaired⟩ := ih _ _ _ _ hmore t' hafter
        obtain rfl : more = more' := hpaired.fst_eq
        exact ⟨_, gatherPages_of_new ht hnext hseen hmore', rfl, hpaired.snd⟩

/-- So the runs come to an end together, or neither does. -/
theorem rel_gatherPages (hsymm : ∀ {s t}, alike s t → alike t s)
    (hlist : ∀ request {s t}, alike s t → Paired alike (list request s) (list request t))
    (request : ListRequest) (seen : List String) {s t : τ} (hst : alike s t) :
    Option.Rel (Paired alike) (request.gatherPages list path select seen s)
      (request.gatherPages list path select seen t) := by
  cases hs : request.gatherPages list path select seen s with
  | some result =>
    obtain ⟨result', ht, hpaired⟩ := gatherPages_paired hlist hst hs
    rw [ht]
    exact .some hpaired
  | none =>
    cases ht : request.gatherPages list path select seen t with
    | none => exact .none
    | some result =>
      obtain ⟨result', hs', -⟩ := gatherPages_paired hlist (hsymm hst) ht
      rw [hs] at hs'
      cases hs'

end

/-- Looking for blobs of the container finds the same, fails alike or never ends in both runs. -/
theorem rel_glob (hsymm : ∀ {s t}, related s t → related t s)
    (h : service.Respects container related) (host : Host) (secrets : SecretRegistry)
    (hurl : parseUrl path = .ok url) (hcontainer : url.container = container)
    (hab : Scene.Same related a b) :
    Option.Rel (Paired (Scene.Same related)) (glob service host secrets path a)
      (glob service host secrets path b) := by
  subst hcontainer
  simp only [glob, hurl]
  cases beforeWildcard? url.path with
  | none => exact .some ⟨rfl, hab⟩
  | some start =>
    obtain ⟨answer, a', b', ha, hb, hafter⟩ :=
      (contextFor_paired host secrets path url h hab).exists_eq
    simp only [ha, hb]
    cases answer with
    | error e => exact .some ⟨rfl, hafter⟩
    | ok id =>
      dsimp only
      rw [hafter.session_eq]
      cases b'.session.contexts.context? id with
      | none => exact .some ⟨rfl, hafter⟩
      | some context =>
        have hboth : ∀ {s t : HttpStats × σ}, Paired related s t → Paired related t s :=
          fun hst ↦ ⟨hst.fst_eq.symm, hsymm hst.snd⟩
        exact hafter.run? fun {_ _} hst ↦ rel_gatherPages hboth
          ((h.withStats context.connection.recorded).list context.connection.client) _ _ hst

/-! ## Over a store in memory -/

/-- **Containers are isolated.**  The path of a container is never that of another one, nor does it
lie above it.  And let two services in memory differ at most in objects that are neither at the path
of a container nor below it, with the same faults before them and the same connections made.  Then
any questions for properties, bytes and pages of the container are answered the same.  So are
looking for its blobs, opening them and reading from them, in the same session; and each time the
services left behind differ no more than before, so this goes on for ever. -/
theorem same_answers_of_agreement {container : String} {w v : MemoryWorld}
    (h : MemoryWorld.AgreeUnder (.encode container) w v) :
    let Agree := MemoryWorld.AgreeUnder (.encode container)
    (∀ one other, IsSegment one → IsSegment other → one ≠ other → ∀ key,
      (ObjectPath.encode one).append key ≠ ObjectPath.encode other) ∧
    (∀ calls : List ScriptedCall, (∀ call ∈ calls, call.container = container) →
      Paired Agree (BlobService.inMemory.askAll () calls w)
        (BlobService.inMemory.askAll () calls v)) ∧
    ∀ session : Session Unit,
      let a : Scene MemoryWorld Unit := { session, world := w }
      let b : Scene MemoryWorld Unit := { session, world := v }
      (∀ host secrets path url, BlobUrl.parse path = .ok url → url.container = container →
        Option.Rel (Paired (Scene.Same Agree)) (glob .inMemory host secrets path a)
          (glob .inMemory host secrets path b) ∧
        ∀ flags, Paired (Scene.Same Agree) (openFile .inMemory host secrets path flags a)
            (openFile .inMemory host secrets path flags b) ∧
          ∀ handle, (openFile .inMemory host secrets path flags a).1 = .ok handle →
            handle.blob.container = container) ∧
      ∀ handle : FileHandle Unit, handle.blob.container = container →
        (∀ offset count, Paired (Paired (Scene.Same Agree))
          (handle.readAt .inMemory offset count a) (handle.readAt .inMemory offset count b)) ∧
        ∀ count, Paired (Paired (Scene.Same Agree)) (handle.read .inMemory count a)
          (handle.read .inMemory count b) := by
  intro Agree
  have hservice := BlobService.respects_inMemory container
  refine ⟨fun one other hone hother hne ↦ ObjectPath.append_ne_encode hone hother hne,
    fun calls hcalls ↦ hservice.askAll () hcalls h, fun session ↦ ?_⟩
  intro a b
  have hab : Scene.Same Agree a b := ⟨rfl, h⟩
  refine ⟨fun host secrets path url hurl hcontainer ↦ ?_, fun handle hblob ↦ ?_⟩
  · have hparse := parseUrl_eq_ok_iff.2 hurl
    refine ⟨rel_glob (fun hst ↦ hst.symm) hservice host secrets hparse hcontainer hab,
      fun flags ↦ ⟨openFile_paired hservice host secrets hparse hcontainer flags hab,
        fun handle hopen ↦ ?_⟩⟩
    obtain ⟨connection, middle, properties, -, -, rfl⟩ :=
      exists_of_openFile hparse (Prod.ext hopen rfl)
    exact hcontainer
  · exact ⟨fun offset count ↦ FileHandle.readAt_paired hservice hblob offset count hab,
      fun count ↦ FileHandle.read_paired hservice hblob count hab⟩

/-! ### A blob of another container -/

/-- The store with the blobs `a`, `ab` and `b` of `c`, and one in a container `c.d` besides. -/
def storeWithOther : ObjectStore :=
  sampleStore.put ((ObjectPath.encode "c.d").append ⟨"a"⟩) ⟨[9, 9], 0⟩

theorem other_container_unseen :
    let v : MemoryWorld :=
      { sampleService with store := { store := storeWithOther, faults := [] } }
    let calls : List ScriptedCall :=
      [.list "c" sampleRequest, .head ⟨"c", "a"⟩, .head ⟨"c", "d"⟩]
    storeWithOther.objects.length = sampleStore.objects.length + 1 ∧
      (BlobService.inMemory.askAll () calls sampleService).1 =
        (BlobService.inMemory.askAll () calls v).1 := by
  intro v calls
  have hvalid : ((ObjectPath.encode "c.d").append ⟨"a"⟩).Valid := ⟨"c.d/a", by decide +kernel⟩
  have hstore : ObjectStore.AgreeUnder (.encode "c") sampleStore storeWithOther :=
    ObjectStore.agreeUnder_put (ObjectStore.wellFormed_empty.after _) ⟨by decide, by decide⟩
      ⟨by decide, by decide⟩ (by decide) hvalid _
  have hagree : MemoryWorld.AgreeUnder (.encode "c") sampleService v := ⟨⟨hstore, rfl⟩, rfl, rfl⟩
  have hcalls : ∀ call ∈ calls, call.container = "c" := by simp [calls, ScriptedCall.container]
  refine ⟨by decide +kernel, ?_⟩
  exact ((same_answers_of_agreement hagree).2.1 calls hcalls).fst_eq

end FileSystem

end BlobFs

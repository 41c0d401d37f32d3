import BlobFs.Proofs.Outcome
import BlobFs.Proofs.Service.Requests
import BlobFs.Proofs.Store.Containers
import BlobFs.Proofs.Store.Contents

/-!
# Containers are isolated

All containers lie in one store, so a request for one of them might show something of another.  It
does not.  The path of a container is never that of another one or above it (`append_ne_encode`),
and requests for a container read what lies at its path or below and nothing else.

The second part is said of two runs.  `ObjectStore.AgreeUnder` are two stores with the same objects
at a path and below; each kind of call on paths under that path answers the same in both, and leaves
stores that agree again (`RespectsUnder`).  That is carried from the store to its part for a
container (`ContainerStore.Respects`), from there to the service (`BlobService.Respects`) and to any
number of requests (`Respects.askAll`).  The plan of faults is the same for both stores, and each
fault strikes in both runs at once.
-/

set_option autoImplicit false

namespace BlobFs

/-! ## The paths of containers -/

/-- **The path of a container is not that of another one, and does not lie below it.** -/
theorem ObjectPath.append_ne_encode {container other : String} (hc : IsSegment container)
    (ho : IsSegment other) (hne : container ≠ other) (key : ObjectPath) :
    (encode container).append key ≠ encode other := by
  intro h
  have htext := congrArg (String.toList ∘ ObjectPath.text) h
  simp only [Function.comp_apply, toList_text_encode ho] at htext
  by_cases hkey : key = root
  · rw [hkey, append_root, toList_text_encode hc] at htext
    exact hne (String.toList_inj.1 (encodeSegment_injective htext))
  · -- What lies below a container has a `/` in its path.
    rw [toList_text_append (encode_ne_root hc) hkey] at htext
    have hslash : '/' ∈ encodeSegment other.toList :=
      htext ▸ List.mem_append_right _ List.mem_cons_self
    exact slash_not_mem_encodeSegment ho.2 hslash

/-- So there is no path that two containers share. -/
theorem ObjectPath.append_encode_ne_append {container other : String} (hc : IsSegment container)
    (ho : IsSegment other) (hne : container ≠ other) (j k : ObjectPath) :
    (encode container).append j ≠ (encode other).append k := by
  by_cases hk : k = root
  · rw [hk, append_root]
    exact append_ne_encode hc ho hne j
  by_cases hj : j = root
  · rw [hj, append_root]
    exact (append_ne_encode ho hc hne.symm k).symm
  · exact append_encode_ne hc ho hne hj hk

/-! ## Two runs over one container -/

namespace ContainerStore

variable {σ : Type} {related : σ → σ → Prop}

/-- Whether calls on related states answer the same and leave related states. -/
structure Respects (store : ContainerStore σ) (related : σ → σ → Prop) : Prop where
  head : ∀ path {s t}, related s t → Paired related (store.head path s) (store.head path t)
  getRange : ∀ path start stop {s t}, related s t →
    Paired related (store.getRange path start stop s) (store.getRange path start stop t)
  list : ∀ parent offset wanted limit {s t}, related s t →
    Paired related (store.list parent offset wanted limit s)
      (store.list parent offset wanted limit t)

/-- The same for calls on paths under `base` only. -/
structure RespectsUnder (whole : ContainerStore σ) (base : ObjectPath)
    (related : σ → σ → Prop) : Prop where
  head : ∀ path {s t}, related s t →
    Paired related (whole.head (base.append path) s) (whole.head (base.append path) t)
  getRange : ∀ path start stop {s t}, related s t →
    Paired related (whole.getRange (base.append path) start stop s)
      (whole.getRange (base.append path) start stop t)
  list : ∀ parent offset wanted limit {s t}, related s t →
    Paired related (whole.list (some (base.append parent)) offset wanted limit s)
      (whole.list (some (base.append parent)) offset wanted limit t)

/-- A container makes no other calls than those under its path. -/
theorem RespectsUnder.under {whole : ContainerStore σ} {base : ObjectPath}
    (h : whole.RespectsUnder base related) : (whole.under base).Respects related where
  head path s t hst := by
    obtain ⟨answer, s', t', hs, ht, hafter⟩ := (h.head path hst).exists_eq
    simp only [ContainerStore.under, hs, ht]
    cases answer <;> exact ⟨rfl, hafter⟩
  getRange path start stop s t hst := h.getRange path start stop hst
  list parent offset wanted limit s t hst := by
    obtain ⟨answer, s', t', hs, ht, hafter⟩ := (h.list (parent.getD .root) (offset.map base.append)
      (fun m ↦ wanted (m.relativeTo base)) limit hst).exists_eq
    simp only [ContainerStore.under, hs, ht]
    cases answer <;> exact ⟨rfl, hafter⟩

variable {store : ContainerStore σ} {s t : σ}

theorem Respects.properties (h : store.Respects related) (name : String) (hst : related s t) :
    Paired related (store.properties name s) (store.properties name t) := by
  rw [ContainerStore.properties, ContainerStore.properties]
  cases pathOf name with
  | error e => exact ⟨rfl, hst⟩
  | ok path =>
    obtain ⟨answer, s', t', hs, ht, hafter⟩ := (h.head path hst).exists_eq
    simp only [hs, ht]
    cases answer <;> exact ⟨rfl, hafter⟩

theorem Respects.fetchChunks (h : store.Respects related) (path : ObjectPath)
    (ranges : List (Nat × Nat)) (hst : related s t) :
    Paired related (store.fetchChunks path ranges s) (store.fetchChunks path ranges t) := by
  induction ranges generalizing s t with
  | nil => exact ⟨rfl, hst⟩
  | cons range ranges ih =>
    obtain ⟨start, stop⟩ := range
    obtain ⟨answer, s', t', hs, ht, hafter⟩ := (h.getRange path start stop hst).exists_eq
    simp only [ContainerStore.fetchChunks, hs, ht]
    cases answer with
    | error e => exact ⟨rfl, hafter⟩
    | ok data =>
      obtain ⟨rest, s'', t'', hs, ht, hlast⟩ := (ih hafter).exists_eq
      simp only [hs, ht]
      cases rest <;> exact ⟨rfl, hlast⟩

theorem Respects.downloadRange (h : store.Respects related) (name : String) (offset length : Nat)
    (transfer : TransferOptions) (hst : related s t) :
    Paired related (store.downloadRange name offset length transfer s)
      (store.downloadRange name offset length transfer t) := by
  rw [ContainerStore.downloadRange, ContainerStore.downloadRange]
  split
  · exact ⟨rfl, hst⟩
  cases pathOf name with
  | error e => exact ⟨rfl, hst⟩
  | ok path =>
    obtain ⟨answer, s', t', hs, ht, hafter⟩ :=
      (h.fetchChunks path (chunkRanges offset length transfer.chunkSize) hst).exists_eq
    simp only [hs, ht]
    cases answer with
    | error e => exact ⟨rfl, hafter⟩
    | ok chunks =>
      dsimp only
      split <;> exact ⟨rfl, hafter⟩

theorem Respects.listPage (h : store.Respects related) (request : ListRequest)
    (hst : related s t) :
    Paired related (store.listPage request s) (store.listPage request t) := by
  simp only [ContainerStore.listPage]
  cases parentOf (request.nameStart.getD "") with
  | error e => exact ⟨rfl, hst⟩
  | ok parent =>
    cases offsetOf request.token with
    | error e => exact ⟨rfl, hst⟩
    | ok offset =>
      obtain ⟨answer, s', t', hs, ht, hafter⟩ := (h.list parent offset
        (fun m ↦ Text.startsWith m.path.text (request.nameStart.getD ""))
        (max (request.pageSize.getD defaultPageSize) 1 + 1) hst).exists_eq
      simp only [hs, ht]
      cases answer <;> exact ⟨rfl, hafter⟩

end ContainerStore

/-! ## Stores that agree under a path -/

namespace ObjectStore

/-- Two stores with the same objects at a path and below it. -/
structure AgreeUnder (base : ObjectPath) (s t : ObjectStore) : Prop where
  wellFormed : s.WellFormed
  wellFormed' : t.WellFormed
  get?_eq : ∀ key, s.get? (base.append key) = t.get? (base.append key)

variable {base : ObjectPath} {s t : ObjectStore}

theorem AgreeUnder.symm (h : AgreeUnder base s t) : AgreeUnder base t s :=
  ⟨h.wellFormed', h.wellFormed, fun key ↦ (h.get?_eq key).symm⟩

/-- Stores that agree under a path agree under every path under it. -/
theorem AgreeUnder.append (h : AgreeUnder base s t) (parent : ObjectPath) :
    AgreeUnder (base.append parent) s t :=
  ⟨h.wellFormed, h.wellFormed', fun key ↦ by rw [ObjectPath.append_assoc, h.get?_eq]⟩

/-- What is written in one container makes no difference to another one. -/
theorem agreeUnder_put (h : s.WellFormed) {container other : String} (hc : IsSegment container)
    (ho : IsSegment other) (hne : container ≠ other) {key : ObjectPath}
    (hkey : ((ObjectPath.encode other).append key).Valid) (object : StoredObject) :
    AgreeUnder (.encode container) s (s.put ((ObjectPath.encode other).append key) object) := by
  refine ⟨h, h.put hkey object, fun j ↦ ?_⟩
  rw [h.get?_put hkey, if_neg (ObjectPath.append_encode_ne_append hc ho hne j key)]

/-- What lies below a path is in both stores or in none. -/
theorem AgreeUnder.mem_of_below (h : AgreeUnder base s t)
    {entry : ObjectPath × StoredObject} (he : entry ∈ s.objects)
    (hbelow : (base.below? entry.1).isSome = true) : entry ∈ t.objects := by
  obtain ⟨path, object⟩ := entry
  obtain ⟨key, hkey⟩ := Option.isSome_iff_exists.1 hbelow
  obtain ⟨hpath, -⟩ := (ObjectPath.below?_eq_some_iff (h.wellFormed.valid _ he)).1 hkey
  have hget := h.wellFormed.get?_eq_some_iff.2 he
  rw [show path = base.append key from hpath, h.get?_eq] at hget
  rw [show path = base.append key from hpath]
  exact h.wellFormed'.get?_eq_some_iff.1 hget

/-- In ascending order there is one way only to list the same objects. -/
theorem eq_of_ascending {xs ys : List (ObjectPath × StoredObject)} (hxs : Ascending xs)
    (hys : Ascending ys) (h : ∀ entry, entry ∈ xs ↔ entry ∈ ys) : xs = ys := by
  have hnodup : ∀ {objects}, Ascending objects → objects.Nodup := fun hasc ↦
    hasc.imp fun hlt he ↦ ObjectPath.ne_of_precedes hlt (congrArg Prod.fst he)
  have hperm : xs.Perm ys := (List.perm_ext_iff_of_nodup (hnodup hxs) (hnodup hys)).2 h
  refine hperm.eq_of_pairwise (fun x y _ _ hxy hyx ↦ ?_) hxs hys
  exact absurd rfl (ObjectPath.ne_of_precedes (ObjectPath.precedes_trans hxy hyx))

/-- **What is told of the objects below the path is the same.** -/
theorem AgreeUnder.below_eq (h : AgreeUnder base s t) : s.below base = t.below base := by
  let isBelow := fun entry : ObjectPath × StoredObject ↦ (base.below? entry.1).isSome
  have hpart : s.objects.filter isBelow = t.objects.filter isBelow := by
    refine eq_of_ascending (h.wellFormed.ascending.filter _) (h.wellFormed'.ascending.filter _)
      fun entry ↦ ?_
    rw [List.mem_filter, List.mem_filter]
    exact ⟨fun ⟨he, hb⟩ ↦ ⟨h.mem_of_below he hb, hb⟩,
      fun ⟨he, hb⟩ ↦ ⟨h.symm.mem_of_below he hb, hb⟩⟩
  have hbelow (store : ObjectStore) : store.below base =
      (store.objects.filter isBelow).filterMap fun entry ↦
        (base.below? entry.1).map fun _ ↦
          { path := entry.1, size := entry.2.data.length, modified := entry.2.modified } := by
    rw [below, List.filterMap_filter]
    congr 1
    funext entry
    cases hkey : base.below? entry.1 <;> simp [isBelow, hkey]
  rw [hbelow, hbelow, hpart]

theorem AgreeUnder.head_eq (h : AgreeUnder base s t) (key : ObjectPath) :
    s.head (base.append key) = t.head (base.append key) := by
  rw [head, head, h.get?_eq]

theorem AgreeUnder.getRange_eq (h : AgreeUnder base s t) (key : ObjectPath) (start stop : Nat) :
    s.getRange (base.append key) start stop = t.getRange (base.append key) start stop := by
  rw [getRange, getRange, h.get?_eq]

end ObjectStore

/-- Two stores that agree under a path and have the same faults before them. -/
structure FaultyStore.AgreeUnder (base : ObjectPath) (s t : FaultyStore) : Prop where
  store : s.store.AgreeUnder base t.store
  faults_eq : s.faults = t.faults

/-- Faults strike at the same calls, and what is below the path is the same. -/
theorem FaultyStore.respectsUnder_calls (base : ObjectPath) :
    calls.RespectsUnder base (AgreeUnder base) where
  head path s t h := by
    simp only [calls, strike, h.faults_eq]
    rcases Fault.take? .head (base.append path) none t.faults with ⟨_ | fault, faults⟩
    · exact ⟨h.store.head_eq path, h.store, rfl⟩
    · exact ⟨rfl, h.store, rfl⟩
  getRange path start stop s t h := by
    have hget := h.store.getRange_eq path start stop
    simp only [calls, strike, h.faults_eq]
    rcases Fault.take? .get (base.append path) (some start) t.faults with ⟨_ | fault, faults⟩
    · exact ⟨hget, h.store, rfl⟩
    · cases hkeep : fault.keep with
      | none =>
        simp only [hkeep]
        exact ⟨rfl, h.store, rfl⟩
      | some kept =>
        simp only [hkeep, hget]
        cases t.store.getRange (base.append path) start stop <;> exact ⟨rfl, h.store, rfl⟩
  list parent offset wanted limit s t h := by
    have hbelow := (h.store.append parent).below_eq
    simp only [calls, strike, h.faults_eq, Option.getD_some]
    rcases Fault.take? .list (base.append parent) none t.faults with ⟨_ | fault, faults⟩ <;>
      simp only [hbelow] <;> exact ⟨rfl, h.store, rfl⟩

namespace MemoryWorld

/-- Two services in memory that differ at most in what they store elsewhere. -/
structure AgreeUnder (base : ObjectPath) (w v : MemoryWorld) : Prop where
  store : w.store.AgreeUnder base v.store
  broken_eq : w.broken = v.broken
  attempts_eq : w.attempts = v.attempts

theorem AgreeUnder.symm {base : ObjectPath} {w v : MemoryWorld} (h : AgreeUnder base w v) :
    AgreeUnder base v w :=
  ⟨⟨h.store.store.symm, h.store.faults_eq.symm⟩, h.broken_eq.symm, h.attempts_eq.symm⟩

theorem respectsUnder_calls (base : ObjectPath) : calls.RespectsUnder base (AgreeUnder base) where
  head path _ _ h :=
    have hstep := (FaultyStore.respectsUnder_calls base).head path h.store
    ⟨hstep.fst_eq, hstep.snd, h.broken_eq, h.attempts_eq⟩
  getRange path start stop _ _ h :=
    have hstep := (FaultyStore.respectsUnder_calls base).getRange path start stop h.store
    ⟨hstep.fst_eq, hstep.snd, h.broken_eq, h.attempts_eq⟩
  list parent offset wanted limit _ _ h :=
    have hstep := (FaultyStore.respectsUnder_calls base).list parent offset wanted limit h.store
    ⟨hstep.fst_eq, hstep.snd, h.broken_eq, h.attempts_eq⟩

end MemoryWorld

/-! ## Services -/

namespace BlobService

variable {σ κ : Type} {related : σ → σ → Prop} {container : String}

/-- Whether requests for a container answer the same on related states and leave related states,
and likewise the connecting. -/
structure Respects (service : BlobService σ κ) (container : String)
    (related : σ → σ → Prop) : Prop where
  connect : ∀ spec {s t}, related s t →
    Paired related (service.connect spec s) (service.connect spec t)
  properties : ∀ client name {s t}, related s t →
    Paired related (service.properties client ⟨container, name⟩ s)
      (service.properties client ⟨container, name⟩ t)
  download : ∀ client name offset length transfer {s t}, related s t →
    Paired related (service.download client ⟨container, name⟩ offset length transfer s)
      (service.download client ⟨container, name⟩ offset length transfer t)
  list : ∀ client request {s t}, related s t →
    Paired related (service.list client container request s)
      (service.list client container request t)

/-- **The service in memory shows of a container what lies at its path and below, and no more.** -/
theorem respects_inMemory (container : String) :
    inMemory.Respects container (MemoryWorld.AgreeUnder (.encode container)) where
  connect spec w v h := by
    simp only [inMemory, h.attempts_eq]
    exact ⟨rfl, h.store, h.broken_eq, rfl⟩
  properties _ name w v h := by
    simp only [inMemory, StoreOpener.properties, MemoryWorld.opener, h.broken_eq]
    split
    · exact ⟨rfl, h⟩
    · next hopen =>
      split at hopen
      · cases hopen
      · cases hopen
        exact (MemoryWorld.respectsUnder_calls _).under.properties name h
  download _ name offset length transfer w v h := by
    simp only [inMemory, StoreOpener.download, MemoryWorld.opener, h.broken_eq]
    split
    · exact ⟨rfl, h⟩
    split
    · exact ⟨rfl, h⟩
    · next hopen =>
      split at hopen
      · cases hopen
      · cases hopen
        exact (MemoryWorld.respectsUnder_calls _).under.downloadRange name offset length transfer h
  list _ request w v h := by
    simp only [inMemory, StoreOpener.list, MemoryWorld.opener, h.broken_eq]
    split
    · exact ⟨rfl, h⟩
    · next hopen =>
      split at hopen
      · cases hopen
      · cases hopen
        exact (MemoryWorld.respectsUnder_calls _).under.listPage request h

end BlobService

/-- The container that is asked about. -/
def ScriptedCall.container : ScriptedCall → String
  | .list container _ => container
  | .head blob => blob.container
  | .get blob .. => blob.container

namespace BlobService

variable {σ κ : Type} {related : σ → σ → Prop} {container : String} {service : BlobService σ κ}

theorem Respects.ask (h : service.Respects container related) (client : κ) {call : ScriptedCall}
    (hcall : call.container = container) {s t : σ} (hst : related s t) :
    Paired related (service.ask client call s) (service.ask client call t) := by
  subst hcall
  cases call with
  | list container request =>
    have hstep := h.list client request hst
    exact ⟨congrArg BlobAnswer.list hstep.fst_eq, hstep.snd⟩
  | head blob =>
    have hstep := h.properties client blob.path hst
    exact ⟨congrArg BlobAnswer.head hstep.fst_eq, hstep.snd⟩
  | get blob offset length transfer =>
    have hstep := h.download client blob.path offset length transfer hst
    exact ⟨congrArg BlobAnswer.get hstep.fst_eq, hstep.snd⟩

/-- Any number of requests for the container answer the same. -/
theorem Respects.askAll (h : service.Respects container related) (client : κ)
    {calls : List ScriptedCall} (hcalls : ∀ call ∈ calls, call.container = container) {s t : σ}
    (hst : related s t) :
    Paired related (service.askAll client calls s) (service.askAll client calls t) := by
  induction calls generalizing s t with
  | nil => exact ⟨rfl, hst⟩
  | cons call calls ih =>
    obtain ⟨hcall, hrest⟩ := List.forall_mem_cons.1 hcalls
    obtain ⟨answer, s', t', hs, ht, hafter⟩ := (h.ask client hcall hst).exists_eq
    obtain ⟨answers, s'', t'', hs', ht', hlast⟩ := (ih hrest hafter).exists_eq
    simp only [BlobService.askAll, hs, ht, hs', ht']
    exact ⟨rfl, hlast⟩

end BlobService

end BlobFs

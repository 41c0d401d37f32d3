import BlobFs.Proofs.Service.Paging
import BlobFs.Proofs.Store.Download

/-!
# Asking for a blob by its name

What a store in memory that does what it is asked (`MemoryWorld.Plain`) answers about one blob: its
properties are those of the object at the path that the name parses to (`Plain.properties_eq`), and
a download within the object brings its bytes (`Plain.download_eq`).  Neither changes the store.

A listing speaks of the same objects.  Whatever was asked for, a page has only blobs of the
container (`Plain.mem_blobs_of_list`), and the name of each of them is a token that every listing
accepts (`Plain.exists_list_after`).
-/

set_option autoImplicit false

namespace BlobFs

open ContainerStore (pathOf parentOf offsetOf)

theorem ContainerStore.pathOf_eq_ok_iff {name : String} {path : ObjectPath} :
    pathOf name = .ok path ↔ ObjectPath.parse name = .ok path := by
  rw [pathOf]
  cases ObjectPath.parse name <;> simp

/-! ## Requests for pages -/

namespace ContainerStore

variable {σ : Type} {store : ContainerStore σ} {request : ListRequest}

/-- A page is given only if the wanted beginning has a parent and the token names a path. -/
theorem exists_of_listPage_eq_ok {page : ListPage} {state after : σ}
    (h : store.listPage request state = (.ok page, after)) :
    ∃ parent, parentOf request.start = .ok parent ∧
      ∃ offset, offsetOf request.token = .ok offset := by
  rw [listPage] at h
  split at h
  · cases h
  · next parent hparent =>
    split at h
    · cases h
    · next offset hoffset => exact ⟨parent, hparent, offset, hoffset⟩

/-- A token that names a path may as well be the text of that path. -/
theorem offsetOf_text {token : Option String} {offset : Option ObjectPath}
    (h : offsetOf token = .ok offset) :
    offsetOf (offset.map ObjectPath.text) = .ok offset ∧
      ∀ name, offset.map ObjectPath.text = some name → (⟨name⟩ : ObjectPath).Valid := by
  cases token with
  | none =>
    cases h
    exact ⟨rfl, nofun⟩
  | some name =>
    cases hpath : pathOf name with
    | error e =>
      rw [offsetOf, hpath] at h
      cases h
    | ok path =>
      rw [offsetOf, hpath] at h
      cases h
      have hvalid : path.Valid := ⟨name, pathOf_eq_ok_iff.1 hpath⟩
      have hsame : ∀ other, some path.text = some other → (⟨other⟩ : ObjectPath).Valid := by
        rintro other ⟨⟩
        exact hvalid
      exact ⟨offsetOf_eq hsame, hsame⟩

/-- Two tokens that name the same path ask for the same page. -/
theorem listPage_withToken {token : Option String} (h : offsetOf token = offsetOf request.token)
    (state : σ) : store.listPage { request with token } state = store.listPage request state := by
  simp only [listPage, h]

end ContainerStore

/-! ## Stores without faults -/

namespace FaultyStore

theorem head_eq {s : FaultyStore} (h : s.faults = []) (path : ObjectPath) :
    calls.head path s = (s.store.head path, s) := by
  obtain ⟨store, faults⟩ := s
  cases h
  rfl

theorem getRange_eq {s : FaultyStore} (h : s.faults = []) (path : ObjectPath) (start stop : Nat) :
    calls.getRange path start stop s = (s.store.getRange path start stop, s) := by
  obtain ⟨store, faults⟩ := s
  cases h
  rfl

end FaultyStore

/-- The refusal of a range that starts at the end of an object of this size or past it. -/
def ObjectStore.pastEnd (size start : Nat) : StoreError :=
  .generic "InMemory"
    s!"Invalid range: Wanted range starting at {start}, but object was only {size} bytes long"

/-- A range is cut at the end of the object, and refused if it starts there or past it. -/
theorem ObjectStore.getRange_of_get? {s : ObjectStore} {path : ObjectPath} {object : StoredObject}
    (h : s.get? path = some object) (start stop : Nat) :
    s.getRange path start stop =
      if object.data.length ≤ start then .error (pastEnd object.data.length start)
      else .ok (object.data.slice start (stop - start)) := by
  rw [getRange, h]
  rfl

/-- The name of a blob is its path as it stands. -/
theorem ObjectStore.WellFormed.pathOf_of_mem_blobs {s : ObjectStore} (h : s.WellFormed)
    {container : String} {blob : BlobItem} (hblob : blob ∈ s.blobs container) :
    pathOf blob.name = .ok ⟨blob.name⟩ :=
  ContainerStore.pathOf_eq_ok_iff.2
    (h.valid_of_mem_names (List.mem_map_of_mem hblob)).parse_text

namespace MemoryWorld

/-- Without faults a store cuts its ranges at the end of the object. -/
theorem cuts_calls {w : MemoryWorld} (hfaults : w.store.faults = []) {path : ObjectPath}
    {object : StoredObject} (h : w.store.store.get? path = some object) :
    calls.Cuts path object.data (ObjectStore.pastEnd object.data.length) w := by
  intro start stop _
  simp only [calls, FaultyStore.getRange_eq hfaults, ObjectStore.getRange_of_get? h]

/-- A container that opens brings the bytes of an object. -/
theorem download_of_get? {w : MemoryWorld} {container name : String} {key : ObjectPath}
    {object : StoredObject} (hfaults : w.store.faults = []) (hopens : container ∉ w.broken)
    (hname : pathOf name = .ok key)
    (hget : w.store.store.get? ((ObjectPath.encode container).append key) = some object)
    {offset length : Nat} (hb : offset + length ≤ object.data.length) (transfer : TransferOptions) :
    BlobService.inMemory.download () ⟨container, name⟩ offset length transfer w =
      (.ok (object.data.slice offset length), w) := by
  simp only [BlobService.inMemory, StoreOpener.download, opener_of_not_mem hopens]
  split
  · next h0 => rw [h0, Bytes.slice_zero]
  · exact ContainerStore.downloadRange_of_yields hname (cuts_calls hfaults hget).yields.under
      hb transfer

/-- Without faults the store stays as it is, also where a range is refused. -/
theorem serves_calls_of_faultless {w : MemoryWorld} (hfaults : w.store.faults = [])
    {path : ObjectPath} {object : StoredObject} (h : w.store.store.get? path = some object) :
    calls.Serves path object.data (· = w) := by
  have hserves := serves_calls path object.data
  have hholds : w.store.store.Holds path object.data := by
    rw [ObjectStore.Holds, h, Option.map_some]
  refine ⟨?_, ?_, ?_⟩
  · rintro start stop _ rfl
    simp only [calls, FaultyStore.getRange_eq hfaults]
  · rintro start stop _ data rfl hok
    exact hserves.length_le start stop _ data hholds hok
  · rintro start stop _ data rfl hok hlen
    exact hserves.honest start stop _ data hholds hok hlen

namespace Plain

variable {w : MemoryWorld} {container : String}

/-! ## One blob -/

/-- **The properties of a blob are those of the object that its name leads to.** -/
theorem properties_eq (h : w.Plain container) (name : String) :
    BlobService.inMemory.properties () ⟨container, name⟩ w =
      (match pathOf name with
        | .error e => .error e
        | .ok key =>
          match w.store.store.get? ((ObjectPath.encode container).append key) with
          | none => .error
            (ObjectStore.missing ((ObjectPath.encode container).append key)).toRemote
          | some object =>
            .ok { size := object.data.length, modified := some object.modified }, w) := by
  simp only [BlobService.inMemory, StoreOpener.properties, h.opener_eq, ContainerStore.properties]
  cases pathOf name with
  | error e => rfl
  | ok key =>
    simp only [ContainerStore.under, calls, FaultyStore.head_eq h.faultless, ObjectStore.head]
    cases w.store.store.get? ((ObjectPath.encode container).append key) <;> rfl

section

variable {name : String} {key : ObjectPath} {object : StoredObject}

theorem properties_of_get? (h : w.Plain container) (hname : pathOf name = .ok key)
    (hget : w.store.store.get? ((ObjectPath.encode container).append key) = some object) :
    BlobService.inMemory.properties () ⟨container, name⟩ w =
      (.ok { size := object.data.length, modified := some object.modified }, w) := by
  rw [h.properties_eq, hname]
  simp only [hget]

/-- Properties are those of an object. -/
theorem object_of_properties (h : w.Plain container) {properties : BlobProperties}
    {after : MemoryWorld}
    (hasked : BlobService.inMemory.properties () ⟨container, name⟩ w = (.ok properties, after)) :
    ∃ key object, pathOf name = .ok key ∧
      w.store.store.get? ((ObjectPath.encode container).append key) = some object ∧
      properties = { size := object.data.length, modified := some object.modified } ∧
      after = w := by
  rw [h.properties_eq] at hasked
  obtain ⟨hanswer, rfl⟩ := Prod.mk.inj hasked
  split at hanswer
  · cases hanswer
  next key hname =>
  split at hanswer
  · cases hanswer
  next object hget =>
  exact ⟨key, object, hname, hget, (Except.ok.inj hanswer).symm, rfl⟩

/-- A download within an object brings its bytes. -/
theorem download_eq (h : w.Plain container) (hname : pathOf name = .ok key)
    (hget : w.store.store.get? ((ObjectPath.encode container).append key) = some object)
    {offset length : Nat} (hb : offset + length ≤ object.data.length) (transfer : TransferOptions) :
    BlobService.inMemory.download () ⟨container, name⟩ offset length transfer w =
      (.ok (object.data.slice offset length), w) :=
  download_of_get? h.faultless h.opens hname hget hb transfer

/-- No download changes the store. -/
theorem serves (h : w.Plain container) (hname : pathOf name = .ok key)
    (hget : w.store.store.get? ((ObjectPath.encode container).append key) = some object) :
    BlobService.inMemory.Serves () ⟨container, name⟩ object.data (· = w) :=
  BlobService.serves_of_calls hname (serves_calls_of_faultless h.faultless hget)

end

/-! ## Listed blobs -/

variable {request : ListRequest} {page : ListPage} {after : MemoryWorld}

/-- **Whatever page a listing gives, it has the first blobs of the container that a request wants**:
the request itself, with its token read as the path that it names. -/
theorem exists_of_list_eq_ok (h : w.Plain container)
    (hlist : BlobService.inMemory.list () container request w = (.ok page, after)) :
    after = w ∧ (∃ parent, parentOf request.start = .ok parent) ∧
      ∃ token, page = .ofFirst request.size
        ({ request with token }.select (w.store.store.blobs container)) := by
  have hpage : (calls.under (.encode container)).listPage request w = (.ok page, after) := by
    rwa [← h.list_eq_listPage]
  obtain ⟨parent, hparent, offset, hoffset⟩ := ContainerStore.exists_of_listPage_eq_ok hpage
  obtain ⟨htoken, hvalid⟩ := ContainerStore.offsetOf_text hoffset
  have hsame : BlobService.inMemory.list () container
      { request with token := offset.map ObjectPath.text } w = _ := h.list_eq_ofFirst hparent hvalid
  rw [h.list_eq_listPage, ContainerStore.listPage_withToken (htoken.trans hoffset.symm), hpage] at hsame
  cases hsame
  exact ⟨rfl, ⟨parent, hparent⟩, _, rfl⟩

/-- What is listed for a container are blobs of the container. -/
theorem mem_blobs_of_list (h : w.Plain container)
    (hlist : BlobService.inMemory.list () container request w = (.ok page, after))
    {blob : BlobItem} (hblob : blob ∈ page.blobs) : blob ∈ w.store.store.blobs container := by
  obtain ⟨-, -, token, rfl⟩ := h.exists_of_list_eq_ok hlist
  have hpage : blob ∈ (Visit.of container { request with token } w.store.store).page.blobs := hblob
  exact (Visit.wanted_of_mem hpage).1

/-- The name of a blob is a token that every listing accepts: it goes on with the names that come
after it. -/
theorem exists_list_after (h : w.Plain container) {blob : BlobItem}
    (hblob : blob ∈ w.store.store.blobs container) {parent : Option ObjectPath}
    (hparent : parentOf request.start = .ok parent) :
    ∃ next, BlobService.inMemory.list () container (request.withToken blob.name) w = (.ok next, w) ∧
      ∀ other ∈ next.blobs, blob.name < other.name := by
  have hvalid : ∀ name, (request.withToken blob.name).token = some name →
      (⟨name⟩ : ObjectPath).Valid := by
    rintro name ⟨⟩
    exact h.wellFormed.valid_of_mem_names (List.mem_map_of_mem hblob)
  have hstart : parentOf (request.withToken blob.name).start = .ok parent := hparent
  refine ⟨_, h.list_eq_ofFirst hstart hvalid, fun other hother ↦ ?_⟩
  have hpage : other ∈
      (Visit.of container (request.withToken blob.name) w.store.store).page.blobs := hother
  exact of_decide_eq_true (Bool.and_eq_true_iff.1 (Visit.wanted_of_mem hpage).2).2

/-- A listed blob is found under its name. -/
theorem properties_of_mem_blobs (h : w.Plain container) {blob : BlobItem}
    (hblob : blob ∈ w.store.store.blobs container) :
    ∃ properties, BlobService.inMemory.properties () ⟨container, blob.name⟩ w =
      (.ok properties, w) ∧ properties.size = blob.size := by
  obtain ⟨-, object, hget, hsize⟩ := h.wellFormed.mem_blobs_iff.1 hblob
  exact ⟨_, h.properties_of_get? (h.wellFormed.pathOf_of_mem_blobs hblob) hget, hsize.symm⟩

end Plain

end MemoryWorld

end BlobFs

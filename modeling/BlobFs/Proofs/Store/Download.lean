import BlobFs.Proofs.File.Window
import BlobFs.Proofs.Store.Chunks
import BlobFs.Service.Rehearsed

/-!
# Downloads bring the object or fail

A download is made of ranged requests, one for each chunk, and each of them may fail in its own
way.  `ContainerStore.Serves` says what is asked of a store for one object: a range is answered with
at most as many bytes as it has, and with all of them only if they are the object's.  A store may
thus cut its answers wherever it likes.

`downloadRange_eq_slice` is the consequence, for chunks of any size: the chunks are as long together
as the range only if each of them is as long as its own range, and then they join to the object's
bytes.  `serves_calls`, `Serves.under` and `serves_inMemory` show that the store in memory is such a
store, whatever faults are planned for it.

`ContainerStore.Yields` is the store on a good day, and `downloadRange_of_yields` that a download
from it is then no failure.  `ContainerStore.Cuts` says besides what such a store does at the end of
the object: it cuts a range that only ends behind it, and refuses one that starts there.
`downloadRange_of_cuts` is the answer that comes of that, for every range and chunks of any size.
-/

set_option autoImplicit false

namespace BlobFs

variable {σ κ : Type}

namespace ContainerStore

/-- What the store answers for ranges of one object. -/
structure Serves (store : ContainerStore σ) (path : ObjectPath) (content : Bytes)
    (holds : σ → Prop) : Prop where
  keeps : ∀ start stop state, holds state → holds (store.getRange path start stop state).2
  length_le : ∀ start stop state data, holds state →
    (store.getRange path start stop state).1 = .ok data → data.length ≤ stop - start
  honest : ∀ start stop state data, holds state →
    (store.getRange path start stop state).1 = .ok data → data.length = stop - start →
    data = content.slice start (stop - start)

variable {store : ContainerStore σ} {path : ObjectPath} {content : Bytes} {holds : σ → Prop}

theorem holds_fetchChunks (h : store.Serves path content holds) (ranges : List (Nat × Nat))
    {state : σ} (hs : holds state) : holds (store.fetchChunks path ranges state).2 := by
  induction ranges generalizing state with
  | nil => exact hs
  | cons range ranges ih =>
    obtain ⟨start, stop⟩ := range
    have hkeep := h.keeps start stop state hs
    rw [fetchChunks]
    rcases hg : store.getRange path start stop state with ⟨_ | data, after⟩
    · rw [hg] at hkeep
      exact hkeep
    · rw [hg] at hkeep
      have hrest := ih hkeep
      dsimp only
      rcases hc : store.fetchChunks path ranges after with ⟨_ | chunks, last⟩
      · rw [hc] at hrest
        exact hrest
      · rw [hc] at hrest
        exact hrest

/-- Chunks that are long enough together are the range. -/
theorem flatten_fetchChunks (h : store.Serves path content holds) (start stop chunkSize : Nat)
    {state : σ} {chunks : List Bytes} (hs : holds state) (hle : start ≤ stop)
    (hok : (store.fetchChunks path (chunksBetween start stop chunkSize) state).1 = .ok chunks) :
    chunks.flatten.length ≤ stop - start ∧
      (chunks.flatten.length = stop - start →
        chunks.flatten = content.slice start (stop - start)) := by
  induction start using chunksBetween.induct stop chunkSize generalizing state chunks with
  | case1 start hlt ih =>
    rw [chunksBetween, if_pos hlt, fetchChunks] at hok
    generalize hmid : min (start + max chunkSize 1) stop = mid at hok ih
    rcases hg : store.getRange path start mid state with ⟨_ | data, after⟩
    · rw [hg] at hok
      cases hok
    · have hkeep := h.keeps start mid state hs
      rw [hg] at hok hkeep
      dsimp only at hok
      rcases hc : store.fetchChunks path (chunksBetween mid stop chunkSize) after
        with ⟨_ | rest, last⟩
      · rw [hc] at hok
        cases hok
      · rw [hc] at hok
        cases hok
        have hlen := h.length_le start mid state data hs (by rw [hg])
        obtain ⟨hrest, hall⟩ := ih hkeep (by omega) (by rw [hc])
        rw [List.flatten_cons, List.length_append]
        refine ⟨by omega, fun htotal ↦ ?_⟩
        -- neither part is longer than its range, so neither is shorter
        have hdata := h.honest start mid state data hs (by rw [hg]) (by omega)
        have htail := hall (by omega)
        calc data ++ rest.flatten
            = content.slice start (mid - start) ++ content.slice mid (stop - mid) := by
              rw [← hdata, ← htail]
          _ = content.slice start (stop - start) :=
              content.slice_append_slice_of_le (by omega) (by omega)
  | case2 start hge =>
    rw [chunksBetween, if_neg hge, fetchChunks] at hok
    cases hok
    have h0 : stop - start = 0 := by omega
    rw [h0, Bytes.slice_zero]
    exact ⟨Nat.le_refl _, fun _ ↦ rfl⟩

theorem holds_downloadRange {name : String} (hp : pathOf name = .ok path)
    (h : store.Serves path content holds) (offset length : Nat) (transfer : TransferOptions)
    {state : σ} (hs : holds state) :
    holds (store.downloadRange name offset length transfer state).2 := by
  have hkeep := holds_fetchChunks h (chunkRanges offset length transfer.chunkSize) hs
  rw [downloadRange, hp]
  split
  · exact hs
  · dsimp only
    rcases hc : store.fetchChunks path (chunkRanges offset length transfer.chunkSize) state
      with ⟨_ | chunks, after⟩
    · rw [hc] at hkeep
      exact hkeep
    · rw [hc] at hkeep
      dsimp only
      split <;> exact hkeep

/-- **A download that succeeds brings the object's bytes**, whatever the size of the chunks. -/
theorem downloadRange_eq_slice {name : String} (hp : pathOf name = .ok path)
    (h : store.Serves path content holds) {offset length : Nat} {transfer : TransferOptions}
    {state : σ} {data : Bytes} (hs : holds state)
    (hok : (store.downloadRange name offset length transfer state).1 = .ok data) :
    data = content.slice offset length := by
  rw [downloadRange, hp] at hok
  split at hok
  · next h0 =>
    cases hok
    rw [h0, Bytes.slice_zero]
  · dsimp only at hok
    rcases hc : store.fetchChunks path (chunkRanges offset length transfer.chunkSize) state
      with ⟨_ | chunks, after⟩
    · rw [hc] at hok
      cases hok
    · rw [hc] at hok
      dsimp only at hok
      split at hok
      · next hlen =>
        cases hok
        have hspan : offset + length - offset = length := Nat.add_sub_cancel_left _ _
        have hall := (flatten_fetchChunks h offset (offset + length) transfer.chunkSize hs
          (Nat.le_add_right _ _) (by rw [← chunkRanges, hc])).2
        rw [hspan] at hall
        exact hall hlen
      · cases hok

/-! ## A store that fails nowhere -/

/-- The store answers every range within the content with its bytes, and stays as it is. -/
def Yields (store : ContainerStore σ) (path : ObjectPath) (content : Bytes) (state : σ) : Prop :=
  ∀ start stop, start < stop → stop ≤ content.length →
    store.getRange path start stop state = (.ok (content.slice start (stop - start)), state)

/-- Chunks that meet are together the bytes from the first to the last. -/
theorem flatten_slicesBetween (content : Bytes) {start stop : Nat} (chunkSize : Nat)
    (hle : start ≤ stop) :
    ((chunksBetween start stop chunkSize).map fun chunk ↦
      content.slice chunk.1 (chunk.2 - chunk.1)).flatten = content.slice start (stop - start) := by
  induction start using chunksBetween.induct stop chunkSize with
  | case1 start hlt ih =>
    rw [chunksBetween_of_lt hlt]
    generalize hmid : min (start + max chunkSize 1) stop = mid at ih ⊢
    rw [List.map_cons, List.flatten_cons, ih (by omega)]
    exact content.slice_append_slice_of_le (by omega) (by omega)
  | case2 start hge =>
    have h0 : stop - start = 0 := by omega
    rw [chunksBetween_of_le (Nat.not_lt.1 hge), h0, Bytes.slice_zero]
    rfl

/-- The chunks of a range are together its bytes. -/
theorem flatten_slices (content : Bytes) (offset length chunkSize : Nat) :
    ((chunkRanges offset length chunkSize).map fun chunk ↦
      content.slice chunk.1 (chunk.2 - chunk.1)).flatten = content.slice offset length := by
  rw [chunkRanges, flatten_slicesBetween content chunkSize (Nat.le_add_right _ _),
    Nat.add_sub_cancel_left]

/-- Chunks that are all answered with their bytes are fetched. -/
theorem fetchChunks_eq_map {state : σ} {ranges : List (Nat × Nat)}
    (h : ∀ chunk ∈ ranges, store.getRange path chunk.1 chunk.2 state =
      (.ok (content.slice chunk.1 (chunk.2 - chunk.1)), state)) :
    store.fetchChunks path ranges state =
      (.ok (ranges.map fun chunk ↦ content.slice chunk.1 (chunk.2 - chunk.1)), state) := by
  induction ranges with
  | nil => rfl
  | cons chunk ranges ih =>
    obtain ⟨hfirst, hrest⟩ := List.forall_mem_cons.1 h
    rw [fetchChunks, hfirst]
    simp only [ih hrest, List.map_cons]

/-- **Where no range fails, a download within the content succeeds.** -/
theorem downloadRange_of_yields {name : String} (hp : pathOf name = .ok path) {state : σ}
    (h : store.Yields path content state) {offset length : Nat}
    (hb : offset + length ≤ content.length) (transfer : TransferOptions) :
    store.downloadRange name offset length transfer state =
      (.ok (content.slice offset length), state) := by
  rw [downloadRange, hp]
  split
  · next h0 => rw [h0, Bytes.slice_zero]
  · have hchunks : store.fetchChunks path (chunkRanges offset length transfer.chunkSize) state = _ :=
      fetchChunks_eq_map fun chunk hchunk ↦ by
        obtain ⟨-, hlt, hstop⟩ := mem_chunksBetween hchunk
        exact h chunk.1 chunk.2 hlt (Nat.le_trans hstop hb)
    simp only [hchunks, flatten_slices, Bytes.length_slice_of_le hb, if_true]

/-! ## A store that cuts at the end -/

/-- The store refuses a range that starts at the end of the content or past it, and cuts every other
one there; it stays as it is. -/
def Cuts (store : ContainerStore σ) (path : ObjectPath) (content : Bytes)
    (refusal : Nat → StoreError) (state : σ) : Prop :=
  ∀ start stop, start < stop → store.getRange path start stop state =
    (if content.length ≤ start then .error (refusal start)
      else .ok (content.slice start (stop - start)), state)

section Cuts

variable {refusal : Nat → StoreError} {state : σ}

/-- A range within the content is not cut. -/
theorem Cuts.yields (h : store.Cuts path content refusal state) :
    store.Yields path content state := by
  intro start stop hlt hb
  rw [h start stop hlt, if_neg (by omega)]

/-- The first chunk that starts at the end or past it is the failure.  Without one all chunks are
fetched, and what lies past the end is missing from them. -/
theorem fetchChunks_of_cuts (h : store.Cuts path content refusal state)
    {ranges : List (Nat × Nat)} (hne : ∀ chunk ∈ ranges, chunk.1 < chunk.2) :
    store.fetchChunks path ranges state =
      (match ranges.find? fun chunk ↦ content.length ≤ chunk.1 with
        | some chunk => .error (refusal chunk.1).toRemote
        | none => .ok (ranges.map fun chunk ↦ content.slice chunk.1 (chunk.2 - chunk.1)),
        state) := by
  induction ranges with
  | nil => rfl
  | cons chunk ranges ih =>
    obtain ⟨hlt, hrest⟩ := List.forall_mem_cons.1 hne
    rw [fetchChunks, h chunk.1 chunk.2 hlt, List.find?_cons]
    by_cases hpast : content.length ≤ chunk.1
    · rw [if_pos hpast, decide_eq_true hpast]
    · rw [if_neg hpast, decide_eq_false hpast]
      simp only [ih hrest]
      cases ranges.find? fun chunk ↦ content.length ≤ chunk.1 <;> rfl

/-- **What a download comes to**, within the content and past it. -/
theorem downloadRange_of_cuts {name : String} (hp : pathOf name = .ok path)
    (h : store.Cuts path content refusal state) {offset length : Nat} (hpos : 0 < length)
    (transfer : TransferOptions) :
    store.downloadRange name offset length transfer state =
      (match (chunkRanges offset length transfer.chunkSize).find? fun chunk ↦
          content.length ≤ chunk.1 with
        | some chunk => .error (refusal chunk.1).toRemote
        | none =>
          if offset + length ≤ content.length then .ok (content.slice offset length)
          else .error (.other
            s!"Short read of '{name}': expected {length} bytes, got {content.length - offset}"),
        state) := by
  have hfetched : store.fetchChunks path (chunkRanges offset length transfer.chunkSize) state = _ :=
    fetchChunks_of_cuts h fun chunk hchunk ↦ (mem_chunksBetween hchunk).2.1
  rw [downloadRange, if_neg (by omega), hp]
  simp only [hfetched]
  cases hfind : (chunkRanges offset length transfer.chunkSize).find? fun chunk ↦
      content.length ≤ chunk.1 with
  | some chunk => rfl
  | none =>
    -- the first chunk starts within the content, so the bytes that are missing are those past its end
    have hfirst : offset < content.length := by
      rw [chunkRanges_of_pos hpos, List.find?_eq_none] at hfind
      simpa using hfind _ List.mem_cons_self
    dsimp only
    rw [flatten_slices, Bytes.length_slice]
    by_cases hb : offset + length ≤ content.length
    · rw [if_pos hb, if_pos (by omega)]
    · rw [if_neg hb, if_neg (by omega), Nat.min_eq_right (by omega)]

end Cuts

/-! ## A container of a store -/

/-- A container is as good as the store that it is a part of. -/
theorem Serves.under {base : ObjectPath} (h : store.Serves (base.append path) content holds) :
    (store.under base).Serves path content holds :=
  ⟨h.keeps, h.length_le, h.honest⟩

theorem Cuts.under {base : ObjectPath} {refusal : Nat → StoreError} {state : σ}
    (h : store.Cuts (base.append path) content refusal state) :
    (store.under base).Cuts path content refusal state :=
  h

theorem Yields.under {base : ObjectPath} {state : σ}
    (h : store.Yields (base.append path) content state) :
    (store.under base).Yields path content state :=
  h

end ContainerStore

/-! ## The store in memory -/

/-- The object at a path has this content. -/
def ObjectStore.Holds (s : ObjectStore) (path : ObjectPath) (content : Bytes) : Prop :=
  (s.get? path).map StoredObject.data = some content

theorem ObjectStore.getRange_eq_slice {s : ObjectStore} {path : ObjectPath} {content data : Bytes}
    {start stop : Nat} (h : s.Holds path content) (hok : s.getRange path start stop = .ok data) :
    data = content.slice start (stop - start) := by
  obtain ⟨object, hget, rfl⟩ := Option.map_eq_some_iff.1 h
  rw [getRange, hget] at hok
  dsimp only at hok
  split at hok
  · cases hok
  · cases hok
    rfl

namespace FaultyStore

theorem strike_store (sort : CallSort) (path : ObjectPath) (start : Option Nat) (s : FaultyStore) :
    (s.strike sort path start).2.store = s.store := rfl

theorem store_getRange (path : ObjectPath) (start stop : Nat) (s : FaultyStore) :
    (calls.getRange path start stop s).2.store = s.store := by
  have hstore := strike_store .get path (some start) s
  simp only [calls]
  rcases hx : s.strike .get path (some start) with ⟨_ | fault, after⟩
  · rw [hx] at hstore
    exact hstore
  · rw [hx] at hstore
    dsimp only
    split
    · exact hstore
    · split <;> exact hstore

/-- What a store with faults answers is the beginning of what it would answer without them. -/
theorem getRange_eq_take {path : ObjectPath} {content data : Bytes} {start stop : Nat}
    {s : FaultyStore} (h : s.store.Holds path content)
    (hok : (calls.getRange path start stop s).1 = .ok data) :
    ∃ kept, data = (content.slice start (stop - start)).take kept := by
  have hstore := strike_store .get path (some start) s
  simp only [calls] at hok
  rcases hx : s.strike .get path (some start) with ⟨_ | fault, after⟩
  · rw [hx] at hok hstore
    dsimp only at hok hstore
    rw [hstore] at hok
    have hdata := ObjectStore.getRange_eq_slice h hok
    exact ⟨data.length, by rw [← hdata, List.take_length]⟩
  · rw [hx] at hok hstore
    dsimp only at hok hstore
    rw [hstore] at hok
    split at hok
    · cases hok
    · next kept _ =>
      split at hok
      · next hget =>
        cases hok
        exact ⟨kept, by rw [ObjectStore.getRange_eq_slice h hget]⟩
      · cases hok

/-- No fault makes the store answer a range with other bytes than the object's. -/
theorem serves_calls (path : ObjectPath) (content : Bytes) :
    calls.Serves path content fun s ↦ s.store.Holds path content where
  keeps start stop s h := by rwa [store_getRange]
  length_le start stop s data h hok := by
    obtain ⟨kept, rfl⟩ := getRange_eq_take h hok
    rw [List.length_take, Bytes.length_slice]
    omega
  honest start stop s data h hok hlen := by
    obtain ⟨kept, rfl⟩ := getRange_eq_take h hok
    rw [List.length_take] at hlen
    refine List.take_of_length_le ?_
    rw [Bytes.length_slice] at hlen ⊢
    omega

end FaultyStore

theorem MemoryWorld.serves_calls (path : ObjectPath) (content : Bytes) :
    MemoryWorld.calls.Serves path content fun w ↦ w.store.store.Holds path content :=
  have h := FaultyStore.serves_calls path content
  ⟨fun start stop w ↦ h.keeps start stop w.store,
    fun start stop w ↦ h.length_le start stop w.store,
    fun start stop w ↦ h.honest start stop w.store⟩

/-! ## Services -/

namespace BlobService

/-- Each download of the blob is a failure, a wrong number of bytes, or the bytes of the content. -/
structure Serves (service : BlobService σ κ) (client : κ) (blob : BlobName) (content : Bytes)
    (holds : σ → Prop) : Prop where
  keeps : ∀ offset length transfer world, holds world →
    holds (service.download client blob offset length transfer world).2
  honest : ∀ offset length transfer world data, holds world → offset + length ≤ content.length →
    (service.download client blob offset length transfer world).1 = .ok data →
    data.length = length → data = content.slice offset length

/-- A service in memory is as good as its store. -/
theorem serves_of_calls {blob : BlobName} {path : ObjectPath} {content : Bytes}
    {holds : MemoryWorld → Prop} (hp : ContainerStore.pathOf blob.path = .ok path)
    (h : MemoryWorld.calls.Serves ((ObjectPath.encode blob.container).append path) content holds) :
    inMemory.Serves () blob content holds := by
  have hstore : (MemoryWorld.calls.under (ObjectPath.encode blob.container)).Serves path content
      holds := h.under
  refine ⟨fun offset length transfer w hw ↦ ?_, fun offset length transfer w data hw _ hok _ ↦ ?_⟩
  · simp only [inMemory, StoreOpener.download, MemoryWorld.opener]
    split
    · exact hw
    · split
      · exact hw
      · next hopen =>
        split at hopen
        · cases hopen
        · cases hopen
          exact ContainerStore.holds_downloadRange hp hstore offset length transfer hw
  · simp only [inMemory, StoreOpener.download, MemoryWorld.opener] at hok
    split at hok
    · next h0 =>
      cases hok
      rw [h0, Bytes.slice_zero]
    · split at hok
      · cases hok
      · next hopen =>
        split at hopen
        · cases hopen
        · cases hopen
          exact ContainerStore.downloadRange_eq_slice hp hstore hw hok

/-- **The service in memory brings true bytes or fails**, for chunks of any size and under any plan
of faults. -/
theorem serves_inMemory {blob : BlobName} {path : ObjectPath}
    (hp : ContainerStore.pathOf blob.path = .ok path) (content : Bytes) :
    inMemory.Serves () blob content fun w ↦
      w.store.store.Holds ((ObjectPath.encode blob.container).append path) content :=
  serves_of_calls hp (MemoryWorld.serves_calls _ content)

end BlobService

end BlobFs

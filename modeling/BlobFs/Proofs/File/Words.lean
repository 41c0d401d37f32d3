import BlobFs.Proofs.File.Fetching
import BlobFs.Proofs.Service.Words

/-!
# Which settings let every read come to an end

A read of an open file passes its bounds check before anything is fetched, so the end of what it
fetches fits a word.  The chunk size is another matter: the settings accept any number but zero, and
a chunk's start is added to it before the sum is cut back to the end of the range.

* `FileHandle.ranges` — what a read fetches, and `world_readAt_eq_none_iff`: in a process that
  computes with words, a read ends the process exactly if some sum of a range does not fit.
* `FileHandle.ranges_last` — the last byte of a file just opened is fetched by itself.
* `FileHandle.sums_fit_iff` — so all reads of a file are safe exactly if its size and the chunk size
  fit together, and `last_byte_ends_process` is what accepted settings do otherwise.
-/

set_option autoImplicit false

namespace BlobFs

open ContainerStore (pathOf)

/-- No accepted option is zero. -/
theorem ReadOptions.pos_of_ofSettings {settings : Settings} {options : ReadOptions}
    (h : ofSettings settings = .ok options) :
    0 < options.transferConcurrency ∧ 0 < options.transferChunkSize ∧ 0 < options.bufferSize := by
  obtain ⟨concurrency, -, h⟩ := exists_of_bind_eq_ok h
  obtain ⟨chunkSize, -, h⟩ := exists_of_bind_eq_ok h
  obtain ⟨bufferSize, -, h⟩ := exists_of_bind_eq_ok h
  dsimp only at h
  split at h
  · next hzero =>
    cases h
    rw [zeroSettings, List.filterMap_eq_nil_iff] at hzero
    simp only [List.forall_mem_cons, ite_eq_right_iff, reduceCtorEq, imp_false] at hzero
    dsimp only
    omega
  · cases h

/-- Carrying out a plan changes the state by its fetch only. -/
theorem Reader.Plan.state_run {τ : Type} (fetch : Fetch τ) (state : τ) (offset length : Nat)
    (handed : Bytes) (left : Reader) (finish : Bytes → Bytes × Reader) :
    ((Plan.fetching offset length handed left finish).run fetch state).2.2 =
      (fetch offset length state).2 := by
  rw [← left.fetchExactly_snd fetch offset length state, run]
  rcases left.fetchExactly fetch offset length state with ⟨_ | data, after⟩ <;> rfl

namespace FileHandle

variable {σ κ : Type}

/-- The ranges that a read at an offset fetches. -/
def ranges (service : BlobService σ κ) (handle : FileHandle κ) (offset count : Nat)
    (scene : Scene σ κ) : List (Nat × Nat) :=
  (handle.reader.readAt (handle.fetch service).noted offset count
    ([], scene.session.stats, scene.world)).2.2.1.map Prod.fst

theorem ranges_eq (service : BlobService σ κ) (handle : FileHandle κ) (offset count : Nat)
    (scene : Scene σ κ) :
    handle.ranges service offset count scene =
      ((handle.reader.plan offset count).fetches (handle.fetch service)
        (scene.session.stats, scene.world)).map Prod.fst := by
  rw [ranges, Reader.readAt_eq_run, Reader.run_noted, List.nil_append]

/-- A range has some bytes, and they are the file's. -/
theorem ranges_within {handle : FileHandle κ} {size capacity : Nat}
    (h : handle.reader.Sized size capacity) (service : BlobService σ κ) (offset count : Nat)
    (scene : Scene σ κ) :
    ∀ range ∈ handle.ranges service offset count scene,
      0 < range.2 ∧ range.1 + range.2 ≤ size := by
  intro range hrange
  rw [ranges_eq] at hrange
  obtain ⟨note, hnote, rfl⟩ := List.mem_map.1 hrange
  exact (h.plan offset count).of_mem_fetches hnote

/-- The last byte of a file just opened is fetched by itself, whether directly or into the window. -/
theorem ranges_last {handle : FileHandle κ} {path : String} {size : Nat} {direct : Bool}
    {capacity : Nat} (hopen : handle.reader = .new path size direct capacity)
    (hsize : 0 < size) (hword : size < wordLimit) (hcapacity : 0 < capacity)
    (service : BlobService σ κ) (scene : Scene σ κ) :
    handle.ranges service (size - 1) 1 scene = [(size - 1, 1)] := by
  have hfetching := handle.reader.fetching_readAt (by rw [hopen]; exact hword)
    (handle.fetch service) (size - 1) 1 (scene.session.stats, scene.world)
  rw [ranges_eq]
  have hb : size - 1 + 1 ≤ handle.reader.size := by
    rw [hopen]
    exact Nat.le_of_eq (Nat.sub_add_cancel hsize)
  cases hdirect : handle.reader.direct with
  | true =>
    obtain ⟨answer, hfetches, -⟩ := hfetching.direct hb hdirect Nat.one_pos
    rw [hfetches]
    rfl
  | false =>
    have hleading : handle.reader.window.leading (size - 1) 1 = 0 := by
      rw [hopen]
      rfl
    have hrefilled := hfetching.refilled hb (.inl hdirect)
    rw [hleading, hopen] at hrefilled
    obtain ⟨answer, hfetches, -⟩ := hrefilled (by decide) hcapacity
    have hahead : min capacity (size - (size - 1)) = 1 := by omega
    rw [hopen, hfetches]
    exact congrArg (fun length ↦ [(size - 1, length)]) hahead

/-- **A read ends the process exactly if a sum of what it fetches does not fit.** -/
theorem world_readAt_eq_none_iff {handle : FileHandle Unit} {size capacity : Nat}
    (hsized : handle.reader.Sized size capacity) {scene : Scene (Option MemoryWorld) Unit}
    {w : MemoryWorld} {key : ObjectPath} (hworld : scene.world = some w)
    (hopens : handle.blob.container ∉ w.broken) (hname : pathOf handle.blob.path = .ok key)
    (offset count : Nat) :
    (handle.readAt .inMemoryWords offset count scene).2.2.world = none ↔
      ∃ range ∈ handle.ranges .inMemoryWords offset count scene,
        ∃ sum ∈ chunkSums range.1 range.2 handle.readOptions.transferChunkSize,
          wordLimit ≤ sum := by
  have hplan := hsized.plan offset count
  have hstate : (handle.readAt .inMemoryWords offset count scene).2.2.world =
      ((handle.reader.plan offset count).run (handle.fetch .inMemoryWords)
        (scene.session.stats, scene.world)).2.2.2 := by
    rw [← Reader.readAt_eq_run]
    rfl
  rw [hstate, ranges_eq]
  cases hcase : handle.reader.plan offset count with
  | settled outcome reader =>
    simp [Reader.Plan.run, Reader.Plan.fetches, hworld]
  | fetching start length handed left finish =>
    rw [hcase] at hplan
    rw [Reader.Plan.state_run, fetch, (BlobService.download_withStats _ _ _ _ _ _ _ _).2, hworld]
    refine (BlobService.world_download_inMemoryWords_eq_none_iff hopens hname hplan.1).trans ?_
    simp [Reader.Plan.fetches, ReadOptions.transfer]

/-- **Which accepted settings keep every read from overflowing.**  Let a handle be opened with
options that the settings ask for, on a file whose size fits a word, and be used by any calls in a
process that computes with words.  Then

* the end of what a read fetches fits a word, and a read ends the process exactly if one of its
  other sums does not, which are a chunk's start and the chunk size;
* all sums of all reads fit exactly if the file is empty or its size and the chunk size fit together.

The settings do not ask for that: they accept every chunk size but zero. -/
theorem sums_fit_iff {settings : Settings} {handle : FileHandle Unit} {path : String} {size : Nat}
    {direct : Bool} (hoptions : ReadOptions.ofSettings settings = .ok handle.readOptions)
    (hopen : handle.reader = .new path size direct handle.readOptions.bufferSize)
    (hword : size < wordLimit) (scene : Scene (Option MemoryWorld) Unit) :
    let chunkSize := handle.readOptions.transferChunkSize
    let after := performAll .inMemoryWords (handle, scene)
    let ranges := fun (now : FileHandle Unit × Scene (Option MemoryWorld) Unit) offset count ↦
      now.1.ranges .inMemoryWords offset count now.2
    (∀ calls offset count,
      (∀ range ∈ ranges (after calls) offset count, range.1 + range.2 < wordLimit) ∧
      ∀ w key, (after calls).2.world = some w → handle.blob.container ∉ w.broken →
        pathOf handle.blob.path = .ok key →
        (((after calls).1.readAt .inMemoryWords offset count (after calls).2).2.2.world = none ↔
          ∃ range ∈ ranges (after calls) offset count,
            ∃ sum ∈ chunkSums range.1 range.2 chunkSize, wordLimit ≤ sum)) ∧
    ((∀ calls offset count, ∀ range ∈ ranges (after calls) offset count,
        ∀ sum ∈ chunkSums range.1 range.2 chunkSize, sum < wordLimit) ↔
      size = 0 ∨ size + chunkSize ≤ wordLimit) := by
  intro chunkSize after ranges
  obtain ⟨-, hchunk, hbuffer⟩ := ReadOptions.pos_of_ofSettings hoptions
  have hsized : ∀ calls, (after calls).1.reader.Sized size handle.readOptions.bufferSize :=
    fun calls ↦ sized_performAll _ calls (by rw [hopen]; exact .new path size direct _)
  have hwithin := fun calls offset count ↦
    ranges_within (hsized calls) .inMemoryWords offset count (after calls).2
  refine ⟨fun calls offset count ↦ ⟨fun range hrange ↦ ?_, fun w key hworld hopens hname ↦ ?_⟩,
    fun hall ↦ ?_, fun hfits calls offset count range hrange sum hsum ↦ ?_⟩
  · have hrange := hwithin calls offset count range hrange
    omega
  · have hblob : (after calls).1.blob = handle.blob := blob_performAll _ _ calls
    have hsame : (after calls).1.readOptions = handle.readOptions := readOptions_performAll _ _ calls
    have hended := world_readAt_eq_none_iff (hsized calls) hworld (hblob ▸ hopens) (hblob ▸ hname)
      offset count
    rwa [hsame] at hended
  · -- the last byte is where a chunk starts as far behind as it can
    by_contra hnot
    obtain ⟨hsize, hover⟩ := not_or.1 hnot
    have hlast := ranges_last hopen (by omega) hword hbuffer .inMemoryWords scene
    have hmem : (size - 1, 1) ∈ ranges (after []) (size - 1) 1 := by
      show _ ∈ handle.ranges .inMemoryWords (size - 1) 1 scene
      rw [hlast]
      exact List.mem_singleton_self _
    have hsum := hall [] (size - 1) 1 _ hmem _ (add_mem_chunkSums Nat.one_pos)
    omega
  · obtain ⟨hpos, hb⟩ := hwithin calls offset count range hrange
    have hbound := mem_chunkSums hsum
    omega

/-! ### The largest chunk size -/

/-- Settings that ask for chunks as large as a word can say. -/
def largestChunks : Settings :=
  .ofList [(Settings.accountName, "acct"),
    (Settings.readTransferChunkSize, "18446744073709551615")]

/-- A session with these settings, and a blob of two bytes. -/
def twoBytesScene : Scene (Option MemoryWorld) Unit :=
  { session := .new largestChunks
    world := some
      { store := { store := ⟨[(⟨"c/f"⟩, ⟨[97, 98], 0⟩)]⟩, faults := [] }
        broken := []
        attempts := { specs := [], refusals := 0, made := 0 } } }

/-- The options are accepted, and some sum of some read does not fit. -/
theorem largest_chunks_overflow :
    ∃ handle after, FileSystem.openFile .inMemoryWords .empty .empty "az://c/f" .forReading
        twoBytesScene = (.ok handle, after) ∧
      ReadOptions.ofSettings largestChunks = .ok handle.readOptions ∧
      ∃ calls offset count,
        let now := performAll .inMemoryWords (handle, after) calls
        ∃ range ∈ now.1.ranges .inMemoryWords offset count now.2,
          ∃ sum ∈ chunkSums range.1 range.2 handle.readOptions.transferChunkSize,
            wordLimit ≤ sum := by
  obtain ⟨handle, after, hopen, hoptions, hnew, hsize⟩ : ∃ handle after,
      FileSystem.openFile .inMemoryWords .empty .empty "az://c/f" .forReading twoBytesScene =
        (.ok handle, after) ∧
      ReadOptions.ofSettings largestChunks = .ok handle.readOptions ∧
      handle.reader = .new "az://c/f" 2 false handle.readOptions.bufferSize ∧
      handle.readOptions.transferChunkSize + 1 = wordLimit :=
    ⟨_, _, rfl, rfl, rfl, by decide +kernel⟩
  refine ⟨handle, after, hopen, hoptions, ?_⟩
  by_contra hnone
  have hfits := (sums_fit_iff hoptions hnew (by decide) after).2.1
    fun calls offset count range hrange sum hsum ↦ Nat.lt_of_not_le fun hle ↦
      hnone ⟨calls, offset, count, range, hrange, sum, hsum, hle⟩
  omega

/-- A file is opened with accepted settings.  The read of its last byte is within its bounds, and
ends the process: the byte's offset and the chunk size are 2⁶⁴ together. -/
theorem last_byte_ends_process :
    ∃ handle after, FileSystem.openFile .inMemoryWords .empty .empty "az://c/f" .forReading
        twoBytesScene = (.ok handle, after) ∧
      ReadOptions.ofSettings largestChunks = .ok handle.readOptions ∧
      handle.reader.inBounds 1 1 = true ∧
      handle.ranges .inMemoryWords 1 1 after = [(1, 1)] ∧
      chunkSums 1 1 handle.readOptions.transferChunkSize = [2, wordLimit] ∧
      (handle.readAt .inMemoryWords 1 1 after).2.2.world.isNone := by
  refine ⟨_, _, rfl, rfl, ?_⟩
  decide +kernel

end FileHandle

end BlobFs

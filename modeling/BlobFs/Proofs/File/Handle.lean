import BlobFs.FileSystem
import BlobFs.Proofs.File.Bounds
import BlobFs.Proofs.Store.Download

/-!
# An open blob reads like a plain file

The reads of a handle go through a service that may fail at any time.  A caller seeks and reads as
it likes, gets failures now and then, and goes on.

* `FileCall` and `FileHandle.perform` — one call of a caller; `performAll` is any number of them.
* `FileHandle.Tracks` — the invariant: the handle is still one of the same blob, its reader follows
  the content, and the service still serves it.  No call breaks it (`Tracks.perform`), whether it
  fails or not, so it holds after every sequence of calls (`Tracks.performAll`).
* `reader_of_openFile` — what a handle is like when a file has just been opened, and `Tracks.new`:
  such a handle is where the invariant starts.
* `reads_content_after_calls` — after any calls, a read that succeeds brings exactly the bytes that
  a plain file would, leaves the position behind them, and stays within the bounds of its words and
  arrays all the way.

How bytes are fetched (how many at once, in which pieces, how far ahead) is nowhere asked about.
-/

set_option autoImplicit false

namespace BlobFs

variable {σ κ : Type}

/-- What a caller may do with an open file. -/
inductive FileCall where
  | seek (position : Nat)
  | read (count : Nat)
  | readAt (offset count : Nat)
  deriving DecidableEq

/-! ## Fetching through a handle -/

namespace BlobService

theorem download_withStats (service : BlobService σ κ) (on : Bool) (client : κ) (blob : BlobName)
    (offset length : Nat) (transfer : TransferOptions) (state : HttpStats × σ) :
    ((service.withStats on).download client blob offset length transfer state).1 =
        (service.download client blob offset length transfer state.2).1 ∧
      ((service.withStats on).download client blob offset length transfer state).2.2 =
        (service.download client blob offset length transfer state.2).2 := by
  cases on with
  | false => exact ⟨rfl, rfl⟩
  | true =>
    simp only [withStats, if_true, recorded]
    rcases service.download client blob offset length transfer state.2 with ⟨_ | data, inner⟩ <;>
      exact ⟨rfl, rfl⟩

end BlobService

namespace FileHandle

variable {service : BlobService σ κ} {content : Bytes} {holds : σ → Prop}

/-- Counting requests does not change what the handle is served. -/
theorem serves_fetch {handle : FileHandle κ}
    (h : service.Serves handle.client handle.blob content holds) :
    (handle.fetch service).Serves content fun state ↦ holds state.2 where
  keeps offset length state hs := by
    rw [fetch, (service.download_withStats _ _ _ _ _ _ _).2]
    exact h.keeps offset length _ state.2 hs
  honest offset length state data hs hb hok hlen := by
    rw [fetch, (service.download_withStats _ _ _ _ _ _ _).1] at hok
    exact h.honest offset length _ state.2 data hs hb hok hlen

theorem answers_fetch {handle : FileHandle κ} (state : HttpStats × σ)
    (h : ∀ offset length, offset + length ≤ content.length → ∃ data,
      (service.download handle.client handle.blob offset length handle.readOptions.transfer
        state.2).1 = .ok data ∧ data.length = length) :
    (handle.fetch service).Answers content state := by
  intro offset length hb
  rw [fetch, (service.download_withStats _ _ _ _ _ _ _).1]
  exact h offset length hb

/-! ## Calls -/

/-- The handle and the scene after a call. -/
def perform (service : BlobService σ κ) (now : FileHandle κ × Scene σ κ) :
    FileCall → FileHandle κ × Scene σ κ
  | .seek position => (now.1.seek position, now.2)
  | .read count => (now.1.read service count now.2).2
  | .readAt offset count => (now.1.readAt service offset count now.2).2

/-- The handle and the scene after a number of calls. -/
def performAll (service : BlobService σ κ) (now : FileHandle κ × Scene σ κ)
    (calls : List FileCall) : FileHandle κ × Scene σ κ :=
  calls.foldl (perform service) now

/-- No call makes a handle one of another blob. -/
theorem blob_perform (service : BlobService σ κ) (now : FileHandle κ × Scene σ κ)
    (call : FileCall) : (perform service now call).1.blob = now.1.blob := by
  cases call <;> rfl

/-- A handle stays one of the same blob. -/
theorem blob_performAll (service : BlobService σ κ) (now : FileHandle κ × Scene σ κ)
    (calls : List FileCall) : (performAll service now calls).1.blob = now.1.blob := by
  induction calls generalizing now with
  | nil => rfl
  | cons call calls ih => exact (ih _).trans (blob_perform service now call)

/-- And its options stay the same. -/
theorem readOptions_performAll (service : BlobService σ κ) (now : FileHandle κ × Scene σ κ)
    (calls : List FileCall) :
    (performAll service now calls).1.readOptions = now.1.readOptions := by
  induction calls generalizing now with
  | nil => rfl
  | cons call calls ih => exact (ih _).trans (by cases call <;> rfl)

/-- The handle reads a blob with this content, which the service serves. -/
structure Tracks (service : BlobService σ κ) (content : Bytes) (holds : σ → Prop)
    (now : FileHandle κ × Scene σ κ) : Prop where
  serves : service.Serves now.1.client now.1.blob content holds
  follows : now.1.reader.Follows content
  holds_world : holds now.2.world

theorem Tracks.perform {now : FileHandle κ × Scene σ κ} (h : Tracks service content holds now)
    (call : FileCall) : Tracks service content holds (perform service now call) := by
  have hfetch := serves_fetch h.serves
  cases call with
  | seek position => exact ⟨h.serves, h.follows.seek position, h.holds_world⟩
  | read count =>
    have hread := Reader.read_readsTo h.follows hfetch (now.2.session.stats, now.2.world)
      h.holds_world count
    exact ⟨h.serves, hread.2.2.1, hread.2.2.2⟩
  | readAt offset count =>
    have hread := Reader.readAt_readsTo h.follows hfetch (now.2.session.stats, now.2.world)
      h.holds_world offset count
    exact ⟨h.serves, hread.follows, hread.holds_state⟩

theorem Tracks.performAll {now : FileHandle κ × Scene σ κ} (h : Tracks service content holds now)
    (calls : List FileCall) : Tracks service content holds (performAll service now calls) := by
  induction calls generalizing now with
  | nil => exact h
  | cons call calls ih => exact ih (h.perform call)

/-- What a handle is like when it has just been opened: nothing has been read, and the window has
room for as much as is to be read ahead. -/
theorem reader_of_openFile {host : Host} {secrets : SecretRegistry} {path : String}
    {flags : OpenFlags} {before after : Scene σ κ} {handle : FileHandle κ}
    (h : FileSystem.openFile service host secrets path flags before = (.ok handle, after)) :
    ∃ size, handle.reader = .new path size flags.directIo handle.readOptions.bufferSize := by
  rw [FileSystem.openFile] at h
  split at h
  · cases h
  · split at h
    · cases h
    · split at h
      · cases h
      · dsimp only at h
        split at h
        · cases h
        · cases h
          exact ⟨_, rfl⟩

/-- A handle just opened tracks its blob. -/
theorem Tracks.new {handle : FileHandle κ} {scene : Scene σ κ} {path : String} {direct : Bool}
    {capacity : Nat} (hopen : handle.reader = .new path content.length direct capacity)
    (hserves : service.Serves handle.client handle.blob content holds)
    (hworld : holds scene.world) : Tracks service content holds (handle, scene) where
  serves := hserves
  follows := by
    rw [hopen]
    exact .new path content direct capacity
  holds_world := hworld

/-! ## Reads after any calls -/

/-- **An open blob reads like a plain file.**  Let a handle just opened be used by any calls, some
of which may have failed.  Then a read at an offset that succeeds brings the bytes there and ends
behind them; a read at the position that succeeds brings the bytes there as far as there are any,
and ends behind them; both can be done in a target of fixed size without a sum, a difference, a part
or a copy that leaves its bounds; and while the service answers, reads within the file do succeed.
-/
theorem reads_content_after_calls {handle : FileHandle κ} {scene : Scene σ κ} {path : String}
    {direct : Bool} {capacity : Nat}
    (hopen : handle.reader = .new path content.length direct capacity)
    (hword : content.length < wordLimit)
    (hserves : service.Serves handle.client handle.blob content holds)
    (hworld : holds scene.world) (calls : List FileCall) :
    let now := performAll service (handle, scene) calls
    let position := now.1.reader.position
    (∀ offset count,
      let result := now.1.readAt service offset count now.2
      result.1.failure = none →
        offset + count ≤ content.length ∧ result.1.bytes = content.slice offset count ∧
          result.1.bytes.length = count ∧ result.2.1.reader.position = offset + count) ∧
    (∀ count,
      let result := now.1.read service count now.2
      let read := min count (content.length - position)
      result.1.failure = none →
        result.1.bytes = content.slice position read ∧ result.1.bytes.length = read ∧
          result.2.1.reader.position = position + read) ∧
    (∀ rounds target offset,
      let result := now.1.readAt service offset target.length now.2
      Bounded.readAt? (now.1.fetch service) (rounds + 2) now.1.reader target offset
          (now.2.session.stats, now.2.world) =
        some { failure := result.1.failure
               target := target.overwrite result.1.bytes
               reader := result.2.1.reader
               state := (result.2.2.session.stats, result.2.2.world) }) ∧
    (∀ rounds target,
      let result := now.1.read service target.length now.2
      Bounded.read? (now.1.fetch service) (rounds + 2) now.1.reader target
          (now.2.session.stats, now.2.world) =
        some { failure := result.1.failure
               target := target.overwrite result.1.bytes
               reader := result.2.1.reader
               state := (result.2.2.session.stats, result.2.2.world) }) ∧
    ((∀ offset length, offset + length ≤ content.length → ∃ data,
        (service.download now.1.client now.1.blob offset length now.1.readOptions.transfer
          now.2.world).1 = .ok data ∧ data.length = length) →
      (∀ offset count, offset + count ≤ content.length →
        (now.1.readAt service offset count now.2).1.failure = none) ∧
      ∀ count, (now.1.read service count now.2).1.failure = none) := by
  have htracks := (Tracks.new hopen hserves hworld).performAll calls
  generalize performAll service (handle, scene) calls = now at htracks
  have hfetch := serves_fetch htracks.serves
  refine ⟨fun offset count hnone ↦ ?_, fun count hnone ↦ ?_, fun rounds target offset ↦ ?_,
    fun rounds target ↦ ?_, fun hanswers ↦ ⟨fun offset count hb ↦ ?_, fun count ↦ ?_⟩⟩
  · have hread := Reader.readAt_readsTo htracks.follows hfetch
      (now.2.session.stats, now.2.world) htracks.holds_world offset count
    obtain ⟨hb, hlen, hpos⟩ := hread.complete hnone
    have hbytes := hread.bytes_eq
    rw [hlen] at hbytes
    exact ⟨hb, hbytes, hlen, hpos⟩
  · obtain ⟨hbytes, hok, -, -⟩ := Reader.read_readsTo htracks.follows hfetch
      (now.2.session.stats, now.2.world) htracks.holds_world count
    obtain ⟨hlen, hpos⟩ := hok hnone
    rw [hlen] at hbytes
    exact ⟨hbytes, hlen, hpos⟩
  · exact Bounded.readAt?_eq htracks.follows hword rounds target offset _
  · exact Bounded.read?_eq htracks.follows hword hfetch rounds target htracks.holds_world
  · exact Reader.failure_readAt_eq_none htracks.follows hword
      (answers_fetch (now.2.session.stats, now.2.world) hanswers) hb
  · exact Reader.failure_read_eq_none htracks.follows hword
      (answers_fetch (now.2.session.stats, now.2.world) hanswers) count

/-! ### A store that fails twice -/

/-- Ten bytes. -/
def sampleContent : Bytes := [0, 1, 2, 3, 4, 5, 6, 7, 8, 9]

/-- One range is cut to its first byte: the first one asked for, or the first at this offset. -/
def cutOnce (offset : Option Nat) : Fault :=
  { sort := .get, path := none, offset, kind := .generic, message := "cut", after := 0
    keep := some 1, uses := some 1 }

/-- A blob in memory; the first range and the first one at offset 4 are cut. -/
def sampleScene : Scene MemoryWorld Unit :=
  { session := .new .empty
    world :=
      { store := { store := ⟨[(⟨"box/file"⟩, ⟨sampleContent, 0⟩)]⟩
                   faults := [cutOnce none, cutOnce (some 4)] }
        broken := []
        attempts := { specs := [], refusals := 0, made := 0 } } }

/-- A handle of the blob that reads four bytes ahead and fetches three at once. -/
def sampleHandle : FileHandle Unit :=
  { reader := .new "az://box/file" sampleContent.length false 4
    flags := .forReading
    modified := none
    readOptions := { transferConcurrency := 2, transferChunkSize := 3, bufferSize := 4 }
    blob := { container := "box", path := "file" }
    client := ()
    recorded := true }

/-- The first read fails at its only fetch, the third one after it has handed out two bytes. -/
def sampleCalls : List FileCall := [.readAt 0 3, .readAt 0 3, .readAt 2 5, .seek 1]

theorem reads_content_after_two_failures :
    let now := performAll .inMemory (sampleHandle, sampleScene) sampleCalls
    sampleContent.length < wordLimit ∧
      (now.1.readAt .inMemory 2 5 now.2).1.failure = none ∧
      (now.1.readAt .inMemory 2 5 now.2).1.bytes = [2, 3, 4, 5, 6] ∧
      (now.1.readAt .inMemory 2 5 now.2).2.1.reader.position = 7 := by
  intro now
  have hnone : (now.1.readAt .inMemory 2 5 now.2).1.failure = none := by decide +kernel
  have hworld : sampleScene.world.store.store.Holds
      ((ObjectPath.encode sampleHandle.blob.container).append ⟨"file"⟩) sampleContent := rfl
  have hread := (reads_content_after_calls rfl (by decide) (BlobService.serves_inMemory rfl _)
    hworld sampleCalls).1 2 5 hnone
  exact ⟨by decide, hnone, hread.2.1, hread.2.2.2⟩

end FileHandle

end BlobFs

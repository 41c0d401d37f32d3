import BlobFs.Proofs.File.Handle

/-!
# Reads that fail

A read may fail after it has handed out bytes from the window.  Then the position stands behind
these bytes, not where it stood before the read: the next read at the position goes on from there.

* `Reader.Fails` — what a read at an offset leaves behind if it fails, in two cases.  One that is
  refused, or direct, leaves the reader alone; any other leaves it behind what the window had.
* `FileHandle.position_after_failure` — so it is after any calls, and for a read at the position: it
  hands out the bytes there up to where the position stands afterwards, and a second read brings the
  bytes that follow.

So a caller that keeps what a failed read handed out has lost nothing, and one that drops it and
reads again misses just these bytes (`read_again_misses_two`).  Whether there are any is for the
window to say: the position stays exactly if the window does not cover it.
-/

set_option autoImplicit false

namespace BlobFs

/-- Bytes are handed out at an offset exactly if the window covers it. -/
theorem ReadWindow.copy_positionAt_eq_nil_iff {w : ReadWindow} {offset count : Nat}
    (hcount : 0 < count) :
    ((w.positionAt offset).2.copy count).1 = [] ↔ w.covers offset = false := by
  cases hc : w.covers offset with
  | false =>
    rw [positionAt_of_not_covers hc, copy_of_not_serving (state_bypass_ne_serving w)]
    exact ⟨fun _ ↦ rfl, fun _ ↦ rfl⟩
  | true =>
    obtain ⟨start, hs, hle, hlt⟩ := covers_iff.1 hc
    rw [positionAt_of_covers hs hc, copy_of_serving rfl, ← List.length_eq_zero_iff,
      Bytes.length_slice]
    simp only [reduceCtorEq, iff_false]
    omega

namespace Reader

variable {τ : Type} {r : Reader} {fetch : Fetch τ} {offset count : Nat} {state : τ}
  {e : StorageError}

/-- What a read of `count` bytes at `offset` that fails leaves behind. -/
inductive Fails (r : Reader) (offset count : Nat) (e : StorageError) :
    ReadOutcome × Reader × τ → Prop
  /-- It is refused, or direct, and nothing has happened. -/
  | unmoved {after : τ} (h : r.inBounds offset count = false ∨ r.direct = true) :
      Fails r offset count e (⟨[], some e⟩, r, after)
  /-- The window has handed out what it had. -/
  | cut {handed : Bytes} {window : ReadWindow} {after : τ} (hin : r.inBounds offset count = true)
      (hdirect : r.direct = false)
      (hcopy : (r.window.positionAt offset).2.copy count = (handed, window))
      (hlt : handed.length < count) :
      Fails r offset count e
        (⟨handed, some e⟩, { r with window, position := offset + handed.length }, after)

/-- If the rest of a read cannot be had, what came before is all there is. -/
theorem readRest_of_failure {handed : Bytes} {missing : Nat}
    (h : (r.readRest fetch handed missing state).1.failure = some e) :
    ∃ after, r.readRest fetch handed missing state = (⟨handed, some e⟩, r, after) := by
  rw [readRest] at h ⊢
  dsimp only at h ⊢
  split at h
  · next hahead =>
    rw [if_pos hahead]
    rcases hx : r.fetchExactly fetch r.position missing state with ⟨_ | data, after⟩
    · rw [hx] at h
      cases h
      exact ⟨after, rfl⟩
    · rw [hx] at h
      cases h
  · next hahead =>
    rw [if_neg hahead]
    rcases hx : r.fetchExactly fetch r.position (min r.window.capacity (r.size - r.position)) state
      with ⟨_ | data, after⟩
    · rw [hx] at h
      cases h
      exact ⟨after, rfl⟩
    · rw [hx] at h
      cases h

theorem fails_readDirect (hdirect : r.direct = true)
    (h : (r.readDirect fetch offset count state).1.failure = some e) :
    Fails r offset count e (r.readDirect fetch offset count state) := by
  rw [readDirect] at h ⊢
  rcases hx : r.fetchExactly fetch offset count state with ⟨_ | data, after⟩
  · rw [hx] at h
    cases h
    exact .unmoved (.inr hdirect)
  · rw [hx] at h
    cases h

theorem fails_readBuffered (hin : r.inBounds offset count = true)
    (hdirect : 0 < count → r.direct = false)
    (h : (r.readBuffered fetch offset count state).1.failure = some e) :
    Fails r offset count e (r.readBuffered fetch offset count state) := by
  have hle := ReadWindow.length_copy_le (r.window.positionAt offset).2 count
  rw [readBuffered] at h ⊢
  rcases hcopy : (r.window.positionAt offset).2.copy count with ⟨handed, window⟩
  rw [hcopy] at h hle
  dsimp only at h hle ⊢
  split at h
  · cases h
  · next hne =>
    obtain ⟨after, hrest⟩ := readRest_of_failure h
    rw [if_neg hne, hrest]
    have hlt : handed.length < count := Nat.lt_of_le_of_ne hle hne
    exact .cut hin (hdirect (Nat.zero_lt_of_lt hlt)) hcopy hlt

/-- There are no other cases. -/
theorem fails_readAt (h : (r.readAt fetch offset count state).1.failure = some e) :
    Fails r offset count e (r.readAt fetch offset count state) := by
  rw [readAt] at h ⊢
  split
  · next hin =>
    rw [if_pos hin] at h
    split
    · next hdirect =>
      rw [if_pos hdirect] at h
      exact fails_readDirect (Bool.and_eq_true_iff.1 hdirect).1 h
    · next hdirect =>
      rw [if_neg hdirect] at h
      exact fails_readBuffered hin (fun hpos ↦ by simpa [hpos] using hdirect) h
  · next hin =>
    rw [if_neg hin] at h
    cases h
    exact .unmoved (.inl (by simpa using hin))

/-- A failed read at the position is a failed read of the bytes that there are. -/
theorem fails_read (h : (r.read fetch count state).1.failure = some e) :
    Fails r r.position (r.readable count) e (r.read fetch count state) := by
  rw [read] at h ⊢
  split
  · next hnone =>
    rw [if_pos hnone] at h
    cases h
  · next hsome =>
    rw [if_neg hsome] at h
    exact fails_readAt h

/-! ## The position -/

variable {content : Bytes}

/-- Where a failed read at an offset leaves the position. -/
theorem position_readAt_of_failure (hr : r.Follows content) (hw : content.length < wordLimit)
    (h : (r.readAt fetch offset count state).1.failure = some e) :
    (content.length < offset + count ∨ r.direct = true →
      (r.readAt fetch offset count state).1.bytes = [] ∧
        (r.readAt fetch offset count state).2.1.position = r.position) ∧
    (offset + count ≤ content.length → r.direct = false →
      (r.readAt fetch offset count state).1.bytes.length < count ∧
        (r.readAt fetch offset count state).2.1.position =
          offset + (r.readAt fetch offset count state).1.bytes.length) := by
  have hfails := fails_readAt h
  have hsize := hr.size_eq
  generalize r.readAt fetch offset count state = result at hfails ⊢
  cases hfails with
  | unmoved hcase =>
    refine ⟨fun _ ↦ ⟨rfl, rfl⟩, fun hb hoff ↦ ?_⟩
    rcases hcase with hout | hon
    · have hin : r.inBounds offset count = true := inBounds_iff.2 ⟨by omega, by omega⟩
      cases hin.symm.trans hout
    · cases hon.symm.trans hoff
  | cut hin hoff hcopy hlt =>
    refine ⟨fun hcase ↦ ?_, fun _ _ ↦ ⟨hlt, rfl⟩⟩
    rcases hcase with hout | hon
    · have hb := (inBounds_iff.1 hin).2
      omega
    · cases hon.symm.trans hoff

/-- Where a failed read at the position leaves it. -/
theorem position_read_of_failure (hr : r.Follows content) (hw : content.length < wordLimit)
    (h : (r.read fetch count state).1.failure = some e) :
    (r.read fetch count state).2.1.position =
        r.position + (r.read fetch count state).1.bytes.length ∧
      ((r.read fetch count state).1.bytes = [] ↔
        r.direct = true ∨ r.window.covers r.position = false) := by
  have hfails := fails_read h
  have hin : r.inBounds r.position (r.readable count) = true := by
    have hsome : r.readable count ≠ 0 := fun hnone ↦ by
      rw [read, if_pos hnone] at h
      cases h
    have hsize := hr.size_eq
    rw [readable] at hsome ⊢
    exact inBounds_iff.2 ⟨by omega, by omega⟩
  generalize r.read fetch count state = result at hfails ⊢
  cases hfails with
  | unmoved hcase =>
    rcases hcase with hout | hon
    · cases hin.symm.trans hout
    · exact ⟨rfl, fun _ ↦ .inl hon, fun _ ↦ rfl⟩
  | cut _ hoff hcopy hlt =>
    have hnil : ((r.window.positionAt r.position).2.copy (r.readable count)).1 = [] ↔ _ :=
      ReadWindow.copy_positionAt_eq_nil_iff (Nat.zero_lt_of_lt hlt)
    rw [hcopy] at hnil
    refine ⟨rfl, hnil.trans ⟨.inr, fun hcase ↦ ?_⟩⟩
    exact hcase.resolve_left fun hon ↦ by cases hon.symm.trans hoff

/-! ## Direct reading -/

theorem direct_readRest (r : Reader) (fetch : Fetch τ) (handed : Bytes) (missing : Nat)
    (state : τ) : (r.readRest fetch handed missing state).2.1.direct = r.direct := by
  rw [readRest]
  split <;> split <;> rfl

/-- Whether a reader is direct does not change. -/
theorem direct_readAt (r : Reader) (fetch : Fetch τ) (offset count : Nat) (state : τ) :
    (r.readAt fetch offset count state).2.1.direct = r.direct := by
  rw [readAt]
  split
  · split
    · rw [readDirect]
      split <;> rfl
    · rw [readBuffered]
      dsimp only
      split
      · rfl
      · exact direct_readRest _ fetch _ _ state
  · rfl

theorem direct_read (r : Reader) (fetch : Fetch τ) (count : Nat) (state : τ) :
    (r.read fetch count state).2.1.direct = r.direct := by
  rw [read]
  split
  · rfl
  · exact r.direct_readAt fetch _ _ state

end Reader

namespace FileHandle

variable {σ κ : Type} {service : BlobService σ κ} {content : Bytes} {holds : σ → Prop}

theorem direct_performAll (service : BlobService σ κ) (calls : List FileCall)
    (now : FileHandle κ × Scene σ κ) :
    (performAll service now calls).1.reader.direct = now.1.reader.direct := by
  induction calls generalizing now with
  | nil => rfl
  | cons call calls ih =>
    refine (ih (perform service now call)).trans ?_
    cases call with
    | seek position => rfl
    | read count => exact now.1.reader.direct_read _ count _
    | readAt offset count => exact now.1.reader.direct_readAt _ offset count _

/-- **Where a failed read leaves the position.**  Let a handle just opened be used by any calls.

* A read at an offset that is out of bounds, or direct, and fails hands out nothing and leaves the
  position.  Any other that fails has handed out the content from the offset on, less than was asked
  for, and the position stands behind it.
* A read at the position that fails has handed out the content from there to where the position
  stands now.  A second read brings what follows; both together are the content at the position.
  The position has not moved exactly if reading is direct or the window does not cover it. -/
theorem position_after_failure {handle : FileHandle κ} {scene : Scene σ κ} {path : String}
    {direct : Bool} {capacity : Nat}
    (hopen : handle.reader = .new path content.length direct capacity)
    (hword : content.length < wordLimit)
    (hserves : service.Serves handle.client handle.blob content holds)
    (hworld : holds scene.world) (calls : List FileCall) :
    let now := performAll service (handle, scene) calls
    let position := now.1.reader.position
    (∀ offset count e,
      let result := now.1.readAt service offset count now.2
      result.1.failure = some e →
        (content.length < offset + count ∨ direct = true →
          result.1.bytes = [] ∧ result.2.1.reader.position = position) ∧
        (offset + count ≤ content.length → direct = false →
          result.1.bytes = content.slice offset result.1.bytes.length ∧
            result.1.bytes.length < count ∧
            result.2.1.reader.position = offset + result.1.bytes.length)) ∧
    (∀ count e,
      let result := now.1.read service count now.2
      result.1.failure = some e →
        result.1.bytes = content.slice position result.1.bytes.length ∧
        result.2.1.reader.position = position + result.1.bytes.length ∧
        (result.2.1.reader.position = position ↔
          direct = true ∨ now.1.reader.window.covers position = false) ∧
        ∀ again,
          let second := result.2.1.read service again result.2.2
          result.1.bytes ++ second.1.bytes =
            content.slice position (result.1.bytes.length + second.1.bytes.length)) := by
  intro now position
  have htracks : Tracks service content holds now :=
    (Tracks.new hopen hserves hworld).performAll calls
  have hdirect : now.1.reader.direct = direct := by
    rw [direct_performAll, hopen]
    rfl
  have hfetch := serves_fetch htracks.serves
  have hfollows := htracks.follows
  refine ⟨?_, ?_⟩
  · intro offset count e result hfail
    have hbytes := (Reader.readAt_readsTo hfollows hfetch (now.2.session.stats, now.2.world)
      htracks.holds_world offset count).bytes_eq
    obtain ⟨hstays, hmoves⟩ := Reader.position_readAt_of_failure hfollows hword hfail
    rw [hdirect] at hstays hmoves
    exact ⟨hstays, fun hb hoff ↦ ⟨hbytes, hmoves hb hoff⟩⟩
  · intro count e result hfail
    obtain ⟨hbytes, -, -, -⟩ := Reader.read_readsTo hfollows hfetch
      (now.2.session.stats, now.2.world) htracks.holds_world count
    obtain ⟨hposition, hnil⟩ := Reader.position_read_of_failure hfollows hword hfail
    rw [hdirect] at hnil
    replace hbytes : result.1.bytes = content.slice position result.1.bytes.length := hbytes
    replace hposition : result.2.1.reader.position = position + result.1.bytes.length := hposition
    refine ⟨hbytes, hposition, ?_, ?_⟩
    · rw [hposition, Nat.add_eq_left, List.length_eq_zero_iff]
      exact hnil
    · intro again second
      have hafter : Tracks service content holds result.2 := htracks.perform (.read count)
      obtain ⟨hsecond, -, -, -⟩ := Reader.read_readsTo hafter.follows
        (serves_fetch hafter.serves) (result.2.2.session.stats, result.2.2.world)
        hafter.holds_world again
      replace hsecond : second.1.bytes =
        content.slice result.2.1.reader.position second.1.bytes.length := hsecond
      rw [hposition] at hsecond
      rw [← Bytes.slice_append_slice, ← hbytes, ← hsecond]

/-! ### A read again after a failure -/

/-- The window is filled at the second attempt, and the handle moved back into it. -/
def callsIntoWindow : List FileCall := [.readAt 0 3, .readAt 0 3, .seek 2]

theorem read_again_goes_on :
    let now := performAll .inMemory (sampleHandle, sampleScene) callsIntoWindow
    let first := now.1.read .inMemory 4 now.2
    let second := first.2.1.read .inMemory 4 first.2.2
    sampleContent.length < wordLimit ∧ first.1.failure.isSome = true ∧
      first.1.bytes ++ second.1.bytes = [2, 3, 4, 5, 6, 7] := by
  intro now first second
  have hsome : first.1.failure.isSome = true := by decide +kernel
  obtain ⟨e, hfail⟩ := Option.isSome_iff_exists.1 hsome
  have hworld : sampleScene.world.store.store.Holds
      ((ObjectPath.encode sampleHandle.blob.container).append ⟨"file"⟩) sampleContent := rfl
  obtain ⟨-, -, -, hboth⟩ := (position_after_failure rfl (by decide)
    (BlobService.serves_inMemory rfl _) hworld callsIntoWindow).2 4 e hfail
  have hlength : first.1.bytes.length + second.1.bytes.length = 6 := by decide +kernel
  have hposition : now.1.reader.position = 2 := by decide +kernel
  refine ⟨by decide, hsome, ?_⟩
  have hall : first.1.bytes ++ second.1.bytes = sampleContent.slice now.1.reader.position _ :=
    hboth 4
  rw [hall, hlength, hposition]
  decide

/-- A read that fails at 2 leaves the position at 4, and a second read of four bytes brings those
from 4 on: who drops the bytes of the first read misses two. -/
theorem read_again_misses_two :
    let now := performAll .inMemory (sampleHandle, sampleScene) callsIntoWindow
    let first := now.1.read .inMemory 4 now.2
    let second := first.2.1.read .inMemory 4 first.2.2
    now.1.reader.position = 2 ∧ first.1.failure.isSome = true ∧ first.2.1.reader.position = 4 ∧
      second.1 = ⟨[4, 5, 6, 7], none⟩ := by
  decide +kernel

end FileHandle

end BlobFs

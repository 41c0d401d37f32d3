import BlobFs.File.Reader
import BlobFs.Proofs.File.Window

/-!
# Reading is reading the content

The bytes of an open file come from a `Fetch` that may fail at any time.  This file says what the
reads of a `Reader` bring in spite of that.

* `Fetch.Serves` — what is asked of the fetch: its answer is a failure, or a wrong number of bytes,
  or the bytes of the content.  Which of them it is may depend on the state in any way, so all
  patterns of failures are covered; `holds` is whatever has to be true of the state for that, and is
  kept.
* `Reader.Follows` — the invariant of the reader: it knows the length of the content and its window
  shows the content.  It says nothing about the position, which a seek may put anywhere.
* `Reader.ReadsTo` — what a read may come to: true bytes, as many as asked for unless it failed, and
  a reader that follows the content again.  `readAt_readsTo` proves it of every read at an offset
  and `read_readsTo` of every read at the position.

A failed read may have handed out some bytes, and then they are true bytes too.  And a read within
the content fails only if its fetch does (`failure_readAt_eq_none`).
-/

set_option autoImplicit false

namespace BlobFs

variable {τ : Type}

/-- Each answer of the fetch is a failure, a wrong number of bytes, or the bytes of the content. -/
structure Fetch.Serves (fetch : Fetch τ) (content : Bytes) (holds : τ → Prop) : Prop where
  keeps : ∀ offset length state, holds state → holds (fetch offset length state).2
  honest : ∀ offset length state data, holds state → offset + length ≤ content.length →
    (fetch offset length state).1 = .ok data → data.length = length →
    data = content.slice offset length

/-- In this state, every range within the content is answered with as many bytes as it has. -/
def Fetch.Answers (fetch : Fetch τ) (content : Bytes) (state : τ) : Prop :=
  ∀ offset length, offset + length ≤ content.length →
    ∃ data, (fetch offset length state).1 = .ok data ∧ data.length = length

namespace Reader

/-- The reader is one of this content. -/
structure Follows (r : Reader) (content : Bytes) : Prop where
  size_eq : r.size = content.length
  shows : r.window.Shows content

/-- What a read of `count` bytes at `offset` may come to. -/
structure ReadsTo (content : Bytes) (holds : τ → Prop) (offset count : Nat)
    (result : ReadOutcome × Reader × τ) : Prop where
  /-- Whatever is handed out is what the content has at the offset. -/
  bytes_eq : result.1.bytes = content.slice offset result.1.bytes.length
  length_le : result.1.bytes.length ≤ count
  /-- Without a failure all of it is handed out, and the reader stands behind it. -/
  complete : result.1.failure = none →
    offset + count ≤ content.length ∧ result.1.bytes.length = count ∧
      result.2.1.position = offset + count
  follows : result.2.1.Follows content
  holds_state : holds result.2.2

variable {r : Reader} {fetch : Fetch τ} {content : Bytes} {holds : τ → Prop}

/-- A file just opened follows its content. -/
theorem Follows.new (path : String) (content : Bytes) (direct : Bool) (capacity : Nat) :
    (Reader.new path content.length direct capacity).Follows content :=
  ⟨rfl, ReadWindow.Shows.new capacity content⟩

theorem Follows.seek (h : r.Follows content) (position : Nat) :
    (r.seek position).Follows content :=
  ⟨h.size_eq, h.shows⟩

/-! ## One fetch -/

theorem fetchExactly_snd (r : Reader) (fetch : Fetch τ) (offset length : Nat) (state : τ) :
    (r.fetchExactly fetch offset length state).2 = (fetch offset length state).2 := by
  rw [fetchExactly]
  split
  · next h => rw [h]
  · next h =>
    rw [h]
    split <;> rfl

theorem fetchExactly_eq_ok {offset length : Nat} {state after : τ} {data : Bytes}
    (h : r.fetchExactly fetch offset length state = (.ok data, after)) :
    (fetch offset length state).1 = .ok data ∧ data.length = length := by
  rw [fetchExactly] at h
  split at h
  · cases h
  · next hf =>
    split at h
    · next hlen =>
      cases h
      exact ⟨by rw [hf], hlen⟩
    · cases h

/-- Bytes fetched within the content are the content's. -/
theorem fetched_eq_slice (hf : fetch.Serves content holds) {offset length : Nat} {state after : τ}
    {data : Bytes} (hs : holds state) (hb : offset + length ≤ content.length)
    (h : r.fetchExactly fetch offset length state = (.ok data, after)) :
    data = content.slice offset length ∧ data.length = length := by
  obtain ⟨hok, hlen⟩ := fetchExactly_eq_ok h
  exact ⟨hf.honest offset length state data hs hb hok hlen, hlen⟩

theorem holds_after (hf : fetch.Serves content holds) {offset length : Nat} {state after : τ}
    {answer : Except StorageError Bytes} (hs : holds state)
    (h : r.fetchExactly fetch offset length state = (answer, after)) : holds after := by
  have hsnd := fetchExactly_snd r fetch offset length state
  rw [h] at hsnd
  rw [show after = _ from hsnd]
  exact hf.keeps offset length state hs

/-! ## The ways of reading -/

theorem inBounds_iff {offset count : Nat} :
    r.inBounds offset count = true ↔ offset + count < wordLimit ∧ offset + count ≤ r.size := by
  rw [inBounds, Bool.and_eq_true, decide_eq_true_eq, decide_eq_true_eq]

theorem readDirect_readsTo (hr : r.Follows content) (hf : fetch.Serves content holds)
    {offset count : Nat} {state : τ} (hs : holds state) (hb : offset + count ≤ content.length) :
    ReadsTo content holds offset count (r.readDirect fetch offset count state) := by
  rcases hx : r.fetchExactly fetch offset count state with ⟨_ | data, after⟩
  · simp only [readDirect, hx]
    exact ⟨(Bytes.slice_zero content offset).symm, Nat.zero_le _, nofun, hr, holds_after hf hs hx⟩
  · simp only [readDirect, hx]
    obtain ⟨hd, hlen⟩ := fetched_eq_slice hf hs hb hx
    refine ⟨?_, Nat.le_of_eq hlen, fun _ ↦ ⟨hb, hlen, rfl⟩, ⟨hr.size_eq, .reset _ _⟩,
      holds_after hf hs hx⟩
    show data = content.slice offset data.length
    rw [hlen]
    exact hd

/-- The rest of a read continues what has been handed out. -/
theorem readRest_readsTo (hr : r.Follows content) (hf : fetch.Serves content holds)
    {offset missing : Nat} {handed : Bytes} {state : τ} (hs : holds state)
    (hh : handed = content.slice offset handed.length)
    (hp : r.position = offset + handed.length)
    (hb : offset + (handed.length + missing) ≤ content.length) :
    ReadsTo content holds offset (handed.length + missing)
      (r.readRest fetch handed missing state) := by
  -- what came before joined to what comes now
  have hjoin : ∀ rest : Bytes, rest = content.slice r.position missing →
      handed ++ rest = content.slice offset (handed.length + missing) := by
    intro rest hrest
    rw [hrest, hp, ← Bytes.slice_append_slice, ← hh]
  by_cases hahead : min r.window.capacity (r.size - r.position) < missing
  · rcases hx : r.fetchExactly fetch r.position missing state with ⟨_ | data, after⟩
    · simp only [readRest, hx, if_pos hahead]
      exact ⟨hh, Nat.le_add_right _ _, nofun, hr, holds_after hf hs hx⟩
    · simp only [readRest, hx, if_pos hahead]
      obtain ⟨hd, hlen⟩ := fetched_eq_slice hf hs (by omega) hx
      have hall : (handed ++ data).length = handed.length + missing := by
        rw [List.length_append, hlen]
      refine ⟨?_, Nat.le_of_eq hall, fun _ ↦ ⟨hb, hall, ?_⟩, ⟨hr.size_eq, hr.shows.bypass⟩,
        holds_after hf hs hx⟩
      · show handed ++ data = content.slice offset (handed ++ data).length
        rw [hall, hjoin data hd]
      · show r.position + missing = offset + (handed.length + missing)
        omega
  · rcases hx : r.fetchExactly fetch r.position (min r.window.capacity (r.size - r.position)) state
      with ⟨_ | data, after⟩
    · simp only [readRest, hx, if_neg hahead]
      exact ⟨hh, Nat.le_add_right _ _, nofun, hr, holds_after hf hs hx⟩
    · simp only [readRest, hx, if_neg hahead]
      have hsize := hr.size_eq
      obtain ⟨hd, hlen⟩ := fetched_eq_slice hf hs (by omega) hx
      have hshows : (r.window.refill r.position data).Shows content :=
        .refill (by rw [hlen]; exact hd) (by omega) (by omega)
      have hbytes : ((r.window.refill r.position data).copy missing).1 =
          content.slice r.position missing := by
        rw [hshows.bytes_copy rfl, Nat.add_zero, Nat.sub_zero]
        show content.slice r.position (min missing data.length) = _
        rw [hlen, Nat.min_eq_left (by omega)]
      have hcount : ((r.window.refill r.position data).copy missing).1.length = missing := by
        rw [hbytes, Bytes.length_slice_of_le (by omega)]
      have hall : (handed ++ ((r.window.refill r.position data).copy missing).1).length =
          handed.length + missing := by
        rw [List.length_append, hcount]
      refine ⟨?_, Nat.le_of_eq hall, fun _ ↦ ⟨hb, hall, ?_⟩, ⟨hr.size_eq, hshows.copy missing⟩,
        holds_after hf hs hx⟩
      · show handed ++ _ = content.slice offset (handed ++ _).length
        rw [hall, hjoin _ hbytes]
      · show r.position + _ = offset + (handed.length + missing)
        rw [hcount]
        omega

theorem readBuffered_readsTo (hr : r.Follows content) (hf : fetch.Serves content holds)
    {offset count : Nat} {state : τ} (hs : holds state) (hb : offset + count ≤ content.length) :
    ReadsTo content holds offset count (r.readBuffered fetch offset count state) := by
  have hbytes := hr.shows.bytes_copy_positionAt offset count
  have hle := ReadWindow.length_copy_le (r.window.positionAt offset).2 count
  have hshows := (hr.shows.positionAt offset).copy count
  simp only [readBuffered]
  generalize (r.window.positionAt offset).2.copy count = copied at hbytes hle hshows ⊢
  obtain ⟨handed, window⟩ := copied
  split
  · next hall =>
    refine ⟨hbytes, hle, fun _ ↦ ⟨hb, hall, ?_⟩, ⟨hr.size_eq, hshows⟩, hs⟩
    show offset + handed.length = offset + count
    rw [hall]
  · have hcount : handed.length + (count - handed.length) = count := Nat.add_sub_of_le hle
    have hfollows : Follows { r with window, position := offset + handed.length } content :=
      ⟨hr.size_eq, hshows⟩
    have hrest := readRest_readsTo hfollows hf hs hbytes rfl (by rw [hcount]; exact hb)
    rwa [hcount] at hrest

/-! ## Reads -/

/-- **A read at an offset brings the content's bytes there**, whatever the fetches answer. -/
theorem readAt_readsTo (hr : r.Follows content) (hf : fetch.Serves content holds) (state : τ)
    (hs : holds state) (offset count : Nat) :
    ReadsTo content holds offset count (r.readAt fetch offset count state) := by
  rw [readAt]
  split
  · next hin =>
    have hb : offset + count ≤ content.length := by
      rw [← hr.size_eq]
      exact (inBounds_iff.1 hin).2
    split
    · exact readDirect_readsTo hr hf hs hb
    · exact readBuffered_readsTo hr hf hs hb
  · exact ⟨(Bytes.slice_zero content offset).symm, Nat.zero_le _, nofun, hr, hs⟩

/-- A read at the position is one at an offset, of as many bytes as there are. -/
theorem read_readsTo (hr : r.Follows content) (hf : fetch.Serves content holds) (state : τ)
    (hs : holds state) (count : Nat) :
    (r.read fetch count state).1.bytes =
        content.slice r.position (r.read fetch count state).1.bytes.length ∧
      ((r.read fetch count state).1.failure = none →
        (r.read fetch count state).1.bytes.length = min count (content.length - r.position) ∧
        (r.read fetch count state).2.1.position =
          r.position + min count (content.length - r.position)) ∧
      (r.read fetch count state).2.1.Follows content ∧ holds (r.read fetch count state).2.2 := by
  have hk : r.readable count = min count (content.length - r.position) := by
    rw [readable, hr.size_eq]
  rw [← hk, read]
  split
  · next h0 =>
    refine ⟨(Bytes.slice_zero content r.position).symm, fun _ ↦ ⟨h0.symm, ?_⟩, hr, hs⟩
    rw [h0, Nat.add_zero]
  · have h := readAt_readsTo hr hf state hs r.position (r.readable count)
    exact ⟨h.bytes_eq, fun hn ↦ (h.complete hn).2, h.follows, h.holds_state⟩

/-! ## No failures of its own -/

theorem fetchExactly_of_answers (r : Reader) {state : τ} (h : fetch.Answers content state)
    {offset length : Nat} (hb : offset + length ≤ content.length) :
    ∃ data after, r.fetchExactly fetch offset length state = (.ok data, after) := by
  obtain ⟨data, hok, hlen⟩ := h offset length hb
  rcases hx : fetch offset length state with ⟨answer, after⟩
  rw [hx] at hok
  dsimp only at hok
  refine ⟨data, after, ?_⟩
  rw [fetchExactly, hx, hok]
  exact if_pos hlen

theorem failure_readRest_eq_none (hr : r.Follows content) {state : τ}
    (h : fetch.Answers content state) {missing : Nat} (handed : Bytes)
    (hb : r.position + missing ≤ content.length) :
    (r.readRest fetch handed missing state).1.failure = none := by
  have hsize := hr.size_eq
  rw [readRest]
  split
  · obtain ⟨data, after, hx⟩ := fetchExactly_of_answers r h hb
    rw [hx]
  · obtain ⟨data, after, hx⟩ := fetchExactly_of_answers r h
      (show r.position + min r.window.capacity (r.size - r.position) ≤ content.length by omega)
    rw [hx]

/-- A read within the content fails only where a fetch does. -/
theorem failure_readAt_eq_none (hr : r.Follows content) (hw : content.length < wordLimit)
    {state : τ} (h : fetch.Answers content state) {offset count : Nat}
    (hb : offset + count ≤ content.length) :
    (r.readAt fetch offset count state).1.failure = none := by
  have hin : r.inBounds offset count = true :=
    inBounds_iff.2 ⟨by omega, by rw [hr.size_eq]; exact hb⟩
  have hle := ReadWindow.length_copy_le (r.window.positionAt offset).2 count
  rw [readAt, if_pos hin]
  split
  · obtain ⟨data, after, hx⟩ := fetchExactly_of_answers r h hb
    rw [readDirect, hx]
  · have hshows := (hr.shows.positionAt offset).copy count
    rw [readBuffered]
    generalize (r.window.positionAt offset).2.copy count = copied at hle hshows ⊢
    obtain ⟨handed, window⟩ := copied
    have hfollows : Follows { r with window, position := offset + handed.length } content :=
      ⟨hr.size_eq, hshows⟩
    dsimp only
    split
    · rfl
    · refine failure_readRest_eq_none hfollows h handed ?_
      dsimp only at hle ⊢
      omega

theorem failure_read_eq_none (hr : r.Follows content) (hw : content.length < wordLimit)
    {state : τ} (h : fetch.Answers content state) (count : Nat) :
    (r.read fetch count state).1.failure = none := by
  have hk : r.readable count = min count (content.length - r.position) := by
    rw [readable, hr.size_eq]
  rw [read]
  split
  · rfl
  · exact failure_readAt_eq_none hr hw h (by omega)

end Reader

end BlobFs

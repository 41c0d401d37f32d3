import BlobFs.Proofs.File.Failure
import BlobFs.Proofs.Outcome

/-!
# What a read fetches

A read at an offset makes one fetch or none, and which one it makes does not depend on what the
service has to say.

* `ReadWindow.leading` — how many of the bytes asked for are in a window, whether it is serving or
  not, up to the first that is not.
* `Reader.Plan` — a read before any fetch: it is settled, or one fetch is to be made and the bytes
  it brings settle it.  `Reader.readAt_eq_run` says that reading is carrying out the plan.
* `Reader.Sized` — the invariant: the reader knows the size of its file, and its window lies within
  it and within the capacity.  Nothing is said about the bytes, so any service keeps it.
* `Reader.Fetching` — which fetch a read makes and what the window holds afterwards, case by case.
* `FileHandle.fetches_after_calls` — so it is for every handle that any calls have left behind.

The fetches are seen by noting them (`Fetch.noted`), which changes nothing else about a read.
-/

set_option autoImplicit false

namespace BlobFs

/-! ## The window -/

namespace ReadWindow

/-- How many of `count` bytes at an offset lie in the window, up to the first that does not. -/
def leading (w : ReadWindow) (offset count : Nat) : Nat :=
  ((List.range count).takeWhile fun i ↦ w.covers (offset + i)).length

variable {w : ReadWindow} {offset count : Nat}

/-- Counting up stops at the first number that fails. -/
theorem length_takeWhile_range {p : Nat → Bool} {m : Nat} (hle : m ≤ count)
    (hall : ∀ i < m, p i = true) (hend : m < count → p m = false) :
    ((List.range count).takeWhile p).length = m := by
  obtain ⟨rest, rfl⟩ := Nat.exists_eq_add_of_le hle
  have hfront : ∀ i ∈ List.range m, p i = true := fun i hi ↦ hall i (List.mem_range.1 hi)
  rw [List.range_add, List.takeWhile_append_of_pos hfront]
  cases rest with
  | zero => simp
  | succ rest =>
    have hm : p m = false := hend (by omega)
    simp [List.range_succ_eq_map, hm]

/-- **What a moved window hands out is all of the bytes that lie in it**, up to the first that does
not. -/
theorem length_copy_positionAt (w : ReadWindow) (offset count : Nat) :
    ((w.positionAt offset).2.copy count).1.length = w.leading offset count := by
  cases hc : w.covers offset with
  | false =>
    rw [positionAt_of_not_covers hc, copy_of_not_serving (state_bypass_ne_serving w)]
    exact (length_takeWhile_range (Nat.zero_le count) nofun fun _ ↦ hc).symm
  | true =>
    obtain ⟨start, hs, hle, hlt⟩ := covers_iff.1 hc
    have hcovers : ∀ i, w.covers i = true ↔ start ≤ i ∧ i < start + w.data.length := by
      intro i
      rw [covers_iff, hs]
      simp
    rw [positionAt_of_covers hs hc, copy_of_serving rfl, Bytes.length_slice]
    dsimp only
    refine (length_takeWhile_range (Nat.min_le_left _ _) (fun i hi ↦ ?_) fun hend ↦ ?_).symm
    · rw [hcovers]
      omega
    · rw [← Bool.not_eq_true, hcovers]
      omega

theorem leading_le (w : ReadWindow) (offset count : Nat) : w.leading offset count ≤ count := by
  rw [← length_copy_positionAt]
  exact length_copy_le _ count

end ReadWindow

/-! ## Plans -/

/-- A fetch as it is noted: the offset and the length asked for, and the answer. -/
abbrev FetchNote := (Nat × Nat) × Except RemoteError Bytes

/-- The fetch with a note of every range and its answer. -/
def Fetch.noted {τ : Type} (fetch : Fetch τ) : Fetch (List FetchNote × τ) :=
  fun offset length ↦ BlobFs.noted (fun range ↦ fetch range.1 range.2) (offset, length)

namespace Reader

/-- A read before any fetch. -/
inductive Plan where
  /-- There is nothing to fetch. -/
  | settled (outcome : ReadOutcome) (reader : Reader)
  /-- One fetch is to be made.  Without its bytes, what has been handed out is all there is. -/
  | fetching (offset length : Nat) (handed : Bytes) (left : Reader)
      (finish : Bytes → Bytes × Reader)

variable {τ : Type}

/-- Makes the fetch, if there is one. -/
def Plan.run (fetch : Fetch τ) (state : τ) : Plan → ReadOutcome × Reader × τ
  | .settled outcome reader => (outcome, reader, state)
  | .fetching offset length handed left finish =>
    match left.fetchExactly fetch offset length state with
    | (.error e, state) => (⟨handed, some e⟩, left, state)
    | (.ok data, state) => (⟨handed ++ (finish data).1, none⟩, (finish data).2, state)

/-- The fetches that are made, with their answers. -/
def Plan.fetches (fetch : Fetch τ) (state : τ) : Plan → List FetchNote
  | .settled _ _ => []
  | .fetching offset length _ _ _ => [((offset, length), (fetch offset length state).1)]

/-- The plan of `readDirect`. -/
def planDirect (r : Reader) (offset count : Nat) : Plan :=
  .fetching offset count [] r fun data ↦
    (data, { r with window := r.window.reset, position := offset + count })

/-- The plan of `readRest`. -/
def planRest (r : Reader) (handed : Bytes) (missing : Nat) : Plan :=
  if min r.window.capacity (r.size - r.position) < missing then
    .fetching r.position missing handed r fun data ↦
      (data, { r with window := r.window.bypass, position := r.position + missing })
  else
    .fetching r.position (min r.window.capacity (r.size - r.position)) handed r fun data ↦
      let (bytes, window) := (r.window.refill r.position data).copy missing
      (bytes, { r with window, position := r.position + bytes.length })

/-- The plan of `readBuffered`. -/
def planBuffered (r : Reader) (offset count : Nat) : Plan :=
  let (handed, window) := (r.window.positionAt offset).2.copy count
  let r := { r with window, position := offset + handed.length }
  if handed.length = count then .settled ⟨handed, none⟩ r
  else r.planRest handed (count - handed.length)

/-- The plan of `readAt`. -/
def plan (r : Reader) (offset count : Nat) : Plan :=
  if r.inBounds offset count then
    if r.direct && 0 < count then r.planDirect offset count else r.planBuffered offset count
  else .settled ⟨[], some (.outOfBounds count offset r.path r.size)⟩ r

variable {r : Reader} {fetch : Fetch τ} {offset count size capacity : Nat} {state : τ}

theorem readRest_eq_run (r : Reader) (fetch : Fetch τ) (handed : Bytes) (missing : Nat)
    (state : τ) :
    r.readRest fetch handed missing state = (r.planRest handed missing).run fetch state := by
  rw [readRest, planRest]
  split <;> rfl

/-- **Reading is carrying out the plan**: at most one fetch, the same whatever the service is. -/
theorem readAt_eq_run (r : Reader) (fetch : Fetch τ) (offset count : Nat) (state : τ) :
    r.readAt fetch offset count state = (r.plan offset count).run fetch state := by
  rw [readAt, plan]
  split
  · split
    · rfl
    · rw [readBuffered, planBuffered]
      dsimp only
      split
      · rfl
      · exact readRest_eq_run _ fetch _ _ state
  · rfl

theorem fetchExactly_noted (r : Reader) (fetch : Fetch τ) (offset length : Nat)
    (notes : List FetchNote) (state : τ) :
    r.fetchExactly fetch.noted offset length (notes, state) =
      ((r.fetchExactly fetch offset length state).1,
        notes ++ [((offset, length), (fetch offset length state).1)],
        (r.fetchExactly fetch offset length state).2) := by
  rcases hfetch : fetch offset length state with ⟨answer, after⟩
  have hnoted : fetch.noted offset length (notes, state) =
      (answer, notes ++ [((offset, length), answer)], after) := by
    simp only [Fetch.noted, noted, hfetch]
  rw [fetchExactly, fetchExactly, hnoted, hfetch]
  cases answer with
  | error e => rfl
  | ok data =>
    dsimp only
    split <;> rfl

/-- Noting the fetches of a plan changes nothing else. -/
theorem run_noted (plan : Plan) (fetch : Fetch τ) (notes : List FetchNote) (state : τ) :
    plan.run fetch.noted (notes, state) =
      ((plan.run fetch state).1, (plan.run fetch state).2.1, notes ++ plan.fetches fetch state,
        (plan.run fetch state).2.2) := by
  cases plan with
  | settled outcome reader =>
    simp only [Plan.run, Plan.fetches, List.append_nil]
  | fetching offset length handed left finish =>
    simp only [Plan.run, Plan.fetches, fetchExactly_noted]
    rcases left.fetchExactly fetch offset length state with ⟨_ | data, after⟩ <;> rfl

/-! ## The size and the capacity -/

/-- The reader is one of a file of this size and reads so far ahead.  Its window shows some content
of that size, whichever the service has made up. -/
structure Sized (r : Reader) (size capacity : Nat) : Prop where
  capacity_eq : r.window.capacity = capacity
  follows : ∃ content : Bytes, content.length = size ∧ r.Follows content

theorem Sized.size_eq (h : r.Sized size capacity) : r.size = size := by
  obtain ⟨content, hlen, hr⟩ := h.follows
  exact hr.size_eq.trans hlen

theorem Sized.length_le (h : r.Sized size capacity) : r.window.data.length ≤ capacity := by
  obtain ⟨content, -, hr⟩ := h.follows
  rw [← h.capacity_eq]
  exact hr.shows.fits

theorem Sized.new (path : String) (size : Nat) (direct : Bool) (capacity : Nat) :
    (Reader.new path size direct capacity).Sized size capacity where
  capacity_eq := rfl
  follows := ⟨List.replicate size 0, List.length_replicate, List.length_replicate.symm, .new _ _⟩

theorem Sized.seek (h : r.Sized size capacity) (position : Nat) :
    (r.seek position).Sized size capacity := by
  obtain ⟨content, hlen, hr⟩ := h.follows
  exact ⟨h.capacity_eq, content, hlen, hr.seek position⟩

/-- What is handed out and where the reader stands make no difference. -/
theorem Sized.copy_positionAt (h : r.Sized size capacity) (offset count position : Nat) :
    Sized { r with window := ((r.window.positionAt offset).2.copy count).2, position }
      size capacity := by
  obtain ⟨content, hlen, hr⟩ := h.follows
  refine ⟨?_, content, hlen, hr.size_eq, (hr.shows.positionAt offset).copy count⟩
  rw [ReadWindow.capacity_copy, ReadWindow.capacity_positionAt, h.capacity_eq]

/-- The plan keeps to the size and the capacity: its fetch asks for some bytes of the file, and if
it brings as many, the reader is again one of that file. -/
def Plan.Sized (size capacity : Nat) : Plan → Prop
  | .settled _ reader => reader.Sized size capacity
  | .fetching offset length _ left finish =>
    0 < length ∧ offset + length ≤ size ∧ left.Sized size capacity ∧
      ∀ data : Bytes, data.length = length → (finish data).2.Sized size capacity

theorem Sized.planDirect (h : r.Sized size capacity) (hpos : 0 < count)
    (hb : offset + count ≤ size) : (r.planDirect offset count).Sized size capacity := by
  refine ⟨hpos, hb, h, fun data _ ↦ ?_⟩
  obtain ⟨content, hlen, hr⟩ := h.follows
  exact ⟨h.capacity_eq, content, hlen, hr.size_eq, .reset r.window content⟩

theorem Sized.planRest (h : r.Sized size capacity) (handed : Bytes) {missing : Nat}
    (hpos : 0 < missing) (hb : r.position + missing ≤ size) :
    (r.planRest handed missing).Sized size capacity := by
  have hsize := h.size_eq
  rw [Reader.planRest]
  split
  · refine ⟨hpos, hb, h, fun data _ ↦ ?_⟩
    obtain ⟨content, hlen, hr⟩ := h.follows
    exact ⟨(ReadWindow.capacity_bypass _).trans h.capacity_eq, content, hlen, hr.size_eq,
      hr.shows.bypass⟩
  · refine ⟨by omega, by omega, h, fun data hdata ↦ ?_⟩
    -- the old content is forgotten: the window shows another one of the same size
    obtain ⟨content, hlen, hcontent⟩ :=
      Bytes.exists_slice_eq (show r.position + data.length ≤ size by omega)
    have hshows : (r.window.refill r.position data).Shows content :=
      .refill hcontent (by omega) (by omega)
    refine ⟨?_, content, hlen, hsize.trans hlen.symm, hshows.copy missing⟩
    exact (ReadWindow.capacity_copy _ missing).trans h.capacity_eq

/-- In every case. -/
theorem Sized.plan (h : r.Sized size capacity) (offset count : Nat) :
    (r.plan offset count).Sized size capacity := by
  rw [Reader.plan]
  split
  · next hin =>
    have hb : offset + count ≤ size := h.size_eq ▸ (inBounds_iff.1 hin).2
    split
    · next hdirect =>
      exact h.planDirect (of_decide_eq_true (Bool.and_eq_true_iff.1 hdirect).2) hb
    · have hle := ReadWindow.length_copy_le (r.window.positionAt offset).2 count
      have hmoved := h.copy_positionAt offset count
      rw [planBuffered]
      generalize (r.window.positionAt offset).2.copy count = copied at hle hmoved ⊢
      obtain ⟨handed, window⟩ := copied
      dsimp only at hle hmoved ⊢
      split
      · exact hmoved _
      · next hne =>
        exact (hmoved (offset + handed.length)).planRest handed (by omega)
          (show offset + handed.length + (count - handed.length) ≤ size by omega)
  · exact h

theorem Plan.Sized.run {plan : Plan} (h : plan.Sized size capacity) (fetch : Fetch τ) (state : τ) :
    (plan.run fetch state).2.1.Sized size capacity := by
  cases plan with
  | settled outcome reader => exact h
  | fetching offset length handed left finish =>
    obtain ⟨-, -, hleft, hfinish⟩ := h
    rcases hx : left.fetchExactly fetch offset length state with ⟨_ | data, after⟩
    · simp only [Plan.run, hx]
      exact hleft
    · simp only [Plan.run, hx]
      exact hfinish data (fetchExactly_eq_ok hx).2

theorem Sized.readAt (h : r.Sized size capacity) (fetch : Fetch τ) (offset count : Nat)
    (state : τ) : (r.readAt fetch offset count state).2.1.Sized size capacity := by
  rw [readAt_eq_run]
  exact (h.plan offset count).run fetch state

theorem Sized.read (h : r.Sized size capacity) (fetch : Fetch τ) (count : Nat) (state : τ) :
    (r.read fetch count state).2.1.Sized size capacity := by
  rw [Reader.read]
  split
  · exact h
  · exact h.readAt fetch _ _ state

/-! ## Which fetch it is -/

/-- Which fetch a read of `count` bytes at `offset` makes, and what the window holds afterwards. -/
structure Fetching (r : Reader) (offset count : Nat) (fetches : List FetchNote)
    (after : Reader) : Prop where
  /-- Out of bounds nothing is fetched, and nothing changes. -/
  refused : r.size < offset + count ∨ wordLimit ≤ offset + count → fetches = [] ∧ after = r
  /-- A direct read fetches what is asked for.  When that has come, the window is dropped. -/
  direct : offset + count ≤ r.size → r.direct = true → 0 < count →
    ∃ answer, fetches = [((offset, count), answer)] ∧
      ∀ data, answer = .ok data → data.length = count → after.window.held = none
  /-- If all of it lies in the window, nothing is fetched, and the window stays. -/
  served : offset + count ≤ r.size → r.direct = false ∨ count = 0 →
    let k := r.window.leading offset count
    count - k = 0 → fetches = [] ∧ after.window.held = r.window.held
  /-- If what is missing fits into the window, as much is fetched as the window and the file have
  room for.  When that has come, it is the window. -/
  refilled : offset + count ≤ r.size → r.direct = false ∨ count = 0 →
    let k := r.window.leading offset count
    let ahead := min r.window.capacity (r.size - (offset + k))
    0 < count - k → count - k ≤ r.window.capacity →
      ∃ answer, fetches = [((offset + k, ahead), answer)] ∧
        ∀ data, answer = .ok data → data.length = ahead →
          after.window.held = some (offset + k, data)
  /-- If it does not, just what is missing is fetched, and the window stays. -/
  bypassed : offset + count ≤ r.size → r.direct = false ∨ count = 0 →
    let k := r.window.leading offset count
    r.window.capacity < count - k →
      ∃ answer, fetches = [((offset + k, count - k), answer)] ∧
        after.window.held = r.window.held
  /-- Unless a fetch brings what it asks for, the window stays. -/
  failed : (∀ note ∈ fetches, ∀ data, note.2 = .ok data → data.length ≠ note.1.2) →
    after.window.held = r.window.held

theorem plan_of_refused (h : r.size < offset + count ∨ wordLimit ≤ offset + count) :
    r.plan offset count = .settled ⟨[], some (.outOfBounds count offset r.path r.size)⟩ r := by
  rw [plan, if_neg]
  rw [inBounds_iff]
  omega

theorem plan_of_direct (hin : r.inBounds offset count = true) (hdirect : r.direct = true)
    (hpos : 0 < count) : r.plan offset count = r.planDirect offset count := by
  rw [plan, if_pos hin, if_pos (by simp [hdirect, hpos])]

theorem plan_of_not_direct (hin : r.inBounds offset count = true)
    (h : r.direct = false ∨ count = 0) : r.plan offset count = r.planBuffered offset count := by
  rw [plan, if_pos hin, if_neg]
  rcases h with h | h <;> simp [h]

/-- The window hands out what lies in it and holds what it held; then the rest is planned. -/
theorem exists_planBuffered_eq (r : Reader) (offset count : Nat) :
    ∃ handed window, window.held = r.window.held ∧ window.capacity = r.window.capacity ∧
      let k := r.window.leading offset count
      let moved : Reader := { r with window, position := offset + k }
      r.planBuffered offset count =
        if k = count then .settled ⟨handed, none⟩ moved else moved.planRest handed (count - k) := by
  refine ⟨((r.window.positionAt offset).2.copy count).1,
    ((r.window.positionAt offset).2.copy count).2, ?_, ?_, ?_⟩
  · rw [ReadWindow.held_copy, ReadWindow.held_positionAt]
  · rw [ReadWindow.capacity_copy, ReadWindow.capacity_positionAt]
  · rw [planBuffered, ← ReadWindow.length_copy_positionAt]

/-- The reader as it is left if the plan gets no bytes. -/
def Plan.left : Plan → Reader
  | .settled _ reader => reader
  | .fetching _ _ _ left _ => left

/-- The reader after a fetch: the one that its bytes make it, if they are as many as asked for. -/
theorem Plan.reader_run_fetching (fetch : Fetch τ) (state : τ) (offset length : Nat)
    (handed : Bytes) (left : Reader) (finish : Bytes → Bytes × Reader) :
    ((Plan.fetching offset length handed left finish).run fetch state).2.1 =
      match (fetch offset length state).1 with
      | .ok data => if data.length = length then (finish data).2 else left
      | .error _ => left := by
  rcases hx : fetch offset length state with ⟨_ | data, after⟩
  · rw [Plan.run, fetchExactly, hx]
  · rw [Plan.run, fetchExactly, hx]
    by_cases hlen : data.length = length <;> simp only [hlen, if_true, if_false]

/-- Without the bytes it asks for, a plan leaves the reader there. -/
theorem Plan.run_of_not_ok {plan : Plan}
    (h : ∀ note ∈ plan.fetches fetch state, ∀ data, note.2 = .ok data → data.length ≠ note.1.2) :
    (plan.run fetch state).2.1 = plan.left := by
  cases plan with
  | settled outcome reader => rfl
  | fetching offset length handed left finish =>
    rw [reader_run_fetching]
    split
    · next data hok => exact if_neg (h _ List.mem_cons_self data hok)
    · rfl

theorem left_planRest (r : Reader) (handed : Bytes) (missing : Nat) :
    (r.planRest handed missing).left = r := by
  rw [planRest]
  split <;> rfl

/-- Planning does not change what the window holds. -/
theorem held_left_plan (r : Reader) (offset count : Nat) :
    (r.plan offset count).left.window.held = r.window.held := by
  obtain ⟨handed, window, hheld, -, hplan⟩ := r.exists_planBuffered_eq offset count
  rw [plan]
  split
  · split
    · rfl
    · rw [hplan]
      split
      · exact hheld
      · rw [left_planRest]
        exact hheld
  · rfl

/-- **Which fetch a read makes**, whatever the service is. -/
theorem fetching_readAt (r : Reader) (hw : r.size < wordLimit) (fetch : Fetch τ)
    (offset count : Nat) (state : τ) :
    r.Fetching offset count ((r.plan offset count).fetches fetch state)
      (r.readAt fetch offset count state).2.1 := by
  have hin : offset + count ≤ r.size → r.inBounds offset count = true :=
    fun hb ↦ inBounds_iff.2 ⟨by omega, hb⟩
  have hle := r.window.leading_le offset count
  obtain ⟨handed, window, hheld, hcapacity, hplan⟩ := r.exists_planBuffered_eq offset count
  rw [readAt_eq_run]
  constructor
  case refused =>
    intro hout
    rw [plan_of_refused hout]
    exact ⟨rfl, rfl⟩
  case direct =>
    intro hb hdirect hpos
    rw [plan_of_direct (hin hb) hdirect hpos]
    refine ⟨_, rfl, fun data hok hlen ↦ ?_⟩
    rw [planDirect, Plan.reader_run_fetching, hok]
    dsimp only
    rw [if_pos hlen]
    rfl
  case served =>
    intro hb hbuffered k hrest
    rw [plan_of_not_direct (hin hb) hbuffered, hplan, if_pos (by omega)]
    exact ⟨rfl, hheld⟩
  case refilled =>
    intro hb hbuffered k ahead hrest hfits
    rw [plan_of_not_direct (hin hb) hbuffered, hplan, if_neg (by omega), planRest]
    dsimp only
    rw [hcapacity, if_neg (by omega)]
    refine ⟨_, rfl, fun data hok hlen ↦ ?_⟩
    rw [Plan.reader_run_fetching, hok]
    dsimp only
    rw [if_pos hlen]
    exact ReadWindow.held_copy _ _
  case bypassed =>
    intro hb hbuffered k hrest
    rw [plan_of_not_direct (hin hb) hbuffered, hplan, if_neg (by omega), planRest]
    dsimp only
    rw [hcapacity, if_pos (by omega)]
    refine ⟨_, rfl, ?_⟩
    rw [Plan.reader_run_fetching]
    split
    · split
      · exact (ReadWindow.held_bypass window).trans hheld
      · exact hheld
    · exact hheld
  case failed =>
    intro hnone
    rw [Plan.run_of_not_ok hnone, held_left_plan]

theorem Plan.length_fetches_le (plan : Plan) (fetch : Fetch τ) (state : τ) :
    (plan.fetches fetch state).length ≤ 1 := by
  cases plan with
  | settled outcome reader => exact Nat.zero_le 1
  | fetching offset length handed left finish => exact Nat.le_refl 1

theorem Plan.Sized.of_mem_fetches {plan : Plan} (h : plan.Sized size capacity) {note : FetchNote}
    (hnote : note ∈ plan.fetches fetch state) : 0 < note.1.2 ∧ note.1.1 + note.1.2 ≤ size := by
  cases plan with
  | settled outcome reader => cases hnote
  | fetching offset length handed left finish =>
    obtain ⟨hpos, hb, -⟩ := h
    rw [List.mem_singleton.1 hnote]
    exact ⟨hpos, hb⟩

end Reader

/-! ## After any calls -/

namespace FileHandle

variable {σ κ : Type}

theorem sized_perform {size capacity : Nat} (service : BlobService σ κ)
    {now : FileHandle κ × Scene σ κ} (h : now.1.reader.Sized size capacity) (call : FileCall) :
    (perform service now call).1.reader.Sized size capacity := by
  cases call with
  | seek position => exact h.seek position
  | read count => exact h.read _ count _
  | readAt offset count => exact h.readAt _ offset count _

theorem sized_performAll {size capacity : Nat} (service : BlobService σ κ) (calls : List FileCall)
    {now : FileHandle κ × Scene σ κ} (h : now.1.reader.Sized size capacity) :
    (performAll service now calls).1.reader.Sized size capacity := by
  induction calls generalizing now with
  | nil => exact h
  | cons call calls ih => exact ih (sized_perform service h call)

/-- **What a read fetches.**  Let a handle just opened be used by any calls, through any service,
and then read at an offset.  Noting what is fetched changes nothing about the read, and

* which fetch is made and what the window holds afterwards is as `Reader.Fetching` says;
* a read that is out of bounds leaves everything as it is;
* there is one fetch at most, it asks for some bytes and for none past the end of the file, and the
  window never holds more than the capacity;
* the target is filled in two rounds at most, without a sum, a difference, a part or a copy that
  leaves its bounds. -/
theorem fetches_after_calls (service : BlobService σ κ) {handle : FileHandle κ} {path : String}
    {size : Nat} {direct : Bool} {capacity : Nat}
    (hopen : handle.reader = .new path size direct capacity) (hword : size < wordLimit)
    (scene : Scene σ κ) (calls : List FileCall) (offset count : Nat) :
    let now := performAll service (handle, scene) calls
    let result := now.1.readAt service offset count now.2
    let before := (now.2.session.stats, now.2.world)
    let after := (result.2.2.session.stats, result.2.2.world)
    ∃ fetches,
      now.1.reader.readAt (now.1.fetch service).noted offset count ([], before) =
        (result.1, result.2.1.reader, fetches, after) ∧
      (now.1.reader.size = size ∧ now.1.reader.direct = direct ∧
        now.1.reader.window.capacity = capacity) ∧
      now.1.reader.Fetching offset count fetches result.2.1.reader ∧
      (size < offset + count ∨ wordLimit ≤ offset + count → result.2 = now) ∧
      fetches.length ≤ 1 ∧
      (∀ note ∈ fetches, 0 < note.1.2 ∧ note.1.1 + note.1.2 ≤ size) ∧
      result.2.1.reader.window.data.length ≤ capacity ∧
      ∀ rounds target, target.length = count →
        Bounded.readAt? (now.1.fetch service) (rounds + 2) now.1.reader target offset before =
          some { failure := result.1.failure
                 target := target.overwrite result.1.bytes
                 reader := result.2.1.reader
                 state := after } := by
  intro now result before after
  have hsized : now.1.reader.Sized size capacity := by
    refine sized_performAll service calls ?_
    rw [hopen]
    exact .new path size direct capacity
  have hdirect : now.1.reader.direct = direct := by
    rw [direct_performAll, hopen]
    rfl
  have hsize := hsized.size_eq
  refine ⟨(now.1.reader.plan offset count).fetches (now.1.fetch service) before, ?_,
    ⟨hsize, hdirect, hsized.capacity_eq⟩, ?_, ?_, ?_, ?_, ?_, ?_⟩
  · rw [Reader.readAt_eq_run, Reader.run_noted, ← Reader.readAt_eq_run]
    rfl
  · exact now.1.reader.fetching_readAt (by omega) _ offset count before
  · intro hout
    have hread : now.1.reader.readAt (now.1.fetch service) offset count before =
        (⟨[], some (.outOfBounds count offset now.1.reader.path now.1.reader.size)⟩,
          now.1.reader, before) := by
      rw [Reader.readAt_eq_run, Reader.plan_of_refused (by omega)]
      rfl
    simp only [result, readAt, Scene.run]
    rw [hread]
  · exact Reader.Plan.length_fetches_le _ _ before
  · exact fun note hnote ↦ (hsized.plan offset count).of_mem_fetches hnote
  · exact (hsized.readAt (now.1.fetch service) offset count before).length_le
  · rintro rounds target rfl
    obtain ⟨content, rfl, hfollows⟩ := hsized.follows
    exact Bounded.readAt?_eq hfollows hword rounds target offset before

/-- Two bytes of five are in the window.  It is filled with the four from there on. -/
theorem refills_after_failures :
    let now := performAll .inMemory (sampleHandle, sampleScene) sampleCalls
    let noted := now.1.reader.readAt (now.1.fetch .inMemory).noted 2 5
      ([], now.2.session.stats, now.2.world)
    sampleContent.length < wordLimit ∧ now.1.reader.window.leading 2 5 = 2 ∧
      noted.2.2.1.map Prod.fst = [(4, 4)] ∧ noted.2.1.window.held = some (4, [4, 5, 6, 7]) := by
  intro now noted
  have hopen : sampleHandle.reader = .new "az://box/file" sampleContent.length false 4 := rfl
  obtain ⟨fetches, hrun, ⟨hsize, hdirect, hcapacity⟩, hfetching, -⟩ :=
    fetches_after_calls .inMemory hopen (by decide) sampleScene sampleCalls 2 5
  have hleading : now.1.reader.window.leading 2 5 = 2 := by decide +kernel
  have hrefilled := hfetching.refilled
  rw [hsize, hdirect, hcapacity, hleading] at hrefilled
  obtain ⟨answer, rfl, hheld⟩ := hrefilled (by decide) (.inl rfl) (by decide) (by decide)
  have hnoted : noted = _ := hrun
  have hbrought : noted.2.2.1.map (fun note ↦ note.2.toOption) = [some [4, 5, 6, 7]] := by
    decide +kernel
  rw [hnoted] at hbrought ⊢
  cases answer with
  | error e => cases hbrought
  | ok data =>
    cases hbrought
    exact ⟨by decide, hleading, rfl, hheld _ rfl rfl⟩

end FileHandle

end BlobFs

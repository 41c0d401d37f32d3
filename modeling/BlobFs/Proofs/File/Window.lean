import BlobFs.File.Window

/-!
# What the window shows

A read-ahead window is a copy of a part of the file, and everything that is said about reading rests
on its being a true copy.  `ReadWindow.Shows` is that invariant: the bytes held are the bytes of the
content at the window's place, they lie within the content and within the capacity, and the cursor
lies within them.

* `Bytes.slice` names the part of a content that a range covers; neighbouring slices join
  (`slice_append_slice`), and a slice of a slice is a slice (`slice_slice`).
* Every operation of the window keeps the invariant, and `Shows.bytes_copy_positionAt` says what is
  handed out after the window has been moved to an offset: the content's bytes from that offset on.
* `ReadWindow.held` is what a window holds, whether it is serving or not; only filling and dropping
  it change that.

A window may lie anywhere, also past the position of its handle, so nothing here speaks of
positions.
-/

set_option autoImplicit false

namespace BlobFs

/-! ## Parts of a content -/

namespace Bytes

/-- The `count` bytes of a content from an offset on; fewer if it ends before. -/
def slice (content : Bytes) (offset count : Nat) : Bytes :=
  (content.drop offset).take count

theorem length_slice (content : Bytes) (offset count : Nat) :
    (content.slice offset count).length = min count (content.length - offset) := by
  rw [slice, List.length_take, List.length_drop]

/-- A range within the content has all its bytes. -/
theorem length_slice_of_le {content : Bytes} {offset count : Nat}
    (h : offset + count ≤ content.length) : (content.slice offset count).length = count := by
  rw [length_slice]
  omega

theorem slice_zero (content : Bytes) (offset : Nat) : content.slice offset 0 = [] := by
  rw [slice, List.take_zero]

/-- Two ranges that meet join to one. -/
theorem slice_append_slice (content : Bytes) (offset first second : Nat) :
    content.slice offset first ++ content.slice (offset + first) second =
      content.slice offset (first + second) := by
  rw [slice, slice, slice, List.take_add, List.drop_drop]

/-- The same, of ranges that are said by their ends. -/
theorem slice_append_slice_of_le (content : Bytes) {start mid stop : Nat} (hmid : start ≤ mid)
    (hstop : mid ≤ stop) :
    content.slice start (mid - start) ++ content.slice mid (stop - mid) =
      content.slice start (stop - start) := by
  have hjoin := content.slice_append_slice start (mid - start) (stop - mid)
  rw [Nat.add_sub_of_le hmid] at hjoin
  rw [hjoin]
  congr 1
  omega

/-- A range of a part of the content is a range of the content. -/
theorem slice_slice (content : Bytes) (start size offset count : Nat) :
    (content.slice start size).slice offset count =
      content.slice (start + offset) (min count (size - offset)) := by
  rw [slice, slice, slice, List.drop_take, List.drop_drop, List.take_take]

/-- Bytes known up to their number are the slice of that number. -/
theorem slice_length_slice (content : Bytes) (offset count : Nat) :
    content.slice offset (content.slice offset count).length = content.slice offset count := by
  rw [length_slice, slice, slice]
  refine List.take_eq_take_iff.2 ?_
  rw [List.length_drop]
  omega

/-- Bytes at a place within a size are those of some content of that size. -/
theorem exists_slice_eq {start size : Nat} {data : Bytes} (h : start + data.length ≤ size) :
    ∃ content : Bytes, content.length = size ∧ data = content.slice start data.length := by
  refine ⟨List.replicate start 0 ++ (data ++ List.replicate (size - start - data.length) 0), ?_, ?_⟩
  · simp only [List.length_append, List.length_replicate]
    omega
  · rw [slice, List.drop_left' List.length_replicate, List.take_left]

end Bytes

/-! ## The invariant -/

namespace ReadWindow

/-- The window is a true copy of the part of the content at its place. -/
structure Shows (w : ReadWindow) (content : Bytes) : Prop where
  /-- The bytes held are those of the content. -/
  held : ∀ start, w.start? = some start → w.data = content.slice start w.data.length
  /-- The window ends within the content. -/
  ends : ∀ start, w.start? = some start → start + w.data.length ≤ content.length
  /-- The cursor is not past the end of the window. -/
  cursor_le : ∀ start cursor, w.state = .serving start cursor → cursor ≤ w.data.length
  /-- No more is held than the window has room for. -/
  fits : w.data.length ≤ w.capacity

variable {w : ReadWindow} {content : Bytes}

theorem start?_of_serving {start cursor : Nat} (h : w.state = .serving start cursor) :
    w.start? = some start := by
  rw [start?, h]

theorem start?_bypass (w : ReadWindow) : w.bypass.start? = w.start? := by
  obtain ⟨capacity, data, state⟩ := w
  cases state <;> rfl

@[simp] theorem data_bypass (w : ReadWindow) : w.bypass.data = w.data := by
  unfold bypass
  split <;> rfl

@[simp] theorem capacity_bypass (w : ReadWindow) : w.bypass.capacity = w.capacity := by
  unfold bypass
  split <;> rfl

theorem state_bypass_ne_serving (w : ReadWindow) (start cursor : Nat) :
    w.bypass.state ≠ .serving start cursor := by
  unfold bypass
  split <;> simp_all

/-- A window that holds nothing shows any content. -/
theorem Shows.new (capacity : Nat) (content : Bytes) : (ReadWindow.new capacity).Shows content where
  held _ h := by cases h
  ends _ h := by cases h
  cursor_le _ _ h := by cases h
  fits := Nat.zero_le _

theorem Shows.reset (w : ReadWindow) (content : Bytes) : w.reset.Shows content where
  held _ h := by cases h
  ends _ h := by cases h
  cursor_le _ _ h := by cases h
  fits := Nat.zero_le _

theorem Shows.bypass (h : w.Shows content) : w.bypass.Shows content where
  held start hs := by
    rw [start?_bypass] at hs
    rw [data_bypass]
    exact h.held start hs
  ends start hs := by
    rw [start?_bypass] at hs
    rw [data_bypass]
    exact h.ends start hs
  cursor_le start cursor hs := absurd hs (state_bypass_ne_serving w start cursor)
  fits := by
    rw [data_bypass, capacity_bypass]
    exact h.fits

/-- A window filled with bytes of the content shows it. -/
theorem Shows.refill {start : Nat} {data : Bytes} (hd : data = content.slice start data.length)
    (he : start + data.length ≤ content.length) (hc : data.length ≤ w.capacity) :
    (w.refill start data).Shows content where
  held s hs := by cases hs; exact hd
  ends s hs := by cases hs; exact he
  cursor_le s c hs := by cases hs; exact Nat.zero_le _
  fits := hc

/-! ## Moving and copying -/

theorem covers_iff {offset : Nat} :
    w.covers offset = true ↔
      ∃ start, w.start? = some start ∧ start ≤ offset ∧ offset < start + w.data.length := by
  rw [covers, range?]
  cases w.start? <;> simp

/-- Where the window covers the offset, it serves from there. -/
theorem positionAt_of_covers {offset start : Nat} (hs : w.start? = some start)
    (hc : w.covers offset = true) :
    w.positionAt offset = (true, { w with state := .serving start (offset - start) }) := by
  rw [positionAt, hs]
  simp only [hc, if_true]

/-- Where it does not, it stops serving. -/
theorem positionAt_of_not_covers {offset : Nat} (hc : w.covers offset = false) :
    w.positionAt offset = (false, w.bypass) := by
  rw [positionAt]
  split
  · rfl
  · rw [if_neg (by simp [hc])]

/-- Moved to an offset, the window serves from that offset or not at all. -/
theorem offset_of_serving_positionAt {offset start cursor : Nat}
    (h : (w.positionAt offset).2.state = .serving start cursor) : start + cursor = offset := by
  cases hc : w.covers offset with
  | false =>
    rw [positionAt_of_not_covers hc] at h
    exact absurd h (state_bypass_ne_serving w start cursor)
  | true =>
    obtain ⟨s, hs, hle, -⟩ := covers_iff.1 hc
    rw [positionAt_of_covers hs hc] at h
    cases h
    omega

theorem Shows.positionAt (h : w.Shows content) (offset : Nat) :
    (w.positionAt offset).2.Shows content := by
  cases hc : w.covers offset with
  | false =>
    rw [positionAt_of_not_covers hc]
    exact h.bypass
  | true =>
    obtain ⟨start, hs, hle, hlt⟩ := covers_iff.1 hc
    rw [positionAt_of_covers hs hc]
    refine ⟨fun s he ↦ ?_, fun s he ↦ ?_, fun s cursor he ↦ ?_, h.fits⟩
    · cases he
      exact h.held start hs
    · cases he
      exact h.ends start hs
    · cases he
      show offset - start ≤ w.data.length
      omega

theorem copy_of_serving {start cursor : Nat} (h : w.state = .serving start cursor) (count : Nat) :
    w.copy count = (w.data.slice cursor count,
      { w with state := .serving start (cursor + (w.data.slice cursor count).length) }) := by
  rw [copy, h]
  rfl

theorem copy_of_not_serving (h : ∀ start cursor, w.state ≠ .serving start cursor) (count : Nat) :
    w.copy count = ([], w) := by
  rw [copy]
  split
  · next hs => exact absurd hs (h _ _)
  · rfl

theorem copy_zero (w : ReadWindow) : w.copy 0 = ([], w) := by
  obtain ⟨capacity, data, state⟩ := w
  cases state <;> rfl

theorem length_copy_le (w : ReadWindow) (count : Nat) : (w.copy count).1.length ≤ count := by
  unfold copy
  split
  · exact List.length_take_le _ _
  · exact Nat.zero_le _

theorem Shows.copy (h : w.Shows content) (count : Nat) : (w.copy count).2.Shows content := by
  unfold ReadWindow.copy
  split
  · next start cursor hs =>
    have hstart := start?_of_serving hs
    have hle := h.cursor_le start cursor hs
    refine ⟨fun s he ↦ ?_, fun s he ↦ ?_, fun s c he ↦ ?_, h.fits⟩
    · cases he
      exact h.held start hstart
    · cases he
      exact h.ends start hstart
    · cases he
      show cursor + ((w.data.drop cursor).take count).length ≤ w.data.length
      rw [List.length_take, List.length_drop]
      omega
  · exact h

/-- What a serving window hands out is the content from the cursor on. -/
theorem Shows.bytes_copy {start cursor : Nat} (h : w.Shows content)
    (hs : w.state = .serving start cursor) (count : Nat) :
    (w.copy count).1 = content.slice (start + cursor) (min count (w.data.length - cursor)) := by
  have hheld : w.data = content.slice start w.data.length := h.held start (start?_of_serving hs)
  rw [copy_of_serving hs]
  calc w.data.slice cursor count
      = (content.slice start w.data.length).slice cursor count := by rw [← hheld]
    _ = content.slice (start + cursor) (min count (w.data.length - cursor)) :=
      Bytes.slice_slice content start w.data.length cursor count

/-- **What is handed out at an offset is the content there.**  It may be less than asked for, and is
nothing if the window does not cover the offset. -/
theorem Shows.bytes_copy_positionAt (h : w.Shows content) (offset count : Nat) :
    ((w.positionAt offset).2.copy count).1 =
      content.slice offset ((w.positionAt offset).2.copy count).1.length := by
  have hp := h.positionAt offset
  cases hst : (w.positionAt offset).2.state with
  | serving start cursor =>
    have hoff : start + cursor = offset := offset_of_serving_positionAt hst
    rw [hp.bytes_copy hst, hoff, Bytes.slice_length_slice]
  | empty =>
    rw [copy_of_not_serving (by simp [hst])]
    exact (Bytes.slice_zero content offset).symm
  | kept start =>
    rw [copy_of_not_serving (by simp [hst])]
    exact (Bytes.slice_zero content offset).symm

/-! ## What is held -/

/-- The bytes that the window holds and the offset at which they start. -/
def held (w : ReadWindow) : Option (Nat × Bytes) :=
  w.start?.map fun start ↦ (start, w.data)

theorem held_bypass (w : ReadWindow) : w.bypass.held = w.held := by
  rw [held, start?_bypass, data_bypass]
  rfl

/-- Moving the window does not change what it holds. -/
theorem held_positionAt (w : ReadWindow) (offset : Nat) :
    (w.positionAt offset).2.held = w.held := by
  cases hc : w.covers offset with
  | false => rw [positionAt_of_not_covers hc, held_bypass]
  | true =>
    obtain ⟨start, hs, -, -⟩ := covers_iff.1 hc
    rw [positionAt_of_covers hs hc, held, held, hs]
    rfl

/-- Nor does copying from it. -/
theorem held_copy (w : ReadWindow) (count : Nat) : (w.copy count).2.held = w.held := by
  rw [copy]
  split
  · next hs => rw [held, held, start?_of_serving hs]; rfl
  · rfl

theorem capacity_positionAt (w : ReadWindow) (offset : Nat) :
    (w.positionAt offset).2.capacity = w.capacity := by
  cases hc : w.covers offset with
  | false => rw [positionAt_of_not_covers hc, capacity_bypass]
  | true =>
    obtain ⟨start, hs, -, -⟩ := covers_iff.1 hc
    rw [positionAt_of_covers hs hc]

theorem capacity_copy (w : ReadWindow) (count : Nat) : (w.copy count).2.capacity = w.capacity := by
  rw [copy]
  split <;> rfl

end ReadWindow

end BlobFs

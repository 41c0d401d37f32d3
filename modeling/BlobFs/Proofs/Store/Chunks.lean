import BlobFs.Store.Chunks

/-!
# The sums of cutting a range

A range is cut by adding: its offset and its length once, and then the start of each chunk and the
chunk size.  `chunkSums` are these sums, and the cutting with words goes through exactly if all of
them fit a word; then its chunks are those of `chunkRanges` (`chunkRanges?_eq_some_iff`).

Every chunk lies within the range (`mem_chunksBetween`), so no sum exceeds the end of the range by
more than the chunk size (`mem_chunkSums`).  It can come close: a range of one byte has one chunk,
and the sum of that is its offset and the whole chunk size.
-/

set_option autoImplicit false

namespace BlobFs

variable {start stop offset length chunkSize : Nat}

theorem chunksBetween_of_lt (h : start < stop) :
    chunksBetween start stop chunkSize =
      (start, min (start + max chunkSize 1) stop) ::
        chunksBetween (min (start + max chunkSize 1) stop) stop chunkSize := by
  rw [chunksBetween, if_pos h]

theorem chunksBetween_of_le (h : stop ≤ start) : chunksBetween start stop chunkSize = [] := by
  rw [chunksBetween, if_neg (Nat.not_lt.2 h)]

/-- No chunk is empty, and each lies within the range. -/
theorem mem_chunksBetween {chunk : Nat × Nat} (h : chunk ∈ chunksBetween start stop chunkSize) :
    start ≤ chunk.1 ∧ chunk.1 < chunk.2 ∧ chunk.2 ≤ stop := by
  induction start using chunksBetween.induct stop chunkSize with
  | case1 start hlt ih =>
    rw [chunksBetween_of_lt hlt] at h
    rcases List.mem_cons.1 h with rfl | hrest
    · dsimp only
      omega
    · have hlater := ih hrest
      omega
  | case2 start hge =>
    rw [chunksBetween_of_le (Nat.not_lt.1 hge)] at h
    cases h

theorem chunkRanges_of_pos (h : 0 < length) :
    chunkRanges offset length chunkSize =
      (offset, min (offset + max chunkSize 1) (offset + length)) ::
        chunksBetween (min (offset + max chunkSize 1) (offset + length)) (offset + length)
          chunkSize :=
  chunksBetween_of_lt (Nat.lt_add_of_pos_right h)

/-! ## The sums -/

/-- The sums by which a range is cut: its end, and for each chunk the start and the chunk size. -/
def chunkSums (offset length chunkSize : Nat) : List Nat :=
  (offset + length) ::
    (chunkRanges offset length chunkSize).map fun chunk ↦ chunk.1 + max chunkSize 1

/-- A sum is the end of the range, or exceeds a place in the range by the chunk size. -/
theorem mem_chunkSums {sum : Nat} (h : sum ∈ chunkSums offset length chunkSize) :
    sum = offset + length ∨
      offset + max chunkSize 1 ≤ sum ∧ sum < offset + length + max chunkSize 1 := by
  rcases List.mem_cons.1 h with rfl | hchunk
  · exact .inl rfl
  · obtain ⟨chunk, hmem, rfl⟩ := List.mem_map.1 hchunk
    obtain ⟨hfirst, hlt, hlast⟩ := mem_chunksBetween hmem
    exact .inr (by omega)

/-- The first chunk starts where the range does. -/
theorem add_mem_chunkSums (h : 0 < length) :
    offset + max chunkSize 1 ∈ chunkSums offset length chunkSize := by
  rw [chunkSums, chunkRanges_of_pos h]
  exact .tail _ (.head _)

/-- If the end of the range and one chunk more fit a word, so do all sums. -/
theorem chunkSums_lt (h : offset + length + chunkSize < wordLimit) :
    ∀ sum ∈ chunkSums offset length chunkSize, sum < wordLimit := by
  intro sum hsum
  have hbound := mem_chunkSums hsum
  omega

/-! ## In words -/

/-- Words cut a range into its chunks, unless a chunk's sum does not fit. -/
theorem chunksBetween?_eq (start stop chunkSize : Nat) :
    chunksBetween? start stop chunkSize =
      if ∀ chunk ∈ chunksBetween start stop chunkSize, chunk.1 + max chunkSize 1 < wordLimit then
        some (chunksBetween start stop chunkSize)
      else none := by
  induction start using chunksBetween.induct stop chunkSize with
  | case1 start hlt ih =>
    rw [chunksBetween?, if_pos hlt, ih, chunksBetween_of_lt hlt]
    simp only [List.forall_mem_cons]
    by_cases hsum : start + max chunkSize 1 < wordLimit
    · rw [if_pos hsum]
      simp only [hsum, true_and]
      split <;> rfl
    · rw [if_neg hsum, if_neg fun h ↦ hsum h.1]
  | case2 start hge =>
    rw [chunksBetween?, if_neg hge, chunksBetween_of_le (Nat.not_lt.1 hge)]
    rfl

/-- **Words cut a range into its chunks exactly if all sums fit.** -/
theorem chunkRanges?_eq (offset length chunkSize : Nat) :
    chunkRanges? offset length chunkSize =
      if ∀ sum ∈ chunkSums offset length chunkSize, sum < wordLimit then
        some (chunkRanges offset length chunkSize)
      else none := by
  rw [chunkRanges?, chunksBetween?_eq]
  simp only [chunkSums, chunkRanges, List.forall_mem_cons, List.forall_mem_map]
  by_cases hend : offset + length < wordLimit
  · simp only [hend, if_true, true_and]
  · simp only [hend, if_false, false_and]

theorem chunkRanges?_of_lt
    (h : ∀ sum ∈ chunkSums offset length chunkSize, sum < wordLimit) :
    chunkRanges? offset length chunkSize = some (chunkRanges offset length chunkSize) := by
  rw [chunkRanges?_eq, if_pos h]

theorem chunkRanges?_eq_none_iff :
    chunkRanges? offset length chunkSize = none ↔
      ∃ sum ∈ chunkSums offset length chunkSize, wordLimit ≤ sum := by
  rw [chunkRanges?_eq]
  split
  · next h =>
    simp only [reduceCtorEq, false_iff, not_exists, not_and, Nat.not_le]
    exact h
  · next h =>
    obtain ⟨sum, hfails⟩ := Classical.not_forall.1 h
    obtain ⟨hsum, hle⟩ := Classical.not_imp.1 hfails
    exact iff_of_true rfl ⟨sum, hsum, Nat.not_lt.1 hle⟩

end BlobFs

import BlobFs.Proofs.Store.Chunks
import Mathlib.Algebra.Order.Floor.Div

/-!
# Chunks tile a range

The chunks of a range lie end to end: the first starts where the range does, each further one where
the one before it ends, and the last ends where the range does.  `Tiles` says this of any pieces.

* A round of the cutting takes one chunk off the range, so what is left needs one round less
  (`ceilDiv_eq_succ`).  Everything here goes by that: how many chunks there are
  (`length_chunksBetween`), and how many rounds it takes to cut them (`cutWithin?_eq`).
* Only the last chunk may be short (`sub_eq_of_mem_dropLast_chunksBetween`), because only the end of
  the range cuts one back.
* Pieces that tile a range have at least its length together, so with pieces of at most the chunk
  size there is no way with fewer (`Tiles.le_mul_length`).

The cutting is done with words, by a loop that looks for the end before each round.
`chunkRangesWithin?` is this loop with a limit on its rounds: a cutting that has not come to its end
within the limit has no result.
-/

set_option autoImplicit false

namespace BlobFs

/-- The pieces lie end to end from `start` to `stop`. -/
inductive Tiles : Nat → Nat → List (Nat × Nat) → Prop
  | nil {start : Nat} : Tiles start start []
  | cons {start mid stop : Nat} {pieces : List (Nat × Nat)} (h : Tiles mid stop pieces) :
      Tiles start stop ((start, mid) :: pieces)

variable {start stop offset length chunkSize size : Nat} {pieces : List (Nat × Nat)}

/-- Pieces that tile a range are at least as long together. -/
theorem Tiles.le_mul_length (h : Tiles start stop pieces)
    (hsize : ∀ piece ∈ pieces, piece.2 - piece.1 ≤ size) : stop - start ≤ size * pieces.length := by
  induction h with
  | nil => simp
  | @cons start mid stop pieces h ih =>
    obtain ⟨hfirst, hrest⟩ := List.forall_mem_cons.1 hsize
    have hlater : stop - mid ≤ size * pieces.length := ih hrest
    rw [List.length_cons, Nat.mul_succ]
    dsimp only at hfirst
    omega

/-! ## The chunks -/

theorem tiles_chunksBetween (chunkSize : Nat) (h : start ≤ stop) :
    Tiles start stop (chunksBetween start stop chunkSize) := by
  induction start using chunksBetween.induct stop chunkSize with
  | case1 start hlt ih =>
    rw [chunksBetween_of_lt hlt]
    exact .cons (ih (Nat.min_le_right _ _))
  | case2 start hge =>
    obtain rfl : start = stop := by omega
    rw [chunksBetween_of_le (Nat.le_refl start)]
    exact .nil

/-- One piece of full size less is one piece less. -/
theorem ceilDiv_eq_succ (hlength : 0 < length) (hsize : 0 < size) :
    length ⌈/⌉ size = (length - size) ⌈/⌉ size + 1 := by
  refine eq_of_forall_ge_iff fun count ↦ ?_
  rw [ceilDiv_le_iff_le_mul hsize]
  cases count with
  | zero => omega
  | succ count =>
    rw [Nat.add_le_add_iff_right, ceilDiv_le_iff_le_mul hsize, Nat.mul_succ]
    omega

/-- What is left after a chunk needs one chunk less. -/
theorem ceilDiv_of_lt (h : start < stop) :
    (stop - start) ⌈/⌉ max chunkSize 1 =
      (stop - min (start + max chunkSize 1) stop) ⌈/⌉ max chunkSize 1 + 1 := by
  have hleft : stop - min (start + max chunkSize 1) stop = stop - start - max chunkSize 1 := by
    omega
  rw [hleft, ceilDiv_eq_succ (Nat.sub_pos_of_lt h) (by omega)]

theorem length_chunksBetween (start stop chunkSize : Nat) :
    (chunksBetween start stop chunkSize).length = (stop - start) ⌈/⌉ max chunkSize 1 := by
  induction start using chunksBetween.induct stop chunkSize with
  | case1 start hlt ih => rw [chunksBetween_of_lt hlt, List.length_cons, ih, ceilDiv_of_lt hlt]
  | case2 start hge =>
    have hle : stop ≤ start := Nat.not_lt.1 hge
    rw [chunksBetween_of_le hle, Nat.sub_eq_zero_of_le hle, zero_ceilDiv, List.length_nil]

/-- No chunk is longer than the chunk size. -/
theorem sub_le_of_mem_chunksBetween {chunk : Nat × Nat}
    (h : chunk ∈ chunksBetween start stop chunkSize) : chunk.2 - chunk.1 ≤ max chunkSize 1 := by
  induction start using chunksBetween.induct stop chunkSize with
  | case1 start hlt ih =>
    rw [chunksBetween_of_lt hlt] at h
    rcases List.mem_cons.1 h with rfl | hrest
    · dsimp only
      omega
    · exact ih hrest
  | case2 start hge =>
    rw [chunksBetween_of_le (Nat.not_lt.1 hge)] at h
    cases h

/-- All chunks but the last have the chunk size. -/
theorem sub_eq_of_mem_dropLast_chunksBetween {chunk : Nat × Nat}
    (h : chunk ∈ (chunksBetween start stop chunkSize).dropLast) :
    chunk.2 - chunk.1 = max chunkSize 1 := by
  induction start using chunksBetween.induct stop chunkSize with
  | case1 start hlt ih =>
    rw [chunksBetween_of_lt hlt] at h
    rcases Nat.lt_or_ge (min (start + max chunkSize 1) stop) stop with hmore | hend
    · -- there are more chunks, so this one has not been cut back
      have hne : chunksBetween (min (start + max chunkSize 1) stop) stop chunkSize ≠ [] := by
        rw [chunksBetween_of_lt hmore]
        exact List.cons_ne_nil _ _
      rw [List.dropLast_cons_of_ne_nil hne] at h
      rcases List.mem_cons.1 h with rfl | hrest
      · dsimp only
        omega
      · exact ih hrest
    · rw [chunksBetween_of_le hend] at h
      cases h
  | case2 start hge =>
    rw [chunksBetween_of_le (Nat.not_lt.1 hge)] at h
    cases h

/-! ## The loop -/

/-- Cuts on from `start`, behind the chunks that are done, in at most so many rounds. -/
def cutWithin? (stop chunkSize : Nat) :
    Nat → List (Nat × Nat) → Nat → Option (List (Nat × Nat))
  | 0, done, start => if start < stop then none else some done
  | rounds + 1, done, start =>
    if start < stop then
      if start + max chunkSize 1 < wordLimit then
        cutWithin? stop chunkSize rounds (done ++ [(start, min (start + max chunkSize 1) stop)])
          (min (start + max chunkSize 1) stop)
      else none
    else some done

/-- The chunks of the `length` bytes at `offset`, if they can be cut with words in at most so many
rounds. -/
def chunkRangesWithin? (rounds offset length chunkSize : Nat) : Option (List (Nat × Nat)) :=
  if offset + length < wordLimit then
    cutWithin? (offset + length) chunkSize rounds [] offset
  else none

/-- The loop comes to its end with the chunks, after one round for each. -/
theorem cutWithin?_eq (hword : stop + max chunkSize 1 ≤ wordLimit) (rounds : Nat)
    (done : List (Nat × Nat)) (start : Nat) :
    cutWithin? stop chunkSize rounds done start =
      if (stop - start) ⌈/⌉ max chunkSize 1 ≤ rounds then
        some (done ++ chunksBetween start stop chunkSize)
      else none := by
  induction rounds generalizing done start with
  | zero =>
    rw [cutWithin?]
    rcases Nat.lt_or_ge start stop with hlt | hge
    · rw [if_pos hlt, ceilDiv_of_lt hlt, if_neg (Nat.not_succ_le_zero _)]
    · rw [if_neg (Nat.not_lt.2 hge), Nat.sub_eq_zero_of_le hge, zero_ceilDiv,
        if_pos (Nat.le_refl 0), chunksBetween_of_le hge, List.append_nil]
  | succ rounds ih =>
    rw [cutWithin?]
    rcases Nat.lt_or_ge start stop with hlt | hge
    · rw [if_pos hlt, if_pos (by omega), ih, ceilDiv_of_lt hlt, chunksBetween_of_lt hlt,
        List.append_assoc, List.singleton_append]
      simp only [Nat.add_le_add_iff_right]
    · rw [if_neg (Nat.not_lt.2 hge), Nat.sub_eq_zero_of_le hge, zero_ceilDiv,
        if_pos (Nat.zero_le _), chunksBetween_of_le hge, List.append_nil]

/-! ## The result -/

/-- **Chunks tile their range, and no fewer pieces do.**  Where the end of the range and one chunk
more fit a word,

* the cutting comes to an end, after as many rounds as the chunk size goes into the length, rounded
  up, and then no sum has overflowed;
* there are just as many chunks, and they lie end to end from the offset to the end of the range;
* none is empty, none is longer than the chunk size, and all but the last have that size;
* pieces of at most that size that tile the range are no fewer. -/
theorem chunkRanges_tile (h : offset + length + max chunkSize 1 < wordLimit) :
    let size := max chunkSize 1
    let chunks := chunkRanges offset length chunkSize
    chunkRanges? offset length chunkSize = some chunks ∧
    (∀ rounds, chunkRangesWithin? rounds offset length chunkSize =
      if length ⌈/⌉ size ≤ rounds then some chunks else none) ∧
    chunks.length = length ⌈/⌉ size ∧
    Tiles offset (offset + length) chunks ∧
    (∀ chunk ∈ chunks, chunk.1 < chunk.2 ∧ chunk.2 - chunk.1 ≤ size) ∧
    (∀ chunk ∈ chunks.dropLast, chunk.2 - chunk.1 = size) ∧
    ∀ pieces, Tiles offset (offset + length) pieces →
      (∀ piece ∈ pieces, piece.2 - piece.1 ≤ size) → chunks.length ≤ pieces.length := by
  intro size chunks
  have hspan : offset + length - offset = length := Nat.add_sub_cancel_left _ _
  have hcount : chunks.length = length ⌈/⌉ size := by
    rw [← hspan]
    exact length_chunksBetween _ _ _
  refine ⟨chunkRanges?_of_lt (chunkSums_lt (by omega)), fun rounds ↦ ?_, hcount,
    tiles_chunksBetween chunkSize (Nat.le_add_right _ _),
    fun chunk hchunk ↦ ⟨(mem_chunksBetween hchunk).2.1, sub_le_of_mem_chunksBetween hchunk⟩,
    fun chunk hchunk ↦ sub_eq_of_mem_dropLast_chunksBetween hchunk, fun pieces htiles hsize ↦ ?_⟩
  · rw [chunkRangesWithin?, if_pos (by omega), cutWithin?_eq (by omega), hspan, List.nil_append]
    rfl
  · have htotal : offset + length - offset ≤ size * pieces.length := htiles.le_mul_length hsize
    rw [hcount, ceilDiv_le_iff_le_mul (Nat.le_max_right chunkSize 1)]
    omega

/-- Twenty-five bytes in chunks of ten: two full ones and a shorter one. -/
theorem chunkRanges_of_twenty_five :
    10 + 25 + max 10 1 < wordLimit ∧
      chunkRanges? 10 25 10 = some [(10, 20), (20, 30), (30, 35)] ∧
      Tiles 10 35 [(10, 20), (20, 30), (30, 35)] := by
  have hword : 10 + 25 + max 10 1 < wordLimit := by decide
  obtain ⟨hwords, -, -, htiles, -⟩ := chunkRanges_tile hword
  have hchunks : chunkRanges 10 25 10 = [(10, 20), (20, 30), (30, 35)] := by decide +kernel
  rw [hchunks] at hwords htiles
  exact ⟨hword, hwords, htiles⟩

-- A chunk size of zero counts as one.
example : chunkRanges 5 2 0 = [(5, 6), (6, 7)] := by decide +kernel

end BlobFs

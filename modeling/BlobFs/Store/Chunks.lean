import BlobFs.Text.Word

/-!
# Cutting a range into chunks

A range of a blob is fetched in consecutive chunks of a fixed size, the last of which may be
shorter.  A chunk size of zero counts as one, so the cutting always ends.

`chunkRanges` says which chunks there are, and `chunkRanges?` computes them with words: where a sum
does not fit one, there are none.  A chunk's start and the chunk size are added before the sum is cut
back to the end of the range, so the sum may not fit although the end does.
-/

set_option autoImplicit false

namespace BlobFs

/-- The chunks from `start` to before `stop`, each as its own start and end. -/
def chunksBetween (start stop chunkSize : Nat) : List (Nat × Nat) :=
  if start < stop then
    (start, min (start + max chunkSize 1) stop) ::
      chunksBetween (min (start + max chunkSize 1) stop) stop chunkSize
  else []
termination_by stop - start
decreasing_by omega

/-- The chunks of the `length` bytes at `offset`. -/
def chunkRanges (offset length chunkSize : Nat) : List (Nat × Nat) :=
  chunksBetween offset (offset + length) chunkSize

/-! ## In words -/

/-- The chunks from `start` to before `stop`, unless a start and the chunk size do not fit a word
together. -/
def chunksBetween? (start stop chunkSize : Nat) : Option (List (Nat × Nat)) :=
  if start < stop then
    if start + max chunkSize 1 < wordLimit then
      (chunksBetween? (min (start + max chunkSize 1) stop) stop chunkSize).map fun chunks ↦
        (start, min (start + max chunkSize 1) stop) :: chunks
    else none
  else some []
termination_by stop - start
decreasing_by omega

/-- The chunks of the `length` bytes at `offset`, unless a sum does not fit a word. -/
def chunkRanges? (offset length chunkSize : Nat) : Option (List (Nat × Nat)) :=
  if offset + length < wordLimit then chunksBetween? offset (offset + length) chunkSize else none

end BlobFs

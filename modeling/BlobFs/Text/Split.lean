/-!
# Cutting text at a character

Blob names, connection strings and credential chains are all texts with one separator character.
This file holds the cuts they need, on `List Char` so that they can be reasoned about by plain
induction, and their forms on `String`.

* `splitOn sep s` — all pieces between separators.  There is always one piece more than there are
  separators, so the empty text has one (empty) piece, and `joinWith` puts the text back
  (`joinWith_splitOn`).
* `cutFirst sep s` and `cutLast sep s` — the text around the first and the last separator.
* `cutAt marker s` — the text around the first place where a whole marker stands.

The pieces never hold the separator (`not_mem_of_mem_splitOn`), which is what makes the split the
only way to write a text as a join (`splitOn_joinWith`).
-/

set_option autoImplicit false

namespace BlobFs.Text

/-! ## Pieces between separators -/

/-- The pieces of `s` between the occurrences of `sep`. -/
def splitOn (sep : Char) : List Char → List (List Char)
  | [] => [[]]
  | c :: rest =>
    if c = sep then [] :: splitOn sep rest
    else match splitOn sep rest with
      | [] => [[c]]
      | piece :: pieces => (c :: piece) :: pieces

/-- The pieces with one `sep` between neighbours. -/
def joinWith (sep : Char) : List (List Char) → List Char
  | [] => []
  | [piece] => piece
  | piece :: next :: pieces => piece ++ sep :: joinWith sep (next :: pieces)

theorem splitOn_ne_nil (sep : Char) (s : List Char) : splitOn sep s ≠ [] := by
  cases s with
  | nil => simp [splitOn]
  | cons c rest =>
    rw [splitOn]
    split
    · simp
    · split <;> simp

/-- Splitting loses nothing. -/
theorem joinWith_splitOn (sep : Char) (s : List Char) : joinWith sep (splitOn sep s) = s := by
  induction s with
  | nil => rfl
  | cons c rest ih =>
    rw [splitOn]
    split
    · next h =>
      subst h
      cases hs : splitOn c rest with
      | nil => exact absurd hs (splitOn_ne_nil c rest)
      | cons piece pieces => rw [joinWith, ← hs, ih]; rfl
    · split
      · next hs => exact absurd hs (splitOn_ne_nil sep rest)
      · next piece pieces hs =>
        rw [hs] at ih
        cases pieces with
        | nil => simpa [joinWith] using ih
        | cons next pieces => simpa [joinWith] using ih

/-- No piece holds the separator. -/
theorem not_mem_of_mem_splitOn {sep : Char} {s piece : List Char}
    (h : piece ∈ splitOn sep s) : sep ∉ piece := by
  induction s generalizing piece with
  | nil => simp [splitOn] at h; simp [h]
  | cons c rest ih =>
    rw [splitOn] at h
    split at h
    · rcases List.mem_cons.1 h with rfl | h
      · simp
      · exact ih h
    · next hc =>
      split at h
      · next hs => exact absurd hs (splitOn_ne_nil sep rest)
      · next first pieces hs =>
        rcases List.mem_cons.1 h with rfl | h
        · have : sep ∉ first := ih (by simp [hs])
          simp only [List.mem_cons, not_or]
          exact ⟨fun e ↦ hc e.symm, this⟩
        · exact ih (by simp [hs, h])

private theorem splitOn_append {sep : Char} {piece : List Char} (h : sep ∉ piece)
    (rest : List Char) : splitOn sep (piece ++ sep :: rest) = piece :: splitOn sep rest := by
  induction piece with
  | nil => simp [splitOn]
  | cons c piece ih =>
    have hc : c ≠ sep := fun e ↦ h (by simp [e])
    have := ih (fun m ↦ h (by simp [m]))
    simp [splitOn, hc, this]

/-- A text without the separator is one piece. -/
theorem splitOn_of_not_mem {sep : Char} {s : List Char} (h : sep ∉ s) : splitOn sep s = [s] := by
  induction s with
  | nil => rfl
  | cons c s ih =>
    have hc : c ≠ sep := fun e ↦ h (by simp [e])
    have := ih (fun m ↦ h (by simp [m]))
    simp [splitOn, hc, this]

/-- Pieces without the separator are found again in their join. -/
theorem splitOn_joinWith {sep : Char} {pieces : List (List Char)} (hne : pieces ≠ [])
    (h : ∀ piece ∈ pieces, sep ∉ piece) : splitOn sep (joinWith sep pieces) = pieces := by
  induction pieces with
  | nil => exact absurd rfl hne
  | cons piece pieces ih =>
    cases pieces with
    | nil => exact splitOn_of_not_mem (h piece (by simp))
    | cons next pieces =>
      rw [joinWith, splitOn_append (h piece (by simp)), ih (by simp)]
      intro p hp
      exact h p (List.mem_cons_of_mem _ hp)

/-! ## One cut -/

/-- The text before and after the first `sep`. -/
def cutFirst (sep : Char) : List Char → Option (List Char × List Char)
  | [] => none
  | c :: rest =>
    if c = sep then some ([], rest)
    else (cutFirst sep rest).map fun (before, after) ↦ (c :: before, after)

/-- The text before and after the last `sep`. -/
def cutLast (sep : Char) : List Char → Option (List Char × List Char)
  | [] => none
  | c :: rest =>
    match cutLast sep rest with
    | some (before, after) => some (c :: before, after)
    | none => if c = sep then some ([], rest) else none

/-- What stands before and after the first place where `marker` stands; not only a text can be cut.
-/
def cutAt {α : Type} [DecidableEq α] (marker : List α) : List α → Option (List α × List α)
  | [] => if marker = [] then some ([], []) else none
  | c :: rest =>
    if marker.isPrefixOf (c :: rest) then some ([], (c :: rest).drop marker.length)
    else (cutAt marker rest).map fun (before, after) ↦ (c :: before, after)

/-- A cut at a marker takes out the marker and nothing else. -/
theorem eq_append_of_cutAt {α : Type} [DecidableEq α] {marker s before after : List α}
    (h : cutAt marker s = some (before, after)) : s = before ++ (marker ++ after) := by
  induction s generalizing before with
  | nil =>
    rw [cutAt] at h
    split at h
    · next hm => simp_all
    · cases h
  | cons c rest ih =>
    rw [cutAt] at h
    split at h
    · next hm =>
      simp only [Option.some.injEq, Prod.mk.injEq] at h
      obtain ⟨tail, ht⟩ := List.isPrefixOf_iff_prefix.1 hm
      rw [← h.1, ← h.2, ← ht]
      simp
    · obtain ⟨⟨b, a⟩, hb, he⟩ := Option.map_eq_some_iff.1 h
      obtain ⟨rfl, rfl⟩ := Prod.mk.inj he
      rw [ih hb]
      rfl

/-- A cut happens at the first separator, and only where there is one. -/
theorem cutFirst_eq_some_iff {sep : Char} {s before after : List Char} :
    cutFirst sep s = some (before, after) ↔ s = before ++ sep :: after ∧ sep ∉ before := by
  induction s generalizing before with
  | nil => simp [cutFirst]
  | cons c rest ih =>
    rw [cutFirst]
    split
    · next hc =>
      subst hc
      constructor
      · rintro ⟨⟩
        simp
      · rintro ⟨h, hn⟩
        cases before with
        | nil => simpa using h
        | cons b before =>
          simp only [List.cons_append, List.cons.injEq] at h
          exact absurd (by simp [h.1]) hn
    · next hc =>
      constructor
      · intro h
        obtain ⟨⟨b, a⟩, hb, he⟩ := Option.map_eq_some_iff.1 h
        obtain ⟨rfl, rfl⟩ := Prod.mk.inj he
        obtain ⟨rfl, hn⟩ := ih.1 hb
        exact ⟨rfl, by simp only [List.mem_cons, not_or]; exact ⟨fun e ↦ hc e.symm, hn⟩⟩
      · rintro ⟨h, hn⟩
        cases before with
        | nil => simp only [List.nil_append, List.cons.injEq] at h; exact absurd h.1 hc
        | cons b before =>
          simp only [List.cons_append, List.cons.injEq] at h
          obtain ⟨rfl, rfl⟩ := h
          simp only [List.mem_cons, not_or] at hn
          rw [ih.2 ⟨rfl, hn.2⟩]
          rfl

/-- There is no cut exactly where there is no separator. -/
theorem cutFirst_eq_none_iff {sep : Char} {s : List Char} : cutFirst sep s = none ↔ sep ∉ s := by
  induction s with
  | nil => simp [cutFirst]
  | cons c rest ih =>
    rw [cutFirst]
    split
    · next hc => simp [hc]
    · next hc => simpa [ih] using fun _ e ↦ hc (Eq.symm e)

/-! ## On strings -/

/-- The pieces of `s` between the occurrences of `sep`, as strings. -/
def pieces (sep : Char) (s : String) : List String :=
  (splitOn sep s.toList).map String.ofList

/-- The strings before and after the first `sep`. -/
def cut? (sep : Char) (s : String) : Option (String × String) :=
  (cutFirst sep s.toList).map fun (before, after) ↦ (String.ofList before, String.ofList after)

/-- The strings before and after the last `sep`. -/
def cutBack? (sep : Char) (s : String) : Option (String × String) :=
  (cutLast sep s.toList).map fun (before, after) ↦ (String.ofList before, String.ofList after)

/-- Whether `s` begins with `start`, character for character. -/
def startsWith (s start : String) : Bool :=
  start.toList.isPrefixOf s.toList

/-- What is left of `s` after `start`, if it begins with it. -/
def dropStart? (s start : String) : Option String :=
  if startsWith s start then some (String.ofList (s.toList.drop start.toList.length)) else none

/-- The text without the run of `c` at its end. -/
def dropTrailing (c : Char) (s : String) : String :=
  String.ofList (s.toList.reverse.dropWhile (· == c)).reverse

/-- The text without the run of `c` at its start. -/
def dropLeading (c : Char) (s : String) : String :=
  String.ofList (s.toList.dropWhile (· == c))

end BlobFs.Text

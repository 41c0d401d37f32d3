import BlobFs.Text.Split

/-!
# Beginnings, ends and pieces of texts

What the cuts of `BlobFs.Text.Split` find, told by the text as a whole.

* `cutLast_eq_some_iff` — a cut at the last separator is the only way to write the text with no
  separator after the cut.
* `startsWith_iff`, `dropStart?_eq_some_iff` — a beginning is the first part of a text written in
  two.
* `splitOn_append_cons` — a separator ends the pieces of what stands before it, so that the pieces
  of a text made of two are the pieces of both.
* `splitOn_append_of_eq`, `joinWith_append_cons` — without a separator between them, the last piece
  of the first text and the first piece of the second are one.
* `pieces_intercalate` — on strings, texts without the separator are found again in their join.
-/

set_option autoImplicit false

namespace BlobFs.Text

/-! ## The first separator -/

/-- On strings, a cut happens at the first separator. -/
theorem cut?_eq_some_iff {sep : Char} {s before after : String} :
    cut? sep s = some (before, after) ↔
      s.toList = before.toList ++ sep :: after.toList ∧ sep ∉ before.toList := by
  rw [← cutFirst_eq_some_iff, cut?]
  constructor
  · intro h
    obtain ⟨⟨b, a⟩, hcut, he⟩ := Option.map_eq_some_iff.1 h
    obtain ⟨rfl, rfl⟩ := Prod.mk.inj he
    rw [hcut, String.toList_ofList, String.toList_ofList]
  · intro h
    rw [h, Option.map_some]
    simp only [String.ofList_toList]

theorem cut?_eq_none_iff {sep : Char} {s : String} : cut? sep s = none ↔ sep ∉ s.toList := by
  rw [cut?, Option.map_eq_none_iff, cutFirst_eq_none_iff]

/-! ## The last separator -/

/-- There is no last separator exactly where there is none at all. -/
theorem cutLast_eq_none_iff {sep : Char} {s : List Char} : cutLast sep s = none ↔ sep ∉ s := by
  induction s with
  | nil => simp [cutLast]
  | cons c rest ih =>
    rw [cutLast]
    cases hrest : cutLast sep rest with
    | some found =>
      have : sep ∈ rest := Decidable.not_not.1 fun hn ↦ by simp [ih.2 hn] at hrest
      simp [this]
    | none =>
      have hnot : sep ∉ rest := ih.1 hrest
      by_cases hc : c = sep
      · simp [hc]
      · simpa [hc, hnot] using fun he ↦ hc (Eq.symm he)

/-- A cut happens at the last separator. -/
theorem cutLast_eq_some_iff {sep : Char} {s before after : List Char} :
    cutLast sep s = some (before, after) ↔ s = before ++ sep :: after ∧ sep ∉ after := by
  induction s generalizing before with
  | nil => simp [cutLast]
  | cons c rest ih =>
    rw [cutLast]
    constructor
    · intro h
      cases hrest : cutLast sep rest with
      | some found =>
        obtain ⟨b, a⟩ := found
        rw [hrest] at h
        obtain ⟨rfl, rfl⟩ := Prod.mk.inj (Option.some.inj h)
        obtain ⟨rfl, hnot⟩ := ih.1 hrest
        exact ⟨rfl, hnot⟩
      | none =>
        rw [hrest] at h
        obtain ⟨rfl, he⟩ := Option.ite_none_right_eq_some.1 h
        obtain ⟨rfl, rfl⟩ := Prod.mk.inj (Option.some.inj he)
        exact ⟨rfl, cutLast_eq_none_iff.1 hrest⟩
    · rintro ⟨h, hnot⟩
      cases before with
      | nil =>
        obtain ⟨rfl, rfl⟩ := List.cons.inj h
        rw [cutLast_eq_none_iff.2 hnot]
        exact if_pos rfl
      | cons b before =>
        obtain ⟨rfl, rfl⟩ := List.cons.inj h
        rw [ih.2 ⟨rfl, hnot⟩]

/-- On strings, a cut happens at the last separator. -/
theorem cutBack?_eq_some_iff {sep : Char} {s before after : String} :
    cutBack? sep s = some (before, after) ↔
      s.toList = before.toList ++ sep :: after.toList ∧ sep ∉ after.toList := by
  rw [← cutLast_eq_some_iff, cutBack?]
  constructor
  · intro h
    obtain ⟨⟨b, a⟩, hcut, he⟩ := Option.map_eq_some_iff.1 h
    obtain ⟨rfl, rfl⟩ := Prod.mk.inj he
    rw [hcut, String.toList_ofList, String.toList_ofList]
  · intro h
    rw [h, Option.map_some]
    simp only [String.ofList_toList]

/-! ## Beginnings -/

/-- A text begins with the first of two texts that it is made of. -/
theorem startsWith_iff {s start : String} :
    startsWith s start = true ↔ ∃ rest, s = start ++ rest := by
  rw [startsWith, List.isPrefixOf_iff_prefix]
  constructor
  · rintro ⟨rest, h⟩
    refine ⟨String.ofList rest, String.toList_inj.1 ?_⟩
    rw [String.toList_append, String.toList_ofList, h]
  · rintro ⟨rest, rfl⟩
    exact ⟨rest.toList, (String.toList_append).symm⟩

/-- What is left after a beginning is the second of the two texts. -/
theorem dropStart?_eq_some_iff {s start rest : String} :
    dropStart? s start = some rest ↔ s = start ++ rest := by
  rw [dropStart?]
  constructor
  · intro h
    obtain ⟨hstart, he⟩ := Option.ite_none_right_eq_some.1 h
    obtain ⟨after, rfl⟩ := startsWith_iff.1 hstart
    rw [String.toList_append, List.drop_left, String.ofList_toList] at he
    rw [Option.some.inj he]
  · rintro rfl
    rw [if_pos (startsWith_iff.2 ⟨rest, rfl⟩), String.toList_append, List.drop_left,
      String.ofList_toList]

/-- What two texts have in common at the start does not matter for their order. -/
theorem append_lt_append_iff {start s t : String} : start ++ s < start ++ t ↔ s < t := by
  have hlist (cs ds es : List Char) : cs ++ ds < cs ++ es ↔ ds < es := by
    induction cs with
    | nil => rfl
    | cons c cs ih => rw [List.cons_append, List.cons_append, List.cons_lt_cons_self, ih]
  have h := hlist start.toList s.toList t.toList
  rw [← String.toList_append, ← String.toList_append] at h
  exact h

/-! ## The pieces of a text made of two -/

/-- A separator ends the pieces of what stands before it. -/
theorem splitOn_append_cons (sep : Char) (s t : List Char) :
    splitOn sep (s ++ sep :: t) = splitOn sep s ++ splitOn sep t := by
  induction s with
  | nil => simp [splitOn]
  | cons c s ih =>
    by_cases hc : c = sep
    · simp [splitOn, hc, ih]
    · simp only [List.cons_append, splitOn, if_neg hc, ih]
      cases hs : splitOn sep s with
      | nil => exact absurd hs (splitOn_ne_nil sep s)
      | cons piece pieces => rfl

/-- A piece is part of the join. -/
theorem subset_joinWith (sep : Char) {piece : List Char} {pieces : List (List Char)}
    (h : piece ∈ pieces) : piece ⊆ joinWith sep pieces := by
  induction pieces with
  | nil => cases h
  | cons first pieces ih =>
    cases pieces with
    | nil =>
      rw [List.mem_singleton.1 h]
      exact List.Subset.refl first
    | cons next pieces =>
      rw [joinWith]
      rcases List.mem_cons.1 h with rfl | h
      · exact List.subset_append_left _ _
      · exact fun c hc ↦ List.mem_append_right _ (List.mem_cons_of_mem sep (ih h hc))

/-- Joining and cutting a piece in two agree. -/
theorem joinWith_append_cons (sep : Char) (front : List (List Char)) (last first : List Char)
    (back : List (List Char)) :
    joinWith sep (front ++ (last ++ first) :: back) =
      joinWith sep (front ++ [last]) ++ joinWith sep (first :: back) := by
  induction front with
  | nil => cases back <;> simp [joinWith]
  | cons piece front ih =>
    cases front with
    | nil => cases back <;> simp [joinWith]
    | cons next front => simpa [joinWith] using ih

/-- Where two texts meet, a piece goes on. -/
theorem splitOn_append_of_eq {sep : Char} {s t last first : List Char}
    {front back : List (List Char)} (hs : splitOn sep s = front ++ [last])
    (ht : splitOn sep t = first :: back) :
    splitOn sep (s ++ t) = front ++ (last ++ first) :: back := by
  have hjoin : s ++ t = joinWith sep (front ++ (last ++ first) :: back) := by
    rw [joinWith_append_cons, ← hs, ← ht, joinWith_splitOn, joinWith_splitOn]
  rw [hjoin]
  refine splitOn_joinWith (List.append_ne_nil_of_right_ne_nil front (List.cons_ne_nil _ _)) ?_
  intro piece hpiece
  have hfront : ∀ piece ∈ front ++ [last], sep ∉ piece :=
    fun _ h ↦ not_mem_of_mem_splitOn (hs ▸ h)
  have hback : ∀ piece ∈ first :: back, sep ∉ piece :=
    fun _ h ↦ not_mem_of_mem_splitOn (ht ▸ h)
  rcases List.mem_append.1 hpiece with hin | hin
  · exact hfront piece (List.mem_append_left _ hin)
  rcases List.mem_cons.1 hin with rfl | hin
  · rw [List.mem_append, not_or]
    exact ⟨hfront last (List.mem_append_right _ List.mem_cons_self),
      hback first List.mem_cons_self⟩
  · exact hback piece (List.mem_cons_of_mem _ hin)

/-- An empty last piece is a separator at the end. -/
theorem joinWith_append_nil (sep : Char) {pieces : List (List Char)} (hne : pieces ≠ []) :
    joinWith sep (pieces ++ [[]]) = joinWith sep pieces ++ [sep] := by
  induction pieces with
  | nil => exact absurd rfl hne
  | cons piece pieces ih =>
    cases pieces with
    | nil => rfl
    | cons next pieces => simpa [joinWith] using ih

/-- Splitting a string loses nothing. -/
theorem joinWith_pieces (sep : Char) (s : String) :
    joinWith sep ((pieces sep s).map String.toList) = s.toList := by
  have hid : String.toList ∘ String.ofList = id := funext fun cs ↦ String.toList_ofList
  rw [pieces, List.map_map, hid, List.map_id, joinWith_splitOn]

/-- The pieces with a separator between neighbours, written as one text. -/
theorem joinWith_eq_intercalate (sep : Char) (pieces : List (List Char)) :
    joinWith sep pieces = [sep].intercalate pieces := by
  induction pieces with
  | nil => rfl
  | cons piece pieces ih =>
    cases pieces with
    | nil => simp [joinWith]
    | cons next pieces => rw [joinWith, ih, List.intercalate_cons_cons, List.append_assoc]; rfl

/-- Texts without the separator are found again in the string that they make up. -/
theorem pieces_intercalate {sep : Char} {joint : String} (hjoint : joint.toList = [sep])
    {texts : List String} (hne : texts ≠ []) (hfree : ∀ text ∈ texts, sep ∉ text.toList) :
    pieces sep (joint.intercalate texts) = texts := by
  have hid : String.ofList ∘ String.toList = id := funext fun text ↦ String.ofList_toList
  have hmap : ∀ piece ∈ texts.map String.toList, sep ∉ piece := fun piece hpiece ↦ by
    obtain ⟨text, hin, rfl⟩ := List.mem_map.1 hpiece
    exact hfree text hin
  rw [pieces, String.toList_intercalate, hjoint, ← joinWith_eq_intercalate,
    splitOn_joinWith (mt List.map_eq_nil_iff.1 hne) hmap, List.map_map, hid, List.map_id]

theorem mem_of_mem_pieces {sep c : Char} {s piece : String} (hpiece : piece ∈ pieces sep s)
    (hc : c ∈ piece.toList) : c ∈ s.toList := by
  rw [← joinWith_pieces sep s]
  exact subset_joinWith sep (List.mem_map_of_mem hpiece) hc

/-- Strings with the same pieces are the same. -/
theorem eq_of_pieces_eq {sep : Char} {s t : String} (h : pieces sep s = pieces sep t) : s = t := by
  rw [← String.toList_inj, ← joinWith_pieces sep s, h, joinWith_pieces]

end BlobFs.Text

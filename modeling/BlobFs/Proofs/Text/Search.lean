import BlobFs.Text.Split
import Mathlib.Data.List.Infix

/-!
# Where a marker stands first

`Text.cutAt` searches a text for a whole marker.  Here the text is made of two, and the search is
told by what it finds in one of them.

* `cutAt_append_left` and `cutAt_append_right` are about any two texts, as long as the marker stands
  nowhere in the first text, or nowhere outside it.
* A marker may also stand across the place where the texts meet.  If the second text begins with an
  edge, some characters that the marker has only at its ends, the two share the edge at most
  (`length_le_of_edge`).  So whether the marker stands across is a question about the first text and
  the edge: `cutAt_of_edge`, `infix_of_edge`, and from the other side `cutAt_of_last_edge`,
  `infix_of_last_edge`.
* `infix_append_cons` and the lemmas beside it are about markers that do not hold some character.
-/

set_option autoImplicit false

namespace BlobFs.Text

variable {α : Type} {marker front s t back edge : List α} {c : α}

/-! ## A search in two texts -/

section Search

variable [DecidableEq α]

/-- A marker that begins a text is found there. -/
theorem cutAt_append_self (marker rest : List α) : cutAt marker (marker ++ rest) = some ([], rest) := by
  cases h : marker ++ rest with
  | nil =>
    obtain ⟨rfl, rfl⟩ := List.append_eq_nil_iff.1 h
    rfl
  | cons c s => rw [cutAt, if_pos (List.isPrefixOf_iff_prefix.2 ⟨rest, h⟩), ← h, List.drop_left]

/-- A search goes past a text in which the marker does not begin. -/
theorem cutAt_append_left
    (h : ∀ x y, front ++ s = x ++ (marker ++ y) → front.length ≤ x.length) :
    cutAt marker (front ++ s) =
      (cutAt marker s).map fun (before, after) ↦ (front ++ before, after) := by
  induction front with
  | nil => exact Option.map_id'.symm
  | cons c front ih =>
    have hnot : ¬marker.isPrefixOf (c :: (front ++ s)) = true := by
      intro hstarts
      obtain ⟨y, hy⟩ := List.isPrefixOf_iff_prefix.1 hstarts
      exact absurd (h [] y hy.symm) (by simp)
    have hrest : ∀ x y, front ++ s = x ++ (marker ++ y) → front.length ≤ x.length := by
      intro x y hxy
      exact Nat.le_of_succ_le_succ (h (c :: x) y (congrArg (c :: ·) hxy))
    rw [List.cons_append, cutAt, if_neg hnot, ih hrest, Option.map_map]
    rfl

/-- A search ends in the first text if the marker stands nowhere else. -/
theorem cutAt_append_right (hne : marker ≠ [])
    (h : ∀ x y, s ++ back = x ++ (marker ++ y) → back.length ≤ y.length) :
    cutAt marker (s ++ back) =
      (cutAt marker s).map fun (before, after) ↦ (before, after ++ back) := by
  induction s with
  | nil =>
    rw [List.nil_append, cutAt, if_neg hne]
    cases hcut : cutAt marker back with
    | none => rfl
    | some cut =>
      have hback := eq_append_of_cutAt hcut
      have hle := h cut.1 cut.2 hback
      have hlength := congrArg List.length hback
      have hpos := List.length_pos_iff.2 hne
      simp only [List.length_append] at hlength
      omega
  | cons c s ih =>
    have hrest : ∀ x y, s ++ back = x ++ (marker ++ y) → back.length ≤ y.length :=
      fun x y hxy ↦ h (c :: x) y (congrArg (c :: ·) hxy)
    rw [List.cons_append, cutAt, cutAt]
    by_cases hstarts : marker <+: c :: s
    · obtain ⟨y, hy⟩ := hstarts
      have hlong : marker <+: c :: (s ++ back) := ⟨y ++ back, by rw [← List.append_assoc, hy]; rfl⟩
      rw [if_pos (List.isPrefixOf_iff_prefix.2 hlong),
        if_pos (List.isPrefixOf_iff_prefix.2 ⟨y, hy⟩), ← List.cons_append, ← hy,
        List.append_assoc, List.drop_left, List.drop_left]
      rfl
    · have hlong : ¬marker <+: c :: (s ++ back) := by
        rintro ⟨y, hy⟩
        have hle := h [] y hy.symm
        refine hstarts (List.prefix_of_prefix_length_le ⟨y, hy⟩ (List.prefix_append (c :: s) back) ?_)
        have hlength := congrArg List.length hy
        simp only [List.length_append, List.length_cons] at hlength ⊢
        omega
      rw [if_neg (mt List.isPrefixOf_iff_prefix.1 hlong),
        if_neg (mt List.isPrefixOf_iff_prefix.1 hstarts), ih hrest, Option.map_map, Option.map_map]
      rfl

end Search

/-! ## Texts that meet at an edge -/

/-- A marker that begins in the first text ends in it or in the edge of the second. -/
theorem length_le_of_edge {x y : List α} (hedge : edge <+: s)
    (hinner : ¬edge <:+: marker.tail.dropLast) (hfront : ¬marker <:+: front ++ edge)
    (h : front ++ s = x ++ (marker ++ y)) : front.length ≤ x.length := by
  by_contra hlt
  obtain ⟨rest, rfl⟩ := hedge
  obtain ⟨inner, rfl⟩ : x <+: front :=
    List.prefix_of_prefix_length_le ⟨marker ++ y, h.symm⟩ (List.prefix_append front _)
      (Nat.le_of_not_le hlt)
  have hmeet : inner ++ edge ++ rest = marker ++ y := by
    simpa only [List.append_assoc, List.append_cancel_left_eq] using h
  rcases List.append_eq_append_iff.1 hmeet with ⟨more, rfl, -⟩ | ⟨more, hshort, -⟩
  · -- the marker goes on behind the edge, so the edge is inside it
    cases more with
    | nil => exact hfront ⟨x, [], by simp⟩
    | cons c more =>
      cases inner with
      | nil => simp at hlt
      | cons d inner =>
        refine hinner ⟨inner, (c :: more).dropLast, ?_⟩
        rw [List.cons_append, List.cons_append, List.tail_cons,
          List.dropLast_append_of_ne_nil (List.cons_ne_nil c more)]
  · refine hfront ⟨x, more, ?_⟩
    rw [List.append_assoc, List.append_assoc, hshort]

/-- The search goes past the first text if the marker does not stand before the end of the edge. -/
theorem cutAt_of_edge [DecidableEq α] (hedge : edge <+: s)
    (hinner : ¬edge <:+: marker.tail.dropLast) (hfront : ¬marker <:+: front ++ edge) :
    cutAt marker (front ++ s) =
      (cutAt marker s).map fun (before, after) ↦ (front ++ before, after) :=
  cutAt_append_left fun _ _ ↦ length_le_of_edge hedge hinner hfront

theorem infix_of_edge (hedge : edge <+: s) (hinner : ¬edge <:+: marker.tail.dropLast)
    (h : marker <:+: front ++ s) : marker <:+: front ++ edge ∨ marker <:+: s := by
  rw [or_iff_not_imp_left]
  intro hfront
  obtain ⟨x, y, hxy⟩ := h
  rw [List.append_assoc] at hxy
  have hle := length_le_of_edge hedge hinner hfront hxy.symm
  obtain ⟨x, rfl⟩ := List.prefix_of_prefix_length_le (List.prefix_append front s) ⟨_, hxy⟩ hle
  rw [List.append_assoc, List.append_cancel_left_eq] at hxy
  exact ⟨x, y, by rw [List.append_assoc, hxy]⟩

/-- The same from the other side: a marker that ends in the second text begins in it or in the edge
of the first. -/
theorem length_le_of_last_edge {x y : List α} (hedge : edge <:+ s)
    (hinner : ¬edge <:+: marker.tail.dropLast) (hback : ¬marker <:+: edge ++ back)
    (h : s ++ back = x ++ (marker ++ y)) : back.length ≤ y.length := by
  have hreverse : back.reverse ++ s.reverse = y.reverse ++ (marker.reverse ++ x.reverse) := by
    simpa using congrArg List.reverse h
  have hinner' : ¬edge.reverse <:+: marker.reverse.tail.dropLast := by
    rw [List.tail_reverse, List.dropLast_reverse, List.tail_dropLast, List.reverse_infix]
    exact hinner
  have hfront : ¬marker.reverse <:+: back.reverse ++ edge.reverse := by
    rw [← List.reverse_append, List.reverse_infix]
    exact hback
  simpa using length_le_of_edge (List.reverse_prefix.2 hedge) hinner' hfront hreverse

/-- The search ends in the first text if the marker does not stand behind the beginning of its last
edge. -/
theorem cutAt_of_last_edge [DecidableEq α] (hne : marker ≠ []) (hedge : edge <:+ s)
    (hinner : ¬edge <:+: marker.tail.dropLast) (hback : ¬marker <:+: edge ++ back) :
    cutAt marker (s ++ back) =
      (cutAt marker s).map fun (before, after) ↦ (before, after ++ back) :=
  cutAt_append_right hne fun _ _ ↦ length_le_of_last_edge hedge hinner hback

theorem infix_of_last_edge (hedge : edge <:+ s) (hinner : ¬edge <:+: marker.tail.dropLast)
    (h : marker <:+: s ++ back) : marker <:+: s ∨ marker <:+: edge ++ back := by
  rw [or_iff_not_imp_right]
  intro hback
  obtain ⟨x, y, hxy⟩ := h
  have hle := length_le_of_last_edge hedge hinner hback (hxy.symm.trans (List.append_assoc _ _ _))
  obtain ⟨y, rfl⟩ := List.suffix_of_suffix_length_le (List.suffix_append s back) ⟨_, hxy⟩ hle
  rw [← List.append_assoc, List.append_cancel_right_eq] at hxy
  exact ⟨x, y, hxy⟩

/-! ## Characters that a marker does not hold -/

theorem prefix_of_not_mem (hc : c ∉ marker) (h : marker <+: s ++ c :: t) : marker <+: s := by
  induction s generalizing marker with
  | nil =>
    cases marker with
    | nil => exact List.nil_prefix
    | cons d marker => exact absurd (by simp [(List.cons_prefix_cons.1 h).1]) hc
  | cons d s ih =>
    cases marker with
    | nil => exact List.nil_prefix
    | cons e marker =>
      obtain ⟨rfl, hrest⟩ := List.cons_prefix_cons.1 h
      exact List.cons_prefix_cons.2 ⟨rfl, ih (mt (List.mem_cons_of_mem e) hc) hrest⟩

/-- A marker does not stand across a character that it does not hold. -/
theorem infix_append_cons (hc : c ∉ marker) (h : marker <:+: s ++ c :: t) :
    marker <:+: s ∨ marker <:+: t := by
  induction s with
  | nil =>
    rcases List.infix_cons_iff.1 h with hstarts | hin
    · exact .inl (prefix_of_not_mem (s := []) hc hstarts).isInfix
    · exact .inr hin
  | cons d s ih =>
    rcases List.infix_cons_iff.1 h with hstarts | hin
    · exact .inl (prefix_of_not_mem (s := d :: s) hc hstarts).isInfix
    · exact (ih hin).imp_left fun hin ↦ hin.trans (List.suffix_cons d s).isInfix

/-- A marker does not begin where its first character is not. -/
theorem infix_of_head (hhead : marker.head? = some c) (hc : c ∉ s) (h : marker <:+: s ++ t) :
    marker <:+: t := by
  induction s with
  | nil => exact h
  | cons d s ih =>
    obtain ⟨hne, hs⟩ := not_or.1 (mt List.mem_cons.2 hc)
    rcases List.infix_cons_iff.1 h with hstarts | h
    · obtain ⟨marker, rfl⟩ := List.head?_eq_some_iff.1 hhead
      exact absurd (List.cons_prefix_cons.1 hstarts).1 hne
    · exact ih hs h

/-- A marker does not end where its last character is not. -/
theorem infix_of_getLast (hlast : marker.getLast? = some c) (hc : c ∉ t)
    (h : marker <:+: s ++ t) : marker <:+: s := by
  rw [← List.reverse_infix, List.reverse_append] at h
  rw [← List.reverse_infix]
  refine infix_of_head (c := c) ?_ (mt List.mem_reverse.1 hc) h
  rw [List.head?_reverse, hlast]

end BlobFs.Text

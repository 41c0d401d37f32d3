import BlobFs.Proofs.Pattern.Plain

/-!
# Names without wildcards

Most names have no `*`, `?` and `[` in them.  Such a name is a pattern too, and it selects one name,
itself.  Nothing else in a name has a meaning: `\`, `]`, `!` and `-` take themselves, and slashes
make the same segments on both sides, empty ones included.

* `ofText_of_isPlain` — a segment without wildcards is read as its characters, one token each, so it
  accepts one text (`accepts_iff_of_isLiteral`).
* `matchSegments_iff_of_isLiteral` — segment by segment, from the front.
* `segmentsOf_injective` — different names have different segments, so nothing is lost by comparing
  segments in place of names.  The empty name, which has none, is no exception: it is the only one.

`matchesName_iff_of_isLiteral` is the result.
-/

set_option autoImplicit false

namespace BlobFs.Pattern

/-- Whether a text has no wildcard in it. -/
def IsLiteral (s : List Char) : Prop :=
  ∀ c ∈ s, c ≠ '*' ∧ c ≠ '?' ∧ c ≠ '['

instance : DecidablePred IsLiteral :=
  fun s ↦ List.decidableBAll (fun c ↦ c ≠ '*' ∧ c ≠ '?' ∧ c ≠ '[') s

theorem IsLiteral.isPlain {s : List Char} (h : IsLiteral s) : IsPlain s :=
  fun c hc ↦ ⟨(h c hc).1, (h c hc).2.2⟩

theorem IsLiteral.not_mem {s : List Char} (h : IsLiteral s) : '?' ∉ s :=
  fun hc ↦ (h '?' hc).2.1 rfl

/-! ## One segment -/

/-- A segment without `*` and `[` is read as one token for each character. -/
theorem ofText_of_isPlain {text : String} (h : IsPlain text.toList) :
    Segment.ofText text = .wildcard (text.toList.map Token.ofChar) := by
  have hdepth : text.toList ≠ ['*', '*'] := by
    intro hstars
    exact (h '*' (hstars ▸ List.mem_cons_self)).1 rfl
  obtain ⟨atName, hparse⟩ := parseFrom?_append h true []
  rw [List.append_nil] at hparse
  rw [Segment.ofText, if_neg hdepth, Token.parse?, hparse, Token.parseFrom?, Option.map_some,
    List.append_nil]

/-- Characters other than `?` take themselves. -/
theorem tryTokens_self {s : List Char} (h : '?' ∉ s) :
    tryTokens (s.map Token.ofChar) s = .matched := by
  induction s with
  | nil => rfl
  | cons c s ih =>
    rw [List.mem_cons, not_or] at h
    have htakes : (Token.ofChar c).takes c = true := by
      rw [Token.ofChar, if_neg (Ne.symm h.1)]
      exact beq_self_eq_true c
    rw [List.map_cons, tryTokens_ofChar_cons, if_pos htakes, ih h.2]

/-- A segment without wildcards accepts itself only. -/
theorem accepts_iff_of_isLiteral {text name : String} (h : IsLiteral text.toList) :
    (Segment.ofText text).accepts name = true ↔ name = text := by
  rw [ofText_of_isPlain h.isPlain, Segment.accepts, beq_iff_eq]
  constructor
  · intro hmatched
    rw [← List.append_nil (text.toList.map Token.ofChar)] at hmatched
    obtain ⟨front, rest, hname, hfront, hrest⟩ := tryTokens_append hmatched
    obtain rfl : rest = [] := by
      cases rest with
      | nil => rfl
      | cons c rest => cases hrest
    rw [List.append_nil, ← eq_of_forall₂_standsFor h.not_mem hfront] at hname
    exact String.toList_inj.1 hname
  · rintro rfl
    exact tryTokens_self h.not_mem

/-! ## All segments -/

/-- Segments without wildcards match themselves only. -/
theorem matchSegments_iff_of_isLiteral {texts name : List String}
    (h : ∀ text ∈ texts, IsLiteral text.toList) :
    matchSegments (texts.map Segment.ofText) name = true ↔ name = texts := by
  induction texts generalizing name with
  | nil => rw [List.map_nil, matchSegments, List.isEmpty_iff]
  | cons text texts ih =>
    obtain ⟨htext, htexts⟩ := List.forall_mem_cons.1 h
    have hdepth : Segment.ofText text ≠ .anyDepth := by
      rw [ofText_of_isPlain htext.isPlain]
      exact Segment.noConfusion
    rw [List.map_cons, matchSegments_cons hdepth]
    cases name with
    | nil => simp
    | cons first name =>
      rw [Bool.and_eq_true_iff, accepts_iff_of_isLiteral htext, ih htexts, List.cons.injEq]

/-- A segment of a name has only characters of the name. -/
theorem subset_of_mem_segmentsOf {name segment : String} (h : segment ∈ segmentsOf name) :
    segment.toList ⊆ name.toList := by
  rw [← joinWith_segmentsOf name]
  exact Text.subset_joinWith '/' (List.mem_map_of_mem h)

/-- Different names have different segments. -/
theorem segmentsOf_injective : Function.Injective segmentsOf := by
  intro name name' h
  rw [← String.toList_inj, ← joinWith_segmentsOf, h, joinWith_segmentsOf]

theorem intercalate_segmentsOf (name : String) : "/".intercalate (segmentsOf name) = name := by
  rw [← String.toList_inj, String.toList_intercalate, ← joinWith_segmentsOf name,
    Text.joinWith_eq_intercalate]
  rfl

/-- **A name without wildcards is a pattern for itself only.**  That holds whichever way its slashes
stand, because a name is given back by its segments. -/
theorem matchesName_iff_of_isLiteral :
    (∀ pattern : String, IsLiteral pattern.toList →
      ∀ name, (ofText pattern).matchesName name = true ↔ name = pattern) ∧
    Function.Injective segmentsOf ∧
    ∀ name, "/".intercalate (segmentsOf name) = name := by
  refine ⟨fun pattern hpattern name ↦ ?_, segmentsOf_injective, intercalate_segmentsOf⟩
  have hsegments : ∀ segment ∈ segmentsOf pattern, IsLiteral segment.toList :=
    fun segment hin c hc ↦ hpattern c (subset_of_mem_segmentsOf hin hc)
  rw [matchesName, matchesSegments, ofText, ofSegments, matchSegments_iff_of_isLiteral hsegments,
    segmentsOf_injective.eq_iff]

/-- Slashes at both ends and in a row, a closing bracket and a backslash. -/
theorem odd_name_matches_itself_only :
    IsLiteral "/a]//b\\/".toList ∧
    (ofText "/a]//b\\/").matchesName "/a]//b\\/" = true ∧
    (ofText "/a]//b\\/").matchesName "a]/b\\" = false := by
  have hliteral : IsLiteral "/a]//b\\/".toList := by decide
  have hmatches := matchesName_iff_of_isLiteral.1 "/a]//b\\/" hliteral
  refine ⟨hliteral, (hmatches _).2 rfl, ?_⟩
  have hne : "a]/b\\" ≠ "/a]//b\\/" := by decide
  exact Bool.eq_false_iff.2 (mt (hmatches _).1 hne)

-- The empty name is selected by the empty pattern only.
example : (ofText "").matchesName "" = true ∧ (ofText "/").matchesName "" = false := by
  decide +kernel

end BlobFs.Pattern

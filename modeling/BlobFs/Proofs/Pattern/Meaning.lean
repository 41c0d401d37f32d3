import BlobFs.Proofs.Pattern.Plain
import BlobFs.Proofs.Pattern.Wildcard

/-!
# What a pattern means

Matching a name against a pattern is a search: each `**` tries every number of segments, and what
follows it is matched anew each time.  This file says what the search is for, without any search.

* `Covers` — which blocks of name segments a segment of a pattern stands for: `**` for any block at
  all, a wildcard text for single segments that are what its tokens take, any other text for itself.
* `matchSegments_eq_true_iff` — a name is matched if and only if it can be cut into blocks, one for
  each segment of the pattern in order.  It is by induction on the pattern, for all names at once;
  that a `**` at the end is not searched at all makes no difference (`matchSegments_anyDepth`).
* `matchWithin?` — the same search with a bound on how deep it may go.  It has an answer as soon as
  the bound exceeds the number of segments in the pattern (`matchWithin?_eq`).

`matchesSegments_iff_exists_blocks` is both for a pattern given by its texts.
-/

set_option autoImplicit false

namespace BlobFs.Pattern

/-! ## Cutting a name into blocks -/

/-- Whether a segment of a pattern stands for these segments of a name. -/
def Segment.Covers : Segment → List String → Prop
  | .anyDepth, _ => True
  | segment, block => ∃ name, block = [name] ∧ segment.accepts name = true

theorem Segment.covers_iff {segment : Segment} (h : segment ≠ .anyDepth) {block : List String} :
    segment.Covers block ↔ ∃ name, block = [name] ∧ segment.accepts name = true := by
  cases segment with
  | anyDepth => exact absurd rfl h
  | wildcard tokens | exactly text => rfl

theorem mem_tails_iff {α : Type} {rest l : List α} :
    rest ∈ tails l ↔ ∃ front, l = front ++ rest := by
  induction l with
  | nil =>
    rw [tails, List.mem_singleton]
    constructor
    · rintro rfl
      exact ⟨[], rfl⟩
    · rintro ⟨front, h⟩
      exact (List.nil_eq_append_iff.1 h).2
  | cons a l ih =>
    rw [tails, List.mem_cons, ih]
    constructor
    · rintro (rfl | ⟨front, rfl⟩)
      · exact ⟨[], rfl⟩
      · exact ⟨a :: front, rfl⟩
    · rintro ⟨front, h⟩
      cases front with
      | nil => exact .inl h.symm
      | cons b front => exact .inr ⟨front, (List.cons.inj h).2⟩

/-- Nothing is left once all is taken off. -/
theorem nil_mem_tails {α : Type} (l : List α) : [] ∈ tails l :=
  mem_tails_iff.2 ⟨l, (List.append_nil l).symm⟩

/-- What follows `**` may start anywhere; where nothing follows, it starts at the end. -/
theorem matchSegments_anyDepth (rest : List Segment) (name : List String) :
    matchSegments (.anyDepth :: rest) name = (tails name).any (matchSegments rest) := by
  cases rest with
  | nil =>
    rw [matchSegments]
    exact (List.any_eq_true.2 ⟨[], nil_mem_tails name, rfl⟩).symm
  | cons segment rest =>
    rw [matchSegments]
    simp

/-- **A name is matched if and only if it can be cut into blocks**, one for each segment of the
pattern. -/
theorem matchSegments_eq_true_iff {segments : List Segment} {name : List String} :
    matchSegments segments name = true ↔
      ∃ blocks : List (List String), blocks.flatten = name ∧
        List.Forall₂ Segment.Covers segments blocks := by
  induction segments generalizing name with
  | nil =>
    rw [matchSegments, List.isEmpty_iff]
    constructor
    · rintro rfl
      exact ⟨[], rfl, .nil⟩
    · rintro ⟨blocks, rfl, hblocks⟩
      cases hblocks
      rfl
  | cons segment rest ih =>
    by_cases hdepth : segment = .anyDepth
    · subst hdepth
      rw [matchSegments_anyDepth, List.any_eq_true]
      constructor
      · rintro ⟨back, hback, hmatch⟩
        obtain ⟨front, rfl⟩ := mem_tails_iff.1 hback
        obtain ⟨blocks, rfl, hblocks⟩ := ih.1 hmatch
        exact ⟨front :: blocks, rfl, .cons trivial hblocks⟩
      · rintro ⟨blocks, rfl, hblocks⟩
        cases hblocks with
        | @cons _ front _ blocks _ hblocks =>
          exact ⟨blocks.flatten, mem_tails_iff.2 ⟨front, rfl⟩, ih.2 ⟨blocks, rfl, hblocks⟩⟩
    · rw [matchSegments_cons hdepth]
      constructor
      · intro hmatch
        cases name with
        | nil => cases hmatch
        | cons first name =>
          obtain ⟨haccepts, hmatch⟩ := Bool.and_eq_true_iff.1 hmatch
          obtain ⟨blocks, rfl, hblocks⟩ := ih.1 hmatch
          have hfirst : segment.Covers [first] :=
            (Segment.covers_iff hdepth).2 ⟨first, rfl, haccepts⟩
          exact ⟨[first] :: blocks, rfl, .cons hfirst hblocks⟩
      · rintro ⟨blocks, rfl, hblocks⟩
        cases hblocks with
        | @cons _ block _ blocks hcovers hblocks =>
          obtain ⟨first, rfl, haccepts⟩ := (Segment.covers_iff hdepth).1 hcovers
          exact Bool.and_eq_true_iff.2 ⟨haccepts, ih.2 ⟨blocks, rfl, hblocks⟩⟩

/-! ## The depth of the search -/

/-- Matches the segments of a name, if that takes no more than so many steps down; `**` tries to
skip no segment first, then one, and so on. -/
def matchWithin? : Nat → List Segment → List String → Option Bool
  | 0, _, _ => none
  | _ + 1, [], name => some name.isEmpty
  | _ + 1, [.anyDepth], _ => some true
  | depth + 1, .anyDepth :: rest, name =>
    (List.range (name.length + 1)).anyM fun skipped ↦ matchWithin? depth rest (name.drop skipped)
  | _ + 1, _ :: _, [] => some false
  | depth + 1, segment :: rest, first :: name =>
    if segment.accepts first then matchWithin? depth rest name else some false

/-- A segment other than `**` takes the first segment of the name and one step. -/
theorem matchWithin?_cons {segment : Segment} (hdepth : segment ≠ .anyDepth) (depth : Nat)
    (rest : List Segment) (name : List String) :
    matchWithin? (depth + 1) (segment :: rest) name =
      match name with
      | [] => some false
      | first :: name =>
        if segment.accepts first then matchWithin? depth rest name else some false := by
  cases segment with
  | anyDepth => exact absurd rfl hdepth
  | wildcard tokens | exactly text => cases name <;> rfl

theorem tails_eq_map_drop {α : Type} (l : List α) :
    tails l = (List.range (l.length + 1)).map l.drop := by
  induction l with
  | nil => rfl
  | cons a l ih =>
    have hrange : List.range ((a :: l).length + 1) =
        0 :: (List.range (l.length + 1)).map Nat.succ := List.range_succ_eq_map
    rw [tails, ih, hrange, List.map_cons, List.map_map]
    rfl

theorem anyM_eq_some {α : Type} {p : α → Option Bool} {q : α → Bool} {l : List α}
    (h : ∀ a ∈ l, p a = some (q a)) : l.anyM p = some (l.any q) := by
  induction l with
  | nil => rfl
  | cons a l ih =>
    rw [List.anyM, h a List.mem_cons_self, List.any_cons]
    cases hq : q a with
    | true => rfl
    | false => exact ih fun b hb ↦ h b (List.mem_cons_of_mem a hb)

/-- **The search goes down at most once for each segment of the pattern**, and once more. -/
theorem matchWithin?_eq {depth : Nat} {segments : List Segment} (h : segments.length < depth)
    (name : List String) :
    matchWithin? depth segments name = some (matchSegments segments name) := by
  induction segments generalizing depth name with
  | nil =>
    cases depth with
    | zero => exact absurd h (Nat.not_lt_zero _)
    | succ depth => rfl
  | cons segment rest ih =>
    cases depth with
    | zero => exact absurd h (Nat.not_lt_zero _)
    | succ depth =>
      have hrest : ∀ name, matchWithin? depth rest name = some (matchSegments rest name) :=
        ih (Nat.lt_of_succ_lt_succ h)
      by_cases hdepth : segment = .anyDepth
      · subst hdepth
        cases rest with
        | nil => rfl
        | cons next rest =>
          rw [matchSegments_anyDepth, tails_eq_map_drop, List.any_map, matchWithin?]
          · exact anyM_eq_some fun skipped _ ↦ hrest (name.drop skipped)
          · exact fun hnil ↦ List.cons_ne_nil _ _ hnil
      · rw [matchSegments_cons hdepth]
        rw [matchWithin?_cons hdepth]
        cases name with
        | nil => rfl
        | cons first name =>
          simp only [hrest]
          cases segment.accepts first <;> rfl

/-! ## The texts of a pattern -/

/-- Whether a segment of a pattern, as written, stands for these segments of a name. -/
inductive Covers (text : String) : List String → Prop
  /-- `**` stands for any segments at all. -/
  | anyDepth (block : List String) (htext : text = "**") : Covers text block
  /-- A text that follows the rules of wildcards stands for one segment: the characters that its
  tokens take. -/
  | wildcard {tokens : List Token} {name : String} (htext : text ≠ "**")
      (hparse : Token.parse? text.toList = some tokens)
      (hmatches : Token.Matches tokens name.toList) : Covers text [name]
  /-- Any other text stands for itself. -/
  | exactly (htext : text ≠ "**") (hparse : Token.parse? text.toList = none) : Covers text [text]

theorem eq_stars_iff {text : String} : text = "**" ↔ text.toList = ['*', '*'] :=
  String.toList_inj.symm

theorem accepts_wildcard_iff {text name : String} {tokens : List Token}
    (hparse : Token.parse? text.toList = some tokens) :
    (Segment.wildcard tokens).accepts name = true ↔ Token.Matches tokens name.toList := by
  rw [← tryTokens_eq_matched_iff (placed_of_parse? hparse)]
  exact decide_eq_true_iff

theorem accepts_exactly_iff {text name : String} :
    (Segment.exactly text).accepts name = true ↔ text = name :=
  decide_eq_true_iff

theorem covers_ofText_iff {text : String} {block : List String} :
    (Segment.ofText text).Covers block ↔ Covers text block := by
  by_cases hstars : text = "**"
  · rw [ofText_eq_anyDepth_iff.2 (eq_stars_iff.1 hstars)]
    exact ⟨fun _ ↦ .anyDepth block hstars, fun _ ↦ trivial⟩
  have hdepth : Segment.ofText text ≠ .anyDepth :=
    mt ofText_eq_anyDepth_iff.1 (mt eq_stars_iff.2 hstars)
  rw [Segment.covers_iff hdepth, Segment.ofText, if_neg (mt eq_stars_iff.2 hstars)]
  cases hparse : Token.parse? text.toList with
  | none =>
    simp only [accepts_exactly_iff]
    constructor
    · rintro ⟨name, rfl, rfl⟩
      exact .exactly hstars hparse
    · intro hcovers
      cases hcovers with
      | anyDepth block htext => exact absurd htext hstars
      | wildcard htext hsome hmatches => rw [hparse] at hsome; cases hsome
      | exactly htext hnone => exact ⟨text, rfl, rfl⟩
  | some tokens =>
    simp only [accepts_wildcard_iff hparse]
    constructor
    · rintro ⟨name, rfl, hmatches⟩
      exact .wildcard hstars hparse hmatches
    · intro hcovers
      cases hcovers with
      | anyDepth block htext => exact absurd htext hstars
      | @wildcard _ name htext hsome hmatches =>
        rw [hparse] at hsome
        cases hsome
        exact ⟨name, rfl, hmatches⟩
      | exactly htext hnone => rw [hparse] at hnone; cases hnone

/-- **A name is matched if and only if it can be cut into blocks** that the segments of the
pattern, as written and in order, stand for; and **the search has an answer**, whatever the name,
once it may go down one step more than the pattern has segments. -/
theorem matchesSegments_iff_exists_blocks (pattern name : List String) :
    ((ofSegments pattern).matchesSegments name = true ↔
      ∃ blocks : List (List String), blocks.flatten = name ∧
        List.Forall₂ Covers pattern blocks) ∧
    ∀ more, matchWithin? (pattern.length + 1 + more) (ofSegments pattern).segments name =
      some ((ofSegments pattern).matchesSegments name) := by
  constructor
  · rw [matchesSegments, matchSegments_eq_true_iff, ofSegments]
    simp only [List.forall₂_map_left_iff, covers_ofText_iff]
  · intro more
    have hlength : (ofSegments pattern).segments.length < pattern.length + 1 + more := by
      rw [ofSegments, List.length_map]
      omega
    exact matchWithin?_eq hlength name

end BlobFs.Pattern

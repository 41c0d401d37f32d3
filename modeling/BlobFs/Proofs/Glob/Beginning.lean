import BlobFs.Proofs.Glob
import BlobFs.Proofs.Pattern.Plain

/-!
# What the beginning of a listing hides

`FileSystem.glob` asks only for names that begin with the text before the first `*`, `[` or `\` of
the path, and matches what it gets against the whole pattern.  Nothing is lost that way as long as
every name that the pattern matches begins with that text.  It is so but for two kinds of patterns,
because two readings of the path disagree.

* A `?` before the cut is a wildcard for the pattern and a plain character for the listing:
  `file?.*` matches `file1.csv`, which does not begin with `file?.`.
* `**` also stands for no segment at all, and the listing keeps the slash before it: `a/**` matches
  `a`, which does not begin with `a/`.

`startsWith_or_of_matchesName` says that there is no third kind.
-/

set_option autoImplicit false

namespace BlobFs

namespace Pattern

/-- Texts whose pieces stand for each other stand for each other. -/
theorem forall₂_joinWith {plain front : List (List Char)}
    (h : List.Forall₂ (List.Forall₂ StandsFor) plain front) :
    List.Forall₂ StandsFor (Text.joinWith '/' plain) (Text.joinWith '/' front) := by
  induction h with
  | nil => exact .nil
  | @cons s t plain front hst hrest ih =>
    cases hrest with
    | nil => exact hst
    | cons hnext hrest => exact List.rel_append hst (.cons (standsFor_self '/') ih)

/-- The segments of a pattern written as two texts: those of both, but that the last of the first
text and the first of the second are one. -/
theorem segments_ofText_of_append {path : String} {s t last first : List Char}
    {front back : List (List Char)} (hpath : path.toList = s ++ t) (ht : t ≠ [])
    (hs : Text.splitOn '/' s = front ++ [last]) (htfirst : Text.splitOn '/' t = first :: back) :
    (ofText path).segments =
      front.map (Segment.ofText ∘ String.ofList) ++
        ((last ++ first) :: back).map (Segment.ofText ∘ String.ofList) := by
  have hne : path.toList ≠ [] := hpath ▸ List.append_ne_nil_of_right_ne_nil s ht
  rw [ofText, ofSegments, segmentsOf, if_neg hne, Text.pieces, hpath,
    Text.splitOn_append_of_eq hs htfirst, List.map_map, List.map_append]

/-- What a name that the pattern matches looks like, if plain text stands at the start of the
pattern: either the name begins with something that the text stands for, or the pattern goes on with
nothing but `**` after the last slash of the text and the name ends before that slash. -/
theorem front_of_matchesName {path start key : String} {more : List Char}
    (hpath : path.toList = start.toList ++ more) (hmore : more ≠ [])
    (hstart : IsPlain start.toList) (h : (ofText path).matchesName key = true) :
    (∃ front rest : String, key = front ++ rest ∧
      List.Forall₂ StandsFor start.toList front.toList) ∨
    ∃ before : String, start = before ++ "/" ∧
      (∀ piece ∈ Text.splitOn '/' more, piece = ['*', '*']) ∧
      List.Forall₂ StandsFor before.toList key.toList := by
  obtain ⟨plain, last, hsplit⟩ : ∃ plain last, Text.splitOn '/' start.toList = plain ++ [last] :=
    ⟨_, _, (List.dropLast_concat_getLast (Text.splitOn_ne_nil '/' start.toList)).symm⟩
  obtain ⟨first, after, hafter⟩ := List.exists_cons_of_ne_nil (Text.splitOn_ne_nil '/' more)
  have hjoin : start.toList = Text.joinWith '/' (plain ++ [last]) := by
    rw [← hsplit, Text.joinWith_splitOn]
  have hpieces : ∀ s ∈ plain ++ [last], IsPlain s := fun s hs c hc ↦
    hstart c (hjoin ▸ Text.subset_joinWith '/' hs hc)
  have hlast : IsPlain last := hpieces last (List.mem_append_right _ List.mem_cons_self)
  rw [matchesName, matchesSegments, segments_ofText_of_append hpath hmore hsplit hafter] at h
  obtain ⟨fronts, left, hkey, hfronts, h⟩ :=
    split_of_matchSegments (fun s hs ↦ hpieces s (List.mem_append_left _ hs)) h
  have hname : key.toList =
      Text.joinWith '/' (fronts.map String.toList ++ left.map String.toList) := by
    rw [← joinWith_segmentsOf, hkey, List.map_append]
  rcases front_of_matchSegments hlast h with ⟨front, rest, back, rfl, hfront⟩ | ⟨rfl, hstars⟩
  · rw [List.map_cons, String.toList_ofList, Text.joinWith_append_cons] at hname
    refine .inl ⟨String.ofList (Text.joinWith '/' (fronts.map String.toList ++ [front])),
      String.ofList (Text.joinWith '/' (rest :: back.map String.toList)), ?_, ?_⟩
    · rw [← String.toList_inj, hname, String.toList_append, String.toList_ofList,
        String.toList_ofList]
    · rw [hjoin, String.toList_ofList]
      exact forall₂_joinWith (List.rel_append hfronts (.cons hfront .nil))
  · obtain rfl : last = [] := hlast.eq_nil_of_append (hstars _ List.mem_cons_self)
    rw [List.map_nil, List.append_nil] at hname
    by_cases hplain : plain = []
    · subst hplain
      exact .inl ⟨"", key, String.empty_append.symm, by rw [hjoin]; exact .nil⟩
    · refine .inr ⟨String.ofList (Text.joinWith '/' plain), ?_, hafter ▸ hstars, ?_⟩
      · rw [← String.toList_inj, hjoin, Text.joinWith_append_nil '/' hplain, String.toList_append,
          String.toList_ofList]
        rfl
      · rw [String.toList_ofList, hname]
        exact forall₂_joinWith hfronts

end Pattern

namespace FileSystem

/-- **The listing hides a matching name only behind a `?` or a closing `**`.**  Let `start` be the
text of the path before its first `*`, `[` or `\`.  A name that the whole pattern matches begins
with `start`, but for two kinds of patterns: `start` has a `?` in it, and the name begins with a
text that `start` stands for; or `start` ends in a slash with nothing but `**` behind it, and the
name is one that the text before the slash stands for. -/
theorem startsWith_or_of_matchesName {path start key : String}
    (hstart : beforeWildcard? path = some start)
    (hkey : (Pattern.ofText path).matchesName key = true) :
    Text.startsWith key start = true ∨
    ('?' ∈ start.toList ∧ ∃ front rest : String, key = front ++ rest ∧
      List.Forall₂ Pattern.StandsFor start.toList front.toList) ∨
    ∃ before after : String, start = before ++ "/" ∧ path = start ++ after ∧
      (∀ piece ∈ Text.pieces '/' after, piece = "**") ∧
      List.Forall₂ Pattern.StandsFor before.toList key.toList := by
  obtain ⟨wildcard, rest, hpath, -, hnot⟩ := exists_of_beforeWildcard? hstart
  have hplain : Pattern.IsPlain start.toList := fun c hc ↦ by
    have hc := hnot c hc
    simp only [wildcards, List.mem_cons, not_or] at hc
    exact ⟨hc.1, hc.2.1⟩
  rcases Pattern.front_of_matchesName hpath (List.cons_ne_nil wildcard rest) hplain hkey with
    ⟨front, rest, rfl, hfront⟩ | ⟨before, rfl, hstars, hbefore⟩
  · by_cases hany : '?' ∈ start.toList
    · exact .inr (.inl ⟨hany, front, rest, rfl, hfront⟩)
    · rw [← String.toList_inj.1 (Pattern.eq_of_forall₂_standsFor hany hfront)]
      exact .inl (Text.startsWith_iff.2 ⟨rest, rfl⟩)
  · refine .inr (.inr ⟨before, String.ofList (wildcard :: rest), rfl, ?_, ?_, hbefore⟩)
    · rw [← String.toList_inj, hpath]
      simp only [String.toList_append, String.toList_ofList]
    · intro piece hpiece
      obtain ⟨s, hs, rfl⟩ := List.mem_map.1 hpiece
      rw [String.toList_ofList] at hs
      rw [hstars s hs]

theorem startsWith_logs_of_matchesName :
    beforeWildcard? "logs/**/*.csv" = some "logs/" ∧
      (Pattern.ofText "logs/**/*.csv").matchesName "logs/may/1.csv" = true ∧
      Text.startsWith "logs/may/1.csv" "logs/" = true := by
  have hstart : beforeWildcard? "logs/**/*.csv" = some "logs/" := by decide
  have hkey : (Pattern.ofText "logs/**/*.csv").matchesName "logs/may/1.csv" = true := by
    decide +kernel
  refine ⟨hstart, hkey, ?_⟩
  rcases startsWith_or_of_matchesName hstart hkey with
    h | ⟨hany, -⟩ | ⟨before, after, -, h, hall, -⟩
  · exact h
  · exact absurd hany (by decide)
  · have hafter : some after = some "**/*.csv" :=
      (Text.dropStart?_eq_some_iff.2 h).symm.trans (by decide)
    rw [Option.some.inj hafter] at hall
    exact absurd (hall "*.csv" (by decide)) (by decide)

/-- Not every name that a pattern matches begins with the text before its first wildcard, for a `?`
may stand there. -/
theorem exists_hidden_match :
    ¬∀ path start key : String, beforeWildcard? path = some start →
      (∀ segment ∈ Text.pieces '/' key, segment ≠ "") →
      (Pattern.ofText path).matchesName key = true → Text.startsWith key start = true := by
  intro h
  have hfile := h "file?.*" "file?." "file1.csv" (by decide) (by decide) (by decide +kernel)
  exact absurd hfile (by decide)

/-- Nor does it without a `?`. -/
example : beforeWildcard? "a/**" = some "a/" ∧ (Pattern.ofText "a/**").matchesName "a" = true ∧
    Text.startsWith "a" "a/" = false := by
  decide +kernel

end FileSystem

end BlobFs

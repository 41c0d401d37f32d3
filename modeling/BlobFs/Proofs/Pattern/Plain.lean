import BlobFs.Pattern.Basic
import BlobFs.Proofs.Text.Cut
import Mathlib.Data.List.Forall2

/-!
# Plain text in a pattern

Text without `*` and `[` stands for as many characters as it has: for itself, but that a `?` in it
stands for any character but a slash (`StandsFor`).  This file says what a name begins with when a
segment of its pattern begins with plain text, and when whole segments of the pattern are plain.

* `parseFrom?_append` and `tryTokens_append` — a plain beginning of a wildcard text is read as one
  token for each character, which take one character each.
* `front_of_accepts` — so a segment that begins with plain text accepts only what begins likewise.
  A text that breaks the rules stands for itself and is no exception.
* `split_of_matchSegments` — plain segments take one segment of the name each, from the front.
* `front_of_matchSegments` — where plain text ends inside a segment, the name has a segment that
  begins likewise, unless it has none left and `**` is all there is.
-/

set_option autoImplicit false

namespace BlobFs.Pattern

/-- Whether a text has no wildcard but `?`. -/
def IsPlain (s : List Char) : Prop :=
  ∀ c ∈ s, c ≠ '*' ∧ c ≠ '['

/-- Whether a character of plain text may stand for this one. -/
def StandsFor (p c : Char) : Prop :=
  p = c ∨ p = '?' ∧ c ≠ '/'

theorem IsPlain.of_cons {c : Char} {s : List Char} (h : IsPlain (c :: s)) :
    (c ≠ '*' ∧ c ≠ '[') ∧ IsPlain s :=
  ⟨h c List.mem_cons_self, fun d hd ↦ h d (List.mem_cons_of_mem c hd)⟩

theorem standsFor_self (c : Char) : StandsFor c c :=
  .inl rfl

/-- There is nothing before the stars of `**`. -/
theorem IsPlain.eq_nil_of_append {s t : List Char} (hs : IsPlain s) (h : s ++ t = ['*', '*']) :
    s = [] := by
  cases s with
  | nil => rfl
  | cons c s => exact absurd (List.cons.inj h).1 hs.of_cons.1.1

/-- Any text stands for itself. -/
theorem forall₂_standsFor_self (s : List Char) : List.Forall₂ StandsFor s s :=
  List.forall₂_same.2 fun c _ ↦ standsFor_self c

/-- Without a `?` it stands for nothing else. -/
theorem eq_of_forall₂_standsFor {s t : List Char} (hs : '?' ∉ s)
    (h : List.Forall₂ StandsFor s t) : s = t := by
  induction h with
  | nil => rfl
  | @cons p c s t hpc _ ih =>
    rw [List.mem_cons, not_or] at hs
    rcases hpc with rfl | ⟨rfl, -⟩
    · rw [ih hs.2]
    · exact absurd rfl hs.1

/-! ## Tokens -/

/-- The token of a character of plain text. -/
def Token.ofChar (c : Char) : Token :=
  if c = '?' then .anyChar else .literal c

theorem standsFor_of_takes {p c : Char} (h : (Token.ofChar p).takes c = true) : StandsFor p c := by
  rw [Token.ofChar] at h
  split at h
  · next hp => exact .inr ⟨hp, by simpa [Token.takes] using h⟩
  · have hc : c = p := by simpa [Token.takes] using h
    exact .inl hc.symm

theorem parseFrom?_cons {c : Char} (hstar : c ≠ '*') (hopen : c ≠ '[') (atName : Bool)
    (s : List Char) :
    Token.parseFrom? atName (c :: s) =
      (Token.parseFrom? (c == '/') s).map (Token.ofChar c :: ·) := by
  by_cases hc : c = '?'
  · subst hc
    rw [Token.parseFrom?]
    rfl
  · rw [Token.parseFrom?]
    · rw [Token.ofChar, if_neg hc]
    all_goals simp_all

/-- Plain text in front is read as one token for each character. -/
theorem parseFrom?_append {s : List Char} (hs : IsPlain s) (atName : Bool) (t : List Char) :
    ∃ atName', Token.parseFrom? atName (s ++ t) =
      (Token.parseFrom? atName' t).map (s.map Token.ofChar ++ ·) := by
  induction s generalizing atName with
  | nil =>
    refine ⟨atName, ?_⟩
    rw [List.nil_append]
    cases Token.parseFrom? atName t <;> rfl
  | cons c s ih =>
    obtain ⟨⟨hstar, hopen⟩, hs⟩ := hs.of_cons
    obtain ⟨atName', hrest⟩ := ih hs (c == '/')
    refine ⟨atName', ?_⟩
    rw [List.cons_append, parseFrom?_cons hstar hopen, hrest]
    cases Token.parseFrom? atName' t <;> rfl

theorem tryTokens_ofChar_nil (p : Char) (tokens : List Token) :
    tryTokens (Token.ofChar p :: tokens) [] = .exhausted := by
  rw [Token.ofChar]
  split <;> rfl

theorem tryTokens_ofChar_cons (p c : Char) (tokens : List Token) (name : List Char) :
    tryTokens (Token.ofChar p :: tokens) (c :: name) =
      if (Token.ofChar p).takes c then tryTokens tokens name else .mismatch := by
  rw [Token.ofChar]
  split <;> rfl

/-- Plain text in front takes as many characters as it has. -/
theorem tryTokens_append {s : List Char} {tokens : List Token} {name : List Char}
    (h : tryTokens (s.map Token.ofChar ++ tokens) name = .matched) :
    ∃ front rest, name = front ++ rest ∧ List.Forall₂ StandsFor s front ∧
      tryTokens tokens rest = .matched := by
  induction s generalizing name with
  | nil => exact ⟨[], name, rfl, .nil, h⟩
  | cons p s ih =>
    rw [List.map_cons, List.cons_append] at h
    cases name with
    | nil =>
      rw [tryTokens_ofChar_nil] at h
      cases h
    | cons c name =>
      rw [tryTokens_ofChar_cons] at h
      split at h
      · next htakes =>
        obtain ⟨front, rest, rfl, hfront, hrest⟩ := ih h
        exact ⟨c :: front, rest, rfl, .cons (standsFor_of_takes htakes) hfront, hrest⟩
      · cases h

/-! ## Segments -/

/-- The segments of a name put together are the name. -/
theorem joinWith_segmentsOf (name : String) :
    Text.joinWith '/' ((segmentsOf name).map String.toList) = name.toList := by
  rw [segmentsOf]
  split
  · next h => rw [h]; rfl
  · exact Text.joinWith_pieces '/' name

theorem ofText_eq_anyDepth_iff {text : String} :
    Segment.ofText text = .anyDepth ↔ text.toList = ['*', '*'] := by
  rw [Segment.ofText]
  split
  · next h => simp [h]
  · next h =>
    split <;> simp [h]

/-- A segment that begins with plain text accepts only names that begin likewise, and nothing more
if it is all plain. -/
theorem front_of_accepts {text name : String} {s more : List Char}
    (htext : text.toList = s ++ more) (hs : IsPlain s) (hdepth : text.toList ≠ ['*', '*'])
    (h : (Segment.ofText text).accepts name = true) :
    ∃ front rest, name.toList = front ++ rest ∧ List.Forall₂ StandsFor s front ∧
      (more = [] → rest = []) := by
  obtain ⟨atName', hparse⟩ := parseFrom?_append hs true more
  rw [Segment.ofText, if_neg hdepth, Token.parse?, htext, hparse] at h
  cases hmore : Token.parseFrom? atName' more with
  | none =>
    have hname : text = name := by simpa [hmore, Segment.accepts] using h
    refine ⟨s, more, hname ▸ htext, forall₂_standsFor_self s, id⟩
  | some tokens =>
    have hmatched : tryTokens (s.map Token.ofChar ++ tokens) name.toList = .matched := by
      simpa [hmore, Segment.accepts] using h
    obtain ⟨front, rest, hname, hfront, hrest⟩ := tryTokens_append hmatched
    refine ⟨front, rest, hname, hfront, ?_⟩
    rintro rfl
    rw [Token.parseFrom?] at hmore
    cases hmore
    cases rest with
    | nil => rfl
    | cons c rest => cases hrest

/-- A segment other than `**` takes the first segment of the name. -/
theorem matchSegments_cons {segment : Segment} (hdepth : segment ≠ .anyDepth)
    (rest : List Segment) (name : List String) :
    matchSegments (segment :: rest) name =
      match name with
      | [] => false
      | first :: name => segment.accepts first && matchSegments rest name := by
  cases segment with
  | anyDepth => exact absurd rfl hdepth
  | wildcard tokens => cases name <;> rw [matchSegments] <;> simp
  | exactly text => cases name <;> rw [matchSegments] <;> simp

/-- Plain segments in front take one segment of the name each. -/
theorem split_of_matchSegments {plain : List (List Char)} {rest : List Segment}
    {name : List String} (hplain : ∀ s ∈ plain, IsPlain s)
    (h : matchSegments (plain.map (Segment.ofText ∘ String.ofList) ++ rest) name = true) :
    ∃ front back, name = front ++ back ∧
      List.Forall₂ (List.Forall₂ StandsFor) plain (front.map String.toList) ∧
      matchSegments rest back = true := by
  induction plain generalizing name with
  | nil => exact ⟨[], name, rfl, .nil, h⟩
  | cons s plain ih =>
    have hs : IsPlain s := hplain s List.mem_cons_self
    have hdepth : (String.ofList s).toList ≠ ['*', '*'] := by
      intro hstars
      rw [String.toList_ofList] at hstars
      exact (hs '*' (by simp [hstars])).1 rfl
    rw [List.map_cons, List.cons_append, Function.comp_apply,
      matchSegments_cons (mt ofText_eq_anyDepth_iff.1 hdepth)] at h
    cases name with
    | nil => cases h
    | cons first name =>
      obtain ⟨haccepts, h⟩ := Bool.and_eq_true_iff.1 h
      have htext : (String.ofList s).toList = s ++ [] := by
        rw [String.toList_ofList, List.append_nil]
      obtain ⟨front, left, hfirst, hfront, hnil⟩ := front_of_accepts htext hs hdepth haccepts
      rw [hnil rfl, List.append_nil] at hfirst
      obtain ⟨fronts, back, rfl, hfronts, hback⟩ :=
        ih (fun t ht ↦ hplain t (List.mem_cons_of_mem s ht)) h
      refine ⟨first :: fronts, back, rfl, .cons ?_ hfronts, hback⟩
      rw [hfirst]
      exact hfront

/-- Only `**` matches no segment. -/
theorem eq_anyDepth_of_matchSegments {segments : List Segment}
    (h : matchSegments segments [] = true) : ∀ segment ∈ segments, segment = .anyDepth := by
  induction segments with
  | nil => nofun
  | cons segment rest ih =>
    by_cases hdepth : segment = .anyDepth
    · subst hdepth
      have hrest : matchSegments rest [] = true := by
        cases rest with
        | nil => rfl
        | cons next rest =>
          rw [matchSegments] at h
          · simpa [tails] using h
          · simp
      intro s hs
      rcases List.mem_cons.1 hs with rfl | hs
      · rfl
      · exact ih hrest s hs
    · rw [matchSegments_cons hdepth] at h
      cases h

/-- A segment that begins with plain text takes a segment that begins likewise.  No segment at all
is taken by `**` only. -/
theorem front_of_matchSegments {s more : List Char} {after : List (List Char)} {name : List String}
    (hs : IsPlain s)
    (h : matchSegments (((s ++ more) :: after).map (Segment.ofText ∘ String.ofList)) name = true) :
    (∃ front rest back, name = String.ofList (front ++ rest) :: back ∧
      List.Forall₂ StandsFor s front) ∨
    name = [] ∧ ∀ t ∈ (s ++ more) :: after, t = ['*', '*'] := by
  cases name with
  | nil =>
    refine .inr ⟨rfl, fun t ht ↦ ?_⟩
    have hdepth := eq_anyDepth_of_matchSegments h _ (List.mem_map_of_mem ht)
    rwa [Function.comp_apply, ofText_eq_anyDepth_iff, String.toList_ofList] at hdepth
  | cons first name =>
    left
    by_cases hstars : s ++ more = ['*', '*']
    · rw [hs.eq_nil_of_append hstars]
      exact ⟨[], first.toList, name, by rw [List.nil_append, String.ofList_toList], .nil⟩
    · have htext : (String.ofList (s ++ more)).toList = s ++ more := String.toList_ofList
      rw [← htext] at hstars
      rw [List.map_cons, Function.comp_apply,
        matchSegments_cons (mt ofText_eq_anyDepth_iff.1 hstars)] at h
      obtain ⟨front, rest, hfirst, hfront, -⟩ :=
        front_of_accepts htext hs hstars (Bool.and_eq_true_iff.1 h).1
      exact ⟨front, rest, name, by rw [← hfirst, String.ofList_toList], hfront⟩

end BlobFs.Pattern

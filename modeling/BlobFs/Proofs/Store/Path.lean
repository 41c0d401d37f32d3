import BlobFs.Store.Path
import BlobFs.Proofs.Text.Cut

/-!
# Paths below one another

A path that some name parses to has no bad segment, and that is all there is to it
(`valid_iff`): its text is a name of its own, the path of which it is (`Valid.parse_text`).  What
lies below a path is what it is put under it, and nothing else lies there:

* `parse_eq_ok_iff`, `eq_of_mem_names` — the names of a path are its text with or without one `/` on
  either side, and no two paths share a name;
* `below?_eq_some_iff` — `base.below? p` is `k` exactly when `p` is `k` under `base`;
* `append_assoc`, `precedes_append` — putting paths under one path keeps them in order;
* `below?_parent` — every valid path that begins with a text lies below the path of what stands in
  that text before its last `/`.
-/

set_option autoImplicit false

namespace BlobFs.ObjectPath

/-- Paths are told apart by their texts. -/
theorem text_inj {p q : ObjectPath} : p.text = q.text ↔ p = q := by
  cases p
  cases q
  simp

/-! ## Valid paths -/

/-- Whether some name parses to this path. -/
def Valid (p : ObjectPath) : Prop :=
  ∃ name, parse name = .ok p

/-- The segments of a path. -/
def segments (p : ObjectPath) : List (List Char) :=
  Text.splitOn '/' p.text.toList

/-- Whether no segment has a problem. -/
def Clean (segments : List (List Char)) : Prop :=
  ∀ segment ∈ segments, segmentProblem? segment = none

theorem clean_append {xs ys : List (List Char)} : Clean (xs ++ ys) ↔ Clean xs ∧ Clean ys :=
  List.forall_mem_append

theorem not_clean_of_nil_mem {segments : List (List Char)} (h : [] ∈ segments) :
    ¬Clean segments :=
  fun hc ↦ by simpa [segmentProblem?] using hc [] h

/-- A text with clean segments is not empty. -/
theorem ne_nil_of_clean {s : List Char} (h : Clean (Text.splitOn '/' s)) : s ≠ [] := by
  rintro rfl
  exact not_clean_of_nil_mem (by simp [Text.splitOn]) h

/-- A text that begins with clean segments does not start with a `/`. -/
theorem dropLeadingSlash_append_of_clean {s : List Char} (h : Clean (Text.splitOn '/' s))
    (t : List Char) : dropLeadingSlash (s ++ t) = s ++ t := by
  cases s with
  | nil => exact absurd h (not_clean_of_nil_mem (by simp [Text.splitOn]))
  | cons c rest =>
    by_cases hc : c = '/'
    · subst hc
      exact absurd h (not_clean_of_nil_mem (by simp [Text.splitOn]))
    · rw [List.cons_append, dropLeadingSlash]
      simpa using hc

/-- A text with clean segments does not end with a `/`. -/
theorem dropTrailingSlash_of_clean {s : List Char} (h : Clean (Text.splitOn '/' s)) :
    dropTrailingSlash s = s := by
  rw [dropTrailingSlash]
  refine if_neg fun hlast ↦ ?_
  obtain ⟨front, rfl⟩ := List.getLast?_eq_some_iff.1 hlast
  rw [Text.splitOn_append_cons] at h
  exact not_clean_of_nil_mem (by simp [Text.splitOn]) h

/-- What may stand on either side of a path's text in a name of it. -/
def IsEdge (s : List Char) : Prop :=
  s = [] ∨ s = ['/']

/-- A clean text between two edges is parsed to itself. -/
theorem parse_of_edges {name : String} {p : ObjectPath} {before after : List Char}
    (hclean : Clean p.segments) (hbefore : IsEdge before) (hafter : IsEdge after)
    (hname : name.toList = before ++ p.text.toList ++ after) : parse name = .ok p := by
  have hlead : dropLeadingSlash name.toList = p.text.toList ++ after := by
    rw [hname, List.append_assoc]
    rcases hbefore with rfl | rfl
    · exact dropLeadingSlash_append_of_clean hclean after
    · rfl
  have htrail : dropTrailingSlash (p.text.toList ++ after) = p.text.toList := by
    rcases hafter with rfl | rfl
    · rw [List.append_nil, dropTrailingSlash_of_clean hclean]
    · simp [dropTrailingSlash]
  have hne : p.text.toList ++ after ≠ [] :=
    List.append_ne_nil_of_left_ne_nil (ne_nil_of_clean hclean) after
  have hnone : (Text.splitOn '/' p.text.toList).findSome? segmentProblem? = none :=
    List.findSome?_eq_none_iff.2 hclean
  rw [parse]
  simp only [hlead, if_neg hne, htrail, hnone, String.ofList_toList]

/-- A path that is the root or has clean segments is what its text parses to. -/
private theorem parse_text_of_clean {p : ObjectPath} (h : p = root ∨ Clean p.segments) :
    parse p.text = .ok p := by
  rcases h with rfl | hclean
  · rfl
  · exact parse_of_edges hclean (.inl rfl) (.inl rfl) (List.append_nil _).symm

/-- The valid paths are the root and the paths with clean segments. -/
theorem valid_iff {p : ObjectPath} : p.Valid ↔ p = root ∨ Clean p.segments := by
  refine ⟨fun ⟨name, h⟩ ↦ ?_, fun h ↦ ⟨p.text, parse_text_of_clean h⟩⟩
  rw [parse] at h
  by_cases hempty : dropLeadingSlash name.toList = []
  · simp only [if_pos hempty, Except.ok.injEq] at h
    exact .inl h.symm
  · simp only [if_neg hempty] at h
    split at h
    · cases h
    · next hnone =>
      cases h
      rw [segments, String.toList_ofList]
      exact .inr (List.findSome?_eq_none_iff.1 hnone)

/-- The text of a valid path is a name of it. -/
theorem Valid.parse_text {p : ObjectPath} (h : p.Valid) : parse p.text = .ok p :=
  parse_text_of_clean (valid_iff.1 h)

theorem valid_root : root.Valid :=
  ⟨"", rfl⟩

/-- Only the root has no text. -/
theorem text_isEmpty {p : ObjectPath} : p.text.isEmpty = true ↔ p = root := by
  rw [String.isEmpty_iff]
  exact ⟨fun h ↦ congrArg ObjectPath.mk h, fun h ↦ congrArg ObjectPath.text h⟩

theorem text_ne_empty {p : ObjectPath} : p.text ≠ "" ↔ p ≠ root :=
  not_congr ⟨fun h ↦ congrArg ObjectPath.mk h, fun h ↦ congrArg ObjectPath.text h⟩

/-! ## The names of a path -/

/-- The names of a path: its text, with or without one `/` on either side.  The root has no text,
and one `/` is all that its names may have. -/
def names (p : ObjectPath) : List String :=
  if p = root then ["", "/"]
  else [p.text, "/" ++ p.text, p.text ++ "/", "/" ++ p.text ++ "/"]

theorem names_root : root.names = ["", "/"] :=
  if_pos rfl

theorem mem_names_iff {p : ObjectPath} (hp : p ≠ root) {name : String} :
    name ∈ p.names ↔ ∃ before after, IsEdge before ∧ IsEdge after ∧
      name.toList = before ++ p.text.toList ++ after := by
  have hslash : "/".toList = ['/'] := rfl
  rw [names, if_neg hp]
  simp only [List.mem_cons, List.not_mem_nil, or_false, ← String.toList_inj, String.toList_append,
    hslash]
  constructor
  · rintro (h | h | h | h)
    · exact ⟨[], [], .inl rfl, .inl rfl, by simpa using h⟩
    · exact ⟨['/'], [], .inr rfl, .inl rfl, by simpa using h⟩
    · exact ⟨[], ['/'], .inl rfl, .inr rfl, by simpa using h⟩
    · exact ⟨['/'], ['/'], .inr rfl, .inr rfl, h⟩
  · rintro ⟨before, after, rfl | rfl, rfl | rfl, h⟩ <;> simp [h]

theorem exists_dropLeadingSlash (s : List Char) :
    ∃ before, IsEdge before ∧ s = before ++ dropLeadingSlash s := by
  unfold dropLeadingSlash
  split
  · exact ⟨['/'], .inr rfl, rfl⟩
  · exact ⟨[], .inl rfl, rfl⟩

theorem exists_dropTrailingSlash (s : List Char) :
    ∃ after, IsEdge after ∧ s = dropTrailingSlash s ++ after := by
  rw [dropTrailingSlash]
  split
  · next hlast =>
    obtain ⟨front, rfl⟩ := List.getLast?_eq_some_iff.1 hlast
    exact ⟨['/'], .inr rfl, by rw [List.dropLast_concat]⟩
  · exact ⟨[], .inl rfl, (List.append_nil s).symm⟩

/-- A text that is parsed has one `/` less on either side, if there is one. -/
theorem mem_names_of_parse {name : String} {p : ObjectPath} (h : parse name = .ok p) :
    name ∈ p.names := by
  obtain ⟨before, hbefore, hname⟩ := exists_dropLeadingSlash name.toList
  obtain ⟨after, hafter, hstripped⟩ := exists_dropTrailingSlash (dropLeadingSlash name.toList)
  rw [parse] at h
  by_cases hempty : dropLeadingSlash name.toList = []
  · simp only [if_pos hempty, Except.ok.injEq] at h
    rw [hempty, List.append_nil] at hname
    rw [← h, names_root, ← String.ofList_toList (s := name), hname]
    rcases hbefore with rfl | rfl <;> simp
  · simp only [if_neg hempty] at h
    split at h
    · cases h
    · next hnone =>
      cases h
      have hclean := List.findSome?_eq_none_iff.1 hnone
      have hne : (⟨String.ofList (dropTrailingSlash (dropLeadingSlash name.toList))⟩ :
          ObjectPath) ≠ root := fun he ↦
        ne_nil_of_clean hclean (String.ofList_eq_empty_iff.1 (congrArg ObjectPath.text he))
      refine (mem_names_iff hne).2 ⟨before, after, hbefore, hafter, ?_⟩
      rw [String.toList_ofList, List.append_assoc, ← hstripped]
      exact hname

/-- **A valid path has its names, and no other text is a name of it.** -/
theorem parse_eq_ok_iff {name : String} {p : ObjectPath} :
    parse name = .ok p ↔ p.Valid ∧ name ∈ p.names := by
  refine ⟨fun h ↦ ⟨⟨name, h⟩, mem_names_of_parse h⟩, fun ⟨hvalid, hname⟩ ↦ ?_⟩
  by_cases hp : p = root
  · subst hp
    rw [names_root] at hname
    rcases List.mem_cons.1 hname with rfl | hname
    · rfl
    · rw [List.mem_singleton.1 hname]
      rfl
  · obtain ⟨before, after, hbefore, hafter, hname⟩ := (mem_names_iff hp).1 hname
    exact parse_of_edges ((valid_iff.1 hvalid).resolve_left hp) hbefore hafter hname

/-- No text is a name of two paths. -/
theorem eq_of_mem_names {name : String} {p q : ObjectPath} (hp : p.Valid) (hq : q.Valid)
    (hnp : name ∈ p.names) (hnq : name ∈ q.names) : p = q := by
  have hparse := parse_eq_ok_iff.2 ⟨hp, hnp⟩
  rw [parse_eq_ok_iff.2 ⟨hq, hnq⟩] at hparse
  exact (Except.ok.inj hparse).symm

/-- A text without a `/` on either side is a name of no path but the one it spells. -/
theorem text_eq_of_mem_names {name : String} {p : ObjectPath} (h : name ∈ p.names)
    (hfirst : name.toList.head? ≠ some '/') (hlast : name.toList.getLast? ≠ some '/') :
    p.text = name := by
  by_cases hp : p = root
  · subst hp
    rw [names_root] at h
    rcases List.mem_cons.1 h with rfl | h
    · rfl
    · rw [List.mem_singleton.1 h] at hfirst
      exact absurd rfl hfirst
  · obtain ⟨before, after, hbefore, hafter, hname⟩ := (mem_names_iff hp).1 h
    rcases hafter with rfl | rfl
    · rcases hbefore with rfl | rfl
      · exact String.toList_inj.1 (by simpa using hname.symm)
      · rw [hname] at hfirst
        exact absurd rfl hfirst
    · rw [hname, List.getLast?_append] at hlast
      exact absurd rfl hlast

/-! ## Putting one path under another -/

theorem root_append (p : ObjectPath) : root.append p = p := rfl

theorem append_root (base : ObjectPath) : base.append root = base := by
  by_cases h : base = root
  · rw [h, root_append]
  · rw [append, if_neg (mt text_isEmpty.1 h), if_pos (text_isEmpty.2 rfl)]

/-- The text of a path under another, neither of which is the root. -/
theorem text_append {base p : ObjectPath} (hb : base ≠ root) (hp : p ≠ root) :
    (base.append p).text = base.text ++ "/" ++ p.text := by
  rw [append, if_neg (mt text_isEmpty.1 hb), if_neg (mt text_isEmpty.1 hp)]

theorem toList_text_append {base p : ObjectPath} (hb : base ≠ root) (hp : p ≠ root) :
    (base.append p).text.toList = base.text.toList ++ '/' :: p.text.toList := by
  rw [text_append hb hp, String.toList_append, String.toList_append, List.append_assoc]
  rfl

/-- Only the root under the root is the root. -/
theorem append_ne_root {base p : ObjectPath} (hp : p ≠ root) : base.append p ≠ root := by
  by_cases hb : base = root
  · rwa [hb, root_append]
  · intro h
    have hlength := congrArg (String.length ∘ ObjectPath.text) h
    simp [text_append hb hp, root] at hlength

theorem append_assoc (a b c : ObjectPath) : (a.append b).append c = a.append (b.append c) := by
  by_cases ha : a = root
  · rw [ha, root_append, root_append]
  by_cases hb : b = root
  · rw [hb, append_root, root_append]
  by_cases hc : c = root
  · rw [hc, append_root, append_root]
  refine text_inj.1 ?_
  rw [text_append (append_ne_root hb) hc, text_append ha hb, text_append ha (append_ne_root hc),
    text_append hb hc]
  simp only [String.append_assoc]

/-- What a path adds to the text of a path that it is put under. -/
def added (p : ObjectPath) : String :=
  if p = root then "" else "/" ++ p.text

theorem text_append_eq_added {base : ObjectPath} (hb : base ≠ root) (p : ObjectPath) :
    (base.append p).text = base.text ++ p.added := by
  by_cases hp : p = root
  · rw [hp, append_root, added, if_pos rfl, String.append_empty]
  · rw [text_append hb hp, added, if_neg hp, String.append_assoc]

/-- The greater path adds the greater text. -/
theorem added_lt_added {p q : ObjectPath} : p.added < q.added ↔ p.text < q.text := by
  have hempty : root.added = root.text := rfl
  by_cases hq : q = root
  · rw [hq, hempty]
    exact iff_of_false (List.not_lt_nil _) (List.not_lt_nil _)
  · obtain ⟨c, rest, hc⟩ : ∃ c rest, q.text.toList = c :: rest :=
      List.exists_cons_of_ne_nil (by simpa using text_ne_empty.2 hq)
    by_cases hp : p = root
    · rw [hp, hempty, added, if_neg hq, String.lt_iff, String.lt_iff, String.toList_append, hc]
      exact iff_of_true (List.nil_lt_cons _ _) (List.nil_lt_cons _ _)
    · rw [added, if_neg hp, added, if_neg hq, Text.append_lt_append_iff]

/-- Putting paths under one path keeps their order. -/
theorem precedes_append (base p q : ObjectPath) :
    (base.append p).precedes (base.append q) = p.precedes q := by
  by_cases hb : base = root
  · rw [hb, root_append, root_append]
  · rw [precedes, precedes, text_append_eq_added hb, text_append_eq_added hb, decide_eq_decide,
      Text.append_lt_append_iff, added_lt_added]

theorem not_precedes_self (p : ObjectPath) : p.precedes p = false :=
  decide_eq_false (String.lt_irrefl p.text)

/-- Of two different paths one precedes the other. -/
theorem eq_of_not_precedes {p q : ObjectPath} (hpq : p.precedes q = false)
    (hqp : q.precedes p = false) : p = q := by
  rw [precedes, decide_eq_false_iff_not, String.not_lt] at hpq hqp
  exact text_inj.1 (String.le_antisymm hqp hpq)

/-! ## What lies below a path -/

/-- Both sides of a `/` in a valid path are clean. -/
theorem Valid.clean_sides {p : ObjectPath} (h : p.Valid) {before after : List Char}
    (hp : p.text.toList = before ++ '/' :: after) :
    Clean (Text.splitOn '/' before) ∧ Clean (Text.splitOn '/' after) := by
  rcases valid_iff.1 h with rfl | hclean
  · simp [root] at hp
  · rw [segments, hp, Text.splitOn_append_cons] at hclean
    exact clean_append.1 hclean

/-- A valid path lies below another one exactly when it is a path put under it. -/
theorem below?_eq_some_iff {base p k : ObjectPath} (hp : p.Valid) :
    base.below? p = some k ↔ p = base.append k ∧ k ≠ root := by
  by_cases hb : base = root
  · rw [hb, below?, if_pos (text_isEmpty.2 rfl), root_append]
    by_cases hp' : p = root
    · rw [if_pos (text_isEmpty.2 hp'), hp']
      constructor
      · nofun
      · rintro ⟨rfl, h⟩
        exact absurd rfl h
    · rw [if_neg (mt text_isEmpty.1 hp'), Option.some_inj]
      constructor
      · rintro rfl
        exact ⟨rfl, hp'⟩
      · rintro ⟨rfl, -⟩
        rfl
  · rw [below?, if_neg (mt text_isEmpty.1 hb), Option.map_eq_some_iff]
    constructor
    · rintro ⟨rest, hrest, rfl⟩
      have htext := Text.dropStart?_eq_some_iff.1 hrest
      have hlist : p.text.toList = base.text.toList ++ '/' :: rest.toList := by
        rw [htext, String.toList_append, String.toList_append, List.append_assoc]
        rfl
      have hne : (⟨rest⟩ : ObjectPath) ≠ root := by
        rintro ⟨⟩
        exact ne_nil_of_clean (hp.clean_sides hlist).2 rfl
      exact ⟨text_inj.1 (htext.trans (text_append hb hne).symm), hne⟩
    · rintro ⟨rfl, hk⟩
      exact ⟨k.text, Text.dropStart?_eq_some_iff.2 (text_append hb hk), rfl⟩

/-- What lies below a path is as valid as the whole. -/
theorem Valid.of_append {base k : ObjectPath} (h : (base.append k).Valid) : k.Valid := by
  by_cases hb : base = root
  · rwa [hb, root_append] at h
  by_cases hk : k = root
  · rw [hk]
    exact valid_root
  · exact valid_iff.2 (.inr (h.clean_sides (toList_text_append hb hk)).2)

/-! ## The parent of a beginning -/

/-- **A valid path that begins with a text lies below the path of what stands in that text before
its last `/`.** -/
theorem below?_parent {k parent : ObjectPath} {start before after : String} (hk : k.Valid)
    (hstart : Text.startsWith k.text start = true)
    (hcut : Text.cutBack? '/' start = some (before, after)) (hparent : parse before = .ok parent) :
    ∃ rest, rest ≠ root ∧ k = parent.append rest := by
  obtain ⟨more, hmore⟩ := Text.startsWith_iff.1 hstart
  have hlist : k.text.toList = before.toList ++ '/' :: (after ++ more).toList := by
    rw [hmore, String.toList_append, (Text.cutBack?_eq_some_iff.1 hcut).1, String.toList_append,
      List.append_assoc]
    rfl
  obtain ⟨hbefore, hafter⟩ := hk.clean_sides hlist
  -- No `/` was dropped from the text before the cut.
  have hvalid : (⟨before⟩ : ObjectPath).Valid := valid_iff.2 (.inr hbefore)
  obtain rfl : (⟨before⟩ : ObjectPath) = parent := Except.ok.inj (hvalid.parse_text ▸ hparent)
  have hb : (⟨before⟩ : ObjectPath) ≠ root := by
    rintro ⟨⟩
    exact ne_nil_of_clean hbefore rfl
  have hrest : (⟨after ++ more⟩ : ObjectPath) ≠ root := fun he ↦
    ne_nil_of_clean hafter (congrArg (String.toList ∘ ObjectPath.text) he)
  refine ⟨⟨after ++ more⟩, hrest, text_inj.1 (String.toList_inj.1 ?_)⟩
  rw [hlist, toList_text_append hb hrest]

end BlobFs.ObjectPath

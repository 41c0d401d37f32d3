import BlobFs.Pattern.Token
import Mathlib.Data.List.Infix

/-!
# What a wildcard text means

`tryTokens` looks for a way to hand out a text to tokens, one after the other.  It tries the ways in
turn, and it gives up early: once the text has run out before the tokens did, no shorter run of an
enclosing `*` is looked at any more.

* `Token.Matches` — what is looked for: the text is the characters that the tokens take, in order.
* `Token.Placed` — what giving up early rests on: `**` stands only where a name starts, as it does
  in the tokens of any text (`placed_of_parse?`).
* `not_matched_of_exhausted` — the step: a text that runs out is followed by none that matches.
* `tryTokens_eq_matched_iff` — so for placed tokens the search finds a way exactly if there is one.
-/

set_option autoImplicit false

namespace BlobFs.Pattern

/-! ## The meaning -/

/-- A text is the characters that the tokens take, in order. -/
inductive Token.Matches : List Token → List Char → Prop
  | nil : Matches [] []
  | char {token : Token} {tokens : List Token} {c : Char} {rest : List Char}
      (htakes : token.takes c = true) (h : Matches tokens rest) :
      Matches (token :: tokens) (c :: rest)
  | run {tokens : List Token} {front rest : List Char} (hfront : '/' ∉ front)
      (h : Matches tokens rest) : Matches (.anyRun :: tokens) (front ++ rest)
  /-- `**` takes nothing, or all up to a `/`, or all that is left. -/
  | tree {tokens : List Token} {front rest : List Char}
      (hfront : front = [] ∨ (∃ above, front = above ++ ['/']) ∨ rest = [])
      (h : Matches tokens rest) : Matches (.anyTree :: tokens) (front ++ rest)

/-- `**` stands only where a name starts: at the beginning, if that is one, or behind a `/`. -/
def Token.Placed : Bool → List Token → Prop
  | _, [] => True
  | atName, .anyTree :: tokens => atName = true ∧ Placed true tokens
  | _, .literal c :: tokens => Placed (c == '/') tokens
  | _, _ :: tokens => Placed false tokens

/-! ## What is left of a text -/

variable {s t u : List Char}

theorem mem_afterRun_iff : t ∈ afterRun s ↔ ∃ front, s = front ++ t ∧ '/' ∉ front := by
  induction s with
  | nil =>
    rw [afterRun, List.mem_singleton]
    constructor
    · rintro rfl
      exact ⟨[], rfl, List.not_mem_nil⟩
    · rintro ⟨front, h, -⟩
      exact (List.nil_eq_append_iff.1 h).2
  | cons c s ih =>
    rw [afterRun, List.mem_cons]
    constructor
    · rintro (rfl | h)
      · exact ⟨[], rfl, List.not_mem_nil⟩
      · split at h
        · cases h
        · next hc =>
          obtain ⟨front, rfl, hfront⟩ := ih.1 h
          refine ⟨c :: front, rfl, ?_⟩
          rw [List.mem_cons, not_or]
          exact ⟨Ne.symm hc, hfront⟩
    · rintro ⟨front, h, hfront⟩
      cases front with
      | nil => exact .inl h.symm
      | cons d front =>
        obtain ⟨rfl, rfl⟩ := List.cons.inj h
        rw [List.mem_cons, not_or] at hfront
        rw [if_neg (Ne.symm hfront.1)]
        exact .inr (ih.2 ⟨front, rfl, hfront.2⟩)

theorem suffix_of_mem_afterRun (h : t ∈ afterRun s) : t <:+ s := by
  obtain ⟨front, rfl, -⟩ := mem_afterRun_iff.1 h
  exact List.suffix_append front t

/-- What is left of a run is left of it sooner, too. -/
theorem mem_afterRun_of_suffix (ht : t ∈ afterRun s) (htu : t <:+ u) (hus : u <:+ s) :
    u ∈ afterRun s := by
  obtain ⟨run, hs, hrun⟩ := mem_afterRun_iff.1 ht
  obtain ⟨front, rfl⟩ := hus
  obtain ⟨middle, rfl⟩ := htu
  rw [← List.append_assoc, List.append_left_inj] at hs
  refine mem_afterRun_iff.2 ⟨front, rfl, fun hslash ↦ hrun ?_⟩
  rw [← hs]
  exact List.mem_append_left middle hslash

theorem mem_afterSlashes_iff : t ∈ afterSlashes s ↔ ∃ above, s = above ++ '/' :: t := by
  induction s with
  | nil => simp [afterSlashes]
  | cons c s ih =>
    have hcons : t ∈ afterSlashes (c :: s) ↔ (c = '/' ∧ t = s) ∨ t ∈ afterSlashes s := by
      rw [afterSlashes]
      split
      · next hc => rw [List.mem_cons, and_iff_right hc]
      · next hc => simp [hc]
    rw [hcons, ih]
    constructor
    · rintro (⟨rfl, rfl⟩ | ⟨above, rfl⟩)
      · exact ⟨[], rfl⟩
      · exact ⟨c :: above, rfl⟩
    · rintro ⟨above, h⟩
      cases above with
      | nil => exact .inl ⟨(List.cons.inj h).1, (List.cons.inj h).2.symm⟩
      | cons d above => exact .inr ⟨above, (List.cons.inj h).2⟩

theorem mem_afterTree_iff :
    t ∈ afterTree s ↔
      ∃ front, s = front ++ t ∧ (front = [] ∨ (∃ above, front = above ++ ['/']) ∨ t = []) := by
  rw [afterTree, List.cons_append, List.mem_cons, List.mem_append, List.mem_singleton,
    mem_afterSlashes_iff]
  constructor
  · rintro (rfl | ⟨above, rfl⟩ | rfl)
    · exact ⟨[], rfl, .inl rfl⟩
    · exact ⟨above ++ ['/'], by simp, .inr (.inl ⟨above, rfl⟩)⟩
    · exact ⟨s, (List.append_nil s).symm, .inr (.inr rfl)⟩
  · rintro ⟨front, rfl, rfl | ⟨above, rfl⟩ | rfl⟩
    · exact .inl rfl
    · exact .inr (.inl ⟨above, by simp⟩)
    · exact .inr (.inr rfl)

theorem self_mem_afterTree (s : List Char) : s ∈ afterTree s :=
  mem_afterTree_iff.2 ⟨[], rfl, .inl rfl⟩

theorem suffix_of_mem_afterTree (h : t ∈ afterTree s) : t <:+ s := by
  obtain ⟨front, rfl, -⟩ := mem_afterTree_iff.1 h
  exact List.suffix_append front t

/-- What is left of what is left. -/
theorem mem_afterTree_trans (hut : u ∈ afterTree t) (hts : t ∈ afterTree s) : u ∈ afterTree s := by
  obtain ⟨first, rfl, hfirst⟩ := mem_afterTree_iff.1 hts
  obtain ⟨second, rfl, hsecond⟩ := mem_afterTree_iff.1 hut
  refine mem_afterTree_iff.2 ⟨first ++ second, (List.append_assoc ..).symm, ?_⟩
  rcases hsecond with rfl | ⟨above, rfl⟩ | rfl
  · rw [List.append_nil]
    exact hfirst
  · exact .inr (.inl ⟨first ++ above, (List.append_assoc ..).symm⟩)
  · exact .inr (.inr rfl)

/-- Later on less is left. -/
theorem pairwise_afterRun (s : List Char) : (afterRun s).Pairwise fun a b ↦ b <:+ a := by
  induction s with
  | nil => exact List.pairwise_singleton _ _
  | cons c s ih =>
    rw [afterRun, List.pairwise_cons]
    split
    · exact ⟨nofun, .nil⟩
    · refine ⟨fun t ht ↦ ?_, ih⟩
      obtain ⟨front, rfl, -⟩ := mem_afterRun_iff.1 ht
      exact List.suffix_append (c :: front) t

theorem pairwise_afterTree (s : List Char) :
    (afterTree s).Pairwise fun a b ↦ b ∈ afterTree a := by
  have hnil : ∀ t : List Char, [] ∈ afterTree t :=
    fun t ↦ mem_afterTree_iff.2 ⟨t, (List.append_nil t).symm, .inr (.inr rfl)⟩
  have hslashes : ∀ t : List Char, (afterSlashes t).Pairwise fun a b ↦ b ∈ afterTree a := by
    intro t
    induction t with
    | nil => exact .nil
    | cons c t ih =>
      rw [afterSlashes]
      split
      · refine List.pairwise_cons.2 ⟨fun u hu ↦ ?_, ih⟩
        rw [afterTree]
        exact List.mem_append_left _ (List.mem_cons_of_mem t hu)
      · exact ih
  rw [afterTree, List.pairwise_append, List.pairwise_cons]
  refine ⟨⟨fun t ht ↦ ?_, hslashes s⟩, List.pairwise_singleton _ _, fun t _ u hu ↦ ?_⟩
  · rw [afterTree]
    exact List.mem_append_left _ (List.mem_cons_of_mem s ht)
  · rw [List.mem_singleton.1 hu]
    exact hnil t

/-! ## The search -/

/-- A search finds nothing only if there is nothing. -/
theorem search_eq_mismatch_iff {answer : List Char → Verdict} {texts : List (List Char)} :
    Verdict.search answer texts = .mismatch ↔ ∀ t ∈ texts, answer t = .mismatch := by
  induction texts with
  | nil => simp [Verdict.search]
  | cons s texts ih =>
    rw [List.forall_mem_cons, ← ih, Verdict.search]
    cases answer s <;> simp

/-- What a search over texts in some order does find is the answer for one of them, and those that
do not come later in that order are mismatches. -/
theorem exists_of_search_ne_mismatch {answer : List Char → Verdict} {verdict : Verdict}
    {later : List Char → List Char → Prop} {texts : List (List Char)}
    (horder : texts.Pairwise later) (hrefl : ∀ t, later t t) (h : Verdict.search answer texts = verdict)
    (hverdict : verdict ≠ .mismatch) :
    ∃ t ∈ texts, answer t = verdict ∧ ∀ u ∈ texts, answer u = .mismatch ∨ later t u := by
  induction texts with
  | nil => exact absurd h.symm hverdict
  | cons s texts ih =>
    obtain ⟨hs, horder⟩ := List.pairwise_cons.1 horder
    rw [Verdict.search] at h
    split at h
    · next hanswer =>
      obtain ⟨t, ht, ht', hall⟩ := ih horder h
      exact ⟨t, List.mem_cons_of_mem s ht, ht', List.forall_mem_cons.2 ⟨.inl hanswer, hall⟩⟩
    · exact ⟨s, List.mem_cons_self, h,
        List.forall_mem_cons.2 ⟨.inr (hrefl s), fun u hu ↦ .inr (hs u hu)⟩⟩

section

variable {token : Token} {tokens : List Token} {atName : Bool}

/-- A token for one character takes the first one. -/
theorem tryTokens_char (hrun : token ≠ .anyRun) (htree : token ≠ .anyTree) (tokens : List Token)
    (s : List Char) :
    tryTokens (token :: tokens) s =
      match s with
      | [] => .exhausted
      | c :: rest => if token.takes c then tryTokens tokens rest else .mismatch := by
  cases token with
  | anyRun => exact absurd rfl hrun
  | anyTree => exact absurd rfl htree
  | literal | anyChar | within | outside => cases s <;> rfl

/-- Only behind a `/` does a name start. -/
theorem Token.Placed.exists_of_char (h : Token.Placed atName (token :: tokens))
    (htree : token ≠ .anyTree) :
    ∃ next, Token.Placed next tokens ∧ (next = true → token = .literal '/') := by
  cases token with
  | anyTree => exact absurd rfl htree
  | literal c => exact ⟨c == '/', h, fun hc ↦ by rw [eq_of_beq hc]⟩
  | anyRun | anyChar | within | outside => exact ⟨false, h, nofun⟩

/-- Where in the rest of a text tokens may be matched again: anywhere, or only where a name
starts. -/
def Later (atName : Bool) (s u : List Char) : Prop :=
  if atName then u ∈ afterTree s else u <:+ s

theorem Later.suffix (h : Later atName s u) : u <:+ s := by
  cases atName with
  | false => exact h
  | true => exact suffix_of_mem_afterTree h

/-- Past a character that the same token takes. -/
theorem Later.of_cons {c d : Char} (h : d :: u <:+ c :: s)
    (hslash : atName = true → d = '/') : Later atName s u := by
  cases atName with
  | false =>
    rcases List.suffix_cons_iff.1 h with h | h
    · rw [(List.cons.inj h).2]
      exact List.suffix_refl s
    · exact (List.suffix_cons d u).trans h
  | true =>
    rcases List.suffix_cons_iff.1 h with h | ⟨above, rfl⟩
    · rw [(List.cons.inj h).2]
      exact self_mem_afterTree s
    · rw [hslash rfl]
      exact mem_afterTree_iff.2 ⟨above ++ ['/'], by simp, .inr (.inl ⟨above, rfl⟩)⟩

/-- **Where the text runs out, giving up is right**: the tokens do not match any later on. -/
theorem not_matched_of_exhausted (hplaced : Token.Placed atName tokens)
    (h : tryTokens tokens s = .exhausted) (hu : Later atName s u) :
    tryTokens tokens u ≠ .matched := by
  induction tokens generalizing atName s u with
  | nil => cases s <;> cases h
  | cons token tokens ih =>
    intro hmatched
    by_cases hrun : token = .anyRun
    · subst hrun
      have hplaced : Token.Placed false tokens := hplaced
      rw [tryTokens] at h hmatched
      obtain ⟨t, ht, hexhausted, hall⟩ := exists_of_search_ne_mismatch
        (pairwise_afterRun s) List.suffix_refl h nofun
      obtain ⟨v, hv, hv', -⟩ := exists_of_search_ne_mismatch
        (pairwise_afterRun u) List.suffix_refl hmatched nofun
      have hvu : v <:+ u := suffix_of_mem_afterRun hv
      -- a match with more left than at `t` would have come up before `t` did
      have hvt : v <:+ t := by
        rcases List.suffix_or_suffix_of_suffix (hvu.trans hu.suffix) (suffix_of_mem_afterRun ht)
          with hvt | htv
        · exact hvt
        · refine (hall v (mem_afterRun_of_suffix ht htv (hvu.trans hu.suffix))).resolve_left ?_
          rw [hv']
          nofun
      exact ih hplaced hexhausted (show Later false t v from hvt) hv'
    by_cases htree : token = .anyTree
    · subst htree
      obtain ⟨rfl, hplaced⟩ : atName = true ∧ Token.Placed true tokens := hplaced
      rw [tryTokens] at h hmatched
      obtain ⟨t, ht, hexhausted, hall⟩ := exists_of_search_ne_mismatch
        (pairwise_afterTree s) self_mem_afterTree h nofun
      obtain ⟨v, hv, hv', -⟩ := exists_of_search_ne_mismatch
        (pairwise_afterTree u) self_mem_afterTree hmatched nofun
      have hvt : v ∈ afterTree t := by
        refine (hall v (mem_afterTree_trans hv hu)).resolve_left ?_
        rw [hv']
        nofun
      exact ih hplaced hexhausted (show Later true t v from hvt) hv'
    · obtain ⟨next, hnext, hslash⟩ := hplaced.exists_of_char htree
      rw [tryTokens_char hrun htree] at h hmatched
      cases u with
      | nil => cases hmatched
      | cons d u =>
        cases s with
        | nil => cases List.suffix_nil.1 hu.suffix
        | cons c s =>
          dsimp only at h hmatched
          split at h
          · next hc =>
            split at hmatched
            · next hd =>
              refine ih hnext h (Later.of_cons hu.suffix fun htrue ↦ ?_) hmatched
              rw [hslash htrue] at hd
              exact eq_of_beq hd
            · cases hmatched
          · cases h

end

/-! ## Finding a way -/

section

variable {tokens : List Token} {atName : Bool}

/-- A search finds the match if one of the texts matches and giving up is right for them all. -/
theorem search_eq_matched {later : List Char → List Char → Prop} {texts : List (List Char)}
    (horder : texts.Pairwise later) (hrefl : ∀ t, later t t)
    (hgives : ∀ t u, tryTokens tokens t = .exhausted → later t u → tryTokens tokens u ≠ .matched)
    (ht : t ∈ texts) (hmatched : tryTokens tokens t = .matched) :
    Verdict.search (tryTokens tokens) texts = .matched := by
  cases h : Verdict.search (tryTokens tokens) texts with
  | matched => rfl
  | mismatch =>
    have hnone := search_eq_mismatch_iff.1 h t ht
    rw [hmatched] at hnone
    cases hnone
  | exhausted =>
    obtain ⟨v, -, hv, hall⟩ := exists_of_search_ne_mismatch horder hrefl h nofun
    rcases hall t ht with hnone | hlater
    · rw [hmatched] at hnone
      cases hnone
    · exact absurd hmatched (hgives v t hv hlater)

/-- **The search finds a way exactly if there is one.** -/
theorem tryTokens_eq_matched_iff (hplaced : Token.Placed atName tokens) :
    tryTokens tokens s = .matched ↔ Token.Matches tokens s := by
  constructor
  · intro h
    induction tokens generalizing atName s with
    | nil =>
      cases s with
      | nil => exact .nil
      | cons c s => cases h
    | cons token tokens ih =>
      by_cases hrun : token = .anyRun
      · subst hrun
        rw [tryTokens] at h
        obtain ⟨t, ht, hmatched, -⟩ := exists_of_search_ne_mismatch
          (pairwise_afterRun s) List.suffix_refl h nofun
        obtain ⟨front, rfl, hfront⟩ := mem_afterRun_iff.1 ht
        have hplaced : Token.Placed false tokens := hplaced
        exact .run hfront (ih hplaced hmatched)
      by_cases htree : token = .anyTree
      · subst htree
        rw [tryTokens] at h
        obtain ⟨t, ht, hmatched, -⟩ := exists_of_search_ne_mismatch
          (pairwise_afterTree s) self_mem_afterTree h nofun
        obtain ⟨front, rfl, hfront⟩ := mem_afterTree_iff.1 ht
        have hplaced : atName = true ∧ Token.Placed true tokens := hplaced
        exact .tree hfront (ih hplaced.2 hmatched)
      · obtain ⟨next, hnext, -⟩ := hplaced.exists_of_char htree
        rw [tryTokens_char hrun htree] at h
        cases s with
        | nil => cases h
        | cons c s =>
          dsimp only at h
          split at h
          · next htakes => exact .char htakes (ih hnext h)
          · cases h
  · intro h
    induction h generalizing atName with
    | nil => rfl
    | @char token tokens c rest htakes _ ih =>
      have hrun : token ≠ .anyRun := by
        rintro rfl
        cases htakes
      have htree : token ≠ .anyTree := by
        rintro rfl
        cases htakes
      obtain ⟨next, hnext, -⟩ := hplaced.exists_of_char htree
      rw [tryTokens_char hrun htree]
      dsimp only
      rw [if_pos htakes]
      exact ih hnext
    | @run tokens front rest hfront _ ih =>
      have hplaced : Token.Placed false tokens := hplaced
      rw [tryTokens]
      exact search_eq_matched (pairwise_afterRun _) List.suffix_refl
        (fun t u ↦ not_matched_of_exhausted hplaced)
        (mem_afterRun_iff.2 ⟨front, rfl, hfront⟩) (ih hplaced)
    | @tree tokens front rest hfront _ ih =>
      have hplaced : atName = true ∧ Token.Placed true tokens := hplaced
      rw [tryTokens]
      exact search_eq_matched (pairwise_afterTree _) self_mem_afterTree
        (fun t u ↦ not_matched_of_exhausted hplaced.2)
        (mem_afterTree_iff.2 ⟨front, rfl, hfront⟩) (ih hplaced.2)

/-! ## The tokens of a text -/

/-- A class is followed by what may follow any character but a `/`. -/
theorem placed_of_parseClass? {token : Token} {text after : List Char}
    (h : parseClass? text = some (token, after)) (hrest : Token.Placed false tokens) :
    Token.Placed atName (token :: tokens) := by
  unfold parseClass? at h
  split at h
  · obtain ⟨_, -, he⟩ := Option.map_eq_some_iff.1 h
    rw [← (Prod.mk.inj he).1]
    exact hrest
  · split at h
    · cases h
    · obtain ⟨_, -, he⟩ := Option.map_eq_some_iff.1 h
      rw [← (Prod.mk.inj he).1]
      exact hrest
  · cases h

theorem placed_of_parseFrom? {text : List Char}
    (h : Token.parseFrom? atName text = some tokens) : Token.Placed atName tokens := by
  fun_induction Token.parseFrom? atName text generalizing tokens with
  | case1 => cases h; trivial
  | case3 => cases h; exact ⟨rfl, trivial⟩
  | case5 | case6 | case8 => cases h
  | case2 _ _ ih | case7 _ _ _ ih | case10 _ _ _ _ _ _ _ ih =>
    obtain ⟨rest, hrest, rfl⟩ := Option.map_eq_some_iff.1 h
    exact ih hrest
  | case4 _ ih =>
    obtain ⟨rest, hrest, rfl⟩ := Option.map_eq_some_iff.1 h
    exact ⟨rfl, ih hrest⟩
  | case9 _ _ _ _ hclass _ ih =>
    obtain ⟨rest, hrest, rfl⟩ := Option.map_eq_some_iff.1 h
    exact placed_of_parseClass? hclass (ih hrest)

/-- The tokens of a text are placed. -/
theorem placed_of_parse? {text : List Char} (h : Token.parse? text = some tokens) :
    Token.Placed true tokens :=
  placed_of_parseFrom? h

end

end BlobFs.Pattern

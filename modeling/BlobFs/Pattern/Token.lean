/-!
# Wildcards within one name segment

A segment of a blob name is matched against a short wildcard text:

* `?` takes one character and `*` any run of characters, neither of them a `/`;
* `[abc]`, `[a-z]` take one character of the class and `[!…]` one outside it, never a `/`;
  a `]` right after the opening (or after the `!`) belongs to the class;
* `**` takes any run at all, `/` included, but only from one `/` to the next: it must stand at the
  start of the text or after a `/`, and be followed by the end or by a `/`, which belongs to it;
* every other character, `\` included, takes itself.

A text that breaks the rules (three stars in a row, a `**` in the middle of a name, a class that is
not closed) has no meaning as a wildcard text: `Token.parse?` answers `none`, and what to do then is
for `BlobFs.Pattern.Segment` to say.

`tryTokens` is a search with three answers.  `exhausted` says that the text ran out before the
tokens did; then no shorter text can match either, so an enclosing `*` stops looking.  That keeps a
text with many stars from taking exponential time.
-/

set_option autoImplicit false

namespace BlobFs.Pattern

/-- A part of a character class. -/
inductive ClassItem where
  | single (c : Char)
  /-- All characters from `first` to `last` by code point; none when they are reversed. -/
  | range (first last : Char)
  deriving DecidableEq

/-- One element of a wildcard text. -/
inductive Token where
  | literal (c : Char)
  /-- `?` -/
  | anyChar
  /-- `*` -/
  | anyRun
  /-- `**`, with the `/` that follows it. -/
  | anyTree
  /-- `[…]` -/
  | within (items : List ClassItem)
  /-- `[!…]` -/
  | outside (items : List ClassItem)
  deriving DecidableEq

/-! ## Reading a wildcard text -/

/-- The members of a class, as written between its brackets. -/
def ClassItem.parseAll : List Char → List ClassItem
  | first :: '-' :: last :: rest => .range first last :: parseAll rest
  | c :: rest => .single c :: parseAll rest
  | [] => []

/-- The text up to the first `]` and the text after it. -/
def closeClass? : List Char → Option (List Char × List Char)
  | [] => none
  | c :: rest =>
    if c = ']' then some ([], rest)
    else (closeClass? rest).map fun (members, after) ↦ (c :: members, after)

theorem length_lt_of_closeClass? {s members after : List Char}
    (h : closeClass? s = some (members, after)) : after.length < s.length := by
  induction s generalizing members with
  | nil => simp [closeClass?] at h
  | cons c rest ih =>
    rw [closeClass?] at h
    split at h
    · obtain ⟨-, rfl⟩ := Prod.mk.inj (Option.some.inj h)
      simp
    · obtain ⟨⟨m, a⟩, hm, he⟩ := Option.map_eq_some_iff.1 h
      obtain ⟨-, rfl⟩ := Prod.mk.inj he
      have := ih hm
      simp only [List.length_cons]
      omega

/-- A class whose opening `[` has been read: the token and the text after its `]`. -/
def parseClass? : List Char → Option (Token × List Char)
  | '!' :: first :: rest =>
    (closeClass? rest).map fun (members, after) ↦
      (.outside (ClassItem.parseAll (first :: members)), after)
  | first :: rest =>
    if first = '!' then none
    else (closeClass? rest).map fun (members, after) ↦
      (.within (ClassItem.parseAll (first :: members)), after)
  | [] => none

theorem length_lt_of_parseClass? {s after : List Char} {token : Token}
    (h : parseClass? s = some (token, after)) : after.length < s.length := by
  unfold parseClass? at h
  split at h
  · obtain ⟨⟨m, a⟩, hm, he⟩ := Option.map_eq_some_iff.1 h
    obtain ⟨-, rfl⟩ := Prod.mk.inj he
    have := length_lt_of_closeClass? hm
    simp only [List.length_cons]
    omega
  · split at h
    · simp at h
    · obtain ⟨⟨m, a⟩, hm, he⟩ := Option.map_eq_some_iff.1 h
      obtain ⟨-, rfl⟩ := Prod.mk.inj he
      have := length_lt_of_closeClass? hm
      simp only [List.length_cons]
      omega
  · simp at h

/-- The tokens of a wildcard text; `atName` says that a name starts here, so that `**` may. -/
def Token.parseFrom? (atName : Bool) : List Char → Option (List Token)
  | [] => some []
  | '?' :: rest => (parseFrom? false rest).map (.anyChar :: ·)
  | '*' :: '*' :: rest =>
    if atName then
      match rest with
      | [] => some [.anyTree]
      | '/' :: rest => (parseFrom? true rest).map (.anyTree :: ·)
      | _ => none
    else none
  | '*' :: rest => (parseFrom? false rest).map (.anyRun :: ·)
  | '[' :: rest =>
    match h : parseClass? rest with
    | none => none
    | some (token, after) =>
      have := length_lt_of_parseClass? h
      (parseFrom? false after).map (token :: ·)
  | c :: rest => (parseFrom? (c == '/') rest).map (.literal c :: ·)
termination_by s => s.length

/-- The tokens of a wildcard text, if it follows the rules. -/
def Token.parse? (s : List Char) : Option (List Token) :=
  Token.parseFrom? true s

/-! ## Matching -/

/-- Whether the class part holds `c`. -/
def ClassItem.holds (c : Char) : ClassItem → Bool
  | .single d => c == d
  | .range first last => first ≤ c && c ≤ last

/-- Whether a token that stands for one character takes `c`. -/
def Token.takes (c : Char) : Token → Bool
  | .literal d => c == d
  | .anyChar => c != '/'
  | .within items => c != '/' && items.any (ClassItem.holds c)
  | .outside items => c != '/' && !items.any (ClassItem.holds c)
  | .anyRun | .anyTree => false

/-- What is left of a text after any run without `/` is taken off its front, the shortest run
first. -/
def afterRun : List Char → List (List Char)
  | [] => [[]]
  | c :: rest => (c :: rest) :: if c = '/' then [] else afterRun rest

/-- What is left of a text after each `/` in it. -/
def afterSlashes : List Char → List (List Char)
  | [] => []
  | c :: rest => if c = '/' then rest :: afterSlashes rest else afterSlashes rest

/-- What is left of a text after `**` takes nothing, everything up to a `/`, or all of it. -/
def afterTree (s : List Char) : List (List Char) :=
  s :: afterSlashes s ++ [[]]

/-- The answer of a search. -/
inductive Verdict where
  | matched
  | mismatch
  /-- The text ran out: no text that this one ends with can match. -/
  | exhausted
  deriving DecidableEq

/-- The first answer that is not a mismatch, over the texts in turn. -/
def Verdict.search (answer : List Char → Verdict) : List (List Char) → Verdict
  | [] => .mismatch
  | s :: rest =>
    match answer s with
    | .mismatch => search answer rest
    | verdict => verdict

/-- Matches the whole text against the tokens. -/
def tryTokens : List Token → List Char → Verdict
  | [], [] => .matched
  | [], _ :: _ => .mismatch
  | .anyRun :: tokens, s => Verdict.search (tryTokens tokens) (afterRun s)
  | .anyTree :: tokens, s => Verdict.search (tryTokens tokens) (afterTree s)
  | _ :: _, [] => .exhausted
  | token :: tokens, c :: s => if token.takes c then tryTokens tokens s else .mismatch

end BlobFs.Pattern

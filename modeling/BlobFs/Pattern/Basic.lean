import BlobFs.Pattern.Token
import BlobFs.Text.Split

/-!
# Name patterns

A pattern is a `/`-separated text that selects blob names.  Each of its segments selects one
segment of a name, except `**`, which stands for any number of whole segments, none included.

* `Segment.ofText` says what one segment of a pattern means.  A segment that is no proper wildcard
  text stands for itself, so every text is a pattern.
* `segmentsOf` cuts a name at its slashes; the empty name has no segments at all, while a leading,
  trailing or doubled slash makes an empty segment.
* `Pattern.matchesSegments` is the match: both sides must be used up.
-/

set_option autoImplicit false

namespace BlobFs

namespace Pattern

/-- What one segment of a pattern stands for. -/
inductive Segment where
  /-- `**`: any number of whole segments. -/
  | anyDepth
  /-- One segment that the tokens match. -/
  | wildcard (tokens : List Token)
  /-- One segment, exactly this one. -/
  | exactly (text : String)
  deriving DecidableEq

/-- The meaning of one segment of a pattern. -/
def Segment.ofText (text : String) : Segment :=
  if text.toList = ['*', '*'] then .anyDepth
  else match Token.parse? text.toList with
    | some tokens => .wildcard tokens
    | none => .exactly text

/-- Whether the segment accepts one segment of a name. -/
def Segment.accepts (name : String) : Segment → Bool
  | .anyDepth => true
  | .wildcard tokens => tryTokens tokens name.toList == .matched
  | .exactly text => text == name

/-- The `/`-separated segments of a name; the empty name has none. -/
def segmentsOf (name : String) : List String :=
  if name.toList = [] then [] else Text.pieces '/' name

/-- A list and all that is left of it as items are taken off its front. -/
def tails {α : Type} : List α → List (List α)
  | [] => [[]]
  | a :: rest => (a :: rest) :: tails rest

/-- Whether the segments of a name are matched by the segments of a pattern. -/
def matchSegments : List Segment → List String → Bool
  | [], name => name.isEmpty
  | [.anyDepth], _ => true
  | .anyDepth :: rest, name => (tails name).any (matchSegments rest)
  | _ :: _, [] => false
  | segment :: rest, first :: name => segment.accepts first && matchSegments rest name

end Pattern

/-- A pattern, cut into segments whose meaning is settled once for all names. -/
structure Pattern where
  segments : List Pattern.Segment
  deriving DecidableEq

namespace Pattern

/-- The pattern with these segment texts. -/
def ofSegments (texts : List String) : Pattern :=
  ⟨texts.map Segment.ofText⟩

/-- The pattern written as `text`. -/
def ofText (text : String) : Pattern :=
  ofSegments (segmentsOf text)

/-- Whether a name, already cut into segments, is matched as a whole. -/
def matchesSegments (p : Pattern) (name : List String) : Bool :=
  matchSegments p.segments name

/-- Whether the name is matched as a whole. -/
def matchesName (p : Pattern) (name : String) : Bool :=
  p.matchesSegments (segmentsOf name)

end Pattern

end BlobFs

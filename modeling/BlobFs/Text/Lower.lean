import BlobFs.Text.CaseTable

/-!
# Lower-casing a text

Booleans among the settings are read in any letter case, and a text that is no boolean is reported
in lower case, so the whole of Unicode's lower-casing is needed:

* most characters have one lower-case letter (`lowerChar`);
* the capital I with a dot has two characters in its place;
* a capital sigma becomes the final sigma at the end of a word, that is, when a cased character
  stands before it and none stands after it, the case-ignorable ones left out of the search.
-/

set_option autoImplicit false

namespace BlobFs.Text

/-- Whether `c` is skipped when the neighbours of a sigma are looked for. -/
def isCaseIgnorable (c : Char) : Bool :=
  inRuns c.toNat 0 caseIgnorableRuns

/-- Whether `c` is cased, and so makes a neighbouring sigma part of its word. -/
def isCased (c : Char) : Bool :=
  inRuns c.toNat 0 casedRuns

private def shiftBy (c : Char) : List (Nat × Nat × Nat × Int) → Char
  | [] => c
  | (first, last, step, shift) :: rest =>
    if first ≤ c.toNat ∧ c.toNat ≤ last ∧ (c.toNat - first) % step = 0 then
      Char.ofNat (Int.toNat (c.toNat + shift))
    else shiftBy c rest

/-- The lower-case letter of `c`, or `c` itself where there is no single one. -/
def lowerChar (c : Char) : Char :=
  if c.toNat < 0x80 then c.toLower else shiftBy c lowerRanges

/-- Whether the nearest character that counts is cased. -/
private def meetsCased (s : List Char) : Bool :=
  match s.dropWhile isCaseIgnorable with
  | [] => false
  | c :: _ => isCased c

/-- Lower-casing of what stands after `before`, which is kept in reverse. -/
private def lowerAfter (before : List Char) : List Char → List Char
  | [] => []
  | c :: rest =>
    let lowered :=
      if c = 'Σ' then
        if meetsCased before && !meetsCased rest then ['ς'] else ['σ']
      else if c = 'İ' then ['i', Char.ofNat 0x307]
      else [lowerChar c]
    lowered ++ lowerAfter (c :: before) rest

/-- The text in lower case. -/
def lower (s : String) : String :=
  String.ofList (lowerAfter [] s.toList)

/-- Whether two texts agree when ASCII letters are compared without regard to case. -/
def eqIgnoringCase (s t : String) : Bool :=
  s.toList.map Char.toLower == t.toList.map Char.toLower

end BlobFs.Text

import BlobFs.Credential.ConnectionString
import BlobFs.Proofs.Text.Cut
import BlobFs.Proofs.Text.Trim
import Mathlib.Data.List.Forall2

/-!
# Connection strings in any layout

The same pairs can be written in many ways: with blanks around keys and values, with parts between
them that say nothing, in another order, with keys in another letter case.  This file says what makes
no difference.

* `Written parts pairs` — the parts of a text that write these pairs.  It is exactly what reading
  finds (`parse_intercalate_iff`), since a part writes one pair at most, by its first `=`.
* `Rearranged pairs pairs'` — the same pairs in any order, with keys in any letter case.  As long as
  no two keys differ in letter case only, a key has at most one value, and it has the same one in
  both (`get?_of_rearranged`).

Everything a connection string is asked for is the value of some key, so nothing else can differ
either: `written_and_rearranged`.
-/

set_option autoImplicit false

namespace BlobFs.ConnectionString

open Text (Blanks Trimmed)

/-! ## Parts that write a pair, and parts that say nothing -/

/-- The texts that write a pair: its key, which is not empty, then `=`, then its value, and blanks
around both. -/
inductive Writes : String → String × String → Prop
  | intro {before key between after value rest : String}
      (hbefore : Blanks before.toList) (hbetween : Blanks between.toList)
      (hafter : Blanks after.toList) (hrest : Blanks rest.toList)
      (hne : key ≠ "") (hkey : Trimmed key.toList) (hfirst : '=' ∉ key.toList)
      (hvalue : Trimmed value.toList) :
      Writes (before ++ key ++ between ++ "=" ++ (after ++ value ++ rest)) (key, value)

/-- The texts that say nothing: there is no `=` in them, or only blanks in front of it. -/
inductive Silent : String → Prop
  | unpaired {part : String} (h : '=' ∉ part.toList) : Silent part
  | keyless {key : String} (value : String) (h : Blanks key.toList) : Silent (key ++ "=" ++ value)

/-- The parts that write these pairs, in order, with any that say nothing between them. -/
inductive Written : List String → List (String × String) → Prop
  | nil : Written [] []
  | pair {part : String} {pair : String × String} {parts : List String}
      {pairs : List (String × String)} (hpart : Writes part pair) (hparts : Written parts pairs) :
      Written (part :: parts) (pair :: pairs)
  | silent {part : String} {parts : List String} {pairs : List (String × String)}
      (hpart : Silent part) (hparts : Written parts pairs) : Written (part :: parts) pairs

theorem not_mem_of_blanks {s : List Char} (h : Blanks s) : '=' ∉ s :=
  fun hin ↦ absurd (h '=' hin) (by decide)

/-- A cut at the first `=`, with nothing but a `=`-free text in front of it. -/
theorem cut?_append {key value : String} (h : '=' ∉ key.toList) :
    Text.cut? '=' (key ++ "=" ++ value) = some (key, value) :=
  Text.cut?_eq_some_iff.2 ⟨by simp, h⟩

theorem eq_of_cut? {part key value : String} (h : Text.cut? '=' part = some (key, value)) :
    part = key ++ "=" ++ value := by
  rw [← String.toList_inj, (Text.cut?_eq_some_iff.1 h).1]
  simp

theorem parsePart_eq_none_iff {part : String} : parsePart part = none ↔ Silent part := by
  constructor
  · intro h
    rw [parsePart] at h
    split at h
    · next hcut => exact .unpaired (Text.cut?_eq_none_iff.1 hcut)
    · next key value hcut =>
      have hkey : Text.trim key = "" := by simpa using h
      rw [eq_of_cut? hcut]
      exact .keyless value (Text.isBlankText_iff.1 (Text.trim_eq_empty_iff.1 hkey))
  · rintro (h | @⟨key, value, h⟩)
    · rw [parsePart, Text.cut?_eq_none_iff.2 h]
    · have hkey : Text.trim key = "" := Text.trim_eq_empty_iff.2 (Text.isBlankText_iff.2 h)
      rw [parsePart, cut?_append (not_mem_of_blanks h)]
      simp [hkey]

theorem parsePart_eq_some_iff {part : String} {pair : String × String} :
    parsePart part = some pair ↔ Writes part pair := by
  constructor
  · intro h
    rw [parsePart] at h
    split at h
    · cases h
    next key value hcut =>
    obtain ⟨hne, he⟩ := Option.ite_none_left_eq_some.1 h
    obtain ⟨before, between, hbefore, hbetween, hkey⟩ := Text.exists_blanks_trim key
    obtain ⟨after, rest, hafter, hrest, hvalue⟩ := Text.exists_blanks_trim value
    have hfirst : '=' ∉ (Text.trim key).toList := by
      have hnot := (Text.cut?_eq_some_iff.1 hcut).2
      rw [hkey] at hnot
      exact fun hin ↦ hnot (by simp [hin])
    rw [eq_of_cut? hcut, ← Option.some.inj he]
    conv => arg 1; rw [hkey, hvalue]
    exact .intro hbefore hbetween hafter hrest (by simpa using hne) (Text.trimmed_trim key) hfirst
      (Text.trimmed_trim value)
  · rintro @⟨before, key, between, after, value, rest, hbefore, hbetween, hafter, hrest, hne, hkey,
      hfirst, hvalue⟩
    have hnot : '=' ∉ (before ++ key ++ between).toList := by
      simp [not_mem_of_blanks hbefore, hfirst,
        not_mem_of_blanks hbetween]
    rw [parsePart, cut?_append hnot]
    simp only [Text.trim_append hbefore hbetween hkey, Text.trim_append hafter hrest hvalue,
      String.isEmpty_iff, hne, if_false]

/-- What the parts are read as is what they write. -/
theorem filterMap_parsePart_eq_iff {parts : List String} {pairs : List (String × String)} :
    parts.filterMap parsePart = pairs ↔ Written parts pairs := by
  induction parts generalizing pairs with
  | nil =>
    constructor
    · rintro rfl
      exact .nil
    · rintro ⟨⟩
      rfl
  | cons part parts ih =>
    cases hpart : parsePart part with
    | none =>
      have hsilent := parsePart_eq_none_iff.1 hpart
      rw [List.filterMap_cons_none hpart, ih]
      constructor
      · exact .silent hsilent
      · rintro (_ | ⟨hwrites, -⟩ | ⟨-, hparts⟩)
        · rw [parsePart_eq_some_iff.2 hwrites] at hpart
          cases hpart
        · exact hparts
    | some pair =>
      have hwrites := parsePart_eq_some_iff.1 hpart
      rw [List.filterMap_cons_some hpart]
      constructor
      · rintro rfl
        exact .pair hwrites (ih.1 rfl)
      · rintro (_ | ⟨hother, hparts⟩ | ⟨hsilent, -⟩)
        · rw [parsePart_eq_some_iff.2 hother] at hpart
          rw [Option.some.inj hpart, ih.2 hparts]
        · rw [parsePart_eq_none_iff.2 hsilent] at hpart
          cases hpart

/-- **A text is read as the pairs that its parts write.** -/
theorem parse_intercalate_iff {parts : List String} (hparts : ∀ part ∈ parts, ';' ∉ part.toList)
    {pairs : List (String × String)} :
    parse (";".intercalate parts) = ⟨pairs⟩ ↔ Written parts pairs := by
  rw [← filterMap_parsePart_eq_iff, parse, mk.injEq]
  by_cases hne : parts = []
  · subst hne
    rfl
  · rw [Text.pieces_intercalate rfl hne hparts]

/-! ## Pairs in any order -/

/-- A key, for comparing it without regard to letter case. -/
def lowered (key : String) : List Char :=
  key.toList.map Char.toLower

theorem eqIgnoringCase_iff {key key' : String} :
    Text.eqIgnoringCase key key' = true ↔ lowered key = lowered key' :=
  beq_iff_eq

/-- Whether no two keys differ in letter case only. -/
def Distinct (pairs : List (String × String)) : Prop :=
  pairs.Pairwise fun pair pair' ↦ Text.eqIgnoringCase pair.1 pair'.1 = false

instance : DecidablePred Distinct :=
  fun pairs ↦ inferInstanceAs (Decidable (pairs.Pairwise _))

/-- Whether two pairs differ at most in the letter case of the key. -/
def SameButCase (pair pair' : String × String) : Prop :=
  Text.eqIgnoringCase pair.1 pair'.1 = true ∧ pair.2 = pair'.2

/-- Whether one list has the pairs of the other in any order, with keys in any letter case. -/
def Rearranged (pairs pairs' : List (String × String)) : Prop :=
  ∃ recased, List.Forall₂ SameButCase pairs recased ∧ recased.Perm pairs'

/-- The pairs with keys that can be compared. -/
def comparable (pairs : List (String × String)) : List (List Char × String) :=
  pairs.map fun pair ↦ (lowered pair.1, pair.2)

theorem distinct_iff_nodup {pairs : List (String × String)} :
    Distinct pairs ↔ ((comparable pairs).map Prod.fst).Nodup := by
  rw [Distinct, List.Nodup, comparable, List.map_map, List.pairwise_map]
  simp only [Function.comp_apply, Bool.eq_false_iff, ne_eq, eqIgnoringCase_iff]

/-- Rearranged pairs have the same keys, each with its value. -/
theorem Rearranged.perm {pairs pairs' : List (String × String)} (h : Rearranged pairs pairs') :
    (comparable pairs).Perm (comparable pairs') := by
  obtain ⟨recased, hcase, hperm⟩ := h
  have hsame : comparable pairs = comparable recased := by
    rw [comparable, comparable, ← List.forall₂_eq_eq_eq, List.forall₂_map_left_iff,
      List.forall₂_map_right_iff]
    exact hcase.imp fun pair pair' h ↦ Prod.ext (eqIgnoringCase_iff.1 h.1) h.2
  rw [hsame]
  exact hperm.map _

theorem Rearranged.distinct {pairs pairs' : List (String × String)} (h : Rearranged pairs pairs')
    (hdistinct : Distinct pairs) : Distinct pairs' :=
  distinct_iff_nodup.2 ((h.perm.map Prod.fst).nodup_iff.1 (distinct_iff_nodup.1 hdistinct))

/-- Among distinct keys, the value that is found for a key is the one it has. -/
theorem find?_eq_some_iff {pairs : List (String × String)} (h : Distinct pairs)
    {key value : String} :
    (pairs.find? fun pair ↦ Text.eqIgnoringCase pair.1 key).map Prod.snd = some value ↔
      (lowered key, value) ∈ comparable pairs := by
  induction pairs with
  | nil => simp [comparable]
  | cons pair pairs ih =>
    obtain ⟨hfirst, hpairs⟩ := List.pairwise_cons.1 h
    rw [List.find?_cons, comparable, List.map_cons, List.mem_cons, Prod.mk.injEq]
    cases hkey : Text.eqIgnoringCase pair.1 key with
    | true =>
      have hlowered := eqIgnoringCase_iff.1 hkey
      -- the key stands nowhere behind its first place
      have hnot : (lowered key, value) ∉ pairs.map fun pair ↦ (lowered pair.1, pair.2) := by
        intro hin
        obtain ⟨other, hother, he⟩ := List.mem_map.1 hin
        have hsame : Text.eqIgnoringCase pair.1 other.1 = true :=
          eqIgnoringCase_iff.2 (hlowered.trans (Prod.mk.inj he).1.symm)
        rw [hfirst other hother] at hsame
        cases hsame
      simp [hlowered, hnot, eq_comm]
    | false =>
      have hne : lowered key ≠ lowered pair.1 := fun he ↦ by
        rw [eqIgnoringCase_iff.2 he.symm] at hkey
        cases hkey
      rw [ih hpairs, comparable]
      simp [hne]

/-- **Rearranged pairs give every key the same value.** -/
theorem get?_of_rearranged {cs cs' : ConnectionString} (hdistinct : Distinct cs.pairs)
    (h : Rearranged cs.pairs cs'.pairs) (key : String) : cs'.get? key = cs.get? key := by
  rw [get?, get?]
  congr 1
  refine Option.ext fun value ↦ ?_
  rw [find?_eq_some_iff (h.distinct hdistinct), find?_eq_some_iff hdistinct, h.perm.mem_iff]

/-! ## Whatever the layout -/

/-- **Connection strings are read in any layout, and asked in any order.**

* A text with these parts, none of which has a `;`, is read as the pairs that they write, in order:
  blanks around keys and values do not count, nor do parts without `=` or with a blank key.
* As long as no two keys differ in letter case only, the same pairs in any other order, with keys in
  any letter case, answer everything alike. -/
theorem written_and_rearranged :
    (∀ parts : List String, (∀ part ∈ parts, ';' ∉ part.toList) →
      ∀ pairs, parse (";".intercalate parts) = ⟨pairs⟩ ↔ Written parts pairs) ∧
    ∀ cs cs' : ConnectionString, Distinct cs.pairs → Rearranged cs.pairs cs'.pairs →
      (∀ key, cs'.get? key = cs.get? key) ∧
      cs'.accountName = cs.accountName ∧
      cs'.accountKey = cs.accountKey ∧
      cs'.sharedAccessSignature = cs.sharedAccessSignature ∧
      cs'.usesDevelopmentStorage = cs.usesDevelopmentStorage ∧
      cs'.blobEndpoint = cs.blobEndpoint ∧
      ∀ account, cs'.matchesAccount account = cs.matchesAccount account := by
  refine ⟨fun parts hparts pairs ↦ parse_intercalate_iff hparts, fun cs cs' hdistinct h ↦ ?_⟩
  have hget : cs'.get? = cs.get? := funext (get?_of_rearranged hdistinct h)
  have haccount : cs'.accountName = cs.accountName := congrFun hget _
  have hemulator : cs'.usesDevelopmentStorage = cs.usesDevelopmentStorage := by
    rw [usesDevelopmentStorage, usesDevelopmentStorage, hget]
  refine ⟨congrFun hget, haccount, congrFun hget _, congrFun hget _, hemulator, ?_, fun account ↦ ?_⟩
  · rw [blobEndpoint, blobEndpoint, hget, hemulator, haccount]
  · rw [matchesAccount, matchesAccount, haccount]

/-- A value with `=` in it, blanks, a blank key and a part without `=`; then the pairs the other way
round with keys in other letters. -/
theorem account_and_key_in_two_layouts :
    let pairs := [("AccountName", "acct"), ("AccountKey", "a2V5==")]
    let rearranged : ConnectionString := ⟨[("ACCOUNTKEY", "a2V5=="), ("accountname", "acct")]⟩
    parse (";".intercalate [" AccountName= acct", " =x", "AccountKey=a2V5==", ""]) = ⟨pairs⟩ ∧
    Distinct pairs ∧ Rearranged pairs rearranged.pairs ∧
    rearranged.blobEndpoint = (ConnectionString.mk pairs).blobEndpoint := by
  intro pairs rearranged
  have hname : Writes " AccountName= acct" ("AccountName", "acct") :=
    @Writes.intro " " "AccountName" "" " " "acct" "" (by decide) (by decide) (by decide)
      (by decide) (by decide) (by decide) (by decide) (by decide)
  have hkey : Writes "AccountKey=a2V5==" ("AccountKey", "a2V5==") :=
    @Writes.intro "" "AccountKey" "" "" "a2V5==" "" (by decide) (by decide) (by decide)
      (by decide) (by decide) (by decide) (by decide) (by decide)
  have hkeyless : Silent " =x" := @Silent.keyless " " "x" (by decide)
  have hwritten : Written [" AccountName= acct", " =x", "AccountKey=a2V5==", ""] pairs :=
    .pair hname (.silent hkeyless (.pair hkey (.silent (.unpaired (by decide)) .nil)))
  have hdistinct : Distinct pairs := by decide
  have hrearranged : Rearranged pairs rearranged.pairs :=
    ⟨[("accountname", "acct"), ("ACCOUNTKEY", "a2V5==")],
      .cons ⟨by decide, rfl⟩ (.cons ⟨by decide, rfl⟩ .nil), .swap _ _ _⟩
  have hparts : ∀ part ∈ [" AccountName= acct", " =x", "AccountKey=a2V5==", ""],
      ';' ∉ part.toList := by decide
  exact ⟨(written_and_rearranged.1 _ hparts pairs).2 hwritten, hdistinct, hrearranged,
    (written_and_rearranged.2 _ rearranged hdistinct hrearranged).2.2.2.2.2.1⟩

end BlobFs.ConnectionString

import BlobFs.Credential.Chain
import BlobFs.Proofs.Text.Cut
import BlobFs.Proofs.Text.Trim
import Mathlib.Data.List.Induction

/-!
# From a configured chain to the sources that are asked

A chain is read item by item (`parseChain_eq_ok_iff`, `parseChain_eq_error_iff`): what is read has
the names of the items, in order, and what cannot be read has a first name that is not known, or no
name at all.

The sources read are then asked in another order, `expand`, which is found by going through them and
adding what is not there yet.  It is what is left of the sources when every `default` is replaced by
the sources it stands for, and then every source is kept where it stands first
(`expand_eq_addNew`).  So all there is to know about `addNew` is what one more source adds to it:
nothing if it was there, else the source at the end (`addNew_concat`).

`parseChain_expand` is both together.
-/

set_option autoImplicit false

namespace BlobFs.ChainSource

/-! ## Reading a chain -/

/-- The names that may stand in a chain. -/
def names : List String :=
  ["cli", "managed_identity", "env", "default"]

theorem name_mem_names (source : ChainSource) : source.name ∈ names := by
  cases source <;> decide

theorem mem_names_iff {name : String} : name ∈ names ↔ ∃ source : ChainSource, source.name = name := by
  constructor
  · intro h
    simp only [names, List.mem_cons, List.not_mem_nil, or_false] at h
    rcases h with rfl | rfl | rfl | rfl
    · exact ⟨.cli, rfl⟩
    · exact ⟨.managedIdentity, rfl⟩
    · exact ⟨.env, rfl⟩
    · exact ⟨.default, rfl⟩
  · rintro ⟨source, rfl⟩
    exact name_mem_names source

theorem ofName?_eq_some_iff {name : String} {source : ChainSource} :
    ofName? name = some source ↔ source.name = name :=
  ⟨fun h ↦ (eq_name_of_ofName? h).symm, fun h ↦ h ▸ ofName?_name source⟩

theorem ofName?_eq_none_iff {name : String} : ofName? name = none ↔ name ∉ names := by
  rw [mem_names_iff, Option.eq_none_iff_forall_ne_some, not_exists]
  simp only [ne_eq, ofName?_eq_some_iff]

/-- The items that say something are those that are not blank. -/
theorem chainItems_eq (chain : String) :
    chainItems chain =
      ((Text.pieces ';' chain).filter fun item ↦ !Text.isBlankText item).map Text.trim := by
  rw [chainItems, List.filter_map]
  congr 1
  refine List.filter_congr fun item _ ↦ ?_
  rw [Function.comp_apply, Bool.not_inj_iff, Bool.eq_iff_iff, String.isEmpty_iff]
  exact Text.trim_eq_empty_iff

theorem ofNames_map_name (sources : List ChainSource) :
    ofNames (sources.map name) = .ok sources := by
  induction sources with
  | nil => rfl
  | cons source sources ih => rw [List.map_cons, ofNames, ofName?_name, ih]

/-- What is read has the names given. -/
theorem ofNames_eq_ok_iff {given : List String} {sources : List ChainSource} :
    ofNames given = .ok sources ↔ sources.map name = given := by
  refine ⟨fun h ↦ ?_, fun h ↦ h ▸ ofNames_map_name sources⟩
  induction given generalizing sources with
  | nil =>
    cases h
    rfl
  | cons first given ih =>
    rw [ofNames] at h
    split at h
    · cases h
    next source hfirst =>
    split at h
    · next rest hrest =>
      cases h
      rw [List.map_cons, ih hrest, ofName?_eq_some_iff.1 hfirst]
    · cases h

/-- What cannot be read has a first name that is not known. -/
theorem ofNames_eq_error_iff {given : List String} {problem : StorageError} :
    ofNames given = .error problem ↔
      ∃ before name after, given = before ++ name :: after ∧ (∀ other ∈ before, other ∈ names) ∧
        name ∉ names ∧ problem = .unknownChainSource name := by
  induction given with
  | nil => simp [ofNames]
  | cons first given ih =>
    rw [ofNames]
    cases hfirst : ofName? first with
    | none =>
      have hnot := ofName?_eq_none_iff.1 hfirst
      constructor
      · rintro ⟨⟩
        exact ⟨[], first, given, rfl, nofun, hnot, rfl⟩
      · rintro ⟨before, name, after, hgiven, hbefore, -, rfl⟩
        cases before with
        | nil => rw [(List.cons.inj hgiven).1]
        | cons other before =>
          obtain ⟨rfl, -⟩ := List.cons.inj hgiven
          exact absurd (hbefore _ List.mem_cons_self) hnot
    | some source =>
      have hin : first ∈ names := mem_names_iff.2 ⟨source, ofName?_eq_some_iff.1 hfirst⟩
      have hrest : (∃ before name after, first :: given = before ++ name :: after ∧
          (∀ other ∈ before, other ∈ names) ∧ name ∉ names ∧
            problem = .unknownChainSource name) ↔ ofNames given = .error problem := by
        rw [ih]
        constructor
        · rintro ⟨before, name, after, hgiven, hbefore, hname, hproblem⟩
          cases before with
          | nil => exact absurd ((List.cons.inj hgiven).1 ▸ hin) hname
          | cons other before =>
            exact ⟨before, name, after, (List.cons.inj hgiven).2,
              fun n hn ↦ hbefore n (List.mem_cons_of_mem _ hn), hname, hproblem⟩
        · rintro ⟨before, name, after, rfl, hbefore, hname, hproblem⟩
          exact ⟨first :: before, name, after, rfl, List.forall_mem_cons.2 ⟨hin, hbefore⟩, hname,
            hproblem⟩
      rw [hrest]
      cases ofNames given <;> simp

/-- **A chain is read if it names sources only, and at least one.** -/
theorem parseChain_eq_ok_iff {chain : String} {sources : List ChainSource} :
    parseChain chain = .ok sources ↔ sources ≠ [] ∧ sources.map name = chainItems chain := by
  rw [← ofNames_eq_ok_iff, parseChain]
  split
  · next h => simp [h]
  · next h => simp [h]
  · next read hne h =>
    rw [h, Except.ok.injEq]
    exact ⟨fun heq ↦ ⟨heq ▸ hne, heq⟩, And.right⟩

/-- A chain that is not read has a first item that is no name, or no item at all. -/
theorem parseChain_eq_error_iff {chain : String} {problem : StorageError} :
    parseChain chain = .error problem ↔
      (∃ before name after, chainItems chain = before ++ name :: after ∧
        (∀ other ∈ before, other ∈ names) ∧ name ∉ names ∧ problem = .unknownChainSource name) ∨
      chainItems chain = [] ∧ problem = .emptyChain := by
  rw [← ofNames_eq_error_iff, parseChain]
  split
  · next other h =>
    have hne : chainItems chain ≠ [] := by
      intro hnil
      rw [hnil] at h
      cases h
    rw [h]
    simp [hne]
  · next h =>
    have hitems := ofNames_eq_ok_iff.1 h
    rw [h, ← hitems]
    simp [eq_comm]
  · next read hne h =>
    have hitems := ofNames_eq_ok_iff.1 h
    rw [h, ← hitems]
    simp [show read ≠ [] from hne]

/-- A chain is read exactly if it has items and they are all names. -/
theorem exists_parseChain_iff {chain : String} :
    (∃ sources, parseChain chain = .ok sources) ↔
      chainItems chain ≠ [] ∧ ∀ item ∈ chainItems chain, item ∈ names := by
  constructor
  · rintro ⟨sources, hread⟩
    obtain ⟨hne, hnames⟩ := parseChain_eq_ok_iff.1 hread
    rw [← hnames]
    exact ⟨mt List.map_eq_nil_iff.1 hne, List.forall_mem_map.2 fun source _ ↦ name_mem_names source⟩
  · rintro ⟨hne, hnames⟩
    cases hread : parseChain chain with
    | ok sources => exact ⟨sources, rfl⟩
    | error problem =>
      rcases parseChain_eq_error_iff.1 hread with ⟨before, name, after, hall, -, hnot, -⟩ | ⟨hnil, -⟩
      · rw [hall] at hnames
        exact absurd (hnames name (List.mem_append_right _ List.mem_cons_self)) hnot
      · exact absurd hnil hne

/-! ## The order of asking -/

/-- One more source is added at the end, unless it is there already. -/
theorem addNew_concat (known more : List ChainSource) (source : ChainSource) :
    addNew known (more ++ [source]) =
      if source ∈ addNew known more then addNew known more else addNew known more ++ [source] := by
  rw [addNew, List.foldl_append]
  rfl

/-- The sources to ask are the sources meant, each where it stands first. -/
theorem expand_eq_addNew (sources : List ChainSource) :
    expand sources = addNew [] (sources.flatMap members) :=
  List.foldl_flatMap.symm

theorem mem_addNew_iff {more : List ChainSource} {source : ChainSource} :
    source ∈ addNew [] more ↔ source ∈ more := by
  induction more using List.reverseRecOn with
  | nil => rfl
  | append_singleton more other ih =>
    rw [addNew_concat, List.mem_append, List.mem_singleton, ← ih]
    split
    · next hin =>
      refine ⟨.inl, ?_⟩
      rintro (h | rfl)
      · exact h
      · exact hin
    · rw [List.mem_append, List.mem_singleton]

/-- The sources kept stand in the order in which they stand first. -/
theorem addNew_ordered (more : List ChainSource) :
    (addNew [] more).Pairwise fun source source' ↦ more.idxOf source < more.idxOf source' := by
  induction more using List.reverseRecOn with
  | nil => exact .nil
  | append_singleton more other ih =>
    -- a source that was kept stands first where it did before
    have hstays : ∀ source ∈ addNew [] more, (more ++ [other]).idxOf source = more.idxOf source :=
      fun source hin ↦ by rw [List.idxOf_append, if_pos (mem_addNew_iff.1 hin)]
    have hkept : (addNew [] more).Pairwise fun source source' ↦
        (more ++ [other]).idxOf source < (more ++ [other]).idxOf source' :=
      ih.imp_of_mem fun {source source'} hs hs' h ↦ by rwa [hstays source hs, hstays source' hs']
    rw [addNew_concat]
    split
    · exact hkept
    · next hnew =>
      rw [List.pairwise_append]
      refine ⟨hkept, List.pairwise_singleton _ _, fun source hin last hlast ↦ ?_⟩
      rw [List.mem_singleton.1 hlast, hstays source hin, List.idxOf_append,
        if_neg (mt mem_addNew_iff.2 hnew)]
      exact Nat.lt_add_left _ (List.idxOf_lt_length_of_mem (mem_addNew_iff.1 hin))

/-- Sources that differ from each other are all kept. -/
theorem addNew_of_nodup {more : List ChainSource} (h : more.Nodup) : addNew [] more = more := by
  induction more using List.reverseRecOn with
  | nil => rfl
  | append_singleton more other ih =>
    obtain ⟨hmore, -, hne⟩ := List.nodup_append.1 h
    have hnew : other ∉ more := fun hin ↦ hne other hin other (List.mem_singleton_self other) rfl
    rw [addNew_concat, ih hmore, if_neg hnew]

theorem nodup_expand (sources : List ChainSource) : (expand sources).Nodup := by
  rw [expand_eq_addNew]
  exact (addNew_ordered _).imp fun h heq ↦ absurd (heq ▸ h) (Nat.lt_irrefl _)

/-- Asked are the sources named, and all of them if `default` is. -/
theorem mem_expand_iff {sources : List ChainSource} {source : ChainSource} :
    source ∈ expand sources ↔ source ≠ .default ∧ (source ∈ sources ∨ .default ∈ sources) := by
  rw [expand_eq_addNew, mem_addNew_iff, List.mem_flatMap]
  constructor
  · rintro ⟨named, hin, hmember⟩
    cases named with
    | default =>
      refine ⟨?_, .inr hin⟩
      rintro rfl
      exact absurd hmember (by decide)
    | cli | managedIdentity | env =>
      rw [List.mem_singleton.1 hmember]
      exact ⟨nofun, .inl hin⟩
  · rintro ⟨hne, hin | hin⟩
    · refine ⟨source, hin, ?_⟩
      cases source with
      | default => exact absurd rfl hne
      | cli | managedIdentity | env => exact List.mem_singleton_self _
    · refine ⟨.default, hin, ?_⟩
      cases source with
      | default => exact absurd rfl hne
      | cli | managedIdentity | env => decide

theorem expand_ne_nil {sources : List ChainSource} (h : sources ≠ []) : expand sources ≠ [] := by
  obtain ⟨source, rest, rfl⟩ := List.exists_cons_of_ne_nil h
  by_cases hdefault : source = .default
  · subst hdefault
    exact List.ne_nil_of_mem (mem_expand_iff.2 ⟨nofun, .inr List.mem_cons_self⟩ : .env ∈ _)
  · exact List.ne_nil_of_mem (mem_expand_iff.2 ⟨hdefault, .inl List.mem_cons_self⟩)

/-- Sources to ask are asked as they are. -/
theorem expand_of_nodup {sources : List ChainSource} (hdefault : .default ∉ sources)
    (hnodup : sources.Nodup) : expand sources = sources := by
  have hmembers : sources.flatMap members = sources := by
    induction sources with
    | nil => rfl
    | cons source sources ih =>
      rw [List.mem_cons, not_or] at hdefault
      rw [List.flatMap_cons, ih hdefault.2 (List.nodup_cons.1 hnodup).2]
      cases source with
      | default => exact absurd rfl hdefault.1
      | cli | managedIdentity | env => rfl
  rw [expand_eq_addNew, hmembers, addNew_of_nodup hnodup]

/-- **From a configured chain to the sources that are asked.**

* A chain is read if one of its items is not blank and all that are not blank are names, without the
  blanks around them.  The sources read have these names, in order.
* What is said of any other chain is that the configuration is invalid, and why: the first of the
  items that is no name, or that there is none.
* Asked are the sources that are named, and for `default` the three it stands for, never `default`
  itself, each once.  They stand in the order in which they stand first once every `default` is
  replaced in its place.  There is one if any is named, and sources to ask are asked as they are. -/
theorem parseChain_expand :
    (∀ chain : String,
      let items := (Text.pieces ';' chain).filter fun item ↦ !Text.isBlankText item
      ((∃ sources, parseChain chain = .ok sources) ↔
        items ≠ [] ∧ ∀ item ∈ items, Text.trim item ∈ names) ∧
      (∀ sources, parseChain chain = .ok sources → sources.map name = items.map Text.trim) ∧
      ∀ problem, parseChain chain = .error problem → problem.kind = .invalidConfig ∧
        ((∃ before item after, items = before ++ item :: after ∧
            (∀ other ∈ before, Text.trim other ∈ names) ∧ Text.trim item ∉ names ∧
            problem = .unknownChainSource (Text.trim item) ∧
            ∃ text, problem.message = text ++ Text.trim item) ∨
          items = [] ∧ problem = .emptyChain)) ∧
    ∀ sources : List ChainSource,
      let meant := sources.flatMap fun source ↦
        if source = .default then [.env, .cli, .managedIdentity] else [source]
      (expand sources).Nodup ∧
      (∀ source, source ∈ expand sources ↔
        source ≠ .default ∧ (source ∈ sources ∨ .default ∈ sources)) ∧
      ((expand sources).Pairwise fun source source' ↦
        meant.idxOf source < meant.idxOf source') ∧
      (sources ≠ [] → expand sources ≠ []) ∧
      expand (expand sources) = expand sources := by
  constructor
  · intro chain items
    have hitems : chainItems chain = items.map Text.trim := chainItems_eq chain
    refine ⟨?_, fun sources hread ↦ ?_, fun problem hproblem ↦ ?_⟩
    · rw [exists_parseChain_iff, hitems, ne_eq, List.map_eq_nil_iff, List.forall_mem_map]
    · rw [← hitems]
      exact (parseChain_eq_ok_iff.1 hread).2
    · rcases parseChain_eq_error_iff.1 hproblem with
        ⟨before, name, after, hall, hbefore, hnot, rfl⟩ | ⟨hnil, rfl⟩
      · rw [hitems] at hall
        obtain ⟨front, back, hsplit, rfl, hback⟩ := List.map_eq_append_iff.1 hall
        obtain ⟨item, rest, rfl, rfl, rfl⟩ := List.map_eq_cons_iff.1 hback
        refine ⟨rfl, .inl ⟨front, item, rest, hsplit, fun other hin ↦ ?_, hnot, rfl, ?_⟩⟩
        · exact hbefore _ (List.mem_map_of_mem hin)
        · exact ⟨_, (String.append_assoc ..).symm⟩
      · rw [hitems] at hnil
        exact ⟨rfl, .inr ⟨List.map_eq_nil_iff.1 hnil, rfl⟩⟩
  · intro sources meant
    have hmembers : members = fun source ↦
        if source = .default then [.env, .cli, .managedIdentity] else [source] := by
      funext source
      cases source <;> rfl
    have hmeant : expand sources = addNew [] meant := by rw [expand_eq_addNew, hmembers]
    refine ⟨nodup_expand sources, fun _ ↦ mem_expand_iff, ?_, expand_ne_nil, ?_⟩
    · rw [hmeant]
      exact addNew_ordered meant
    · exact expand_of_nodup (fun hin ↦ (mem_expand_iff.1 hin).1 rfl) (nodup_expand sources)

/-- A chain with a blank item is read; the next one has a name that is not known. -/
theorem identity_first_then_default :
    parseChain "managed_identity; ;default " = .ok [.managedIdentity, .default] ∧
    [ChainSource.managedIdentity, .default].map name = ["managed_identity", "default"] ∧
    expand [.managedIdentity, .default] ≠ [] ∧
    parseChain "cli;ssh;telnet" = .error (.unknownChainSource "ssh") ∧
    (StorageError.unknownChainSource "ssh").kind = .invalidConfig := by
  have hread : parseChain "managed_identity; ;default " = .ok [.managedIdentity, .default] := by
    decide +kernel
  have hfails : parseChain "cli;ssh;telnet" = .error (.unknownChainSource "ssh") := by
    decide +kernel
  have hnames := (parseChain_expand.1 "managed_identity; ;default ").2.1 _ hread
  have hkind := ((parseChain_expand.1 "cli;ssh;telnet").2.2 _ hfails).1
  have hasked := (parseChain_expand.2 [.managedIdentity, .default]).2.2.2.1 (by decide)
  exact ⟨hread, hnames.trans (by decide +kernel), hasked, hfails, hkind⟩

-- The source named first stays first, and `default` does not bring it a second time.
example : expand [.managedIdentity, .default, .cli] = [.managedIdentity, .env, .cli] := by decide

end BlobFs.ChainSource

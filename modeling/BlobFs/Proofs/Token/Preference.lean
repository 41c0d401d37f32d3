import BlobFs.Proofs.Outcome
import BlobFs.Token.Rehearsed
import Mathlib.Data.List.Forall2

/-!
# Which source a chain asks

A chain of token sources is called again and again, and any source may have a token at one time and
none at another.  This file tells which sources a call asks, in which order, and what it answers.

* `ChainedCredential.call` — a call with a note of what it asked; `calls` is any number of them.
* `Asking` — how asking the sources of a list in turn ends: one of them has a token after all before
  it have failed, or all have failed.  There is no other way (`asking_askAll`), by induction on the
  list.
* `Call.Proper` — what a call of a chain has to be, given the source to ask first.  Every call is
  (`Makes.proper`).
* `lastFound` — the source that had the token in the latest call that got one.  It is the one that a
  chain prefers after any calls (`preferred_calls`), whether they failed or not.

`call_after_calls` puts the two together.  How a source comes by its answer is left open all the
way, so it may change its mind at any time, for any reason.
-/

set_option autoImplicit false

namespace BlobFs.ChainedCredential

variable {τ : Type}

/-! ## Calls -/

/-- The note of a source that has failed. -/
def failed (failure : Nat × StoreError) : Nat × Except StoreError String :=
  (failure.1, .error failure.2)

/-- A call: the sources that it asked, each by its number and with its answer, and its own
answer. -/
structure Call where
  asked : List (Nat × Except StoreError String)
  answer : Except StoreError String

/-- The numbers of the sources that a call asked. -/
def Call.order (call : Call) : List Nat :=
  call.asked.map Prod.fst

/-- The source that had a token, if one had. -/
def Call.found? (call : Call) : Option Nat :=
  (call.asked.find? fun entry ↦ entry.2.isOk).map Prod.fst

/-- A call of the chain, with the chain and the state after it. -/
def call (ask : AskSource τ) (c : ChainedCredential) (state : τ) : Call × ChainedCredential × τ :=
  let (answer, c, asked, state) := c.getToken (noted ask) ([], state)
  ({ asked, answer }, c, state)

/-- So many calls one after another, with the chain and the state after them. -/
def calls (ask : AskSource τ) (c : ChainedCredential) (state : τ) :
    Nat → List Call × ChainedCredential × τ
  | 0 => ([], c, state)
  | n + 1 =>
    let (past, c, state) := calls ask c state n
    let (call, c, state) := c.call ask state
    (past ++ [call], c, state)

/-- The source that had the token in the latest of these calls that got one; the first source if
none did. -/
def lastFound (past : List Call) : Nat :=
  (past.reverse.findSome? Call.found?).getD 0

theorem lastFound_append (past : List Call) (call : Call) :
    lastFound (past ++ [call]) = call.found?.getD (lastFound past) := by
  rw [lastFound, List.reverse_append, List.reverse_singleton, List.singleton_append,
    List.findSome?_cons]
  cases call.found? <;> rfl

/-! ## The order of asking -/

theorem order_eq (c : ChainedCredential) :
    c.order = c.preferred :: (List.range c.sources.length).erase c.preferred := by
  rw [order, List.nodup_range.erase_eq_filter]
  congr 1
  exact List.filter_congr fun i _ ↦ by simp [bne, beq_eq_decide]

theorem mem_order_iff {c : ChainedCredential} {i : Nat} :
    i ∈ c.order ↔ i < c.sources.length := by
  refine ⟨lt_of_mem_order, fun h ↦ ?_⟩
  by_cases hi : i = c.preferred
  · rw [hi, order]
    exact List.mem_cons_self
  · rw [order]
    exact List.mem_cons_of_mem _ (List.mem_filter.2 ⟨List.mem_range.2 h, by simpa using hi⟩)

theorem nodup_order (c : ChainedCredential) : c.order.Nodup := by
  rw [order_eq, List.nodup_cons]
  exact ⟨List.nodup_range.not_mem_erase, List.nodup_range.erase _⟩

/-! ## Asking the sources of a list -/

/-- How asking the sources of a list in turn ends: with this answer, after these notes. -/
inductive Asking (order : List Nat) :
    Except (List (Nat × StoreError)) (Nat × String) →
      List (Nat × Except StoreError String) → Prop
  /-- A source has a token after all before it have failed; those behind it are not asked. -/
  | found {failures : List (Nat × StoreError)} {i : Nat} {token : String} {rest : List Nat}
      (h : order = failures.map Prod.fst ++ i :: rest) :
      Asking order (.ok (i, token)) (failures.map failed ++ [(i, .ok token)])
  /-- All have failed. -/
  | exhausted {failures : List (Nat × StoreError)} (h : order = failures.map Prod.fst) :
      Asking order (.error failures) (failures.map failed)

/-- There is no other way, and taking notes does not change what happens. -/
theorem asking_askAll (ask : AskSource τ) (order : List Nat)
    (notes : List (Nat × Except StoreError String)) (state : τ) :
    ∃ answer asked after, askAll ask order state = (answer, after) ∧
      askAll (noted ask) order (notes, state) = (answer, notes ++ asked, after) ∧
      Asking order answer asked := by
  induction order generalizing notes state with
  | nil => exact ⟨.error [], [], state, rfl, by rw [askAll, List.append_nil], .exhausted rfl⟩
  | cons i rest ih =>
    rcases hask : ask i state with ⟨e | token, after⟩
    · obtain ⟨answer, asked, last, hplain, hnoted, hrest⟩ :=
        ih (notes ++ [(i, .error e)]) after
      rw [askAll, askAll, hask, noted_of_eq hask]
      dsimp only
      rw [hplain, hnoted]
      cases hrest with
      | @found failures j token rest h =>
        refine ⟨.ok (j, token), failed (i, e) :: (failures.map failed ++ [(j, .ok token)]), last,
          rfl, by simp [failed], ?_⟩
        exact @Asking.found _ ((i, e) :: failures) j token rest
          (by rw [h, List.map_cons, List.cons_append])
      | @exhausted failures h =>
        refine ⟨.error ((i, e) :: failures), failed (i, e) :: failures.map failed, last, rfl,
          by simp [failed], ?_⟩
        exact @Asking.exhausted _ ((i, e) :: failures) (by rw [h, List.map_cons])
    · refine ⟨.ok (i, token), [(i, .ok token)], after, ?_, ?_, @Asking.found _ [] i token rest rfl⟩
      · rw [askAll, hask]
      · rw [askAll, noted_of_eq hask]

/-! ## One call -/

/-- All that a call of a chain can come to: the call, and the chain after it. -/
inductive Makes (c : ChainedCredential) : Call → ChainedCredential → Prop
  /-- A source has a token, and is asked first from now on. -/
  | found {failures : List (Nat × StoreError)} {i : Nat} {token : String} {rest : List Nat}
      (h : c.order = failures.map Prod.fst ++ i :: rest) (hlt : i < c.sources.length) :
      Makes c { asked := failures.map failed ++ [(i, .ok token)], answer := .ok token }
        { c with preferred := i, preferred_lt := hlt }
  /-- No source has one, and nothing changes. -/
  | exhausted {failures : List (Nat × StoreError)} (h : c.order = failures.map Prod.fst) :
      Makes c { asked := failures.map failed, answer := .error (c.allFailed failures) } c

theorem getToken_of_ok {ask : AskSource τ} {c : ChainedCredential} {state after : τ} {i : Nat}
    {token : String} (h : askAll ask c.order state = (.ok (i, token), after)) :
    c.getToken ask state =
      (.ok token, { c with preferred := i, preferred_lt := lt_of_mem_order (mem_of_askAll h) },
        after) := by
  unfold getToken
  split
  · next h' =>
    rw [h] at h'
    cases h'
    rfl
  · next h' =>
    rw [h] at h'
    cases h'

theorem getToken_of_error {ask : AskSource τ} {c : ChainedCredential} {state after : τ}
    {failures : List (Nat × StoreError)}
    (h : askAll ask c.order state = (.error failures, after)) :
    c.getToken ask state = (.error (c.allFailed failures), c, after) := by
  unfold getToken
  split
  · next h' =>
    rw [h] at h'
    cases h'
  · next h' =>
    rw [h] at h'
    cases h'
    rfl

/-- A call with notes is the plain call, and comes to one of these. -/
theorem makes_call (ask : AskSource τ) (c : ChainedCredential) (state : τ) :
    c.getToken ask state = ((c.call ask state).1.answer, (c.call ask state).2) ∧
      Makes c (c.call ask state).1 (c.call ask state).2.1 := by
  obtain ⟨answer, asked, after, hplain, hnoted, hasking⟩ := asking_askAll ask c.order [] state
  cases hasking with
  | found h =>
    rw [call, getToken_of_ok hplain, getToken_of_ok hnoted]
    exact ⟨rfl, .found h (lt_of_mem_order (mem_of_askAll hplain))⟩
  | exhausted h =>
    rw [call, getToken_of_error hplain, getToken_of_error hnoted]
    exact ⟨rfl, .exhausted h⟩

/-- Whether a line tells of the failure of one of these sources. -/
def TellsOf (sources : List ChainSource) (failure : Nat × StoreError) (line : String) : Prop :=
  ∃ source, sources[failure.1]? = some source ∧
    line = source.label ++ ": " ++ failure.2.describe

/-- What a call of a chain of these sources has to be, when this source is the one to ask first. -/
structure Call.Proper (sources : List ChainSource) (first : Nat) (call : Call) : Prop where
  asks_first : call.order.head? = some first
  /-- The others are asked in their configured order, without a gap. -/
  in_order : call.order <+: first :: (List.range sources.length).erase first
  once : call.order.Nodup
  /-- Only the last source that was asked may have had a token. -/
  stops : ∀ entry ∈ call.asked.dropLast, entry.2.isOk = false
  answer_eq_ok_iff : ∀ token, call.answer = .ok token ↔ ∃ i, (i, .ok token) ∈ call.asked
  fails_iff : (∃ e, call.answer = .error e) ↔
    ∀ i < sources.length, ∃ e, (i, .error e) ∈ call.asked
  /-- A failure tells of the failure of each source, in the order of asking. -/
  failure_eq : ∀ e, call.answer = .error e → ∃ failures lines,
    call.asked = failures.map failed ∧ List.Forall₂ (TellsOf sources) failures lines ∧
      e = credentialFailure
        ("No credential in the chain succeeded: " ++ "; ".intercalate lines)

theorem map_fst_failed (failures : List (Nat × StoreError)) :
    (failures.map failed).map Prod.fst = failures.map Prod.fst := by
  rw [List.map_map]
  rfl

theorem mem_map_failed_iff {failures : List (Nat × StoreError)} {i : Nat}
    {answer : Except StoreError String} :
    (i, answer) ∈ failures.map failed ↔ ∃ e, answer = .error e ∧ (i, e) ∈ failures := by
  rw [List.mem_map]
  constructor
  · rintro ⟨⟨j, e⟩, hmem, h⟩
    cases h
    exact ⟨e, rfl, hmem⟩
  · rintro ⟨e, rfl, hmem⟩
    exact ⟨(i, e), hmem, rfl⟩

/-- The texts of failures tell of them. -/
theorem tellsOf_failureText (c : ChainedCredential) {failures : List (Nat × StoreError)}
    (h : ∀ failure ∈ failures, failure.1 < c.sources.length) :
    List.Forall₂ (TellsOf c.sources) failures (failures.map c.failureText) := by
  refine List.forall₂_map_right_iff.2 (List.forall₂_same.2 fun failure hmem ↦ ?_)
  have hsource := List.getElem?_eq_getElem (h failure hmem)
  refine ⟨_, hsource, ?_⟩
  rw [failureText, hsource, Option.map_some, Option.getD_some]

/-- Sources that are asked as far as a front part of the order goes are asked properly. -/
theorem order_of_append {c : ChainedCredential} {asked rest : List Nat} (hne : asked ≠ [])
    (h : c.order = asked ++ rest) :
    asked.head? = some c.preferred ∧
      asked <+: c.preferred :: (List.range c.sources.length).erase c.preferred ∧
      asked.Nodup := by
  have hprefix : asked <+: c.order := ⟨rest, h.symm⟩
  refine ⟨?_, order_eq c ▸ hprefix, hprefix.sublist.nodup (nodup_order c)⟩
  rw [← List.head?_append_of_ne_nil asked hne, ← h, order, List.head?_cons]

/-- A call that ends with a token is proper. -/
theorem proper_of_found {c : ChainedCredential} {failures : List (Nat × StoreError)} {i : Nat}
    {token : String} {rest : List Nat} (h : c.order = failures.map Prod.fst ++ i :: rest) :
    Call.Proper c.sources c.preferred
      { asked := failures.map failed ++ [(i, .ok token)], answer := .ok token } := by
  have hsplit : c.order = (failures.map Prod.fst ++ [i]) ++ rest := by
    rw [h, List.append_assoc, List.singleton_append]
  obtain ⟨hfirst, horder, honce⟩ := order_of_append (by simp) hsplit
  have hasked : Call.order
      { asked := failures.map failed ++ [(i, .ok token)], answer := .ok token } =
      failures.map Prod.fst ++ [i] := by
    rw [Call.order, List.map_append, map_fst_failed, List.map_singleton]
  refine ⟨hasked ▸ hfirst, hasked ▸ horder, hasked ▸ honce, ?_, ?_, ?_, nofun⟩
  · intro entry hentry
    rw [List.dropLast_concat, List.mem_map] at hentry
    obtain ⟨failure, -, rfl⟩ := hentry
    rfl
  · intro other
    constructor
    · rintro h
      cases h
      exact ⟨i, List.mem_concat_self⟩
    · rintro ⟨j, hj⟩
      rcases List.mem_append.1 hj with hj | hj
      · obtain ⟨e, he, -⟩ := mem_map_failed_iff.1 hj
        cases he
      · cases List.mem_singleton.1 hj
        rfl
  · constructor
    · rintro ⟨e, he⟩
      cases he
    · intro hall
      -- the source that had the token is not among those that failed
      have hi : i < c.sources.length := lt_of_mem_order (h ▸ by simp)
      obtain ⟨e, hmem⟩ := hall i hi
      rcases List.mem_append.1 hmem with hmem | hmem
      · obtain ⟨e', -, hfailure⟩ := mem_map_failed_iff.1 hmem
        have hboth := (List.nodup_append.1 honce).2.2 i (List.mem_map_of_mem hfailure) i
          List.mem_cons_self
        exact absurd rfl hboth
      · cases List.mem_singleton.1 hmem

/-- A call that finds no token is proper. -/
theorem proper_of_exhausted {c : ChainedCredential} {failures : List (Nat × StoreError)}
    (h : c.order = failures.map Prod.fst) :
    Call.Proper c.sources c.preferred
      { asked := failures.map failed, answer := .error (c.allFailed failures) } := by
  have hall : c.order = failures.map Prod.fst ++ [] := by rw [h, List.append_nil]
  obtain ⟨hfirst, horder, honce⟩ := order_of_append (by simp [← h, order]) hall
  have hasked : Call.order
      { asked := failures.map failed, answer := .error (c.allFailed failures) } =
      failures.map Prod.fst := map_fst_failed failures
  refine ⟨hasked ▸ hfirst, hasked ▸ horder, hasked ▸ honce, ?_, ?_, ?_, ?_⟩
  · intro entry hentry
    obtain ⟨failure, -, rfl⟩ := List.mem_map.1 ((List.dropLast_sublist _).subset hentry)
    rfl
  · intro token
    constructor
    · rintro ⟨⟩
    · rintro ⟨i, hi⟩
      obtain ⟨e, he, -⟩ := mem_map_failed_iff.1 hi
      cases he
  · refine ⟨fun _ i hi ↦ ?_, fun _ ↦ ⟨_, rfl⟩⟩
    have hmem : i ∈ failures.map Prod.fst := h ▸ mem_order_iff.2 hi
    obtain ⟨⟨j, e⟩, hfailure, rfl⟩ := List.mem_map.1 hmem
    exact ⟨e, mem_map_failed_iff.2 ⟨e, rfl, hfailure⟩⟩
  · rintro _ ⟨⟩
    refine ⟨failures, failures.map c.failureText, rfl, tellsOf_failureText c ?_, rfl⟩
    intro failure hmem
    exact lt_of_mem_order (h ▸ List.mem_map_of_mem hmem)

theorem Makes.proper {c after : ChainedCredential} {call : Call} (h : Makes c call after) :
    call.Proper c.sources c.preferred := by
  cases h with
  | found h hlt => exact proper_of_found h
  | exhausted h => exact proper_of_exhausted h

/-- A call keeps the sources, and prefers the one that had the token; if none had one, the same as
before. -/
theorem Makes.after_eq {c after : ChainedCredential} {call : Call} (h : Makes c call after) :
    after.sources = c.sources ∧ after.preferred = call.found?.getD c.preferred := by
  have hnone (failures : List (Nat × StoreError)) :
      (failures.map failed).find? (fun entry ↦ entry.2.isOk) = none := by
    rw [List.find?_map, Option.map_eq_none_iff, List.find?_eq_none]
    intro failure _
    exact Bool.false_ne_true
  cases h with
  | found h hlt =>
    refine ⟨rfl, ?_⟩
    rw [Call.found?, List.find?_append, hnone]
    rfl
  | exhausted h =>
    refine ⟨rfl, ?_⟩
    rw [Call.found?, hnone]
    rfl

/-- A token is found by the source that is asked first from then on. -/
theorem Makes.preferred_of_mem {c after : ChainedCredential} {call : Call}
    (h : Makes c call after) {i : Nat} {token : String} (hmem : (i, .ok token) ∈ call.asked) :
    after.preferred = i := by
  cases h with
  | found h hlt =>
    rcases List.mem_append.1 hmem with hmem | hmem
    · obtain ⟨e, he, -⟩ := mem_map_failed_iff.1 hmem
      cases he
    · cases List.mem_singleton.1 hmem
      rfl
  | exhausted h =>
    obtain ⟨e, he, -⟩ := mem_map_failed_iff.1 hmem
    cases he

/-- A call that fails changes nothing. -/
theorem Makes.eq_of_error {c after : ChainedCredential} {call : Call} (h : Makes c call after)
    {e : StoreError} (he : call.answer = .error e) : after = c := by
  cases h with
  | found h hlt => cases he
  | exhausted h => rfl

/-! ## Any number of calls -/

/-- **A chain prefers the source that had the token last.**  The first one counts as preferred until
a source has had one. -/
theorem preferred_calls (ask : AskSource τ) {c : ChainedCredential} (hnew : c.preferred = 0)
    (state : τ) (n : Nat) :
    (c.calls ask state n).1.length = n ∧ (c.calls ask state n).2.1.sources = c.sources ∧
      (c.calls ask state n).2.1.preferred = lastFound (c.calls ask state n).1 := by
  induction n with
  | zero => exact ⟨rfl, rfl, hnew⟩
  | succ n ih =>
    obtain ⟨hlength, hsources, hpreferred⟩ := ih
    rw [calls]
    generalize c.calls ask state n = run at hlength hsources hpreferred
    obtain ⟨past, now, state⟩ := run
    obtain ⟨hkept, hafter⟩ := (makes_call ask now state).2.after_eq
    refine ⟨?_, hkept.trans hsources, ?_⟩
    · rw [List.length_append, hlength, List.length_singleton]
    · rw [lastFound_append, hafter, ← hpreferred]

theorem ofSources_of_ne_nil {sources : List ChainSource} (h : sources ≠ []) :
    ∃ c, ofSources sources = .ok c ∧ c.sources = sources ∧ c.preferred = 0 := by
  rw [ofSources, dif_pos (List.length_pos_of_ne_nil h)]
  exact ⟨_, rfl, rfl, rfl⟩

/-- **What a call of a chain does after any number of calls.**  Of any sources, at least one, there
is a chain.  After so many calls it prefers the source that had the token in the latest call that
got one, which is one of its sources.  The next call asks the preferred source first and is proper
in all other ways, whether notes are taken or not.  The source that had its token is preferred from
then on; if it fails, nothing changes. -/
theorem call_after_calls (ask : AskSource τ) {sources : List ChainSource} (hne : sources ≠ [])
    (state : τ) (n : Nat) :
    ∃ c, ofSources sources = .ok c ∧
      let run := c.calls ask state n
      let past := run.1
      let now := run.2.1
      let next := now.call ask run.2.2
      past.length = n ∧ now.preferred = lastFound past ∧ now.preferred < sources.length ∧
        now.getToken ask run.2.2 = (next.1.answer, next.2) ∧
        next.1.Proper sources (lastFound past) ∧
        (∀ i token, (i, .ok token) ∈ next.1.asked → next.2.1.preferred = i) ∧
        ∀ e, next.1.answer = .error e → next.2.1 = now := by
  obtain ⟨c, hc, hsources, hnew⟩ := ofSources_of_ne_nil hne
  obtain ⟨hlength, hkept, hpreferred⟩ := preferred_calls ask hnew state n
  refine ⟨c, hc, ?_⟩
  intro run past now next
  have hnow : now.sources = sources := hkept.trans hsources
  obtain ⟨hplain, hmakes⟩ := makes_call ask now run.2.2
  have hproper : next.1.Proper now.sources now.preferred := hmakes.proper
  refine ⟨hlength, hpreferred, hnow ▸ now.preferred_lt, hplain, ?_, fun i token hmem ↦ ?_,
    fun e he ↦ ?_⟩
  · rw [hnow, hpreferred] at hproper
    exact hproper
  · exact hmakes.preferred_of_mem hmem
  · exact hmakes.eq_of_error he

/-! ### Sources that change their minds -/

/-- Three sources: the first never has a token, the second only at first, and the third only when it
is asked again. -/
def moodySources : List ScriptedSource :=
  [{ results := [none], asked := 0 },
    { results := [some "second", none], asked := 0 },
    { results := [none, some "third"], asked := 0 }]

/-- The first call finds a token at the second source, and the second call none at all. -/
theorem third_call_asks_second_first :
    let sources : List ChainSource := [.env, .cli, .managedIdentity]
    sources ≠ [] ∧ ∃ c, ofSources sources = .ok c ∧
      let run := c.calls ScriptedSource.ask moodySources 2
      let next := (run.2.1.call ScriptedSource.ask run.2.2).1
      next.answer = .ok "third" ∧ next.order.head? = some 1 ∧ next.order <+: [1, 0, 2] ∧
        ∃ i, (i, .ok "third") ∈ next.asked := by
  intro sources
  have hne : sources ≠ [] := nofun
  obtain ⟨c, hc, -, -, -, -, hproper, -, -⟩ :=
    call_after_calls ScriptedSource.ask hne moodySources 2
  refine ⟨hne, c, hc, ?_⟩
  intro run next
  cases hc
  have hanswer : next.answer = .ok "third" := rfl
  exact ⟨hanswer, hproper.asks_first, hproper.in_order,
    (hproper.answer_eq_ok_iff "third").1 hanswer⟩

end BlobFs.ChainedCredential

import BlobFs.Credential.Chain
import BlobFs.Store.Basic

/-!
# A chain of token sources

A chained credential asks its sources for a token until one has it.  The source that had it last
time is asked first, then the others in their configured order; a call that no source can answer
changes nothing about that.

How a source comes by a token is left open: `ask` is any step on a state `τ` that answers the number
of a source.
-/

set_option autoImplicit false

namespace BlobFs

/-- Sources in order, and the one to ask first.  There is always a source. -/
structure ChainedCredential where
  sources : List ChainSource
  preferred : Nat
  preferred_lt : preferred < sources.length

/-- A step that asks the source with this number for a token. -/
abbrev AskSource (τ : Type) := Nat → τ → Except StoreError String × τ

/-- A failure of this library's own credentials. -/
def credentialFailure (message : String) : StoreError :=
  .generic "MicrosoftAzure" message

namespace ChainedCredential

variable {τ : Type}

/-- A chain of these sources; there must be one. -/
def ofSources (sources : List ChainSource) : Except StorageError ChainedCredential :=
  if h : 0 < sources.length then .ok { sources, preferred := 0, preferred_lt := h }
  else .error .unusableChain

/-- The numbers of the sources in the order of asking: the preferred one, then the others. -/
def order (c : ChainedCredential) : List Nat :=
  c.preferred :: (List.range c.sources.length).filter (· ≠ c.preferred)

theorem lt_of_mem_order {c : ChainedCredential} {i : Nat} (h : i ∈ c.order) :
    i < c.sources.length := by
  rcases List.mem_cons.1 h with rfl | h
  · exact c.preferred_lt
  · simpa using (List.mem_filter.1 h).1

/-- Asks sources in turn: the first success with the number of its source, or all failures. -/
def askAll (ask : AskSource τ) :
    List Nat → τ → Except (List (Nat × StoreError)) (Nat × String) × τ
  | [], state => (.error [], state)
  | i :: rest, state =>
    match ask i state with
    | (.ok token, state) => (.ok (i, token), state)
    | (.error e, state) =>
      match askAll ask rest state with
      | (.ok found, state) => (.ok found, state)
      | (.error failures, state) => (.error ((i, e) :: failures), state)

theorem mem_of_askAll {ask : AskSource τ} {order : List Nat} {state state' : τ} {i : Nat}
    {token : String} (h : askAll ask order state = (.ok (i, token), state')) : i ∈ order := by
  induction order generalizing state with
  | nil => simp [askAll] at h
  | cons j rest ih =>
    rw [askAll] at h
    split at h
    · simp only [Prod.mk.injEq, Except.ok.injEq] at h
      simp [h.1.1]
    · split at h
      · next he =>
        simp only [Prod.mk.injEq, Except.ok.injEq] at h
        exact List.mem_cons_of_mem _ (ih (by rw [he, h.1, h.2]))
      · simp at h

/-- One failure of a call that nobody answered. -/
def failureText (c : ChainedCredential) (failure : Nat × StoreError) : String :=
  ((c.sources[failure.1]?).map ChainSource.label).getD "" ++ ": " ++ failure.2.describe

/-- What a call answers when every source has failed. -/
def allFailed (c : ChainedCredential) (failures : List (Nat × StoreError)) : StoreError :=
  credentialFailure
    ("No credential in the chain succeeded: " ++ "; ".intercalate (failures.map c.failureText))

/-- Asks for a token. -/
def getToken (ask : AskSource τ) (c : ChainedCredential) (state : τ) :
    Except StoreError String × ChainedCredential × τ :=
  match h : askAll ask c.order state with
  | (.ok (i, token), state) =>
    (.ok token, { c with preferred := i, preferred_lt := lt_of_mem_order (mem_of_askAll h) }, state)
  | (.error failures, state) => (.error (c.allFailed failures), c, state)

end ChainedCredential

end BlobFs

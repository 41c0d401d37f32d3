import BlobFs.Entries
import BlobFs.Text.Quoted
import BlobFs.Text.Split

/-!
# Secrets

A secret is a named bag of text values that is registered once and used wherever its scope reaches.
Its type says what kind of storage it is for, its provider how its values are to be understood, and
its scope on which paths it may be used: those that begin with one of the entries, or every path
when there is no entry.

A description of a secret shows the names of its values but never the values.
-/

set_option autoImplicit false

namespace BlobFs

/-- A registered bag of values. -/
structure Secret where
  name : String
  type : String
  provider : String
  scope : List String
  values : Entries
  deriving DecidableEq

namespace Secret

/-- The type of secrets for blob storage. -/
def azureType : String := "azure"

/-- The provider of a secret that names none. -/
def defaultProvider : String := "config"

/-- A value by its name; an empty one counts as absent. -/
def get? (s : Secret) (key : String) : Option String :=
  (s.values.get? key).filter fun value ↦ !value.isEmpty

/-- How well the secret fits a path: the byte length of the longest scope entry that the path begins
with, 0 for a secret without scope, none if the secret does not reach the path. -/
def matchLength (s : Secret) (path : String) : Option Nat :=
  if s.scope.isEmpty then some 0
  else ((s.scope.filter (Text.startsWith path)).map String.utf8ByteSize).max?

private def ascending (keys : List String) : List String :=
  keys.mergeSort fun a b ↦ !decide (b < a)

/-- The secret described without its values. -/
def debug (s : Secret) : String :=
  Text.describeRecord "KeyValueSecret" [
    ("name", Text.quote s.name),
    ("secret_type", Text.quote s.type),
    ("provider", Text.quote s.provider),
    ("scope", Text.describeList Text.quote s.scope),
    ("keys", Text.describeList Text.quote (ascending s.values.keys))]

private theorem ascending_congr {keys keys' : List String} (h : keys.Perm keys') :
    ascending keys = ascending keys' := by
  have hordered (keys : List String) :
      (ascending keys).Pairwise fun a b ↦ (!decide (b < a)) = true := by
    refine List.pairwise_mergeSort (fun a b c hab hbc ↦ ?_) (fun a b ↦ ?_) keys
    · simp only [Bool.not_eq_true', decide_eq_false_iff_not, String.not_lt] at *
      exact String.le_trans hab hbc
    · simp only [Bool.or_eq_true, Bool.not_eq_true', decide_eq_false_iff_not, String.not_lt]
      exact String.le_total a b
  have hperm : (ascending keys).Perm (ascending keys') :=
    (List.mergeSort_perm keys _).trans (h.trans (List.mergeSort_perm keys' _).symm)
  refine hperm.eq_of_pairwise (fun a b _ _ hab hba ↦ ?_) (hordered keys) (hordered keys')
  simp only [Bool.not_eq_true', decide_eq_false_iff_not, String.not_lt] at hab hba
  exact String.le_antisymm hab hba

/-- Of the values a description shows no more than which there are. -/
theorem debug_congr {s t : Secret} (hname : s.name = t.name) (htype : s.type = t.type)
    (hprovider : s.provider = t.provider) (hscope : s.scope = t.scope)
    (hvalues : ∀ key, (s.values.get? key).isSome = (t.values.get? key).isSome) :
    s.debug = t.debug := by
  rw [debug, debug, hname, htype, hprovider, hscope, ascending_congr (Entries.keys_perm hvalues)]

end Secret

end BlobFs

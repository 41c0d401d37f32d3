/-!
# Named text values

Settings and secrets are maps from names to texts.  `Entries` is such a map: a list of pairs in
which the first pair with a name decides.  The order of the names has no meaning.
-/

set_option autoImplicit false

namespace BlobFs

/-- A map from names to texts. -/
structure Entries where
  toList : List (String × String)
  deriving DecidableEq

namespace Entries

/-- No names at all. -/
def empty : Entries := ⟨[]⟩

/-- The value of a name. -/
def get? (m : Entries) (key : String) : Option String :=
  m.toList.lookup key

/-- The map without a name. -/
def erase (m : Entries) (key : String) : Entries :=
  ⟨m.toList.filter fun entry ↦ entry.1 != key⟩

/-- The map with one value set. -/
def set (m : Entries) (key value : String) : Entries :=
  ⟨(key, value) :: (m.erase key).toList⟩

/-- The map with all values of `more` set. -/
def extend (m more : Entries) : Entries :=
  more.toList.foldr (fun entry acc ↦ acc.set entry.1 entry.2) m

/-- The map in which later pairs of the list win. -/
def ofList (pairs : List (String × String)) : Entries :=
  pairs.foldl (fun acc entry ↦ acc.set entry.1 entry.2) empty

/-- The names, each once. -/
def keys (m : Entries) : List String :=
  (m.toList.map Prod.fst).eraseDups

@[simp] theorem get?_empty (key : String) : empty.get? key = none := rfl

private theorem lookup_filter_ne (key other : String) (pairs : List (String × String)) :
    (pairs.filter fun entry ↦ entry.1 != key).lookup other =
      if other = key then none else pairs.lookup other := by
  induction pairs with
  | nil => simp
  | cons entry pairs ih =>
    obtain ⟨name, value⟩ := entry
    by_cases ho : other = name
    · subst ho
      by_cases hk : other = key
      · subst hk
        simpa using ih
      · simp [hk]
    · have hb : (other == name) = false := by simpa using ho
      by_cases hk : name = key
      · simp [List.lookup_cons, hk ▸ hb, hk, ih]
      · simp [List.lookup_cons, hb, hk, ih]

@[simp] theorem get?_erase (m : Entries) (key other : String) :
    (m.erase key).get? other = if other = key then none else m.get? other :=
  lookup_filter_ne key other m.toList

@[simp] theorem get?_set (m : Entries) (key value other : String) :
    (m.set key value).get? other = if other = key then some value else m.get? other := by
  by_cases h : other = key
  · simp [set, get?, h]
  · have hb : (other == key) = false := by simpa using h
    have := get?_erase m key other
    simp only [get?, h, if_false] at this
    simp [set, get?, List.lookup_cons, hb, h, this]

/-! ## Names -/

private theorem nodup_eraseDups (names : List String) : names.eraseDups.Nodup := by
  match names with
  | [] => simp
  | name :: rest =>
    have hshorter := List.length_filter_le (fun other ↦ !other == name) rest
    rw [List.eraseDups_cons, List.nodup_cons]
    exact ⟨by simp [List.mem_eraseDups], nodup_eraseDups _⟩
termination_by names.length
decreasing_by simp only [List.length_cons]; omega

theorem nodup_keys (m : Entries) : m.keys.Nodup :=
  nodup_eraseDups _

/-- The names are those that have a value. -/
theorem mem_keys_iff {m : Entries} {key : String} : key ∈ m.keys ↔ (m.get? key).isSome := by
  rw [keys, List.mem_eraseDups, get?, List.lookup_isSome_iff, List.mem_map]
  simp only [beq_iff_eq]
  exact ⟨fun ⟨entry, hin, h⟩ ↦ ⟨entry, hin, h.symm⟩, fun ⟨entry, hin, h⟩ ↦ ⟨entry, hin, h.symm⟩⟩

/-- Maps with values for the same names have the same names, but for the order. -/
theorem keys_perm {m m' : Entries} (h : ∀ key, (m.get? key).isSome = (m'.get? key).isSome) :
    m.keys.Perm m'.keys := by
  rw [List.perm_ext_iff_of_nodup m.nodup_keys m'.nodup_keys]
  intro key
  rw [mem_keys_iff, mem_keys_iff, h]

end Entries

end BlobFs

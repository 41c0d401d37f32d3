import BlobFs.Proofs.Text.Cut
import BlobFs.Secret.Registry
import Mathlib.Data.List.Induction

/-!
# Which secrets are held, and which one is found

Secrets are registered and dropped one after the other (`SecretChange`), and every now and then one
is looked up for a path.

* `LatestAt` says at which change a secret was registered for good: no later change is about its
  name.  `Reflects` is the invariant that a registry keeps over all changes: it holds just these
  secrets, each name once, in the order of these registrations.
* `Secret.Reaches` and `Secret.FitsBy` say where a secret may be used and how well it fits there,
  without computing anything; `Secret.matchLength_eq_some_iff` is the bridge.
* `Best` is what the look-up has found among the secrets it has seen: one that fits better than all
  before it and no worse than all behind it.

`lookup_after_changes` puts the two together.
-/

set_option autoImplicit false

namespace BlobFs

/-! ## How well a secret fits -/

namespace Secret

variable {s : Secret} {path : String} {length : Nat}

/-- Whether the secret may be used for a path: anywhere, or where the path begins with an entry of
its scope. -/
def Reaches (s : Secret) (path : String) : Prop :=
  s.scope = [] ∨ ∃ entry ∈ s.scope, ∃ rest, path = entry ++ rest

/-- How well the secret fits a path: by nothing if it may be used anywhere, else by the bytes of the
longest entry of its scope that the path begins with. -/
def FitsBy (s : Secret) (path : String) (length : Nat) : Prop :=
  (s.scope = [] ∧ length = 0) ∨
    (∃ entry ∈ s.scope, (∃ rest, path = entry ++ rest) ∧ entry.utf8ByteSize = length) ∧
      ∀ entry ∈ s.scope, (∃ rest, path = entry ++ rest) → entry.utf8ByteSize ≤ length

theorem matchLength_eq_some_iff : s.matchLength path = some length ↔ s.FitsBy path length := by
  rw [matchLength, FitsBy]
  by_cases hscope : s.scope = []
  · simp [hscope, eq_comm]
  · have hempty : s.scope.isEmpty = false := by simpa using hscope
    simp only [hempty, Bool.false_eq_true, if_false, hscope, false_and, false_or,
      List.max?_eq_some_iff, List.mem_map, List.mem_filter, Text.startsWith_iff]
    constructor
    · rintro ⟨⟨entry, ⟨hin, hstart⟩, hlen⟩, hmax⟩
      exact ⟨⟨entry, hin, hstart, hlen⟩, fun other hother h ↦ hmax _ ⟨other, ⟨hother, h⟩, rfl⟩⟩
    · rintro ⟨⟨entry, hin, hstart, hlen⟩, hmax⟩
      refine ⟨⟨entry, ⟨hin, hstart⟩, hlen⟩, ?_⟩
      rintro _ ⟨other, ⟨hother, h⟩, rfl⟩
      exact hmax other hother h

theorem matchLength_eq_none_iff : s.matchLength path = none ↔ ¬ s.Reaches path := by
  rw [matchLength, Reaches]
  by_cases hscope : s.scope = []
  · simp [hscope]
  · have hempty : s.scope.isEmpty = false := by simpa using hscope
    simp only [hempty, Bool.false_eq_true, if_false, hscope, false_or, List.max?_eq_none_iff,
      List.map_eq_nil_iff, List.filter_eq_nil_iff, Text.startsWith_iff, not_exists, not_and]

/-- A secret that fits by some length reaches the path. -/
theorem FitsBy.reaches (h : s.FitsBy path length) : s.Reaches path := by
  rcases h with ⟨hscope, -⟩ | ⟨⟨entry, hin, hstart, -⟩, -⟩
  · exact .inl hscope
  · exact .inr ⟨entry, hin, hstart⟩

/-- It fits by one length only. -/
theorem FitsBy.eq {other : Nat} (h : s.FitsBy path length) (h' : s.FitsBy path other) :
    length = other := by
  rw [← matchLength_eq_some_iff] at h h'
  exact Option.some.inj (h.symm.trans h')

end Secret

/-! ## Changes -/

/-- A change of a registry. -/
inductive SecretChange where
  | register (secret : Secret)
  | drop (name : String)

namespace SecretChange

/-- The name that the change is about. -/
def name : SecretChange → String
  | .register secret => secret.name
  | .drop name => name

/-- The secret that the change adds, if it does. -/
def added : SecretChange → List Secret
  | .register secret => [secret]
  | .drop _ => []

theorem mem_added_iff {change : SecretChange} {secret : Secret} :
    secret ∈ change.added ↔ change = .register secret := by
  cases change with
  | register other => simp [added, eq_comm]
  | drop name => simp [added]

end SecretChange

namespace SecretRegistry

/-- The registry after one more change. -/
def change (r : SecretRegistry) : SecretChange → SecretRegistry
  | .register secret => r.register secret
  | .drop name => (r.drop name).2

/-- The registry after these changes, empty at the beginning. -/
def after (changes : List SecretChange) : SecretRegistry :=
  changes.foldl change empty

/-- What a change removes, and what it adds behind the rest. -/
theorem secrets_change (r : SecretRegistry) (c : SecretChange) :
    (r.change c).secrets = (r.secrets.filter fun secret ↦ secret.name != c.name) ++ c.added := by
  cases c with
  | register secret => rfl
  | drop name => exact (List.append_nil _).symm

/-- The change at this place registers the secret, and no later one is about its name. -/
def LatestAt (changes : List SecretChange) (i : Nat) (secret : Secret) : Prop :=
  changes[i]? = some (.register secret) ∧
    ∀ j c, i < j → changes[j]? = some c → c.name ≠ secret.name

/-- One more change: earlier registrations of its name no longer count. -/
theorem latestAt_append_iff {changes : List SecretChange} {c : SecretChange} {i : Nat}
    {secret : Secret} :
    LatestAt (changes ++ [c]) i secret ↔
      LatestAt changes i secret ∧ secret.name ≠ c.name ∨
        i = changes.length ∧ c = .register secret := by
  have hnew : (changes ++ [c])[changes.length]? = some c := List.getElem?_concat_length
  constructor
  · rintro ⟨hat, hlater⟩
    rcases Nat.lt_or_ge i changes.length with hi | hi
    · rw [List.getElem?_append_left hi] at hat
      refine .inl ⟨⟨hat, fun j other hij hj ↦ hlater j other hij ?_⟩,
        (hlater _ c hi hnew).symm⟩
      rwa [List.getElem?_append_left (List.getElem?_eq_some_iff.1 hj).1]
    · have hlen := (List.getElem?_eq_some_iff.1 hat).1
      rw [List.length_append, List.length_singleton] at hlen
      obtain rfl : i = changes.length := by omega
      rw [hnew] at hat
      exact .inr ⟨rfl, Option.some.inj hat⟩
  · rintro (⟨⟨hat, hlater⟩, hne⟩ | ⟨rfl, rfl⟩)
    · refine ⟨?_, fun j other hij hj ↦ ?_⟩
      · rwa [List.getElem?_append_left (List.getElem?_eq_some_iff.1 hat).1]
      · rcases Nat.lt_or_ge j changes.length with hlt | hge
        · rw [List.getElem?_append_left hlt] at hj
          exact hlater j other hij hj
        · have hlen := (List.getElem?_eq_some_iff.1 hj).1
          rw [List.length_append, List.length_singleton] at hlen
          obtain rfl : j = changes.length := by omega
          rw [hnew] at hj
          exact Option.some.inj hj ▸ hne.symm
    · refine ⟨hnew, fun j other hij hj ↦ ?_⟩
      have hlen := (List.getElem?_eq_some_iff.1 hj).1
      rw [List.length_append, List.length_singleton] at hlen
      omega

/-- The registry holds the secrets that the changes have left, in the order of their
registrations. -/
structure Reflects (r : SecretRegistry) (changes : List SecretChange) : Prop where
  distinct : (r.secrets.map Secret.name).Nodup
  mem_iff : ∀ secret, secret ∈ r.secrets ↔ ∃ i, LatestAt changes i secret
  ordered : r.secrets.Pairwise fun s t ↦
    ∃ i j, i < j ∧ LatestAt changes i s ∧ LatestAt changes j t

theorem reflects_empty : empty.Reflects [] where
  distinct := .nil
  mem_iff secret := by simp [empty, LatestAt]
  ordered := .nil

/-- One more change keeps the invariant. -/
theorem Reflects.change {r : SecretRegistry} {changes : List SecretChange} (h : r.Reflects changes)
    (c : SecretChange) : (r.change c).Reflects (changes ++ [c]) where
  distinct := by
    rw [secrets_change, List.map_append, List.nodup_append]
    refine ⟨h.distinct.sublist (List.filter_sublist.map _), ?_, ?_⟩
    · cases c with
      | register secret => exact List.pairwise_singleton _ _
      | drop name => exact .nil
    · intro name hkept other hadded
      obtain ⟨s, hs, rfl⟩ := List.mem_map.1 hkept
      obtain ⟨t, ht, rfl⟩ := List.mem_map.1 hadded
      obtain rfl := SecretChange.mem_added_iff.1 ht
      exact bne_iff_ne.1 (List.mem_filter.1 hs).2
  mem_iff secret := by
    rw [secrets_change, List.mem_append, List.mem_filter, h.mem_iff, bne_iff_ne,
      SecretChange.mem_added_iff]
    simp only [latestAt_append_iff, exists_or, exists_and_right, exists_eq, true_and]
  ordered := by
    rw [secrets_change, List.pairwise_append]
    refine ⟨?_, ?_, ?_⟩
    · refine (h.ordered.filter _).imp_of_mem fun {s t} hs ht hst ↦ ?_
      obtain ⟨i, j, hij, hi, hj⟩ := hst
      exact ⟨i, j, hij, latestAt_append_iff.2 (.inl ⟨hi, bne_iff_ne.1 (List.mem_filter.1 hs).2⟩),
        latestAt_append_iff.2 (.inl ⟨hj, bne_iff_ne.1 (List.mem_filter.1 ht).2⟩)⟩
    · cases c with
      | register secret => exact List.pairwise_singleton _ _
      | drop name => exact .nil
    · intro s hs t ht
      obtain ⟨hin, hne⟩ := List.mem_filter.1 hs
      obtain ⟨i, hi⟩ := (h.mem_iff s).1 hin
      exact ⟨i, changes.length, (List.getElem?_eq_some_iff.1 hi.1).1,
        latestAt_append_iff.2 (.inl ⟨hi, bne_iff_ne.1 hne⟩),
        latestAt_append_iff.2 (.inr ⟨rfl, SecretChange.mem_added_iff.1 ht⟩)⟩

/-- **A registry holds what its changes have left.** -/
theorem reflects_after (changes : List SecretChange) : (after changes).Reflects changes := by
  induction changes using List.reverseRecOn with
  | nil => exact reflects_empty
  | append_singleton changes c ih =>
    rw [after, List.foldl_append]
    exact ih.change c

theorem holds_iff {r : SecretRegistry} {name : String} :
    r.holds name = true ↔ name ∈ r.secrets.map Secret.name := by
  simp [holds]

/-! ## The best of the secrets seen -/

/-- What has been found among these secrets: none if none reaches the path, else one that fits
better than all before it and no worse than all behind it. -/
def Best (path : String) (seen : List Secret) : Option (Nat × Secret) → Prop
  | none => ∀ secret ∈ seen, ¬ secret.Reaches path
  | some (length, secret) =>
    ∃ before later, seen = before ++ secret :: later ∧ secret.FitsBy path length ∧
      (∀ other ∈ before, ∀ n, other.FitsBy path n → n < length) ∧
        ∀ other ∈ later, ∀ n, other.FitsBy path n → n ≤ length

variable {path : String} {seen : List Secret} {best : Option (Nat × Secret)}

/-- One more secret: it is taken if it fits better than what has been found. -/
theorem Best.better (h : Best path seen best) (secret : Secret) :
    Best path (seen ++ [secret]) (better path best secret) := by
  -- a best one that stays has one more behind it
  have hstays : ∀ length found, Best path seen (some (length, found)) →
      (∀ n, secret.FitsBy path n → n ≤ length) →
      Best path (seen ++ [secret]) (some (length, found)) := by
    rintro length found ⟨before, later, rfl, hfits, hbefore, hlater⟩ hle
    refine ⟨before, later ++ [secret], by simp, hfits, hbefore, fun other hother ↦ ?_⟩
    rcases List.mem_append.1 hother with hin | hin
    · exact hlater other hin
    · rw [List.mem_singleton.1 hin]
      exact hle
  rw [better.eq_def]
  cases hlength : secret.matchLength path with
  | none =>
    have hnot := Secret.matchLength_eq_none_iff.1 hlength
    cases best with
    | none =>
      intro other hother
      rcases List.mem_append.1 hother with hin | hin
      · exact h other hin
      · rwa [List.mem_singleton.1 hin]
    | some found => exact hstays _ _ h fun n hn ↦ absurd hn.reaches hnot
  | some length =>
    have hfits := Secret.matchLength_eq_some_iff.1 hlength
    cases best with
    | none =>
      refine ⟨seen, [], rfl, hfits, fun other hother n hn ↦ ?_, nofun⟩
      exact absurd hn.reaches (h other hother)
    | some found =>
      obtain ⟨bestLength, found⟩ := found
      dsimp only
      split
      · next hlt =>
        obtain ⟨before, later, rfl, hfound, hbefore, hlater⟩ := h
        refine ⟨before ++ found :: later, [], rfl, hfits, fun other hother n hn ↦ ?_, nofun⟩
        rcases List.mem_append.1 hother with hin | hin
        · exact Nat.lt_trans (hbefore other hin n hn) hlt
        · rcases List.mem_cons.1 hin with rfl | hin
          · rwa [hn.eq hfound]
          · exact Nat.lt_of_le_of_lt (hlater other hin n hn) hlt
      · next hge => exact hstays _ _ h fun n hn ↦ hn.eq hfits ▸ Nat.not_lt.1 hge

/-- All secrets together. -/
theorem best_foldl_better (path : String) (secrets : List Secret) :
    Best path secrets (secrets.foldl (better path) none) := by
  induction secrets using List.reverseRecOn with
  | nil => exact fun _ hin ↦ absurd hin List.not_mem_nil
  | append_singleton secrets secret ih =>
    rw [List.foldl_append]
    exact ih.better secret

/-- **A look-up finds the first of the secrets that fit best.**  One is found if one of the type
reaches the path; it fits better than all of the type before it and no worse than all behind it. -/
theorem best_of_lookup (r : SecretRegistry) (path type : String) :
    match r.lookup path type with
    | none => ∀ secret ∈ r.secrets, secret.type = type → ¬ secret.Reaches path
    | some secret =>
      ∃ before later length, r.secrets = before ++ secret :: later ∧ secret.type = type ∧
        secret.FitsBy path length ∧
        (∀ other ∈ before, other.type = type → ∀ n, other.FitsBy path n → n < length) ∧
          ∀ other ∈ later, other.type = type → ∀ n, other.FitsBy path n → n ≤ length := by
  have hbest := best_foldl_better path (r.secrets.filter fun secret ↦ secret.type == type)
  rw [lookup]
  generalize (r.secrets.filter fun secret ↦ secret.type == type).foldl (better path) none = best
    at hbest
  cases best with
  | none =>
    exact fun secret hin htype ↦ hbest secret (List.mem_filter.2 ⟨hin, beq_iff_eq.2 htype⟩)
  | some found =>
    obtain ⟨length, secret⟩ := found
    obtain ⟨before, later, hfilter, hfits, hbefore, hlater⟩ := hbest
    obtain ⟨front, back, hsecrets, rfl, hback⟩ := List.filter_eq_append_iff.1 hfilter
    obtain ⟨skipped, rest, rfl, hskipped, htype, rfl⟩ := List.filter_eq_cons_iff.1 hback
    refine ⟨front ++ skipped, rest, length, by simp [hsecrets], beq_iff_eq.1 htype, hfits,
      fun other hin ho ↦ ?_, fun other hin ho ↦ ?_⟩
    · rcases List.mem_append.1 hin with hin | hin
      · exact hbefore other (List.mem_filter.2 ⟨hin, beq_iff_eq.2 ho⟩)
      · exact absurd (beq_iff_eq.2 ho) (hskipped other hin)
    · exact hlater other (List.mem_filter.2 ⟨hin, beq_iff_eq.2 ho⟩)

/-! ## After any changes -/

/-- **What is held and what is found after any changes.**

* The names of the secrets held are distinct.  Held are the secrets that were registered at a change
  after which none is about their name, and they stand in the order of these changes.
* Dropping a name says whether it was held.
* A look-up finds a secret if one of the type reaches the path.  The one found fits better than all
  of the type before it and no worse than all behind it. -/
theorem lookup_after_changes (changes : List SecretChange) (path type : String) :
    let r := after changes
    (r.secrets.map Secret.name).Nodup ∧
    (∀ secret, secret ∈ r.secrets ↔ ∃ i, LatestAt changes i secret) ∧
    (r.secrets.Pairwise fun s t ↦ ∃ i j, i < j ∧ LatestAt changes i s ∧ LatestAt changes j t) ∧
    (∀ name, (r.drop name).1 = true ↔ name ∈ r.secrets.map Secret.name) ∧
    ((∃ secret, r.lookup path type = some secret) ↔
      ∃ secret ∈ r.secrets, secret.type = type ∧ secret.Reaches path) ∧
    ∀ secret, r.lookup path type = some secret →
      ∃ before later length, r.secrets = before ++ secret :: later ∧ secret.type = type ∧
        secret.FitsBy path length ∧
        (∀ other ∈ before, other.type = type → ∀ n, other.FitsBy path n → n < length) ∧
          ∀ other ∈ later, other.type = type → ∀ n, other.FitsBy path n → n ≤ length := by
  intro r
  have hreflects := reflects_after changes
  have hbest := best_of_lookup r path type
  refine ⟨hreflects.distinct, hreflects.mem_iff, hreflects.ordered, fun name ↦ holds_iff, ?_, ?_⟩
  · constructor
    · rintro ⟨secret, hfound⟩
      rw [hfound] at hbest
      obtain ⟨before, later, length, hsecrets, htype, hfits, -⟩ := hbest
      exact ⟨secret, by simp [hsecrets], htype, hfits.reaches⟩
    · rintro ⟨secret, hin, htype, hreaches⟩
      cases hfound : r.lookup path type with
      | none =>
        rw [hfound] at hbest
        exact absurd hreaches (hbest secret hin htype)
      | some found => exact ⟨found, rfl⟩
  · intro secret hfound
    rwa [hfound] at hbest

-- Of two that fit equally well, the one registered again stands behind the other.
example :
    let secret := fun name ↦ (⟨name, Secret.azureType, "config", [], .empty⟩ : Secret)
    ((after [.register (secret "a"), .register (secret "b"), .register (secret "a")]).lookup
      "az://c/x" Secret.azureType).map Secret.name = some "b" := by decide +kernel

end SecretRegistry

end BlobFs

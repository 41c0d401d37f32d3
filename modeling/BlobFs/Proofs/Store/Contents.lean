import BlobFs.Proofs.Store.Path
import BlobFs.Service.Basic
import BlobFs.Store.Memory

/-!
# What a store in memory holds

A store is well-formed (`ObjectStore.WellFormed`) when its objects are in ascending order, no two at
one path, and lie at valid paths.  The empty store is, and every change by which a client reaches
another store keeps it so (`WellFormed.after`).

* `get?_put` — an object that is put is seen at its own path and at no other one.
* `ObjectStore.blobs` — the blobs of a container in order: the objects below its path, by what their
  paths add to it.  `mem_names_iff` says which names there are by asking for them one at a time, and
  `blobs_ascending` that they are in order.
-/

set_option autoImplicit false

namespace BlobFs

namespace ObjectPath

theorem precedes_iff {p q : ObjectPath} : p.precedes q = true ↔ p.text < q.text :=
  decide_eq_true_iff

theorem precedes_trans {p q r : ObjectPath} (hpq : p.precedes q = true)
    (hqr : q.precedes r = true) : p.precedes r = true :=
  precedes_iff.2 (String.lt_trans (precedes_iff.1 hpq) (precedes_iff.1 hqr))

theorem ne_of_precedes {p q : ObjectPath} (h : p.precedes q = true) : p ≠ q := by
  rintro rfl
  rw [not_precedes_self] at h
  cases h

end ObjectPath

namespace ObjectStore

/-! ## Well-formed stores -/

/-- Whether each object comes before all later ones. -/
def Ascending (objects : List (ObjectPath × StoredObject)) : Prop :=
  objects.Pairwise fun x y ↦ x.1.precedes y.1 = true

/-- Whether the objects are in ascending order and at valid paths. -/
structure WellFormed (s : ObjectStore) : Prop where
  ascending : Ascending s.objects
  valid : ∀ entry ∈ s.objects, entry.1.Valid

theorem mem_insertObject {path : ObjectPath} {object : StoredObject}
    {objects : List (ObjectPath × StoredObject)} (h : Ascending objects)
    {entry : ObjectPath × StoredObject} :
    entry ∈ insertObject path object objects ↔
      entry = (path, object) ∨ entry ∈ objects ∧ entry.1 ≠ path := by
  induction objects with
  | nil => simp [insertObject]
  | cons first rest ih =>
    obtain ⟨hfirst, hrest⟩ := List.pairwise_cons.1 h
    rw [insertObject]
    by_cases hbefore : path.precedes first.1 = true
    · -- Everything here comes after the new object.
      have hne : ∀ e ∈ first :: rest, e.1 ≠ path := by
        intro e he
        rcases List.mem_cons.1 he with rfl | he
        · exact (ObjectPath.ne_of_precedes hbefore).symm
        · exact (ObjectPath.ne_of_precedes (ObjectPath.precedes_trans hbefore (hfirst e he))).symm
      rw [if_pos hbefore, List.mem_cons]
      exact or_congr_right ⟨fun he ↦ ⟨he, hne entry he⟩, And.left⟩
    · rw [if_neg hbefore]
      by_cases hafter : first.1.precedes path = true
      · rw [if_pos hafter, List.mem_cons, List.mem_cons, ih hrest]
        constructor
        · rintro (rfl | rfl | ⟨he, hne⟩)
          · exact .inr ⟨.inl rfl, ObjectPath.ne_of_precedes hafter⟩
          · exact .inl rfl
          · exact .inr ⟨.inr he, hne⟩
        · rintro (rfl | ⟨rfl | he, hne⟩)
          · exact .inr (.inl rfl)
          · exact .inl rfl
          · exact .inr (.inr ⟨he, hne⟩)
      · rw [if_neg hafter]
        obtain rfl : path = first.1 :=
          ObjectPath.eq_of_not_precedes (Bool.not_eq_true _ ▸ hbefore) (Bool.not_eq_true _ ▸ hafter)
        rw [List.mem_cons, List.mem_cons]
        constructor
        · rintro (rfl | he)
          · exact .inl rfl
          · exact .inr ⟨.inr he, (ObjectPath.ne_of_precedes (hfirst entry he)).symm⟩
        · rintro (rfl | ⟨rfl | he, hne⟩)
          · exact .inl rfl
          · exact absurd rfl hne
          · exact .inr he

theorem Ascending.insertObject {path : ObjectPath} {object : StoredObject}
    {objects : List (ObjectPath × StoredObject)} (h : Ascending objects) :
    Ascending (insertObject path object objects) := by
  induction objects with
  | nil => exact List.pairwise_singleton _ _
  | cons first rest ih =>
    obtain ⟨hfirst, hrest⟩ := List.pairwise_cons.1 h
    rw [ObjectStore.insertObject]
    by_cases hbefore : path.precedes first.1 = true
    · rw [if_pos hbefore]
      refine List.pairwise_cons.2 ⟨fun e he ↦ ?_, h⟩
      rcases List.mem_cons.1 he with rfl | he
      · exact hbefore
      · exact ObjectPath.precedes_trans hbefore (hfirst e he)
    · rw [if_neg hbefore]
      by_cases hafter : first.1.precedes path = true
      · rw [if_pos hafter]
        refine List.pairwise_cons.2 ⟨fun e he ↦ ?_, ih hrest⟩
        rcases (mem_insertObject hrest).1 he with rfl | ⟨he, -⟩
        · exact hafter
        · exact hfirst e he
      · rw [if_neg hafter]
        obtain rfl : path = first.1 :=
          ObjectPath.eq_of_not_precedes (Bool.not_eq_true _ ▸ hbefore) (Bool.not_eq_true _ ▸ hafter)
        exact List.pairwise_cons.2 ⟨hfirst, hrest⟩

theorem wellFormed_empty : empty.WellFormed :=
  ⟨List.Pairwise.nil, nofun⟩

theorem WellFormed.put {s : ObjectStore} (h : s.WellFormed) {path : ObjectPath}
    (hp : path.Valid) (object : StoredObject) : (s.put path object).WellFormed := by
  refine ⟨h.ascending.insertObject, fun entry he ↦ ?_⟩
  rcases (mem_insertObject h.ascending).1 he with rfl | ⟨he, -⟩
  · exact hp
  · exact h.valid entry he

theorem WellFormed.delete {s : ObjectStore} (h : s.WellFormed) (path : ObjectPath) :
    (s.delete path).WellFormed :=
  ⟨h.ascending.filter _, fun entry he ↦ h.valid entry (List.mem_filter.1 he).1⟩

/-! ## One object -/

/-- In a well-formed store the object at a path is the one that is listed there. -/
theorem WellFormed.get?_eq_some_iff {s : ObjectStore} (h : s.WellFormed) {path : ObjectPath}
    {object : StoredObject} : s.get? path = some object ↔ (path, object) ∈ s.objects := by
  rw [get?]
  have hasc := h.ascending
  generalize s.objects = objects at hasc
  induction objects with
  | nil => simp
  | cons first rest ih =>
    obtain ⟨hfirst, hrest⟩ := List.pairwise_cons.1 hasc
    rw [List.find?_cons, List.mem_cons]
    by_cases heq : first.1 = path
    · have hrest' : (path, object) ∉ rest := fun he ↦
        ObjectPath.ne_of_precedes (hfirst _ he) heq
      simp only [beq_iff_eq.2 heq, Option.map_some, Option.some_inj, hrest', or_false]
      rw [← heq]
      exact ⟨fun he ↦ he ▸ rfl, fun he ↦ (congrArg Prod.snd he).symm⟩
    · have hne : (path, object) ≠ first := fun he ↦ heq (congrArg Prod.fst he).symm
      simp only [beq_eq_false_iff_ne.2 heq, ih hrest, hne, false_or]

/-- A written object is found at its path, and what lay at other paths is still there. -/
theorem WellFormed.get?_put {s : ObjectStore} (h : s.WellFormed) {path : ObjectPath}
    (hp : path.Valid) (object : StoredObject) (q : ObjectPath) :
    (s.put path object).get? q = if q = path then some object else s.get? q := by
  refine Option.ext fun found ↦ ?_
  rw [(h.put hp object).get?_eq_some_iff, ObjectStore.put, mem_insertObject h.ascending]
  by_cases hq : q = path
  · simp [hq, eq_comm]
  · rw [if_neg hq, h.get?_eq_some_iff]
    simp [hq]

/-! ## A store that changes -/

end ObjectStore

/-- One change to a store. -/
inductive StoreChange where
  | put (path : {p : ObjectPath // p.Valid}) (object : StoredObject)
  | delete (path : ObjectPath)

/-- The store after a change. -/
def StoreChange.apply (s : ObjectStore) : StoreChange → ObjectStore
  | put path object => s.put path.1 object
  | delete path => s.delete path

namespace ObjectStore

/-- The store after some changes in turn. -/
def after (s : ObjectStore) (changes : List StoreChange) : ObjectStore :=
  changes.foldl StoreChange.apply s

/-- Changes keep a store well-formed. -/
theorem WellFormed.after {s : ObjectStore} (h : s.WellFormed) (changes : List StoreChange) :
    (s.after changes).WellFormed := by
  induction changes generalizing s with
  | nil => exact h
  | cons change changes ih =>
    cases change with
    | put path object => exact ih (h.put path.2 object)
    | delete path => exact ih (h.delete path)

/-! ## The blobs of a container -/

/-- The blobs of a container in the order of their names. -/
def blobs (s : ObjectStore) (container : String) : List BlobItem :=
  s.objects.filterMap fun (path, object) ↦
    ((ObjectPath.encode container).below? path).map fun key ↦
      { name := key.text, size := object.data.length }

/-- The names of the blobs of a container. -/
def names (s : ObjectStore) (container : String) : List String :=
  (s.blobs container).map BlobItem.name

/-- A blob of a container is an object put under the container's path. -/
theorem WellFormed.mem_blobs_iff {s : ObjectStore} (h : s.WellFormed) {container : String}
    {blob : BlobItem} :
    blob ∈ s.blobs container ↔ blob.name ≠ "" ∧
      ∃ object, s.get? ((ObjectPath.encode container).append ⟨blob.name⟩) = some object ∧
        blob.size = object.data.length := by
  rw [blobs, List.mem_filterMap]
  -- Which path it is does not matter, and an encoded one would be evaluated.
  generalize ObjectPath.encode container = base
  constructor
  · rintro ⟨⟨path, object⟩, he, hblob⟩
    obtain ⟨key, hkey, rfl⟩ := Option.map_eq_some_iff.1 hblob
    obtain ⟨rfl, hne⟩ := (ObjectPath.below?_eq_some_iff (h.valid _ he)).1 hkey
    exact ⟨ObjectPath.text_ne_empty.2 hne, object, h.get?_eq_some_iff.2 he, rfl⟩
  · rintro ⟨hname, object, hget, hsize⟩
    have he := h.get?_eq_some_iff.1 hget
    have hbelow := (ObjectPath.below?_eq_some_iff (h.valid _ he)).2
      ⟨rfl, ObjectPath.text_ne_empty.1 hname⟩
    refine ⟨_, he, Option.map_eq_some_iff.2 ⟨_, hbelow, ?_⟩⟩
    rw [← hsize]

/-- A container has a blob of a name exactly when there is an object under the container's path. -/
theorem WellFormed.mem_names_iff {s : ObjectStore} (h : s.WellFormed) {container name : String} :
    name ∈ s.names container ↔
      name ≠ "" ∧ (s.get? ((ObjectPath.encode container).append ⟨name⟩)).isSome = true := by
  rw [names, List.mem_map, Option.isSome_iff_exists]
  constructor
  · rintro ⟨blob, hblob, rfl⟩
    obtain ⟨hne, object, hget, -⟩ := h.mem_blobs_iff.1 hblob
    exact ⟨hne, object, hget⟩
  · rintro ⟨hne, object, hget⟩
    exact ⟨⟨name, object.data.length⟩, h.mem_blobs_iff.2 ⟨hne, object, hget, rfl⟩, rfl⟩

/-- The names of a container's blobs are valid paths. -/
theorem WellFormed.valid_of_mem_names {s : ObjectStore} (h : s.WellFormed)
    {container name : String} (hname : name ∈ s.names container) :
    (⟨name⟩ : ObjectPath).Valid := by
  obtain ⟨-, hsome⟩ := h.mem_names_iff.1 hname
  obtain ⟨object, hget⟩ := Option.isSome_iff_exists.1 hsome
  exact (h.valid _ (h.get?_eq_some_iff.1 hget)).of_append

/-- The blobs of a container are in strictly ascending order of their names. -/
theorem WellFormed.blobs_ascending {s : ObjectStore} (h : s.WellFormed) (container : String) :
    (s.blobs container).Pairwise fun a b ↦ a.name < b.name := by
  rw [blobs, List.pairwise_filterMap]
  refine h.ascending.imp_of_mem fun {x y} hx hy hxy ↦ ?_
  intro a ha b hb
  obtain ⟨j, hj, rfl⟩ := Option.map_eq_some_iff.1 ha
  obtain ⟨k, hk, rfl⟩ := Option.map_eq_some_iff.1 hb
  rw [((ObjectPath.below?_eq_some_iff (h.valid x hx)).1 hj).1,
    ((ObjectPath.below?_eq_some_iff (h.valid y hy)).1 hk).1, ObjectPath.precedes_append] at hxy
  exact ObjectPath.precedes_iff.1 hxy

theorem WellFormed.names_ascending {s : ObjectStore} (h : s.WellFormed) (container : String) :
    (s.names container).Pairwise (· < ·) :=
  List.pairwise_map.2 (h.blobs_ascending container)

end ObjectStore

end BlobFs

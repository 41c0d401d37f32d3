import BlobFs.Store.Basic

/-!
# A store in memory

`ObjectStore` is a map from paths to objects, kept in ascending order of the paths.  It is shared by
all containers: a container is the part of it below the container's path.

* A listing yields what lies strictly below a path, segment by segment: below `data` lies `data/a`,
  but neither `data` itself nor `data.txt`.
* A range that starts at or past the end of an object is refused; one that only ends past it is cut.
-/

set_option autoImplicit false

namespace BlobFs

/-- Contents and time of writing. -/
structure StoredObject where
  data : Bytes
  modified : Int
  deriving DecidableEq

/-- Objects by path, in ascending order. -/
structure ObjectStore where
  objects : List (ObjectPath × StoredObject)
  deriving DecidableEq

namespace ObjectStore

/-- A store without objects. -/
def empty : ObjectStore := ⟨[]⟩

/-! ## Changes -/

/-- The list with one object put in its place. -/
def insertObject (path : ObjectPath) (object : StoredObject) :
    List (ObjectPath × StoredObject) → List (ObjectPath × StoredObject)
  | [] => [(path, object)]
  | entry :: rest =>
    if path.precedes entry.1 then (path, object) :: entry :: rest
    else if entry.1.precedes path then entry :: insertObject path object rest
    else (path, object) :: rest

/-- The store with an object written. -/
def put (s : ObjectStore) (path : ObjectPath) (object : StoredObject) : ObjectStore :=
  ⟨insertObject path object s.objects⟩

/-- The store without the object at a path. -/
def delete (s : ObjectStore) (path : ObjectPath) : ObjectStore :=
  ⟨s.objects.filter fun entry ↦ entry.1 != path⟩

/-! ## Questions -/

/-- The object at a path. -/
def get? (s : ObjectStore) (path : ObjectPath) : Option StoredObject :=
  (s.objects.find? fun entry ↦ entry.1 == path).map Prod.snd

/-- The refusal for a path without object. -/
def missing (path : ObjectPath) : StoreError :=
  .notFound path s!"No data in memory found. Location: {path.text}"

/-- What is told of the object at a path. -/
def head (s : ObjectStore) (path : ObjectPath) : Except StoreError ObjectMeta :=
  match s.get? path with
  | none => .error (missing path)
  | some object => .ok { path, size := object.data.length, modified := object.modified }

/-- The bytes of an object from `start` to before `stop`. -/
def getRange (s : ObjectStore) (path : ObjectPath) (start stop : Nat) : Except StoreError Bytes :=
  match s.get? path with
  | none => .error (missing path)
  | some object =>
    if object.data.length ≤ start then
      .error (.generic "InMemory"
        s!"Invalid range: Wanted range starting at {start}, but object was only {object.data.length} bytes long")
    else .ok ((object.data.drop start).take (stop - start))

/-- What is told of all objects strictly below a path, in ascending order. -/
def below (s : ObjectStore) (base : ObjectPath) : List ObjectMeta :=
  s.objects.filterMap fun (path, object) ↦
    (base.below? path).map fun _ ↦
      { path, size := object.data.length, modified := object.modified }

end ObjectStore

/-! ## A container as part of the store -/

/-- The paths of a container's objects as they stand in the shared store, and back. -/
def ObjectMeta.relativeTo (base : ObjectPath) (m : ObjectMeta) : ObjectMeta :=
  { m with path := (base.below? m.path).getD m.path }

/-- What a client may ask of the part of a store below `base`, given what it may ask of the whole
store. -/
def ContainerStore.under {σ : Type} (whole : ContainerStore σ) (base : ObjectPath) :
    ContainerStore σ where
  head path state :=
    match whole.head (base.append path) state with
    | (.ok m, state) => (.ok (m.relativeTo base), state)
    | (.error e, state) => (.error e, state)
  getRange path start stop state := whole.getRange (base.append path) start stop state
  list parent offset wanted limit state :=
    match whole.list (some (base.append (parent.getD .root))) (offset.map base.append)
      (fun m ↦ wanted (m.relativeTo base)) limit state with
    | (.ok metas, state) => (.ok (metas.map (ObjectMeta.relativeTo base)), state)
    | (.error e, state) => (.error e, state)

end BlobFs

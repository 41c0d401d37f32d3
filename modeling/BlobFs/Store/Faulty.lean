import BlobFs.Store.Memory

/-!
# A store that fails on purpose

To see how the layers above behave when a service fails, a store in memory can be given planned
faults.  Each fault strikes calls of one sort, perhaps only at one path or one offset, and perhaps
only so many times; the first fault of the plan that fits a call and is not used up strikes.

Most faults make the call fail.  A read may instead lose the end of its bytes, and a listing may
yield some objects before it fails; they are counted from the first one below the path, whatever
offset the listing starts at.
-/

set_option autoImplicit false

namespace BlobFs

/-- The sorts of calls that a fault may strike. -/
inductive CallSort where
  | head
  | get
  | list
  deriving DecidableEq

/-- The ways in which a struck call fails. -/
inductive FaultKind where
  | notFound
  | permissionDenied
  | unauthenticated
  | precondition
  | notSupported
  | generic
  deriving DecidableEq

/-- The failure of a call at `path`. -/
def FaultKind.toError (path : ObjectPath) (message : String) : FaultKind → StoreError
  | .notFound => .notFound path message
  | .permissionDenied => .permissionDenied path message
  | .unauthenticated => .unauthenticated path message
  | .precondition => .precondition path message
  | .notSupported => .notSupported message
  | .generic => .generic "Fault" message

/-- A planned fault. -/
structure Fault where
  sort : CallSort
  /-- The only path that is struck, if there is one. -/
  path : Option String
  /-- The only start of a range that is struck, if there is one. -/
  offset : Option Nat
  kind : FaultKind
  message : String
  /-- How many objects a listing yields before it fails. -/
  after : Nat
  /-- How many bytes a read returns, if it is to be cut instead of failing. -/
  keep : Option Nat
  /-- How many more calls are struck, if there is a limit. -/
  uses : Option Nat
  deriving DecidableEq

/-- Whether the fault strikes this call. -/
def Fault.strikes (fault : Fault) (sort : CallSort) (path : ObjectPath) (start : Option Nat) :
    Bool :=
  fault.sort == sort && fault.uses != some 0 &&
    (match fault.path with
      | none => true
      | some text => text == path.text) &&
    (match fault.offset with
      | none => true
      | some offset => start == some offset)

/-- The first fault that strikes a call, and the plan afterwards. -/
def Fault.take? (sort : CallSort) (path : ObjectPath) (start : Option Nat) :
    List Fault → Option Fault × List Fault
  | [] => (none, [])
  | fault :: rest =>
    if fault.strikes sort path start then
      (some fault, { fault with uses := fault.uses.map (· - 1) } :: rest)
    else
      let (found, rest) := take? sort path start rest
      (found, fault :: rest)

/-- A store in memory with a plan of faults. -/
structure FaultyStore where
  store : ObjectStore
  faults : List Fault

namespace FaultyStore

/-- The fault that strikes a call, and the store afterwards. -/
def strike (sort : CallSort) (path : ObjectPath) (start : Option Nat) (s : FaultyStore) :
    Option Fault × FaultyStore :=
  let (fault, faults) := Fault.take? sort path start s.faults
  (fault, { s with faults })

/-- The first `limit` wanted objects of a listing that fails after its objects, if it has a
failure. -/
def firstWanted (failure : Option StoreError) (wanted : ObjectMeta → Bool) (limit : Nat)
    (metas : List ObjectMeta) : Except StoreError (List ObjectMeta) :=
  let found := (metas.filter wanted).take limit
  match failure with
  | none => .ok found
  | some e => if found.length < limit then .error e else .ok found

/-- What may be asked of the whole store. -/
def calls : ContainerStore FaultyStore where
  head path s :=
    match s.strike .head path none with
    | (some fault, s) => (.error (fault.kind.toError path fault.message), s)
    | (none, s) => (s.store.head path, s)
  getRange path start stop s :=
    match s.strike .get path (some start) with
    | (some fault, s) =>
      match fault.keep with
      | none => (.error (fault.kind.toError path fault.message), s)
      | some kept =>
        match s.store.getRange path start stop with
        | .ok data => (.ok (data.take kept), s)
        | .error e => (.error e, s)
    | (none, s) => (s.store.getRange path start stop, s)
  list parent offset wanted limit s :=
    let base := parent.getD .root
    let later (m : ObjectMeta) : Bool :=
      match offset with
      | none => true
      | some offset => offset.precedes m.path
    match s.strike .list base none with
    | (some fault, s) =>
      (firstWanted (some (fault.kind.toError base fault.message)) wanted limit
        (((s.store.below base).take fault.after).filter later), s)
    | (none, s) => (firstWanted none wanted limit ((s.store.below base).filter later), s)

end FaultyStore

end BlobFs

import BlobFs.Service.Containers
import BlobFs.Store.Faulty

/-!
# Services to rehearse with

Two services that need no network.  Both keep the connections that were asked for and may refuse the
first few of them.

* `BlobService.inMemory` — containers in one store in memory, with a plan of faults.
* `BlobService.scripted` — answers taken from three lists in turn, whatever is asked; the questions
  are kept.
-/

set_option autoImplicit false

namespace BlobFs

/-- The connections asked for so far, in order, and how many more are refused. -/
structure Attempts where
  specs : List ConnectionSpec
  refusals : Nat
  /-- How many connections were made. -/
  made : Nat

/-- Asks for one more connection. -/
def Attempts.connect (spec : ConnectionSpec) (a : Attempts) : Except StorageError Unit × Attempts :=
  let a := { a with specs := a.specs ++ [spec] }
  match a.refusals with
  | 0 => (.ok (), { a with made := a.made + 1 })
  | n + 1 => (.error (.connectionRefused "connector refused"), { a with refusals := n })

/-! ## In memory -/

/-- The state of the service in memory. -/
structure MemoryWorld where
  store : FaultyStore
  /-- Containers that cannot be opened. -/
  broken : List String
  attempts : Attempts

/-- What may be asked of the store within the state of the service. -/
def MemoryWorld.calls : ContainerStore MemoryWorld where
  head path w :=
    let (answer, store) := FaultyStore.calls.head path w.store
    (answer, { w with store })
  getRange path start stop w :=
    let (answer, store) := FaultyStore.calls.getRange path start stop w.store
    (answer, { w with store })
  list parent offset wanted limit w :=
    let (answer, store) := FaultyStore.calls.list parent offset wanted limit w.store
    (answer, { w with store })

/-- Every container that is not broken is the part of the store below the container's path. -/
def MemoryWorld.opener (broken : List String) : StoreOpener MemoryWorld := fun container ↦
  if broken.contains container then .error (.other s!"no store for {container}")
  else .ok (MemoryWorld.calls.under (ObjectPath.encode container))

/-- The service whose containers lie in one store in memory. -/
def BlobService.inMemory : BlobService MemoryWorld Unit where
  connect spec w :=
    let (answer, attempts) := w.attempts.connect spec
    (answer, { w with attempts })
  properties _ blob w := (MemoryWorld.opener w.broken).properties blob w
  download _ blob offset length transfer w :=
    (MemoryWorld.opener w.broken).download blob offset length transfer w
  list _ container request w := (MemoryWorld.opener w.broken).list container request w

/-! ## From a script -/

/-- A question put to the scripted service. -/
inductive ScriptedCall where
  | list (container : String) (request : ListRequest)
  | head (blob : BlobName)
  | get (blob : BlobName) (offset length : Nat) (transfer : TransferOptions)
  deriving DecidableEq

/-- The answers still to come, and the questions so far. -/
structure Script where
  pages : List (Except RemoteError ListPage)
  properties : List (Except RemoteError BlobProperties)
  downloads : List (Except RemoteError Bytes)
  calls : List ScriptedCall
  attempts : Attempts

/-- The next answer of a list, a failure when there is none left. -/
def Script.next {α : Type} :
    List (Except RemoteError α) → Except RemoteError α × List (Except RemoteError α)
  | [] => (.error (.other "script exhausted"), [])
  | answer :: rest => (answer, rest)

/-- The service that follows a script. -/
def BlobService.scripted : BlobService Script Unit where
  connect spec s :=
    let (answer, attempts) := s.attempts.connect spec
    (answer, { s with attempts })
  properties _ blob s :=
    let (answer, properties) := Script.next s.properties
    (answer, { s with properties, calls := s.calls ++ [.head blob] })
  download _ blob offset length transfer s :=
    let (answer, downloads) := Script.next s.downloads
    (answer, { s with downloads, calls := s.calls ++ [.get blob offset length transfer] })
  list _ container request s :=
    let (answer, pages) := Script.next s.pages
    (answer, { s with pages, calls := s.calls ++ [.list container request] })

end BlobFs

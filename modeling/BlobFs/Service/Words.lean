import BlobFs.Service.Rehearsed

/-!
# A service in a process that computes with words

Offsets and sizes are 64-bit words, and a process that comes to a sum which does not fit one goes no
further.  `BlobService.inWords` is a service in such a process: its state is that of the service for
as long as the process goes on, and missing from then on.  What is answered after the end reaches
nobody.

Only downloads add up numbers from outside.  `BlobService.inMemoryWords` is the service in memory
whose downloads cut their ranges with words.
-/

set_option autoImplicit false

namespace BlobFs

/-- Takes a step if the process goes on.  A step without an answer ends it. -/
def stepWhileGoing {σ ε α : Type} (ended : ε) (step : σ → Option (Except ε α × σ)) :
    Option σ → Except ε α × Option σ
  | none => (.error ended, none)
  | some state =>
    match step state with
    | none => (.error ended, none)
    | some (answer, state) => (answer, some state)

namespace BlobService

variable {σ κ : Type}

/-- What stands for an answer after the end. -/
def processEnded : String := "attempt to add with overflow"

/-- The service in a process that ends in a download without an answer. -/
def inWords (service : BlobService σ κ)
    (download? : κ → BlobName → Nat → Nat → TransferOptions → σ →
      Option (Except RemoteError Bytes × σ)) : BlobService (Option σ) κ where
  connect spec := stepWhileGoing (.connectionRefused processEnded) fun state ↦
    some (service.connect spec state)
  properties client blob := stepWhileGoing (.other processEnded) fun state ↦
    some (service.properties client blob state)
  download client blob offset length transfer := stepWhileGoing (.other processEnded)
    (download? client blob offset length transfer)
  list client container request := stepWhileGoing (.other processEnded) fun state ↦
    some (service.list client container request state)

/-- The service in memory in a process that ends where a range cannot be cut with words. -/
def inMemoryWords : BlobService (Option MemoryWorld) Unit :=
  inMemory.inWords fun _ blob offset length transfer w ↦
    (MemoryWorld.opener w.broken).download? blob offset length transfer w

end BlobService

end BlobFs

import BlobFs.Service.Basic

/-!
# Counting requests

A session may count the requests made on its behalf: how many for properties, for bytes and for
pages, and how many bytes came back.  `BlobService.recorded` is any service with the counting added.

A request for properties or for a page is counted when it is made, whatever the answer; a download
is counted when its bytes have arrived, so one that fails leaves no trace.  The counts are words of
64 bits: after the largest of them they begin at zero again.
-/

set_option autoImplicit false

namespace BlobFs

/-- How many requests were made, and how many bytes they brought. -/
structure HttpStats where
  headCount : UInt64
  getCount : UInt64
  listCount : UInt64
  bytesReceived : UInt64
  deriving DecidableEq

namespace HttpStats

/-- Nothing counted yet. -/
def zero : HttpStats :=
  { headCount := 0, getCount := 0, listCount := 0, bytesReceived := 0 }

/-- One more request for properties. -/
def addHead (s : HttpStats) : HttpStats :=
  { s with headCount := s.headCount + 1 }

/-- One more download, of so many bytes. -/
def addGet (s : HttpStats) (bytes : Nat) : HttpStats :=
  { s with getCount := s.getCount + 1, bytesReceived := s.bytesReceived + UInt64.ofNat bytes }

/-- One more request for a page. -/
def addList (s : HttpStats) : HttpStats :=
  { s with listCount := s.listCount + 1 }

end HttpStats

namespace BlobService

variable {σ κ : Type}

/-- The service with every request counted beside its state. -/
def recorded (service : BlobService σ κ) : BlobService (HttpStats × σ) κ where
  connect spec state :=
    let (answer, inner) := service.connect spec state.2
    (answer, state.1, inner)
  properties client blob state :=
    let (answer, inner) := service.properties client blob state.2
    (answer, state.1.addHead, inner)
  download client blob offset length transfer state :=
    match service.download client blob offset length transfer state.2 with
    | (.ok data, inner) => (.ok data, state.1.addGet data.length, inner)
    | (.error e, inner) => (.error e, state.1, inner)
  list client container request state :=
    let (answer, inner) := service.list client container request state.2
    (answer, state.1.addList, inner)

/-- The service beside the counters, but without any counting. -/
def unrecorded (service : BlobService σ κ) : BlobService (HttpStats × σ) κ where
  connect spec state :=
    let (answer, inner) := service.connect spec state.2
    (answer, state.1, inner)
  properties client blob state :=
    let (answer, inner) := service.properties client blob state.2
    (answer, state.1, inner)
  download client blob offset length transfer state :=
    let (answer, inner) := service.download client blob offset length transfer state.2
    (answer, state.1, inner)
  list client container request state :=
    let (answer, inner) := service.list client container request state.2
    (answer, state.1, inner)

/-- The service beside the counters, with the counting on or off. -/
def withStats (service : BlobService σ κ) (on : Bool) : BlobService (HttpStats × σ) κ :=
  if on then service.recorded else service.unrecorded

end BlobService

end BlobFs

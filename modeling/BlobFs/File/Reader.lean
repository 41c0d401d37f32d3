import BlobFs.Error
import BlobFs.File.Window
import BlobFs.Text.Word

/-!
# Reading from an open file

`Reader` is the part of an open file that its reads change: the window and the position.  The bytes
come from a `fetch`, any step on a state `τ` that answers an offset and a length with bytes or a
failure of the service.

* A read past the end of the file is refused before anything is fetched.
* With direct reading every read is one fetch, and the window is dropped.
* Otherwise what the window holds is handed out first.  If the rest fits into what one read-ahead
  would bring, the window is refilled and the rest handed out from it; if not, exactly the rest is
  fetched past the window, which is kept.

So one read makes at most one fetch.  A read that fails may already have handed out bytes from the
window and moved the position by as many.
-/

set_option autoImplicit false

namespace BlobFs

/-- An open file as far as reads change it or look at it. -/
structure Reader where
  path : String
  size : Nat
  /-- Whether the window is never used. -/
  direct : Bool
  window : ReadWindow
  position : Nat
  deriving DecidableEq

/-- What a read brought: the bytes handed out, and the failure that cut it short, if any. -/
structure ReadOutcome where
  bytes : Bytes
  failure : Option StorageError
  deriving DecidableEq

/-- A step that answers an offset and a length with bytes. -/
abbrev Fetch (τ : Type) := Nat → Nat → τ → Except RemoteError Bytes × τ

namespace Reader

variable {τ : Type}

/-- A file just opened. -/
def new (path : String) (size : Nat) (direct : Bool) (capacity : Nat) : Reader :=
  { path, size, direct, window := .new capacity, position := 0 }

/-- Moves the position; nothing is fetched. -/
def seek (r : Reader) (position : Nat) : Reader :=
  { r with position }

/-- Whether `count` bytes at `offset` lie within the file. -/
def inBounds (r : Reader) (offset count : Nat) : Bool :=
  offset + count < wordLimit && offset + count ≤ r.size

/-- Fetches exactly `length` bytes. -/
def fetchExactly (r : Reader) (fetch : Fetch τ) (offset length : Nat) (state : τ) :
    Except StorageError Bytes × τ :=
  match fetch offset length state with
  | (.error e, state) => (.error (.remote s!"AzureStorageFileSystem Read to '{r.path}'" e), state)
  | (.ok data, state) =>
    if data.length = length then (.ok data, state)
    else (.error (.wrongLength r.path data.length length), state)

/-- A read that uses no window. -/
def readDirect (r : Reader) (fetch : Fetch τ) (offset count : Nat) (state : τ) :
    ReadOutcome × Reader × τ :=
  match r.fetchExactly fetch offset count state with
  | (.error e, state) => (⟨[], some e⟩, r, state)
  | (.ok data, state) =>
    (⟨data, none⟩, { r with window := r.window.reset, position := offset + count }, state)

/-- Brings the rest of a read, of which `handed` has been handed out and `missing > 0` bytes at the
position are to come. -/
def readRest (r : Reader) (fetch : Fetch τ) (handed : Bytes) (missing : Nat) (state : τ) :
    ReadOutcome × Reader × τ :=
  let ahead := min r.window.capacity (r.size - r.position)
  if ahead < missing then
    match r.fetchExactly fetch r.position missing state with
    | (.error e, state) => (⟨handed, some e⟩, r, state)
    | (.ok data, state) =>
      (⟨handed ++ data, none⟩,
        { r with window := r.window.bypass, position := r.position + missing }, state)
  else
    match r.fetchExactly fetch r.position ahead state with
    | (.error e, state) => (⟨handed, some e⟩, r, state)
    | (.ok data, state) =>
      let (bytes, window) := (r.window.refill r.position data).copy missing
      (⟨handed ++ bytes, none⟩, { r with window, position := r.position + bytes.length }, state)

/-- A read through the window. -/
def readBuffered (r : Reader) (fetch : Fetch τ) (offset count : Nat) (state : τ) :
    ReadOutcome × Reader × τ :=
  let (handed, window) := (r.window.positionAt offset).2.copy count
  let r := { r with window, position := offset + handed.length }
  if handed.length = count then (⟨handed, none⟩, r, state)
  else r.readRest fetch handed (count - handed.length) state

/-- Reads exactly `count` bytes at `offset`. -/
def readAt (r : Reader) (fetch : Fetch τ) (offset count : Nat) (state : τ) :
    ReadOutcome × Reader × τ :=
  if r.inBounds offset count then
    if r.direct && 0 < count then r.readDirect fetch offset count state
    else r.readBuffered fetch offset count state
  else (⟨[], some (.outOfBounds count offset r.path r.size)⟩, r, state)

/-- How many of `count` bytes a read at the position brings. -/
def readable (r : Reader) (count : Nat) : Nat :=
  min count (r.size - r.position)

/-- Reads up to `count` bytes at the position, none at or past the end of the file. -/
def read (r : Reader) (fetch : Fetch τ) (count : Nat) (state : τ) : ReadOutcome × Reader × τ :=
  if r.readable count = 0 then (⟨[], none⟩, r, state)
  else r.readAt fetch r.position (r.readable count) state

end Reader

end BlobFs

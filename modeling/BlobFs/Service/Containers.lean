import BlobFs.Service.Basic
import BlobFs.Store.Chunks

/-!
# A blob service over stores of objects

A store of objects knows paths and ranges; a blob service has pages, tokens and downloads of any
size.  This file makes the one out of the other, for one container at a time.

* `listPage` — a store lists below whole segments, so the listing is asked for below the last `/` of
  the wanted beginning, and what does not begin with it is left out.  One object more than the page
  holds is looked for: if it is there, the page names its last object as the token, and the next
  page starts strictly after it.
* `downloadRange` — the range is fetched chunk by chunk in order, and it is an error if the chunks
  are not as long together as the range.  `downloadRange?` cuts the range with words, and has no
  answer where a sum does not fit one.
-/

set_option autoImplicit false

namespace BlobFs

namespace ContainerStore

variable {σ : Type}

/-- The path of a blob's name, or the service's refusal of the name. -/
def pathOf (name : String) : Except RemoteError ObjectPath :=
  match ObjectPath.parse name with
  | .ok path => .ok path
  | .error problem => .error (.invalidPath s!"'{name}': {problem.describe name}")

/-- Asks for a blob's properties. -/
def properties (store : ContainerStore σ) (name : String) (state : σ) :
    Except RemoteError BlobProperties × σ :=
  match pathOf name with
  | .error e => (.error e, state)
  | .ok path =>
    match store.head path state with
    | (.ok m, state) => (.ok { size := m.size, modified := some m.modified }, state)
    | (.error e, state) => (.error e.toRemote, state)

/-! ## Downloading -/

/-- Fetches the chunks in order, up to the first failure. -/
def fetchChunks (store : ContainerStore σ) (path : ObjectPath) :
    List (Nat × Nat) → σ → Except RemoteError (List Bytes) × σ
  | [], state => (.ok [], state)
  | (start, stop) :: rest, state =>
    match store.getRange path start stop state with
    | (.error e, state) => (.error e.toRemote, state)
    | (.ok data, state) =>
      match fetchChunks store path rest state with
      | (.ok chunks, state) => (.ok (data :: chunks), state)
      | (.error e, state) => (.error e, state)

/-- Downloads exactly the `length` bytes at `offset`.  Nothing is asked for when there are none to
download. -/
def downloadRange (store : ContainerStore σ) (name : String) (offset length : Nat)
    (transfer : TransferOptions) (state : σ) : Except RemoteError Bytes × σ :=
  if length = 0 then (.ok [], state)
  else match pathOf name with
    | .error e => (.error e, state)
    | .ok path =>
      match store.fetchChunks path (chunkRanges offset length transfer.chunkSize) state with
      | (.error e, state) => (.error e, state)
      | (.ok chunks, state) =>
        let data := chunks.flatten
        if data.length = length then (.ok data, state)
        else (.error (.other
          s!"Short read of '{name}': expected {length} bytes, got {data.length}"), state)

/-- Downloads the bytes after cutting the range with words.  There is no answer where that cannot be
done; nothing is cut where there is nothing to ask for. -/
def downloadRange? (store : ContainerStore σ) (name : String) (offset length : Nat)
    (transfer : TransferOptions) (state : σ) : Option (Except RemoteError Bytes × σ) :=
  if length = 0 then some (.ok [], state)
  else match pathOf name with
    | .error e => some (.error e, state)
    | .ok _ =>
      (chunkRanges? offset length transfer.chunkSize).map fun _ ↦
        store.downloadRange name offset length transfer state

/-! ## Listing -/

/-- The page size when none is asked for. -/
def defaultPageSize : Nat := 5000

/-- The path below which all names with this beginning lie: what stands before its last `/`. -/
def parentOf (nameStart : String) : Except RemoteError (Option ObjectPath) :=
  match Text.cutBack? '/' nameStart with
  | none => .ok none
  | some (before, _) =>
    match pathOf before with
    | .ok path => .ok (some path)
    | .error e => .error e

/-- The path that a token names. -/
def offsetOf (token : Option String) : Except RemoteError (Option ObjectPath) :=
  match token with
  | none => .ok none
  | some name =>
    match pathOf name with
    | .ok path => .ok (some path)
    | .error e => .error e

/-- A page of `size` blobs out of the objects found, one of which may be too many. -/
def pageOf (size : Nat) (metas : List ObjectMeta) : ListPage :=
  let blobs := metas.map fun m ↦ { name := m.path.text, size := m.size : BlobItem }
  if size < blobs.length then
    { blobs := blobs.take size, nextToken := (blobs.take size).getLast?.map BlobItem.name }
  else { blobs := blobs, nextToken := none }

/-- Lists one page of the container.  One object more than the page holds is asked for, to see
whether any is left.  The size has no limit here; where it is a machine word, the largest one cannot
be counted up and leaves the listing without an answer. -/
def listPage (store : ContainerStore σ) (request : ListRequest) (state : σ) :
    Except RemoteError ListPage × σ :=
  let nameStart := request.nameStart.getD ""
  let size := max (request.pageSize.getD defaultPageSize) 1
  match parentOf nameStart with
  | .error e => (.error e, state)
  | .ok parent =>
    match offsetOf request.token with
    | .error e => (.error e, state)
    | .ok offset =>
      match store.list parent offset (fun m ↦ Text.startsWith m.path.text nameStart) (size + 1)
          state with
      | (.error e, state) => (.error e.toRemote, state)
      | (.ok metas, state) => (.ok (pageOf size metas), state)

end ContainerStore

/-- Something that opens the store of a container, or says why there is none. -/
abbrev StoreOpener (σ : Type) := String → Except RemoteError (ContainerStore σ)

namespace StoreOpener

variable {σ : Type}

/-- Asks for a blob's properties in its container. -/
def properties (opener : StoreOpener σ) (blob : BlobName) (state : σ) :
    Except RemoteError BlobProperties × σ :=
  match opener blob.container with
  | .error e => (.error e, state)
  | .ok store => store.properties blob.path state

/-- Downloads a range of a blob in its container.  No store is opened for a range without bytes. -/
def download (opener : StoreOpener σ) (blob : BlobName) (offset length : Nat)
    (transfer : TransferOptions) (state : σ) : Except RemoteError Bytes × σ :=
  if length = 0 then (.ok [], state)
  else match opener blob.container with
    | .error e => (.error e, state)
    | .ok store => store.downloadRange blob.path offset length transfer state

/-- Downloads a range after cutting it with words; no answer where that cannot be done. -/
def download? (opener : StoreOpener σ) (blob : BlobName) (offset length : Nat)
    (transfer : TransferOptions) (state : σ) : Option (Except RemoteError Bytes × σ) :=
  if length = 0 then some (.ok [], state)
  else match opener blob.container with
    | .error e => some (.error e, state)
    | .ok store => store.downloadRange? blob.path offset length transfer state

/-- Lists one page of a container. -/
def list (opener : StoreOpener σ) (container : String) (request : ListRequest) (state : σ) :
    Except RemoteError ListPage × σ :=
  match opener container with
  | .error e => (.error e, state)
  | .ok store => store.listPage request state

end StoreOpener

end BlobFs

import BlobFs.File.Reader
import BlobFs.Pattern.Basic
import BlobFs.Session

/-!
# The file system

Blobs as files: opening, reading and looking for them by URL, over any blob service.

* `FileSystem.connect` makes a connection for a URL, `FileSystem.contextFor` takes the one kept for
  the account of the URL or makes a new one.
* `FileSystem.openFile` gives a `FileHandle`; its reads go to the service through the connection it
  was opened with, even after that has been retired.
* `FileSystem.glob` expands a pattern.  The text before the first wildcard narrows the listing,
  every page of which is read, and each name is matched against the whole pattern.  A token that
  comes a second time ends the listing with a failure, and a failure leaves no partial result.
-/

set_option autoImplicit false

namespace BlobFs

/-- How a file is to be opened. -/
structure OpenFlags where
  read : Bool
  write : Bool
  /-- Whether every read is to be one fetch, without read-ahead. -/
  directIo : Bool
  deriving DecidableEq

/-- Opening for reading. -/
def OpenFlags.forReading : OpenFlags :=
  { read := true, write := false, directIo := false }

/-- An open blob. -/
structure FileHandle (κ : Type) where
  reader : Reader
  flags : OpenFlags
  /-- When the blob was written, in seconds of Unix time. -/
  modified : Option Int
  readOptions : ReadOptions
  blob : BlobName
  client : κ
  /-- Whether its requests are counted. -/
  recorded : Bool

namespace FileSystem

variable {σ κ : Type}

/-- The file system's name. -/
def name : String := "AzureStorageFileSystem"

/-- Whether the file system is for this path. -/
def canHandle (path : String) : Bool :=
  BlobUrl.hasScheme path

/-- A blob URL taken apart, or the failure of the file system. -/
def parseUrl (path : String) : Except StorageError BlobUrl :=
  match BlobUrl.parse path with
  | .ok url => .ok url
  | .error problem => .error (.malformedUrl problem path)

/-! ## Connections -/

/-- Makes a connection for `url`, which was given as `path`. -/
def connect (service : BlobService σ κ) (host : Host) (settings : Settings)
    (secrets : SecretRegistry) (keepsStats : Bool) (path : String) (url : BlobUrl) (world : σ) :
    Except StorageError (Connection κ) × σ :=
  match ConnectionSpec.resolve host settings secrets path url with
  | .error e => (.error e, world)
  | .ok spec =>
    match ReadOptions.ofSettings settings with
    | .error e => (.error e, world)
    | .ok readOptions =>
      match service.connect spec world with
      | (.error e, world) => (.error e, world)
      | (.ok client, world) =>
        match settings.switch Settings.httpStats false with
        | .error e => (.error e, world)
        | .ok on => (.ok { client, spec, readOptions, recorded := on && keepsStats }, world)

/-- Makes a connection and a context for it; the context is not kept for any account. -/
def makeContext (service : BlobService σ κ) (host : Host) (secrets : SecretRegistry)
    (path : String) (url : BlobUrl) (scene : Scene σ κ) :
    Except StorageError (Nat × Connection κ) × Scene σ κ :=
  match connect service host scene.session.settings secrets scene.session.keepsStats path url
      scene.world with
  | (.error e, world) => (.error e, { scene with world })
  | (.ok connection, world) =>
    let (id, contexts) := scene.session.contexts.make connection
    (.ok (id, connection), { session := { scene.session with contexts }, world })

/-- The context to use for `url`, with its number: the active one kept for the account, else a new
one, which is then kept.  Nothing is kept when the session or its settings say so. -/
def contextFor (service : BlobService σ κ) (host : Host) (secrets : SecretRegistry)
    (path : String) (url : BlobUrl) (scene : Scene σ κ) :
    Except StorageError Nat × Scene σ κ :=
  match scene.session.settings.switch Settings.contextCaching true with
  | .error e => (.error e, scene)
  | .ok caching =>
    if caching && scene.session.keepsContexts then
      match scene.session.contexts.lookup url.account with
      | some id => (.ok id, scene)
      | none =>
        match makeContext service host secrets path url scene with
        | (.error e, scene) => (.error e, scene)
        | (.ok (id, _), scene) =>
          (.ok id, { scene with session := { scene.session with
            contexts := scene.session.contexts.insert url.account id } })
    else
      match makeContext service host secrets path url scene with
      | (.error e, scene) => (.error e, scene)
      | (.ok (id, _), scene) => (.ok id, scene)

/-- The connection of the context to use for `url`. -/
def connectionFor (service : BlobService σ κ) (host : Host) (secrets : SecretRegistry)
    (path : String) (url : BlobUrl) (scene : Scene σ κ) :
    Except StorageError (Connection κ) × Scene σ κ :=
  match contextFor service host secrets path url scene with
  | (.error e, scene) => (.error e, scene)
  | (.ok id, scene) => (scene.session.contexts.connectionOf id, scene)

/-! ## Opening -/

/-- The failure to open `path` because its properties could not be had. -/
def openFailure (path : String) : RemoteError → StorageError
  | .other message => .openFailed path message
  | cause => .remote s!"AzureStorageFileSystem open file '{path}'" cause

/-- Opens a blob. -/
def openFile (service : BlobService σ κ) (host : Host) (secrets : SecretRegistry)
    (path : String) (flags : OpenFlags) (scene : Scene σ κ) :
    Except StorageError (FileHandle κ) × Scene σ κ :=
  if flags.write then (.error .writingUnsupported, scene)
  else match parseUrl path with
    | .error e => (.error e, scene)
    | .ok url =>
      match connectionFor service host secrets path url scene with
      | (.error e, scene) => (.error e, scene)
      | (.ok connection, scene) =>
        let blob : BlobName := { container := url.container, path := url.path }
        match scene.run ((service.withStats connection.recorded).properties connection.client
            blob) with
        | (.error e, scene) => (.error (openFailure path e), scene)
        | (.ok properties, scene) =>
          (.ok {
            reader := .new path properties.size flags.directIo connection.readOptions.bufferSize
            flags := flags
            modified := properties.modified
            readOptions := connection.readOptions
            blob := blob
            client := connection.client
            recorded := connection.recorded }, scene)

/-- Whether the path can be opened and is not empty. -/
def exists? (service : BlobService σ κ) (host : Host) (secrets : SecretRegistry)
    (path : String) (scene : Scene σ κ) : Bool × Scene σ κ :=
  match openFile service host secrets path .forReading scene with
  | (.ok handle, scene) => (0 < handle.reader.size, scene)
  | (.error _, scene) => (false, scene)

/-- Writing back is not offered. -/
def sync (_handle : FileHandle κ) : Except StorageError Unit :=
  .error .syncUnsupported

end FileSystem

/-! ## Reading -/

namespace FileHandle

variable {σ κ : Type}

/-- The step that brings bytes of the handle's blob. -/
def fetch (service : BlobService σ κ) (handle : FileHandle κ) : Fetch (HttpStats × σ) :=
  fun offset length ↦
    (service.withStats handle.recorded).download handle.client handle.blob offset length
      handle.readOptions.transfer

/-- Reads exactly `count` bytes at `offset`. -/
def readAt (service : BlobService σ κ) (handle : FileHandle κ) (offset count : Nat)
    (scene : Scene σ κ) : ReadOutcome × FileHandle κ × Scene σ κ :=
  let ((outcome, reader), scene) := scene.run fun state ↦
    let (outcome, reader, state) := handle.reader.readAt (handle.fetch service) offset count state
    ((outcome, reader), state)
  (outcome, { handle with reader }, scene)

/-- Reads up to `count` bytes at the position. -/
def read (service : BlobService σ κ) (handle : FileHandle κ) (count : Nat) (scene : Scene σ κ) :
    ReadOutcome × FileHandle κ × Scene σ κ :=
  let ((outcome, reader), scene) := scene.run fun state ↦
    let (outcome, reader, state) := handle.reader.read (handle.fetch service) count state
    ((outcome, reader), state)
  (outcome, { handle with reader }, scene)

/-- Moves the position. -/
def seek (handle : FileHandle κ) (position : Nat) : FileHandle κ :=
  { handle with reader := handle.reader.seek position }

end FileHandle

/-! ## Reading page after page -/

section

variable {τ : Type} (list : ListRequest → τ → Except RemoteError ListPage × τ) (path : String)
  (select : ListPage → List String)

/-- Reads page after page until one has no token, and gathers what `select` takes from each.
`seen` are the tokens so far.  A service that always names a new token is asked for ever, and then
there is no answer at all. -/
def ListRequest.gatherPages (request : ListRequest) (seen : List String) (state : τ) :
    Option (Except StorageError (List String) × τ) :=
  match list request state with
  | (.error e, state) =>
    some (.error (.remote s!"AzureStorageFileSystem list of '{path}'" e), state)
  | (.ok page, state) =>
    match page.nextToken with
    | none => some (.ok (select page), state)
    | some token =>
      if token ∈ seen then some (.error (.repeatedToken path token), state)
      else do
        let (answer, state) ← request.withToken token |>.gatherPages (token :: seen) state
        return (answer.map (select page ++ ·), state)
partial_fixpoint

end

/-! ## Looking for blobs -/

namespace FileSystem

variable {σ κ : Type}

/-- Whether a pattern is cut here to narrow the listing. -/
def startsWildcard (c : Char) : Bool :=
  c == '*' || c == '[' || c == '\\'

/-- The text before the first wildcard, if there is a wildcard. -/
def beforeWildcard? (path : String) : Option String :=
  if path.toList.any startsWildcard then
    some (String.ofList (path.toList.takeWhile fun c ↦ !startsWildcard c))
  else none

/-- The URLs of the blobs of a page that the pattern matches. -/
def matchingUrls (url : BlobUrl) (pattern : Pattern) (page : ListPage) : List String :=
  (page.blobs.filter fun blob ↦ pattern.matchesName blob.name).map fun blob ↦ url.urlFor blob.name

/-- The first request of a pattern, `start` being the text before its first wildcard. -/
def firstRequest (start : String) : ListRequest :=
  { nameStart := some start, token := none, pageSize := none }

/-- The URLs that a path with a wildcard expands to, unless its listing never ends. -/
def expand (service : BlobService σ κ) (path : String) (url : BlobUrl) (start : String)
    (connection : Connection κ) (scene : Scene σ κ) :
    Option (Except StorageError (List String) × Scene σ κ) :=
  let list := (service.withStats connection.recorded).list connection.client url.container
  scene.run? ((firstRequest start).gatherPages list path
    (matchingUrls url (.ofText url.path)) [])

/-- The URLs that a path expands to: itself if it has no wildcard, else those of the blobs that it
matches, in the order of the listing.  There is no answer where the listing never ends. -/
def glob (service : BlobService σ κ) (host : Host) (secrets : SecretRegistry)
    (path : String) (scene : Scene σ κ) :
    Option (Except StorageError (List String) × Scene σ κ) :=
  match parseUrl path with
  | .error e => some (.error e, scene)
  | .ok url =>
    match beforeWildcard? url.path with
    | none => some (.ok [path], scene)
    | some start =>
      match contextFor service host secrets path url scene with
      | (.error e, scene) => some (.error e, scene)
      | (.ok id, scene) =>
        match scene.session.contexts.context? id with
        | none => some (.error .retiredContext, scene)
        | some context => expand service path url start context.connection scene

end FileSystem

end BlobFs

import BlobFs.Proofs.File.Handle
import BlobFs.Proofs.Service.Lookup
import BlobFs.Proofs.Session.Contexts

/-!
# Which object a path opens

Opening asks for the properties of the blob that the URL names, and the handle is made of what comes
back (`openFile_of_properties`, and `exists_of_openFile` the other way round).  In a store in memory
without faults they are those of the object at the key that the path parses to, and its bytes are
all that the handle ever reads (`reads_object_after_calls`).

`object_of_openFile` puts this together.  The paths that open an object are the names of its key,
`ObjectPath.names`: the key itself and, because parsing drops one `/` on either side, three more.
So two different paths may open one blob, as `second_path_opens` shows.
-/

set_option autoImplicit false

namespace BlobFs

open ContainerStore (pathOf)

/-- Counting a question for properties does not change its answer. -/
theorem BlobService.properties_withStats {σ κ : Type} {service : BlobService σ κ} {client : κ}
    {blob : BlobName} {answer : Except RemoteError BlobProperties} {w after : σ}
    (h : service.properties client blob w = (answer, after)) (recorded : Bool)
    (stats : HttpStats) :
    ∃ counted, (service.withStats recorded).properties client blob (stats, w) =
      (answer, counted, after) := by
  cases recorded with
  | true => exact ⟨stats.addHead, by simp [withStats, BlobService.recorded, h]⟩
  | false => exact ⟨stats, by simp [withStats, unrecorded, h]⟩

/-! ## Reading the object -/

namespace FileHandle

/-- **In a store without faults a handle reads the bytes of its object**, and no read within the
object fails, whatever has been done with the handle before. -/
theorem reads_object_after_calls {handle : FileHandle Unit} {scene : Scene MemoryWorld Unit}
    {container name path : String} {key : ObjectPath} {object : StoredObject} {direct : Bool}
    {capacity : Nat} (hplain : scene.world.Plain container) (hname : pathOf name = .ok key)
    (hget : scene.world.store.store.get? ((ObjectPath.encode container).append key) = some object)
    (hblob : handle.blob = ⟨container, name⟩)
    (hopen : handle.reader = .new path object.data.length direct capacity)
    (hword : object.data.length < wordLimit) (calls : List FileCall) :
    let now := performAll .inMemory (handle, scene) calls
    (∀ offset count, offset + count ≤ object.data.length →
      (now.1.readAt .inMemory offset count now.2).1 = ⟨object.data.slice offset count, none⟩) ∧
    ∀ count, (now.1.read .inMemory count now.2).1 =
      ⟨object.data.slice now.1.reader.position count, none⟩ := by
  intro now
  have hserves : BlobService.inMemory.Serves handle.client handle.blob object.data
      (· = scene.world) := hblob ▸ hplain.serves hname hget
  have htracks : Tracks .inMemory object.data (· = scene.world) now :=
    (Tracks.new hopen hserves rfl).performAll calls
  have hnow : now.1.blob = ⟨container, name⟩ := (blob_performAll _ _ calls).trans hblob
  have hfetch := serves_fetch htracks.serves
  have hanswers : (now.1.fetch .inMemory).Answers object.data
      (now.2.session.stats, now.2.world) := by
    refine answers_fetch _ fun offset length hb ↦ ⟨_, ?_, Bytes.length_slice_of_le hb⟩
    rw [hnow, htracks.holds_world, hplain.download_eq hname hget hb]
  refine ⟨fun offset count hb ↦ ?_, fun count ↦ ?_⟩
  · have hread := Reader.readAt_readsTo htracks.follows hfetch
      (now.2.session.stats, now.2.world) htracks.holds_world offset count
    have hnone := Reader.failure_readAt_eq_none htracks.follows hword hanswers hb
    have hbytes := hread.bytes_eq
    rw [(hread.complete hnone).2.1] at hbytes
    exact congrArg₂ ReadOutcome.mk hbytes hnone
  · obtain ⟨hbytes, hok, -, -⟩ := Reader.read_readsTo htracks.follows hfetch
      (now.2.session.stats, now.2.world) htracks.holds_world count
    have hnone := Reader.failure_read_eq_none htracks.follows hword hanswers count
    rw [(hok hnone).1, ← Bytes.length_slice, Bytes.slice_length_slice] at hbytes
    exact congrArg₂ ReadOutcome.mk hbytes hnone

end FileHandle

/-! ## Opening -/

namespace FileSystem

theorem parseUrl_eq_ok_iff {path : String} {url : BlobUrl} :
    parseUrl path = .ok url ↔ BlobUrl.parse path = .ok url := by
  rw [parseUrl]
  cases BlobUrl.parse path <;> simp

section

variable {σ κ : Type} {service : BlobService σ κ} {host : Host} {secrets : SecretRegistry}
  {path : String} {flags : OpenFlags} {url : BlobUrl} {scene : Scene σ κ}

/-- The handle of a blob with these properties. -/
def opened (path : String) (flags : OpenFlags) (connection : Connection κ) (blob : BlobName)
    (properties : BlobProperties) : FileHandle κ :=
  { reader := .new path properties.size flags.directIo connection.readOptions.bufferSize
    flags := flags
    modified := properties.modified
    readOptions := connection.readOptions
    blob := blob
    client := connection.client
    recorded := connection.recorded }

/-- A file whose properties can be had is opened. -/
theorem openFile_of_properties (hurl : parseUrl path = .ok url) (hwrite : flags.write = false)
    {connection : Connection κ} {middle : Scene σ κ}
    (hconnection : connectionFor service host secrets path url scene = (.ok connection, middle))
    {properties : BlobProperties} {w : σ}
    (h : service.properties connection.client ⟨url.container, url.path⟩ middle.world =
      (.ok properties, w)) :
    ∃ after, openFile service host secrets path flags scene =
        (.ok (opened path flags connection ⟨url.container, url.path⟩ properties), after) ∧
      after.world = w := by
  obtain ⟨counted, hstats⟩ :=
    BlobService.properties_withStats h connection.recorded middle.session.stats
  refine ⟨{ session := { middle.session with stats := counted }, world := w }, ?_, rfl⟩
  simp only [openFile, hwrite, hurl, hconnection, Scene.run, hstats]
  rfl

/-- A file that has been opened is one whose properties could be had. -/
theorem exists_of_openFile (hurl : parseUrl path = .ok url) {handle : FileHandle κ}
    {after : Scene σ κ}
    (h : openFile service host secrets path flags scene = (.ok handle, after)) :
    ∃ connection middle properties,
      connectionFor service host secrets path url scene = (.ok connection, middle) ∧
      service.properties connection.client ⟨url.container, url.path⟩ middle.world =
        (.ok properties, after.world) ∧
      handle = opened path flags connection ⟨url.container, url.path⟩ properties := by
  rw [openFile] at h
  split at h
  · cases h
  rw [hurl] at h
  dsimp only at h
  split at h
  · cases h
  next connection middle hconnection =>
  rcases hasked : service.properties connection.client ⟨url.container, url.path⟩ middle.world
    with ⟨answer, w⟩
  obtain ⟨counted, hstats⟩ :=
    BlobService.properties_withStats hasked connection.recorded middle.session.stats
  simp only [Scene.run, hstats] at h
  cases answer with
  | error e => cases h
  | ok properties =>
    cases h
    exact ⟨connection, middle, properties, hconnection, hasked, rfl⟩

end

/-! ## Over a store in memory -/

section

variable {host : Host} {secrets : SecretRegistry} {path : String} {flags : OpenFlags}
  {url : BlobUrl} {scene : Scene MemoryWorld Unit}

/-- A connection is had in the same store as before. -/
theorem plain_of_connectionFor (hplain : scene.world.Plain url.container)
    {connection : Connection Unit} {middle : Scene MemoryWorld Unit}
    (h : connectionFor .inMemory host secrets path url scene = (.ok connection, middle)) :
    middle.world.Plain url.container ∧ middle.world.store = scene.world.store :=
  plain_of_world hplain (world_of_connectionFor h)

/-- A path that leads to an object opens it, if a connection can be had. -/
theorem exists_openFile_of_get? (hplain : scene.world.Plain url.container)
    (hurl : parseUrl path = .ok url) (hwrite : flags.write = false) {connection : Connection Unit}
    (hfor : (connectionFor .inMemory host secrets path url scene).1 = .ok connection)
    {key : ObjectPath} {object : StoredObject} (hname : pathOf url.path = .ok key)
    (hget : scene.world.store.store.get? ((ObjectPath.encode url.container).append key) =
      some object) :
    ∃ handle after, openFile .inMemory host secrets path flags scene = (.ok handle, after) ∧
      handle.blob = ⟨url.container, url.path⟩ ∧ handle.reader.size = object.data.length := by
  rcases hx : connectionFor .inMemory host secrets path url scene with ⟨answer, middle⟩
  rw [hx] at hfor
  obtain rfl : answer = .ok connection := hfor
  obtain ⟨hmiddle, hstore⟩ := plain_of_connectionFor hplain hx
  obtain ⟨after, hopen, -⟩ := openFile_of_properties hurl hwrite hx
    (hmiddle.properties_of_get? hname (hstore ▸ hget))
  exact ⟨_, after, hopen, rfl, rfl⟩

/-- **A path opens the object that it is a name of, and reads it.**  In a store in memory without
faults:

* a handle is given only if the container has an object at a key that the path is a name of.  There
  is only one such key, and where the path has no `/` on either side the key is the path itself.
  The size of the handle is that of this object, and after any calls its reads bring the bytes of
  it;
* if a connection can be had, every name of the key of an object opens it for reading. -/
theorem object_of_openFile (hplain : scene.world.Plain url.container)
    (hurl : BlobUrl.parse path = .ok url) :
    let object? := fun key : ObjectPath ↦
      scene.world.store.store.get? ((ObjectPath.encode url.container).append key)
    (∀ handle after, openFile .inMemory host secrets path flags scene = (.ok handle, after) →
      ∃ key object, key.Valid ∧ url.path ∈ key.names ∧ object? key = some object ∧
        (∀ other : ObjectPath, other.Valid → url.path ∈ other.names → other = key) ∧
        (url.path.toList.head? ≠ some '/' → url.path.toList.getLast? ≠ some '/' →
          key.text = url.path) ∧
        handle.reader.size = object.data.length ∧
        (object.data.length < wordLimit → ∀ calls,
          let now := FileHandle.performAll .inMemory (handle, after) calls
          (∀ offset count, offset + count ≤ object.data.length →
            (now.1.readAt .inMemory offset count now.2).1 =
              ⟨object.data.slice offset count, none⟩) ∧
          ∀ count, (now.1.read .inMemory count now.2).1 =
            ⟨object.data.slice now.1.reader.position count, none⟩)) ∧
    ∀ key object, key.Valid → url.path ∈ key.names → object? key = some object →
      flags.write = false → ∀ connection,
      (connectionFor .inMemory host secrets path url scene).1 = .ok connection →
      ∃ handle after, openFile .inMemory host secrets path flags scene = (.ok handle, after) ∧
        handle.reader.size = object.data.length := by
  intro object?
  have hparse := parseUrl_eq_ok_iff.2 hurl
  refine ⟨fun handle after hopen ↦ ?_, fun key object hvalid hname hget hwrite connection hfor ↦ ?_⟩
  · obtain ⟨connection, middle, properties, hfor, hasked, rfl⟩ := exists_of_openFile hparse hopen
    obtain ⟨hmiddle, hstore⟩ := plain_of_connectionFor hplain hfor
    obtain ⟨key, object, hpath, hget, rfl, hworld⟩ := hmiddle.object_of_properties hasked
    obtain ⟨hvalid, hname⟩ :=
      ObjectPath.parse_eq_ok_iff.1 (ContainerStore.pathOf_eq_ok_iff.1 hpath)
    have hsame : object? key = some object := by rw [← hget, hstore]
    refine ⟨key, object, hvalid, hname, hsame,
      fun other hother hnamed ↦ ObjectPath.eq_of_mem_names hother hvalid hnamed hname,
      ObjectPath.text_eq_of_mem_names hname, rfl, fun hword calls ↦ ?_⟩
    exact FileHandle.reads_object_after_calls (hworld ▸ hmiddle) hpath (hworld ▸ hget) rfl rfl
      hword calls
  · have hpath := ContainerStore.pathOf_eq_ok_iff.2 (ObjectPath.parse_eq_ok_iff.2 ⟨hvalid, hname⟩)
    obtain ⟨handle, after, hopen, -, hsize⟩ :=
      exists_openFile_of_get? hplain hparse hwrite hfor hpath hget
    exact ⟨handle, after, hopen, hsize⟩

end

/-! ### One blob under two paths -/

/-- A URL of a blob in a container `c`. -/
def urlInC (path : String) : BlobUrl :=
  { scheme := .az, authority := some { account := "acct", endpoint := "blob.example" }
    container := "c", path }

theorem second_path_reads_a :
    let before : Scene MemoryWorld Unit := ⟨.new .empty, sampleService⟩
    ∃ handle after, openFile .inMemory .empty .empty "az://acct.blob.example/c//a" .forReading
        before = (.ok handle, after) ∧
      handle.reader.size = 1 ∧ (handle.read .inMemory 5 after).1 = ⟨[2], none⟩ := by
  intro before
  have hplain : before.world.Plain "c" :=
    ⟨ObjectStore.wellFormed_empty.after _, rfl, nofun⟩
  have hurl : BlobUrl.parse "az://acct.blob.example/c//a" = .ok (urlInC "/a") := rfl
  obtain ⟨hreads, hopens⟩ := @object_of_openFile .empty .empty _ .forReading _ before hplain hurl
  have hname : "/a" ∈ (⟨"a"⟩ : ObjectPath).names := by decide +kernel
  obtain ⟨handle, after, hopen, hsize⟩ :=
    hopens ⟨"a"⟩ ⟨[2], 0⟩ ⟨"a", rfl⟩ hname rfl rfl _ rfl
  obtain ⟨key, object, -, -, hget, honly, -, -, hbytes⟩ := hreads handle after hopen
  obtain rfl : ⟨"a"⟩ = key := honly ⟨"a"⟩ ⟨"a", rfl⟩ hname
  obtain rfl : ⟨[2], 0⟩ = object := Option.some.inj hget
  have hposition : handle.reader.position = 0 := by
    obtain ⟨size, hnew⟩ := FileHandle.reader_of_openFile hopen
    rw [hnew]
    rfl
  refine ⟨handle, after, hopen, hsize, ?_⟩
  have hread : (handle.read .inMemory 5 after).1 =
      ⟨Bytes.slice [2] handle.reader.position 5, none⟩ := (hbytes (by decide) []).2 5
  rw [hread, hposition]
  rfl

/-- The path `/a` opens a blob, although the container has none of that name. -/
theorem second_path_opens :
    let before : Scene MemoryWorld Unit := ⟨.new .empty, sampleService⟩
    BlobUrl.parse "az://acct.blob.example/c//a" = .ok (urlInC "/a") ∧
      "/a" ∉ before.world.store.store.names (urlInC "/a").container ∧
      ∃ handle, (openFile .inMemory .empty .empty "az://acct.blob.example/c//a" .forReading
        before).1 = .ok handle := by
  refine ⟨rfl, ?_, _, rfl⟩
  decide +kernel

end FileSystem

end BlobFs

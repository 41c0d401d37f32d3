import BlobFs.Proofs.BlobUrl
import BlobFs.Proofs.File.Opening
import BlobFs.Proofs.Glob
import BlobFs.Proofs.Session.Caching

/-!
# What is listed is found again

A listing gives names, and a name comes back in three ways: in a URL, in a question for one blob and
as the token of a further page.  Over a store in memory without faults each of them leads to the
blob that was listed (`found_of_listed`), whatever characters the name has: the URL is taken apart
at the separators in front of the name, and the name is a path as it stands.

So the URLs that a pattern expands to can all be opened.  A connection can be had for them as for
the pattern (`exists_connectionFor_again`), unless the session makes one for every access and finds
another secret for the URL than for the pattern.
-/

set_option autoImplicit false

namespace BlobFs.FileSystem

open ContainerStore (pathOf parentOf)

/-- A pattern is expanded only if there is a context. -/
theorem exists_contextFor_of_glob {σ κ : Type} {service : BlobService σ κ} {host : Host}
    {secrets : SecretRegistry} {path : String} {url : BlobUrl} {scene after : Scene σ κ}
    {start : String} {urls : List String} (hurl : parseUrl path = .ok url)
    (hstart : beforeWildcard? url.path = some start)
    (h : glob service host secrets path scene = some (.ok urls, after)) :
    ∃ id middle, contextFor service host secrets path url scene = (.ok id, middle) := by
  rcases hfor : contextFor service host secrets path url scene with ⟨e | id, middle⟩
  · rw [glob, hurl] at h
    simp only [hstart, hfor] at h
    cases h
  · exact ⟨id, middle, rfl⟩

section

variable {host : Host} {secrets : SecretRegistry} {path : String} {url : BlobUrl}
  {scene : Scene MemoryWorld Unit} {start : String} {urls : List String}
  {after : Scene MemoryWorld Unit}

/-- What a pattern expands to are URLs of blobs of the container. -/
theorem exists_blob_of_expand (hplain : scene.world.Plain url.container)
    {connection : Connection Unit}
    (h : expand .inMemory path url start connection scene = some (.ok urls, after)) :
    (∃ stats, after = { scene with session := { scene.session with stats } }) ∧
      ∀ found ∈ urls, ∃ blob ∈ scene.world.store.store.blobs url.container,
        found = url.urlFor blob.name := by
  cases hparent : parentOf start with
  | error problem =>
    have hrefused := expand_inMemory_of_error hplain hparent path connection
    rw [h] at hrefused
    cases hrefused
  | ok parent =>
    obtain ⟨stats, hexpand⟩ := exists_expand_inMemory hplain hparent path connection
    rw [h] at hexpand
    obtain ⟨hurls, rfl⟩ := Prod.mk.inj (Option.some.inj hexpand)
    refine ⟨⟨stats, rfl⟩, fun found hfound ↦ ?_⟩
    rw [Except.ok.inj hurls] at hfound
    obtain ⟨blob, hblob, rfl⟩ := List.mem_map.1 hfound
    exact ⟨blob, (ListRequest.mem_select.1 (List.mem_of_mem_filter hblob)).1, rfl⟩

end

/-- **What is listed is found again.**  Let a page of a container be listed in any way, in a store
in memory without faults.  The URL made of the name of a blob on it is taken apart into the parts
that it was made of, the properties of the name tell the size that was listed, and the name is
accepted as a token: the page after it has later names only.

And let a pattern be expanded.  Each URL that comes out has the parts of the pattern's and names an
object of the container.  If a connection can be had for it, it is opened and has the size of that
object; and one can be had if the session keeps connections, or finds the same secret for the URL as
for the pattern. -/
theorem found_of_listed {host : Host} {secrets : SecretRegistry} {text : String} {url : BlobUrl}
    {scene : Scene MemoryWorld Unit} (hplain : scene.world.Plain url.container)
    (hurl : BlobUrl.parse text = .ok url) :
    let w := scene.world
    (∀ request page after,
      BlobService.inMemory.list () url.container request w = (.ok page, after) →
      after = w ∧ ∀ blob ∈ page.blobs,
        BlobUrl.parse (url.urlFor blob.name) = .ok { url with path := blob.name } ∧
        (∃ properties, BlobService.inMemory.properties () ⟨url.container, blob.name⟩ w =
          (.ok properties, w) ∧ properties.size = blob.size) ∧
        ∀ next : ListRequest, (next.start = request.start ∨
            ∃ parent, parentOf next.start = .ok parent) →
          ∃ rest, BlobService.inMemory.list () url.container (next.withToken blob.name) w =
              (.ok rest, w) ∧
            ∀ other ∈ rest.blobs, blob.name < other.name) ∧
    ∀ start urls after, beforeWildcard? url.path = some start →
      glob .inMemory host secrets text scene = some (.ok urls, after) →
      ∀ found ∈ urls, ∃ name object, found = url.urlFor name ∧
        BlobUrl.parse found = .ok { url with path := name } ∧
        w.store.store.get? ((ObjectPath.encode url.container).append ⟨name⟩) = some object ∧
        let there : BlobUrl := { url with path := name }
        ((Caches scene.session ∨
            secrets.lookup found Secret.azureType = secrets.lookup text Secret.azureType) →
          ∃ connection,
            (connectionFor .inMemory host secrets found there after).1 = .ok connection) ∧
        ∀ connection, (connectionFor .inMemory host secrets found there after).1 = .ok connection →
          ∀ flags : OpenFlags, flags.write = false →
            ∃ handle last,
              openFile .inMemory host secrets found flags after = (.ok handle, last) ∧
              handle.blob = ⟨url.container, name⟩ ∧ handle.reader.size = object.data.length := by
  intro w
  have hshaped := BlobUrl.shaped_of_parse hurl
  have hparse := parseUrl_eq_ok_iff.2 hurl
  refine ⟨fun request page after hlist ↦ ?_, fun start urls after hstart hglob found hfound ↦ ?_⟩
  · obtain ⟨rfl, ⟨parent, hparent⟩, -⟩ := hplain.exists_of_list_eq_ok hlist
    refine ⟨rfl, fun blob hblob ↦ ?_⟩
    have hin := hplain.mem_blobs_of_list hlist hblob
    refine ⟨BlobUrl.parse_urlFor hshaped blob.name, hplain.properties_of_mem_blobs hin,
      fun next hnext ↦ ?_⟩
    obtain ⟨parent, hparent⟩ : ∃ parent, parentOf next.start = .ok parent :=
      hnext.elim (fun hsame ↦ ⟨parent, hsame ▸ hparent⟩) id
    exact hplain.exists_list_after hin hparent
  · obtain ⟨id, middle, hfor⟩ := exists_contextFor_of_glob hparse hstart hglob
    obtain ⟨hmiddle, hstore⟩ := plain_of_world hplain (context_of_contextFor hfor).2
    obtain ⟨connection, hexpand⟩ := exists_expand_of_contextFor hparse hstart hfor
    obtain ⟨⟨stats, rfl⟩, hblobs⟩ := exists_blob_of_expand hmiddle (hexpand.symm.trans hglob)
    obtain ⟨blob, hblob, rfl⟩ := hblobs found hfound
    obtain ⟨-, object, hget, -⟩ := hmiddle.wellFormed.mem_blobs_iff.1 hblob
    have hfound := BlobUrl.parse_urlFor hshaped blob.name
    have hnext : ({ middle with session := { middle.session with stats } } :
        Scene MemoryWorld Unit).world.Plain { url with path := blob.name }.container := hmiddle
    refine ⟨blob.name, object, rfl, hfound, by rw [← hget, hstore], fun hagain ↦ ?_,
      fun again hagain flags hwrite ↦ ?_⟩
    · refine exists_connectionFor_again hfor rfl (hagain.imp_right ?_) stats
      exact ConnectionSpec.resolve_congr host scene.session.settings secrets rfl rfl
    · exact exists_openFile_of_get? hnext (parseUrl_eq_ok_iff.2 hfound) hwrite hagain
        (hmiddle.wellFormed.pathOf_of_mem_blobs hblob) hget

/-! ### A name full of wildcards -/

/-- A store with one blob, the name of which has a `%`, brackets, a star, dots, a colon and a
letter beyond ASCII. -/
def strangeStore : ObjectStore :=
  ObjectStore.empty.after [.put (sampleKey "a%[*]/b..c: é" rfl) ⟨[5, 6], 0⟩]

/-- A new session over this store. -/
def strangeScene : Scene MemoryWorld Unit :=
  { session := .new .empty
    world := { sampleService with store := { store := strangeStore, faults := [] } } }

/-- The pattern for all names below some `a…/`. -/
def strangePattern : String := "az://acct.blob.example/c/a*/**"

theorem strange_name_found :
    ∃ urls after,
      glob .inMemory .empty .empty strangePattern strangeScene = some (.ok urls, after) ∧
      urls = ["az://acct.blob.example/c/a%[*]/b..c: é"] ∧
      ∀ found ∈ urls, ∃ handle last,
        openFile .inMemory .empty .empty found .forReading after = (.ok handle, last) := by
  have hplain : strangeScene.world.Plain "c" :=
    ⟨ObjectStore.wellFormed_empty.after _, rfl, nofun⟩
  have hurl : BlobUrl.parse strangePattern = .ok (urlInC "a*/**") := rfl
  have hstart : beforeWildcard? (urlInC "a*/**").path = some "a" := by decide +kernel
  have hparent : parentOf "a" = .ok none := rfl
  obtain ⟨middle, hfor⟩ : ∃ middle, contextFor .inMemory .empty .empty strangePattern
      (urlInC "a*/**") strangeScene = (.ok 0, middle) := ⟨_, rfl⟩
  obtain ⟨hmiddle, hstore⟩ : middle.world.Plain (urlInC "a*/**").container ∧
      middle.world.store = strangeScene.world.store :=
    plain_of_world hplain (context_of_contextFor hfor).2
  obtain ⟨connection, hexpanded⟩ :=
    exists_expand_of_contextFor (parseUrl_eq_ok_iff.2 hurl) hstart hfor
  obtain ⟨stats, hexpand⟩ :=
    exists_expand_inMemory hmiddle hparent strangePattern connection
  have hmatching : matchingUrls (urlInC "a*/**") (.ofText "a*/**")
      { blobs := (firstRequest "a").select (strangeStore.blobs "c"), nextToken := none } =
      ["az://acct.blob.example/c/a%[*]/b..c: é"] := by decide +kernel
  rw [hstore] at hexpand
  refine ⟨_, _, hexpanded.trans hexpand, hmatching, fun found hfound ↦ ?_⟩
  obtain ⟨name, object, -, -, -, hconnects, hopens⟩ := (found_of_listed hplain hurl).2 _ _ _ hstart
    (hexpanded.trans hexpand) found hfound
  obtain ⟨again, hagain⟩ := hconnects (.inl ⟨rfl, rfl⟩)
  obtain ⟨handle, last, hopen, -⟩ := hopens again hagain .forReading rfl
  exact ⟨handle, last, hopen⟩

end BlobFs.FileSystem

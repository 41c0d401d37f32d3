import BlobFs.Proofs.Service.Paging
import BlobFs.Proofs.Session.Contexts
import BlobFs.Proofs.Store.Containers
import Mathlib.Data.List.TakeWhile

/-!
# Looking for blobs by a pattern

What `FileSystem.glob` answers for a path with a wildcard, over a store in memory that does what it
is asked.  Three parts come together.

* The text before the first wildcard is what the names must begin with (`beforeWildcard?_eq`).
* Every page is read: the tokens rise from page to page, so none comes twice, and each request
  selects fewer blobs than the one before, so there is a last one (`gatherPages_eq`).
* A page is filtered by the whole pattern, and the names keep their order.

`glob_inMemory` is the result: the blobs of the container that begin with the text and match the
pattern, each once and in order, or a failure if the text has no parent that is a path.
-/

set_option autoImplicit false

namespace BlobFs.FileSystem

/-! ## The text before the wildcard -/

/-- The characters at which a pattern is cut. -/
def wildcards : List Char := ['*', '[', '\\']

theorem startsWildcard_iff {c : Char} : startsWildcard c = true ↔ c ∈ wildcards := by
  simp [startsWildcard, wildcards, or_assoc]

/-- A path is cut before its first wildcard. -/
theorem beforeWildcard?_eq {path start : String} {wildcard : Char} {rest : List Char}
    (hpath : path.toList = start.toList ++ wildcard :: rest) (hwild : wildcard ∈ wildcards)
    (hstart : ∀ c ∈ start.toList, c ∉ wildcards) : beforeWildcard? path = some start := by
  have hany : path.toList.any startsWildcard = true := by
    rw [hpath, List.any_append, List.any_cons, startsWildcard_iff.2 hwild]
    simp
  have hbefore : path.toList.takeWhile (fun c ↦ !startsWildcard c) = start.toList := by
    rw [hpath, List.takeWhile_append_of_pos, List.takeWhile_cons_of_neg]
    · exact List.append_nil _
    · simp [startsWildcard_iff.2 hwild]
    · intro c hc
      simpa using mt startsWildcard_iff.1 (hstart c hc)
  rw [beforeWildcard?, if_pos hany, hbefore, String.ofList_toList]

/-- Only before its first wildcard is a path cut. -/
theorem exists_of_beforeWildcard? {path start : String} (h : beforeWildcard? path = some start) :
    ∃ wildcard rest, path.toList = start.toList ++ wildcard :: rest ∧ wildcard ∈ wildcards ∧
      ∀ c ∈ start.toList, c ∉ wildcards := by
  obtain ⟨hany, he⟩ := Option.ite_none_right_eq_some.1 h
  have hstart : start.toList = path.toList.takeWhile fun c ↦ !startsWildcard c := by
    rw [← Option.some.inj he, String.toList_ofList]
  have hsplit := List.takeWhile_append_dropWhile (p := fun c ↦ !startsWildcard c) (l := path.toList)
  cases hrest : path.toList.dropWhile fun c ↦ !startsWildcard c with
  | nil =>
    -- without a rest no character of the path is a wildcard
    obtain ⟨c, hc, hwild⟩ := List.any_eq_true.1 hany
    have hnot := List.dropWhile_eq_nil_iff.1 hrest c hc
    simp [hwild] at hnot
  | cons wildcard rest =>
    refine ⟨wildcard, rest, ?_, ?_, fun c hc ↦ ?_⟩
    · rw [hstart, ← hrest, hsplit]
    · have hhead := List.head?_dropWhile_not (fun c ↦ !startsWildcard c) path.toList
      rw [hrest] at hhead
      exact startsWildcard_iff.1 (by simpa using hhead)
    · have hplain := List.mem_takeWhile_imp (hstart ▸ hc)
      exact mt startsWildcard_iff.2 (by simpa using hplain)

/-! ## All pages -/

section

variable {τ : Type} {list : ListRequest → τ → Except RemoteError ListPage × τ}

/-- Whether every page asked for is the one that the blobs give, with a valid token. -/
def Lists (list : ListRequest → τ → Except RemoteError ListPage × τ) (blobs : List BlobItem)
    (start : String) (holds : τ → Prop) : Prop :=
  ∀ request state, holds state → request.start = start →
    (∀ token, request.token = some token → token ∈ blobs.map BlobItem.name) →
    ∃ after, list request state = (.ok (.ofFirst request.size (request.select blobs)), after) ∧
      holds after

/-- A failure ends the reading. -/
theorem gatherPages_of_error {path : String} {select : ListPage → List String}
    {request : ListRequest} {seen : List String} {state after : τ} {e : RemoteError}
    (hpage : list request state = (.error e, after)) :
    request.gatherPages list path select seen state =
      some (.error (.remote s!"AzureStorageFileSystem list of '{path}'" e), after) := by
  rw [ListRequest.gatherPages, hpage]

/-- A page without a token is the last one. -/
theorem gatherPages_of_none {path : String} {select : ListPage → List String}
    {request : ListRequest} {seen : List String} {state after : τ} {page : ListPage}
    (hpage : list request state = (.ok page, after)) (hnext : page.nextToken = none) :
    request.gatherPages list path select seen state = some (.ok (select page), after) := by
  rw [ListRequest.gatherPages, hpage]
  simp only [hnext]

/-- A token that comes again ends the reading with a failure. -/
theorem gatherPages_of_seen {path : String} {select : ListPage → List String}
    {request : ListRequest} {seen : List String} {state after : τ} {page : ListPage}
    {token : String} (hpage : list request state = (.ok page, after))
    (hnext : page.nextToken = some token) (hseen : token ∈ seen) :
    request.gatherPages list path select seen state =
      some (.error (.repeatedToken path token), after) := by
  rw [ListRequest.gatherPages, hpage]
  simp only [hnext, if_pos hseen]

/-- After a page with a new token the reading goes on from there. -/
theorem gatherPages_of_new {path : String} {select : ListPage → List String}
    {request : ListRequest} {seen : List String} {state after last : τ} {page : ListPage}
    {token : String} {answer : Except StorageError (List String)}
    (hpage : list request state = (.ok page, after)) (hnext : page.nextToken = some token)
    (hnew : token ∉ seen)
    (hrest : (request.withToken token).gatherPages list path select (token :: seen) after =
      some (answer, last)) :
    request.gatherPages list path select seen state =
      some (answer.map (select page ++ ·), last) := by
  rw [ListRequest.gatherPages, hpage]
  simp only [hnext, if_neg hnew, hrest]
  rfl

/-- **Reading page after page gives what the pattern selects of all that the request wants.** -/
theorem gatherPages_eq {blobs : List BlobItem} {holds : τ → Prop} {request : ListRequest}
    (hlists : Lists list blobs request.start holds)
    (hasc : blobs.Pairwise fun a b ↦ a.name < b.name) (path : String) (url : BlobUrl)
    (pattern : Pattern) {seen : List String} {state : τ} (hstate : holds state)
    (htoken : ∀ token, request.token = some token → token ∈ blobs.map BlobItem.name)
    (hseen : ∀ token ∈ seen, request.wants token = false) :
    ∃ after, request.gatherPages list path (matchingUrls url pattern) seen state =
        some (.ok (matchingUrls url pattern { blobs := request.select blobs, nextToken := none }),
          after) ∧
      holds after := by
  -- each further request selects fewer blobs
  induction hsize : (request.select blobs).length using Nat.strongRecOn
    generalizing request seen state with
  | ind size ih =>
    obtain ⟨after, hpage, hafter⟩ := hlists request state hstate rfl htoken
    cases hnext : (ListPage.ofFirst request.size (request.select blobs)).nextToken with
    | none =>
      refine ⟨after, ?_, hafter⟩
      rw [gatherPages_of_none hpage hnext, matchingUrls,
        ListPage.blobs_of_nextToken_eq_none request.size_pos hnext, matchingUrls]
    | some token =>
      obtain ⟨hwants, hin⟩ := ListRequest.wants_of_nextToken hnext
      have hnew : token ∉ seen := fun hin ↦ by
        rw [hseen token hin] at hwants
        cases hwants
      have hlists' : Lists list blobs (request.withToken token).start holds := hlists
      have htoken' : ∀ next, (request.withToken token).token = some next →
          next ∈ blobs.map BlobItem.name := by
        intro next hnext'
        obtain rfl : token = next := Option.some.inj hnext'
        exact hin
      have hseen' : ∀ old ∈ token :: seen, (request.withToken token).wants old = false := by
        intro old hold
        rw [ListRequest.wants_withToken hwants]
        rcases List.mem_cons.1 hold with rfl | hold
        · rw [decide_eq_false (String.lt_irrefl old), Bool.and_false]
        · rw [hseen old hold, Bool.false_and]
      have hfewer : ((request.withToken token).select blobs).length < size :=
        hsize ▸ ListRequest.length_select_lt hasc hnext
      obtain ⟨last, hrest, hlast⟩ := ih _ hfewer hlists' hafter htoken' hseen' rfl
      refine ⟨last, ?_, hlast⟩
      rw [gatherPages_of_new hpage hnext hnew hrest, Except.map, matchingUrls, matchingUrls,
        matchingUrls, ← List.map_append, ← List.filter_append,
        ListRequest.blobs_append_select hasc hnext]

end

/-! ## Over a store in memory -/

/-- Counting a page does not change it. -/
theorem list_withStats {σ κ : Type} {service : BlobService σ κ} {client : κ} {container : String}
    {request : ListRequest} {answer : Except RemoteError ListPage} {w after : σ}
    (h : service.list client container request w = (answer, after)) (recorded : Bool)
    (stats : HttpStats) :
    ∃ counted, (service.withStats recorded).list client container request (stats, w) =
      (answer, counted, after) := by
  cases recorded with
  | true => exact ⟨stats.addList, by simp [BlobService.withStats, BlobService.recorded, h]⟩
  | false => exact ⟨stats, by simp [BlobService.withStats, BlobService.unrecorded, h]⟩

/-- The service in memory with its counting lists the blobs of the container, and stays as it is. -/
theorem lists_inMemory {w : MemoryWorld} {container : String} (hplain : w.Plain container)
    {start : String} {parent : Option ObjectPath}
    (hparent : ContainerStore.parentOf start = .ok parent) (recorded : Bool) :
    Lists ((BlobService.inMemory.withStats recorded).list () container)
      (w.store.store.blobs container) start fun state : HttpStats × MemoryWorld ↦ state.2 = w := by
  rintro request ⟨stats, w⟩ rfl rfl htoken
  have hpage := hplain.list_eq_ofFirst hparent fun name hname ↦
    hplain.wellFormed.valid_of_mem_names (htoken name hname)
  obtain ⟨counted, hlist⟩ := list_withStats hpage recorded stats
  exact ⟨(counted, w), hlist, rfl⟩

/-- Expanding a pattern is reading all pages of its first request. -/
theorem expand_eq {σ κ : Type} {service : BlobService σ κ} {path : String} {url : BlobUrl}
    {start : String} {connection : Connection κ} {scene : Scene σ κ}
    {answer : Except StorageError (List String)} {stats : HttpStats} {world : σ}
    (h : (firstRequest start).gatherPages
      ((service.withStats connection.recorded).list connection.client url.container)
      path (matchingUrls url (.ofText url.path)) [] (scene.session.stats, scene.world) =
        some (answer, stats, world)) :
    expand service path url start connection scene =
      some (answer, { session := { scene.session with stats }, world }) := by
  rw [expand, Scene.run?, h]
  rfl

/-- A pattern expands to the blobs that match it, and nothing but the counters changes. -/
theorem exists_expand_inMemory {scene : Scene MemoryWorld Unit} {url : BlobUrl} {start : String}
    {parent : Option ObjectPath} (hplain : scene.world.Plain url.container)
    (hparent : ContainerStore.parentOf start = .ok parent) (path : String)
    (connection : Connection Unit) :
    ∃ stats, expand .inMemory path url start connection scene =
      some (.ok (matchingUrls url (.ofText url.path)
        { blobs := (firstRequest start).select (scene.world.store.store.blobs url.container)
          nextToken := none }), { scene with session := { scene.session with stats } }) := by
  have hlists := lists_inMemory hplain hparent connection.recorded
  obtain ⟨⟨stats, world⟩, hpages, rfl⟩ : ∃ after, (firstRequest start).gatherPages
      ((BlobService.inMemory.withStats connection.recorded).list connection.client url.container)
      path (matchingUrls url (.ofText url.path)) []
      (scene.session.stats, scene.world) = some (.ok _, after) ∧ after.2 = scene.world :=
    gatherPages_eq hlists (hplain.wellFormed.blobs_ascending _) path url _ rfl nofun nofun
  exact ⟨stats, expand_eq hpages⟩

theorem expand_inMemory {scene : Scene MemoryWorld Unit} {url : BlobUrl} {start : String}
    {parent : Option ObjectPath} (hplain : scene.world.Plain url.container)
    (hparent : ContainerStore.parentOf start = .ok parent) (path : String)
    (connection : Connection Unit) :
    (expand .inMemory path url start connection scene).map Prod.fst =
      some (.ok (matchingUrls url (.ofText url.path)
        { blobs := (firstRequest start).select (scene.world.store.store.blobs url.container)
          nextToken := none })) := by
  obtain ⟨stats, hexpand⟩ := exists_expand_inMemory hplain hparent path connection
  rw [hexpand]
  rfl

/-- A pattern whose beginning has no parent fails. -/
theorem expand_inMemory_of_error {scene : Scene MemoryWorld Unit} {url : BlobUrl} {start : String}
    {problem : RemoteError} (hplain : scene.world.Plain url.container)
    (hparent : ContainerStore.parentOf start = .error problem) (path : String)
    (connection : Connection Unit) :
    (expand .inMemory path url start connection scene).map Prod.fst =
      some (.error (.remote s!"AzureStorageFileSystem list of '{path}'" problem)) := by
  have hpage : BlobService.inMemory.list () url.container (firstRequest start) scene.world =
      (.error problem, scene.world) := by
    rw [hplain.list_eq_listPage, ContainerStore.listPage]
    rw [show (firstRequest start).nameStart.getD "" = start from rfl, hparent]
  obtain ⟨counted, hlist⟩ := list_withStats hpage connection.recorded scene.session.stats
  rw [expand_eq (gatherPages_of_error hlist)]
  rfl

/-- The URLs of the matching blobs are made of their names. -/
theorem matchingUrls_select (url : BlobUrl) (pattern : Pattern) (start : String)
    (s : ObjectStore) :
    matchingUrls url pattern
        { blobs := (firstRequest start).select (s.blobs url.container), nextToken := none } =
      (((s.names url.container).filter (Text.startsWith · start)).filter
        pattern.matchesName).map url.urlFor := by
  have hnames := names_select_of_first (firstRequest start) rfl s url.container
  change _ = (s.names url.container).filter (Text.startsWith · start) at hnames
  rw [← hnames, List.filter_map, List.map_map, matchingUrls]
  rfl

/-- Looking for blobs is expanding the pattern, once there is a context. -/
theorem exists_expand_of_contextFor {σ κ : Type} {service : BlobService σ κ} {host : Host}
    {secrets : SecretRegistry} {path : String} {url : BlobUrl} {scene after : Scene σ κ} {id : Nat}
    {start : String} (hurl : parseUrl path = .ok url)
    (hstart : beforeWildcard? url.path = some start)
    (hcontext : contextFor service host secrets path url scene = (.ok id, after)) :
    ∃ connection, glob service host secrets path scene =
      expand service path url start connection after := by
  obtain ⟨⟨context, hin⟩, -⟩ := context_of_contextFor hcontext
  refine ⟨context.connection, ?_⟩
  simp only [glob, hurl, hstart, hcontext, hin]

/-- Until there is one the world has changed only if a connection was made. -/
theorem exists_expand_of_context {σ κ : Type} {service : BlobService σ κ} {host : Host}
    {secrets : SecretRegistry} {path : String} {url : BlobUrl} {scene : Scene σ κ} {id : Nat}
    {start : String} (hurl : parseUrl path = .ok url)
    (hstart : beforeWildcard? url.path = some start)
    (hcontext : (contextFor service host secrets path url scene).1 = .ok id) :
    ∃ connection after, glob service host secrets path scene =
        expand service path url start connection after ∧
      (after.world = scene.world ∨
        after.world = (create service host secrets path url scene).2) := by
  rcases hfor : contextFor service host secrets path url scene with ⟨answer, after⟩
  rw [hfor] at hcontext
  obtain rfl : answer = .ok id := hcontext
  obtain ⟨connection, hglob⟩ := exists_expand_of_contextFor hurl hstart hfor
  exact ⟨connection, after, hglob, (context_of_contextFor hfor).2⟩

/-- Over a store in memory the pattern is expanded over the same store. -/
theorem exists_expand_of_glob {host : Host} {secrets : SecretRegistry} {path : String}
    {url : BlobUrl} {scene : Scene MemoryWorld Unit} {id : Nat} {start : String}
    (hplain : scene.world.Plain url.container) (hurl : parseUrl path = .ok url)
    (hstart : beforeWildcard? url.path = some start)
    (hcontext : (contextFor .inMemory host secrets path url scene).1 = .ok id) :
    ∃ connection after, (glob .inMemory host secrets path scene).map Prod.fst =
        (expand .inMemory path url start connection after).map Prod.fst ∧
      after.world.Plain url.container ∧ after.world.store = scene.world.store := by
  obtain ⟨connection, after, hglob, hworld⟩ := exists_expand_of_context hurl hstart hcontext
  exact ⟨connection, after, congrArg (Option.map Prod.fst) hglob, plain_of_world hplain hworld⟩

/-- **A pattern finds exactly the blobs it describes.**  In a store in memory, for a path whose text
before the first wildcard is `start`: if what stands in `start` before its last `/` is no path, the
URL is refused; else the answer is a list of blobs of the URL's container, in strictly ascending
order of the bytes of their names.  A blob is among them exactly when its name begins with `start`
and matches the whole pattern, and none of them lies in another container. -/
theorem glob_inMemory {host : Host} {secrets : SecretRegistry} {path : String} {url : BlobUrl}
    {scene : Scene MemoryWorld Unit} {id : Nat} {start : String} {wildcard : Char}
    {rest : List Char} (hplain : scene.world.Plain url.container)
    (hurl : parseUrl path = .ok url)
    (hpath : url.path.toList = start.toList ++ wildcard :: rest) (hwild : wildcard ∈ wildcards)
    (hstart : ∀ c ∈ start.toList, c ∉ wildcards)
    (hcontext : (contextFor .inMemory host secrets path url scene).1 = .ok id) :
    let answer := (glob .inMemory host secrets path scene).map Prod.fst
    (∀ before after : String, ∀ problem, start.toList = before.toList ++ '/' :: after.toList →
      '/' ∉ after.toList → ObjectPath.parse before = .error problem →
        ∃ e, answer = some (.error e) ∧ e.kind = .invalidFormat) ∧
    ((∀ before after : String, start.toList = before.toList ++ '/' :: after.toList →
      '/' ∉ after.toList → ∃ parent, ObjectPath.parse before = .ok parent) →
        ∃ names : List String, answer = some (.ok (names.map url.urlFor)) ∧
          (names.Pairwise fun a b ↦ Bytes.ofText a < Bytes.ofText b) ∧
          (∀ name, name ∈ names ↔ name ≠ "" ∧
            (scene.world.store.store.get?
              ((ObjectPath.encode url.container).append ⟨name⟩)).isSome = true ∧
            Text.startsWith name start = true ∧
            (Pattern.ofText url.path).matchesName name = true) ∧
          ∀ name ∈ names, ∀ other key, IsSegment other → other ≠ url.container → key ≠ "" →
            (ObjectPath.encode url.container).append ⟨name⟩ ≠
              (ObjectPath.encode other).append ⟨key⟩) := by
  obtain ⟨connection, after, hglob, hafter, hstore⟩ :=
    exists_expand_of_glob hplain hurl (beforeWildcard?_eq hpath hwild hstart) hcontext
  refine ⟨fun before behind problem hsplit hlast hproblem ↦ ?_, fun hparents ↦ ?_⟩
  · have hparent := ContainerStore.parentOf_of_slash hsplit hlast
    rw [hproblem] at hparent
    exact ⟨_, hglob.trans (expand_inMemory_of_error hafter hparent path connection), rfl⟩
  · obtain ⟨parent, hparent⟩ := ContainerStore.exists_parentOf hparents
    have hwell := hplain.wellFormed
    have hcontainer : IsSegment url.container := by
      rw [parseUrl] at hurl
      split at hurl
      · next hparse =>
        cases hurl
        exact BlobUrl.container_of_parse hparse
      · cases hurl
    refine ⟨((scene.world.store.store.names url.container).filter (Text.startsWith · start)).filter
      (Pattern.ofText url.path).matchesName, ?_, ?_, fun name ↦ ?_, ?_⟩
    · rw [← matchingUrls_select, ← hstore]
      exact hglob.trans (expand_inMemory hafter hparent path connection)
    · exact (((hwell.names_ascending _).filter _).filter _).imp Bytes.ofText_lt_ofText
    · rw [List.mem_filter, List.mem_filter, hwell.mem_names_iff, and_assoc, and_assoc]
    · intro name hname other key hother hne hkey
      have hin := List.mem_of_mem_filter (List.mem_of_mem_filter hname)
      exact ObjectPath.append_encode_ne hcontainer hother (Ne.symm hne)
        (ObjectPath.text_ne_empty.1 (hwell.mem_names_iff.1 hin).1) (ObjectPath.text_ne_empty.1 hkey)

/-! ### Two blobs that match -/

/-- A new session over the store with the blobs `a`, `ab` and `b` in the container `c`. -/
def sampleScene : Scene MemoryWorld Unit :=
  { session := .new .empty, world := sampleService }

/-- The URL `az://acct.blob.example/c/a*`. -/
def sampleUrl : BlobUrl :=
  { scheme := .az, authority := some { account := "acct", endpoint := "blob.example" }
    container := "c", path := "a*" }

theorem glob_finds_ab :
    ∃ names : List String,
      (glob .inMemory .empty .empty "az://acct.blob.example/c/a*" sampleScene).map Prod.fst =
        some (.ok (names.map sampleUrl.urlFor)) ∧ "ab" ∈ names ∧ "b" ∉ names := by
  have hplain : sampleScene.world.Plain "c" :=
    ⟨ObjectStore.wellFormed_empty.after _, rfl, nofun⟩
  have hurl : parseUrl "az://acct.blob.example/c/a*" = .ok sampleUrl := rfl
  have hpath : sampleUrl.path.toList = "a".toList ++ '*' :: [] := rfl
  have hstart : ∀ c ∈ "a".toList, c ∉ wildcards := by simp [wildcards]
  have hcontext : (contextFor .inMemory .empty .empty "az://acct.blob.example/c/a*" sampleUrl
    sampleScene).1 = .ok 0 := rfl
  have hslash : '/' ∉ "a".toList := by decide
  obtain ⟨names, hanswer, -, hiff, -⟩ :=
    (glob_inMemory hplain hurl hpath (by decide) hstart hcontext).2
      fun before after hsplit _ ↦
        absurd (hsplit ▸ List.mem_append_right _ List.mem_cons_self) hslash
  refine ⟨names, hanswer, (hiff "ab").2 ⟨by decide, rfl, rfl, by decide +kernel⟩, fun hin ↦ ?_⟩
  exact absurd ((hiff "b").1 hin).2.2.1 (by decide)

end BlobFs.FileSystem

import BlobFs.Proofs.Service.Listing
import BlobFs.Proofs.Text.Order

/-!
# Following the tokens while the store changes

A client asks for page after page, each time with the token of the page before, and between two
questions the store may be changed in any way (`followTokens`).  Every page is made anew from the
store as it is then, and the token may name a blob that is gone by now.

* `ListRequest.blobs_append_select` — the next request selects what did not fit on the page;
* `Listing` — what holds of the pages so far, and `Listing.cons`, by which one more page in front
  keeps it;
* `listing_of_followTokens` — hence it holds of every run, from the token on at which it starts;
* `followTokens_of_unchanged` — in a store that stays as it is the pages are the one list cut up.
-/

set_option autoImplicit false

namespace BlobFs

/-! ## The next request -/

/-- A request after a wanted token wants what the request before it wanted and comes later. -/
theorem ListRequest.wants_withToken {request : ListRequest} {token : String}
    (htoken : request.wants token = true) (name : String) :
    (request.withToken token).wants name = (request.wants name && decide (token < name)) := by
  have hlater : token < name → request.isAfterToken name = true := by
    intro hlt
    have hafter := (Bool.and_eq_true_iff.1 htoken).2
    rw [isAfterToken] at hafter ⊢
    cases hprevious : request.token with
    | none => rfl
    | some previous =>
      rw [hprevious] at hafter
      exact decide_eq_true (String.lt_trans (of_decide_eq_true hafter) hlt)
  change (Text.startsWith name request.start && decide (token < name)) = _
  rw [wants]
  by_cases hlt : token < name
  · rw [hlater hlt, Bool.and_true]
  · rw [decide_eq_false hlt, Bool.and_false, Bool.and_false]

/-- What comes after the token of a page is what the next request wants. -/
theorem ListRequest.select_withToken {request : ListRequest} {blobs : List BlobItem}
    {token : String} (htoken : request.wants token = true) :
    (request.withToken token).select blobs =
      (request.select blobs).filter fun blob ↦ decide (token < blob.name) := by
  rw [select, select, List.filter_filter]
  refine List.filter_congr fun blob _ ↦ ?_
  rw [wants_withToken htoken, Bool.and_comm]

/-- The token of a page is the name of a wanted blob. -/
theorem ListRequest.wants_of_nextToken {request : ListRequest} {blobs : List BlobItem}
    {token : String}
    (h : (ListPage.ofFirst request.size (request.select blobs)).nextToken = some token) :
    request.wants token = true ∧ token ∈ blobs.map BlobItem.name := by
  obtain ⟨-, -, front, last, htake, rfl⟩ := ListPage.blobs_of_nextToken_eq_some h
  have hlast : last ∈ request.select blobs :=
    List.mem_of_mem_take (htake ▸ List.mem_append_right front (List.mem_singleton_self last))
  obtain ⟨hin, hwants⟩ := mem_select.1 hlast
  exact ⟨hwants, List.mem_map_of_mem hin⟩

/-- What the next request selects is what did not fit on the page. -/
theorem ListRequest.select_of_nextToken {request : ListRequest} {blobs : List BlobItem}
    {token : String} (hasc : blobs.Pairwise fun a b ↦ a.name < b.name)
    (h : (ListPage.ofFirst request.size (request.select blobs)).nextToken = some token) :
    (request.withToken token).select blobs = (request.select blobs).drop request.size := by
  rw [select_withToken (wants_of_nextToken h).1]
  exact ListPage.filter_lt_token (hasc.filter _) h

/-- The page and what the next request selects are together what the request selects. -/
theorem ListRequest.blobs_append_select {request : ListRequest} {blobs : List BlobItem}
    {token : String} (hasc : blobs.Pairwise fun a b ↦ a.name < b.name)
    (h : (ListPage.ofFirst request.size (request.select blobs)).nextToken = some token) :
    (ListPage.ofFirst request.size (request.select blobs)).blobs ++
      (request.withToken token).select blobs = request.select blobs := by
  rw [(ListPage.blobs_of_nextToken_eq_some h).2.1, select_of_nextToken hasc h,
    List.take_append_drop]

/-- The next request selects fewer blobs. -/
theorem ListRequest.length_select_lt {request : ListRequest} {blobs : List BlobItem}
    {token : String} (hasc : blobs.Pairwise fun a b ↦ a.name < b.name)
    (h : (ListPage.ofFirst request.size (request.select blobs)).nextToken = some token) :
    ((request.withToken token).select blobs).length < (request.select blobs).length := by
  have hsize := request.size_pos
  have hmore := (ListPage.blobs_of_nextToken_eq_some h).1
  rw [select_of_nextToken hasc h, List.length_drop]
  omega

/-! ## A run -/

/-- A page, and the store that it was listed from. -/
structure Visit where
  store : ObjectStore
  page : ListPage

/-- The names on the page. -/
def Visit.names (visit : Visit) : List String :=
  visit.page.blobs.map BlobItem.name

/-- The names on all pages. -/
def listedNames (visits : List Visit) : List String :=
  visits.flatMap Visit.names

/-- Whether the last page has no token. -/
def Ended (visits : List Visit) : Prop :=
  ∃ last, visits.getLast? = some last ∧ last.page.nextToken = none

theorem Ended.cons {visits : List Visit} (h : Ended visits) (visit : Visit) :
    Ended (visit :: visits) := by
  obtain ⟨last, hlast, hnext⟩ := h
  cases visits with
  | nil => cases hlast
  | cons next visits => exact ⟨last, by rwa [List.getLast?_cons_cons], hnext⟩

/-- A run does not end with a page that has a token. -/
theorem Ended.of_cons {visits : List Visit} {visit : Visit} {token : String}
    (h : Ended (visit :: visits)) (hnext : visit.page.nextToken = some token) : Ended visits := by
  obtain ⟨last, hlast, hend⟩ := h
  cases visits with
  | nil =>
    rw [List.getLast?_singleton, Option.some_inj] at hlast
    rw [← hlast, hnext] at hend
    cases hend
  | cons next visits => exact ⟨last, by rwa [List.getLast?_cons_cons] at hlast, hend⟩

/-- The service after changes to its store. -/
def MemoryWorld.after (w : MemoryWorld) (changes : List StoreChange) : MemoryWorld :=
  { w with store := { w.store with store := w.store.store.after changes } }

/-- Asks for a page after each round of changes, with the token of the page before, until a page has
no token or there are no more rounds. -/
def followTokens (container : String) :
    List (List StoreChange) → ListRequest → MemoryWorld → Except RemoteError (List Visit)
  | [], _, _ => .ok []
  | changes :: rounds, request, w =>
    match BlobService.inMemory.list () container request (w.after changes) with
    | (.error e, _) => .error e
    | (.ok page, w) =>
      let visit : Visit := { store := w.store.store, page }
      match page.nextToken with
      | none => .ok [visit]
      | some token =>
        match followTokens container rounds (request.withToken token) w with
        | .error e => .error e
        | .ok visits => .ok (visit :: visits)

theorem MemoryWorld.Plain.after {w : MemoryWorld} {container : String} (h : w.Plain container)
    (changes : List StoreChange) : (w.after changes).Plain container :=
  ⟨h.wellFormed.after changes, h.faultless, h.opens⟩

/-! ## What holds of the pages -/

/-- What the pages of a run have, if the first of them was asked for by `request`. -/
structure Listing (container : String) (request : ListRequest) (visits : List Visit) : Prop where
  ascending : (listedNames visits).Pairwise (· < ·)
  wanted : ∀ visit ∈ visits, ∀ blob ∈ visit.page.blobs,
    blob ∈ visit.store.blobs container ∧ request.wants blob.name = true
  full : ∀ visit ∈ visits, visit.page.nextToken.isSome = true →
    visit.page.blobs.length = request.size
  complete : Ended visits → ∀ name, request.wants name = true →
    (∀ visit ∈ visits, name ∈ visit.store.names container) → name ∈ listedNames visits

theorem mem_listedNames {visits : List Visit} {name : String} :
    name ∈ listedNames visits ↔
      ∃ visit ∈ visits, ∃ blob ∈ visit.page.blobs, blob.name = name := by
  simp only [listedNames, Visit.names, List.mem_flatMap, List.mem_map]

section

variable {container : String} {request : ListRequest} {s : ObjectStore}

/-- The page that a request gets from a store. -/
def Visit.of (container : String) (request : ListRequest) (s : ObjectStore) : Visit :=
  { store := s, page := .ofFirst request.size (request.select (s.blobs container)) }

theorem select_ascending (h : s.WellFormed) :
    (request.select (s.blobs container)).Pairwise fun a b ↦ a.name < b.name :=
  (h.blobs_ascending container).filter _

/-- The blobs on a page are wanted blobs of the container. -/
theorem Visit.of_blobs_sublist :
    (Visit.of container request s).page.blobs.Sublist (request.select (s.blobs container)) := by
  rw [Visit.of]
  cases hnext : (ListPage.ofFirst request.size (request.select (s.blobs container))).nextToken with
  | none => rw [ListPage.blobs_of_nextToken_eq_none request.size_pos hnext]
  | some token =>
    rw [(ListPage.blobs_of_nextToken_eq_some hnext).2.1]
    exact List.take_sublist _ _

theorem Visit.names_ascending (h : s.WellFormed) :
    (Visit.of container request s).names.Pairwise (· < ·) :=
  List.pairwise_map.2 ((select_ascending h).sublist of_blobs_sublist)

theorem Visit.wanted_of_mem {blob : BlobItem}
    (hblob : blob ∈ (Visit.of container request s).page.blobs) :
    blob ∈ s.blobs container ∧ request.wants blob.name = true :=
  ListRequest.mem_select.1 (of_blobs_sublist.subset hblob)

/-- A wanted name of the container is among the selected blobs. -/
theorem exists_mem_select {name : String} (hwants : request.wants name = true)
    (hname : name ∈ s.names container) :
    ∃ blob ∈ request.select (s.blobs container), blob.name = name := by
  obtain ⟨blob, hblob, rfl⟩ := List.mem_map.1 hname
  exact ⟨blob, ListRequest.mem_select.2 ⟨hblob, hwants⟩, rfl⟩

/-- The last page has all that is left. -/
theorem Listing.last (h : s.WellFormed)
    (hnext : (Visit.of container request s).page.nextToken = none) :
    Listing container request [Visit.of container request s] where
  ascending := by
    rw [listedNames, List.flatMap_singleton]
    exact Visit.names_ascending h
  wanted visit hvisit blob hblob := by
    obtain rfl := List.mem_singleton.1 hvisit
    exact Visit.wanted_of_mem hblob
  full visit hvisit hsome := by
    obtain rfl := List.mem_singleton.1 hvisit
    rw [hnext] at hsome
    cases hsome
  complete _ name hwants hpresent := by
    have hself := List.mem_singleton_self (Visit.of container request s)
    have hin : name ∈ s.names container := hpresent _ hself
    obtain ⟨blob, hblob, rfl⟩ := exists_mem_select hwants hin
    rw [← ListPage.blobs_of_nextToken_eq_none request.size_pos hnext] at hblob
    exact mem_listedNames.2 ⟨_, hself, blob, hblob, rfl⟩

/-- **One more page in front of a run that starts after its token.** -/
theorem Listing.cons (h : s.WellFormed) {token : String}
    (hnext : (Visit.of container request s).page.nextToken = some token) {visits : List Visit}
    (hrest : Listing container (request.withToken token) visits) :
    Listing container request (Visit.of container request s :: visits) := by
  have htoken := (ListRequest.wants_of_nextToken hnext).1
  obtain ⟨-, hblobs, -⟩ := ListPage.blobs_of_nextToken_eq_some hnext
  obtain ⟨hupto, hbeyond⟩ := ListPage.le_and_lt_of_nextToken (select_ascending h) hnext
  have hlater : ∀ name ∈ listedNames visits, token < name ∧ request.wants name = true := by
    intro name hname
    obtain ⟨visit, hvisit, blob, hblob, rfl⟩ := mem_listedNames.1 hname
    have hwants := (hrest.wanted visit hvisit blob hblob).2
    rw [ListRequest.wants_withToken htoken, Bool.and_eq_true, decide_eq_true_iff] at hwants
    exact hwants.symm
  refine ⟨?_, ?_, ?_, ?_⟩
  · refine List.pairwise_append.2 ⟨Visit.names_ascending h, hrest.ascending, ?_⟩
    intro a ha b hb
    obtain ⟨blob, hblob, rfl⟩ := List.mem_map.1 ha
    exact Std.lt_of_le_of_lt (hupto blob (hblobs ▸ hblob)) (hlater b hb).1
  · intro visit hvisit blob hblob
    rcases List.mem_cons.1 hvisit with rfl | hvisit
    · exact Visit.wanted_of_mem hblob
    · have hname := mem_listedNames.2 ⟨visit, hvisit, blob, hblob, rfl⟩
      exact ⟨(hrest.wanted visit hvisit blob hblob).1, (hlater _ hname).2⟩
  · intro visit hvisit hsome
    rcases List.mem_cons.1 hvisit with rfl | hvisit
    · have hmore := (ListPage.blobs_of_nextToken_eq_some hnext).1
      exact hblobs ▸ List.length_take_of_le (Nat.le_of_lt hmore)
    · exact hrest.full visit hvisit hsome
  · intro hended name hwants hpresent
    by_cases hlt : token < name
    · have hin := hrest.complete (hended.of_cons hnext) name
        (by rw [ListRequest.wants_withToken htoken, hwants, decide_eq_true hlt]; rfl)
        (fun visit hvisit ↦ hpresent visit (List.mem_cons_of_mem _ hvisit))
      exact List.mem_append_right _ hin
    · -- The name is not past this page, so it is on it.
      have hin : name ∈ s.names container := hpresent _ List.mem_cons_self
      obtain ⟨blob, hblob, rfl⟩ := exists_mem_select hwants hin
      rw [← List.take_append_drop request.size (request.select (s.blobs container))] at hblob
      rcases List.mem_append.1 hblob with hin | hin
      · exact mem_listedNames.2 ⟨_, List.mem_cons_self, blob, hblobs ▸ hin, rfl⟩
      · exact absurd (hbeyond blob hin) hlt

end

/-! ## Runs -/

section

variable {container : String} {request : ListRequest} {parent : Option ObjectPath}
  {w : MemoryWorld}

/-- A page without token ends the run. -/
theorem followTokens_of_none (h : w.Plain container)
    (hparent : ContainerStore.parentOf request.start = .ok parent)
    (htoken : ∀ name, request.token = some name → (⟨name⟩ : ObjectPath).Valid)
    (changes : List StoreChange) (rounds : List (List StoreChange))
    (hnext : (Visit.of container request (w.after changes).store.store).page.nextToken = none) :
    followTokens container (changes :: rounds) request w =
      .ok [Visit.of container request (w.after changes).store.store] := by
  rw [followTokens, (h.after changes).list_eq_ofFirst hparent htoken]
  dsimp only [Visit.of] at hnext ⊢
  rw [hnext]

/-- After a page with a token the run goes on from there. -/
theorem followTokens_of_some (h : w.Plain container)
    (hparent : ContainerStore.parentOf request.start = .ok parent)
    (htoken : ∀ name, request.token = some name → (⟨name⟩ : ObjectPath).Valid)
    (changes : List StoreChange) {rounds : List (List StoreChange)} {token : String}
    (hnext : (Visit.of container request (w.after changes).store.store).page.nextToken = some token)
    {visits : List Visit}
    (hrest : followTokens container rounds (request.withToken token) (w.after changes) =
      .ok visits) :
    followTokens container (changes :: rounds) request w =
      .ok (Visit.of container request (w.after changes).store.store :: visits) := by
  rw [followTokens, (h.after changes).list_eq_ofFirst hparent htoken]
  dsimp only [Visit.of] at hnext ⊢
  rw [hnext]
  dsimp only
  rw [hrest]

end

/-- The token of a page is valid for the next request. -/
theorem valid_of_nextToken {container : String} {request : ListRequest} {s : ObjectStore}
    (h : s.WellFormed) {token : String}
    (hnext : (Visit.of container request s).page.nextToken = some token) (name : String)
    (hname : (request.withToken token).token = some name) : (⟨name⟩ : ObjectPath).Valid := by
  obtain rfl : token = name := Option.some.inj hname
  exact h.valid_of_mem_names (ListRequest.wants_of_nextToken hnext).2

/-- **Every run from a valid token on is a listing.** -/
theorem listing_of_followTokens {container : String} {parent : Option ObjectPath}
    (rounds : List (List StoreChange)) {request : ListRequest} {w : MemoryWorld}
    (h : w.Plain container) (hparent : ContainerStore.parentOf request.start = .ok parent)
    (htoken : ∀ name, request.token = some name → (⟨name⟩ : ObjectPath).Valid) :
    ∃ visits, followTokens container rounds request w = .ok visits ∧
      Listing container request visits ∧ (Ended visits ∨ visits.length = rounds.length) := by
  induction rounds generalizing request w with
  | nil =>
    refine ⟨[], rfl, ⟨List.Pairwise.nil, nofun, nofun, ?_⟩, .inr rfl⟩
    rintro ⟨last, hlast, -⟩
    cases hlast
  | cons changes rounds ih =>
    have hw := h.after changes
    cases hnext : (Visit.of container request (w.after changes).store.store).page.nextToken with
    | none =>
      rw [followTokens_of_none h hparent htoken changes rounds hnext]
      exact ⟨_, rfl, .last hw.wellFormed hnext, .inl ⟨_, List.getLast?_singleton, hnext⟩⟩
    | some token =>
      have hparent' : ContainerStore.parentOf (request.withToken token).start = .ok parent :=
        hparent
      obtain ⟨visits, hrun, hlisting, hend⟩ :=
        ih hw hparent' (valid_of_nextToken hw.wellFormed hnext)
      refine ⟨_, followTokens_of_some h hparent htoken changes hnext hrun,
        .cons hw.wellFormed hnext hlisting, ?_⟩
      rcases hend with hend | hlength
      · exact .inl (hend.cons _)
      · exact .inr (congrArg (· + 1) hlength)

/-- **In a store that stays as it is the pages are what is wanted, cut up**, and the paging ends. -/
theorem followTokens_of_unchanged {container : String} {parent : Option ObjectPath}
    (rounds : List (List StoreChange)) {request : ListRequest} {w : MemoryWorld}
    (h : w.Plain container) (hparent : ContainerStore.parentOf request.start = .ok parent)
    (htoken : ∀ name, request.token = some name → (⟨name⟩ : ObjectPath).Valid)
    (hrounds : ∀ changes ∈ rounds, changes = [])
    (hlength : (request.select (w.store.store.blobs container)).length < rounds.length) :
    ∃ visits, followTokens container rounds request w = .ok visits ∧ Ended visits ∧
      listedNames visits = (request.select (w.store.store.blobs container)).map BlobItem.name := by
  induction rounds generalizing request with
  | nil => exact absurd hlength (Nat.not_lt_zero _)
  | cons changes rounds ih =>
    obtain rfl := hrounds changes List.mem_cons_self
    cases hnext : (Visit.of container request (w.after []).store.store).page.nextToken with
    | none =>
      refine ⟨_, followTokens_of_none h hparent htoken [] rounds hnext,
        ⟨_, List.getLast?_singleton, hnext⟩, ?_⟩
      rw [listedNames, List.flatMap_singleton, Visit.names]
      exact congrArg _ (ListPage.blobs_of_nextToken_eq_none request.size_pos hnext)
    | some token =>
      have hparent' : ContainerStore.parentOf (request.withToken token).start = .ok parent :=
        hparent
      have hasc := h.wellFormed.blobs_ascending container
      have hlength' : ((request.withToken token).select (w.store.store.blobs container)).length <
          rounds.length :=
        Nat.lt_of_lt_of_le (ListRequest.length_select_lt hasc hnext) (Nat.le_of_lt_succ hlength)
      obtain ⟨visits, hrun, hend, hnames⟩ :=
        ih hparent' (valid_of_nextToken h.wellFormed hnext)
          (fun changes hin ↦ hrounds changes (List.mem_cons_of_mem _ hin)) hlength'
      refine ⟨_, followTokens_of_some h hparent htoken [] hnext hrun, hend.cons _, ?_⟩
      change Visit.names (Visit.of container request w.store.store) ++ listedNames visits = _
      rw [hnames, Visit.names, ← List.map_append]
      exact congrArg _ (ListRequest.blobs_append_select hasc hnext)

/-- The names that the first request selects. -/
theorem names_select_of_first (request : ListRequest) (h : request.token = none)
    (s : ObjectStore) (container : String) :
    (request.select (s.blobs container)).map BlobItem.name =
      (s.names container).filter fun name ↦ Text.startsWith name request.start := by
  rw [ListRequest.select, ObjectStore.names, List.filter_map]
  congr 2
  funext blob
  exact ListRequest.wants_of_first h blob.name

/-- **Paging is exact under any changes between the pages.**  No page fails, whatever is written or
deleted before each; the names come in strictly ascending order of their bytes, so none comes twice;
each is a name of the container that begins as it should; pages with a token are full; and once a
page has no token, every name that was there for each of the pages has been listed exactly once.  If
nothing changes, the pages end and are together all the names in order. -/
theorem followTokens_lists_each_once {container : String} {w : MemoryWorld}
    (h : w.Plain container) (request : ListRequest) (hfirst : request.token = none)
    {parent : Option ObjectPath} (hparent : ContainerStore.parentOf request.start = .ok parent)
    (rounds : List (List StoreChange)) :
    ∃ visits, followTokens container rounds request w = .ok visits ∧
      (Ended visits ∨ visits.length = rounds.length) ∧
      ((listedNames visits).Pairwise fun a b ↦ Bytes.ofText a < Bytes.ofText b) ∧
      (∀ visit ∈ visits, ∀ blob ∈ visit.page.blobs, blob ∈ visit.store.blobs container ∧
        Text.startsWith blob.name request.start = true) ∧
      (∀ visit ∈ visits, visit.page.nextToken.isSome = true →
        visit.page.blobs.length = request.size) ∧
      (Ended visits → ∀ name, Text.startsWith name request.start = true →
        (∀ visit ∈ visits, name ∈ visit.store.names container) →
        (listedNames visits).count name = 1) ∧
      ((∀ changes ∈ rounds, changes = []) →
        let all := (w.store.store.names container).filter (Text.startsWith · request.start)
        all.length < rounds.length → Ended visits ∧ listedNames visits = all) := by
  have htoken : ∀ name, request.token = some name → (⟨name⟩ : ObjectPath).Valid := by
    intro name hname
    rw [hfirst] at hname
    cases hname
  obtain ⟨visits, hrun, hlisting, hend⟩ := listing_of_followTokens rounds h hparent htoken
  refine ⟨visits, hrun, hend, hlisting.ascending.imp Bytes.ofText_lt_ofText, ?_, hlisting.full, ?_,
    ?_⟩
  · intro visit hvisit blob hblob
    rw [← ListRequest.wants_of_first hfirst]
    exact hlisting.wanted visit hvisit blob hblob
  · intro hended name hstart hpresent
    rw [← ListRequest.wants_of_first hfirst] at hstart
    have hnodup : (listedNames visits).Nodup := hlisting.ascending.imp String.ne_of_lt
    rw [hnodup.count, if_pos (hlisting.complete hended name hstart hpresent)]
  · intro hunchanged all hlength
    have hselect := names_select_of_first request hfirst w.store.store container
    have hshort : (request.select (w.store.store.blobs container)).length < rounds.length := by
      have hmap := congrArg List.length hselect
      rw [List.length_map] at hmap
      exact hmap ▸ hlength
    obtain ⟨same, hsame, hended, hnames⟩ :=
      followTokens_of_unchanged rounds h hparent htoken hunchanged hshort
    obtain rfl : same = visits := Except.ok.inj (hsame.symm.trans hrun)
    exact ⟨hended, hnames.trans hselect⟩

/-! ### A token that is deleted -/

/-- A path for a blob of the container `c`. -/
def sampleKey (name : String) (h : ObjectPath.parse ("c/" ++ name) = .ok ⟨"c/" ++ name⟩) :
    {p : ObjectPath // p.Valid} :=
  ⟨⟨"c/" ++ name⟩, "c/" ++ name, h⟩

/-- A store with the blobs `a`, `ab` and `b`. -/
def sampleStore : ObjectStore :=
  ObjectStore.empty.after [.put (sampleKey "b" rfl) ⟨[1], 0⟩, .put (sampleKey "a" rfl) ⟨[2], 0⟩,
    .put (sampleKey "ab" rfl) ⟨[3], 0⟩]

/-- A service with this store. -/
def sampleService : MemoryWorld :=
  { store := { store := sampleStore, faults := [] }
    broken := []
    attempts := { specs := [], refusals := 0, made := 0 } }

/-- Pages of one blob each. -/
def sampleRequest : ListRequest :=
  { nameStart := some "a", token := none, pageSize := some 0 }

/-- After the first page its blob is deleted and another one written, which is deleted in turn. -/
def sampleRounds : List (List StoreChange) :=
  [[], [.delete ⟨"c/a"⟩, .put (sampleKey "aa" rfl) ⟨[4], 0⟩], [.delete ⟨"c/aa"⟩]]

theorem followTokens_past_deleted_token :
    ∃ visits, followTokens "c" sampleRounds sampleRequest sampleService = .ok visits ∧
      listedNames visits = ["a", "aa", "ab"] ∧ (listedNames visits).count "ab" = 1 := by
  have hplain : sampleService.Plain "c" :=
    ⟨ObjectStore.wellFormed_empty.after _, rfl, nofun⟩
  obtain ⟨visits, hrun, -, -, -, -, hcount, -⟩ :=
    followTokens_lists_each_once hplain sampleRequest rfl rfl sampleRounds
  have hpages : followTokens "c" sampleRounds sampleRequest sampleService =
      .ok [⟨sampleStore, ⟨[⟨"a", 1⟩], some "a"⟩⟩,
        ⟨⟨[(⟨"c/aa"⟩, ⟨[4], 0⟩), (⟨"c/ab"⟩, ⟨[3], 0⟩), (⟨"c/b"⟩, ⟨[1], 0⟩)]⟩,
          ⟨[⟨"aa", 1⟩], some "aa"⟩⟩,
        ⟨⟨[(⟨"c/ab"⟩, ⟨[3], 0⟩), (⟨"c/b"⟩, ⟨[1], 0⟩)]⟩, ⟨[⟨"ab", 1⟩], none⟩⟩] := rfl
  obtain rfl := Except.ok.inj (hrun.symm.trans hpages)
  refine ⟨_, hrun, rfl, hcount ⟨_, rfl, rfl⟩ "ab" rfl ?_⟩
  simp only [List.forall_mem_cons]
  decide +kernel

end BlobFs

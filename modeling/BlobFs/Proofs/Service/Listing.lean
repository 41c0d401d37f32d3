import Mathlib.Data.List.Basic
import BlobFs.Proofs.Store.Contents
import BlobFs.Service.Rehearsed

/-!
# One page of a listing

What a request for a page gets from a store in memory that does what it is asked
(`MemoryWorld.Plain`).  The request wants the blobs whose names begin as it says and come after its
token (`ListRequest.select`), and the page has the first of them, as many as fit
(`ListPage.ofFirst`).

The service asks the store for less: for what lies below the parent of the wanted beginning and
after the token there, and for one object more than the page holds.  `list_eq_ofFirst` says that
nothing is lost by this, wherever the page ends and whatever the beginning is, as long as its parent
is a path.
-/

set_option autoImplicit false

namespace BlobFs

/-! ## Requests and pages -/

namespace ListRequest

/-- What the names must begin with, nothing if the request does not say. -/
def start (request : ListRequest) : String :=
  request.nameStart.getD ""

/-- How many blobs a page holds, at least one. -/
def size (request : ListRequest) : Nat :=
  max (request.pageSize.getD ContainerStore.defaultPageSize) 1

/-- Whether a name comes after the token, if there is one. -/
def isAfterToken (request : ListRequest) (name : String) : Bool :=
  match request.token with
  | none => true
  | some token => decide (token < name)

/-- Whether a blob of this name belongs to this page or a later one. -/
def wants (request : ListRequest) (name : String) : Bool :=
  Text.startsWith name request.start && request.isAfterToken name

/-- The blobs that belong to this page or a later one. -/
def select (request : ListRequest) (blobs : List BlobItem) : List BlobItem :=
  blobs.filter fun blob ↦ request.wants blob.name

theorem mem_select {request : ListRequest} {blobs : List BlobItem} {blob : BlobItem} :
    blob ∈ request.select blobs ↔ blob ∈ blobs ∧ request.wants blob.name = true :=
  List.mem_filter

/-- The first request wants every name that begins as it says. -/
theorem wants_of_first {request : ListRequest} (h : request.token = none) (name : String) :
    request.wants name = Text.startsWith name request.start := by
  rw [wants, isAfterToken, h, Bool.and_true]

theorem size_pos (request : ListRequest) : 0 < request.size :=
  Nat.lt_of_lt_of_le Nat.one_pos (Nat.le_max_right _ 1)

end ListRequest

namespace ListPage

/-- The page of the first `size` of some blobs, with a token if there are more. -/
def ofFirst (size : Nat) (blobs : List BlobItem) : ListPage :=
  if size < blobs.length then
    { blobs := blobs.take size, nextToken := (blobs.take size).getLast?.map BlobItem.name }
  else { blobs := blobs, nextToken := none }

/-- One blob more than fits tells as much as all of them. -/
theorem ofFirst_take (size : Nat) (blobs : List BlobItem) :
    ofFirst size (blobs.take (size + 1)) = ofFirst size blobs := by
  rw [ofFirst, ofFirst, List.length_take, List.take_take, Nat.min_eq_left (Nat.le_succ size)]
  by_cases h : size < blobs.length
  · rw [if_pos h, if_pos (by omega)]
  · rw [if_neg h, if_neg (by omega), List.take_of_length_le (by omega)]

variable {size : Nat} {blobs : List BlobItem}

/-- A page without token has all blobs. -/
theorem blobs_of_nextToken_eq_none (hsize : 0 < size)
    (h : (ofFirst size blobs).nextToken = none) : (ofFirst size blobs).blobs = blobs := by
  rw [ofFirst] at h ⊢
  by_cases hmore : size < blobs.length
  · rw [if_pos hmore, Option.map_eq_none_iff, List.getLast?_eq_none_iff] at h
    have hlength := congrArg List.length h
    rw [List.length_take, List.length_nil] at hlength
    omega
  · rw [if_neg hmore]

/-- A page with a token is full, and the token is the name of its last blob. -/
theorem blobs_of_nextToken_eq_some {token : String}
    (h : (ofFirst size blobs).nextToken = some token) :
    size < blobs.length ∧ (ofFirst size blobs).blobs = blobs.take size ∧
      ∃ front last, blobs.take size = front ++ [last] ∧ last.name = token := by
  rw [ofFirst] at h ⊢
  by_cases hmore : size < blobs.length
  · rw [if_pos hmore] at h ⊢
    obtain ⟨last, hlast, rfl⟩ := Option.map_eq_some_iff.1 h
    obtain ⟨front, hfront⟩ := List.getLast?_eq_some_iff.1 hlast
    exact ⟨hmore, rfl, front, last, hfront, rfl⟩
  · rw [if_neg hmore] at h
    cases h

/-- The names on a page with a token do not come after the token, and all others do. -/
theorem le_and_lt_of_nextToken {token : String}
    (hasc : blobs.Pairwise fun a b ↦ a.name < b.name)
    (h : (ofFirst size blobs).nextToken = some token) :
    (∀ blob ∈ blobs.take size, blob.name ≤ token) ∧
      ∀ blob ∈ blobs.drop size, token < blob.name := by
  obtain ⟨-, -, front, last, htake, rfl⟩ := blobs_of_nextToken_eq_some h
  rw [← List.take_append_drop size blobs, htake] at hasc
  obtain ⟨hfront, -, hdrop⟩ := List.pairwise_append.1 hasc
  rw [htake]
  constructor
  · intro blob hblob
    rcases List.mem_append.1 hblob with hin | hin
    · exact String.not_lt.1 (String.lt_asymm
        ((List.pairwise_append.1 hfront).2.2 blob hin last (List.mem_singleton_self last)))
    · obtain rfl := List.mem_singleton.1 hin
      exact String.le_refl _
  · intro blob hblob
    exact hdrop last (List.mem_append_right front (List.mem_singleton_self last)) blob hblob

/-- What comes after the token of a page is what did not fit on it. -/
theorem filter_lt_token {token : String} (hasc : blobs.Pairwise fun a b ↦ a.name < b.name)
    (h : (ofFirst size blobs).nextToken = some token) :
    (blobs.filter fun blob ↦ decide (token < blob.name)) = blobs.drop size := by
  obtain ⟨htake, hdrop⟩ := le_and_lt_of_nextToken hasc h
  rw [← List.take_append_drop size blobs, List.filter_append, List.take_append_drop,
    List.filter_eq_nil_iff.2 fun blob hblob ↦ ?_,
    List.filter_eq_self.2 fun blob hblob ↦ decide_eq_true (hdrop blob hblob), List.nil_append]
  simpa only [decide_eq_true_eq] using String.not_lt.2 (htake blob hblob)

end ListPage

/-! ## The page that is asked for -/

/-- Whether a container can be opened in a well-formed store that fails nowhere. -/
structure MemoryWorld.Plain (w : MemoryWorld) (container : String) : Prop where
  wellFormed : w.store.store.WellFormed
  faultless : w.store.faults = []
  opens : container ∉ w.broken

/-- A container that opens is the part of the store below its path. -/
theorem MemoryWorld.opener_of_not_mem {w : MemoryWorld} {container : String}
    (h : container ∉ w.broken) : opener w.broken container = .ok (calls.under (.encode container)) :=
  if_neg (by simpa using h)

theorem MemoryWorld.Plain.opener_eq {w : MemoryWorld} {container : String}
    (h : w.Plain container) : opener w.broken container = .ok (calls.under (.encode container)) :=
  opener_of_not_mem h.opens

theorem MemoryWorld.Plain.list_eq_listPage {w : MemoryWorld} {container : String}
    (h : w.Plain container) (request : ListRequest) :
    BlobService.inMemory.list () container request w =
      (calls.under (.encode container)).listPage request w := by
  simp only [BlobService.inMemory, StoreOpener.list, h.opener_eq]

namespace ContainerStore

/-- Every valid path that begins with a text lies below the parent of the text. -/
theorem exists_append_of_parentOf {k : ObjectPath} {start : String} {parent : Option ObjectPath}
    (hk : k.Valid) (hne : k ≠ .root) (hstart : Text.startsWith k.text start = true)
    (hparent : parentOf start = .ok parent) :
    ∃ rest, rest ≠ .root ∧ k = (parent.getD .root).append rest := by
  rw [parentOf] at hparent
  cases hcut : Text.cutBack? '/' start with
  | none =>
    rw [hcut] at hparent
    cases hparent
    exact ⟨k, hne, (ObjectPath.root_append k).symm⟩
  | some cut =>
    obtain ⟨before, after⟩ := cut
    rw [hcut] at hparent
    dsimp only [pathOf] at hparent
    cases hparse : ObjectPath.parse before with
    | error problem =>
      rw [hparse] at hparent
      cases hparent
    | ok path =>
      rw [hparse] at hparent
      cases hparent
      exact ObjectPath.below?_parent hk hstart hcut hparse

/-- The parent of a text is what stands before its last `/`. -/
theorem parentOf_of_slash {start before after : String}
    (hsplit : start.toList = before.toList ++ '/' :: after.toList) (hlast : '/' ∉ after.toList) :
    parentOf start =
      match ObjectPath.parse before with
      | .ok path => .ok (some path)
      | .error problem => .error (.invalidPath s!"'{before}': {problem.describe before}") := by
  rw [parentOf, Text.cutBack?_eq_some_iff.2 ⟨hsplit, hlast⟩]
  dsimp only [pathOf]
  cases ObjectPath.parse before <;> rfl

/-- A text has a parent if what stands before its last `/` is a path. -/
theorem exists_parentOf {start : String}
    (h : ∀ before after : String, start.toList = before.toList ++ '/' :: after.toList →
      '/' ∉ after.toList → ∃ parent, ObjectPath.parse before = .ok parent) :
    ∃ parent, parentOf start = .ok parent := by
  cases hcut : Text.cutBack? '/' start with
  | none => exact ⟨none, by rw [parentOf, hcut]⟩
  | some cut =>
    obtain ⟨hsplit, hlast⟩ := Text.cutBack?_eq_some_iff.1 hcut
    obtain ⟨parent, hparent⟩ := h cut.1 cut.2 hsplit hlast
    exact ⟨some parent, by rw [parentOf_of_slash hsplit hlast, hparent]⟩

/-- A valid token names its own path. -/
theorem offsetOf_eq {token : Option String}
    (h : ∀ name, token = some name → (⟨name⟩ : ObjectPath).Valid) :
    offsetOf token = .ok (token.map ObjectPath.mk) := by
  cases token with
  | none => rfl
  | some name =>
    have hparse : ObjectPath.parse name = .ok ⟨name⟩ := (h name rfl).parse_text
    rw [offsetOf, pathOf, hparse]
    rfl

/-- A page made of objects is made of the blobs that they are. -/
theorem pageOf_eq_ofFirst (size : Nat) (metas : List ObjectMeta) :
    pageOf size metas = .ofFirst size (metas.map fun m ↦ { name := m.path.text, size := m.size }) :=
  rfl

/-- A store under a path finds what the whole store finds there, as it is named there. -/
theorem list_under_of_list {σ : Type} {store : ContainerStore σ} {base : ObjectPath}
    {parent offset : Option ObjectPath} {wanted : ObjectMeta → Bool} {limit : Nat}
    {metas : List ObjectMeta} {state state' : σ}
    (h : store.list (some (base.append (parent.getD .root))) (offset.map base.append)
      (fun m ↦ wanted (m.relativeTo base)) limit state = (.ok metas, state')) :
    (store.under base).list parent offset wanted limit state =
      (.ok (metas.map (ObjectMeta.relativeTo base)), state') := by
  simp only [under, h]

/-- The page of what the store finds below the parent and after the token. -/
theorem listPage_of_list {σ : Type} {store : ContainerStore σ} {request : ListRequest}
    {parent offset : Option ObjectPath} {metas : List ObjectMeta} {state state' : σ}
    (hparent : parentOf request.start = .ok parent) (hoffset : offsetOf request.token = .ok offset)
    (hlist : store.list parent offset (fun m ↦ Text.startsWith m.path.text request.start)
      (request.size + 1) state = (.ok metas, state')) :
    store.listPage request state = (.ok (pageOf request.size metas), state') := by
  simp only [ListRequest.start, ListRequest.size] at hparent hlist ⊢
  simp only [listPage, hparent, hoffset, hlist]

end ContainerStore

/-! ## What the store finds -/

namespace ObjectStore

/-- An object below a path is put under it. -/
theorem WellFormed.of_mem_below {s : ObjectStore} (h : s.WellFormed) {base : ObjectPath}
    {m : ObjectMeta} (hm : m ∈ s.below base) :
    ∃ key, m.path = base.append key ∧ key.Valid ∧ key ≠ .root ∧
      (m.relativeTo base).path = key := by
  obtain ⟨⟨path, object⟩, he, hmeta⟩ := List.mem_filterMap.1 hm
  obtain ⟨key, hkey, rfl⟩ := Option.map_eq_some_iff.1 hmeta
  obtain ⟨rfl, hne⟩ := (ObjectPath.below?_eq_some_iff (h.valid _ he)).1 hkey
  refine ⟨key, rfl, (h.valid _ he).of_append, hne, ?_⟩
  rw [ObjectMeta.relativeTo, hkey, Option.getD_some]

/-- The blobs of a container are the objects below its path. -/
theorem blobs_eq_map_below (s : ObjectStore) (container : String) :
    s.blobs container = (s.below (.encode container)).map fun m ↦
      { name := (m.relativeTo (.encode container)).path.text, size := m.size } := by
  rw [blobs, below, List.map_filterMap]
  refine List.filterMap_congr ?_
  rintro ⟨path, object⟩ -
  cases hkey : (ObjectPath.encode container).below? path with
  | none => simp [hkey]
  | some key => simp [ObjectMeta.relativeTo, hkey]

/-- Nothing that begins with a text is missed by looking below the parent of the text. -/
theorem WellFormed.filter_below_parent {s : ObjectStore} (h : s.WellFormed) (base : ObjectPath)
    {start : String} {parent : Option ObjectPath}
    (hparent : ContainerStore.parentOf start = .ok parent) :
    ((s.below (base.append (parent.getD .root))).filter fun m ↦
        Text.startsWith (m.relativeTo base).path.text start) =
      (s.below base).filter fun m ↦ Text.startsWith (m.relativeTo base).path.text start := by
  rw [below, below, List.filter_filterMap, List.filter_filterMap]
  refine List.filterMap_congr ?_
  rintro ⟨path, object⟩ he
  have hpath := h.valid _ he
  cases hkey : base.below? path with
  | none =>
    have hnone : (base.append (parent.getD .root)).below? path = none := by
      refine Option.eq_none_iff_forall_ne_some.2 fun rest hrest ↦ ?_
      obtain ⟨hp, hne⟩ := (ObjectPath.below?_eq_some_iff hpath).1 hrest
      rw [ObjectPath.append_assoc] at hp
      rw [(ObjectPath.below?_eq_some_iff hpath).2 ⟨hp, ObjectPath.append_ne_root hne⟩] at hkey
      cases hkey
    simp [hkey, hnone]
  | some key =>
    obtain ⟨rfl, hne⟩ := (ObjectPath.below?_eq_some_iff hpath).1 hkey
    by_cases hstart : Text.startsWith key.text start = true
    · obtain ⟨rest, hrest, hk⟩ :=
        ContainerStore.exists_append_of_parentOf hpath.of_append hne hstart hparent
      have hsome : (base.append (parent.getD .root)).below? (base.append key) = some rest :=
        (ObjectPath.below?_eq_some_iff hpath).2 ⟨by rw [ObjectPath.append_assoc, ← hk], hrest⟩
      simp [hkey, hsome]
    · cases hrest : (base.append (parent.getD .root)).below? (base.append key) with
      | none => simp [ObjectMeta.relativeTo, hkey, hrest, Option.filter_some, hstart]
      | some rest => simp [ObjectMeta.relativeTo, hkey, hrest, Option.filter_some, hstart]

end ObjectStore

/-! ## The page -/

/-- The store lists what is wanted and fits, and one object more. -/
theorem FaultyStore.list_eq {s : FaultyStore} (h : s.faults = []) (parent : Option ObjectPath)
    (offset : Option ObjectPath) (wanted : ObjectMeta → Bool) (limit : Nat) :
    calls.list parent offset wanted limit s =
      (.ok ((((s.store.below (parent.getD .root)).filter fun m ↦
        match offset with
        | none => true
        | some offset => offset.precedes m.path).filter wanted).take limit), s) := by
  obtain ⟨store, faults⟩ := s
  cases h
  rfl

/-- The same of the store within the service. -/
theorem MemoryWorld.list_eq {w : MemoryWorld} (h : w.store.faults = [])
    (parent offset : Option ObjectPath) (wanted : ObjectMeta → Bool) (limit : Nat) :
    calls.list parent offset wanted limit w =
      (.ok ((((w.store.store.below (parent.getD .root)).filter fun m ↦
        match offset with
        | none => true
        | some offset => offset.precedes m.path).filter wanted).take limit), w) := by
  simp only [calls, FaultyStore.list_eq h]

/-- The store looks after the token's path where the request wants names after the token. -/
theorem ListRequest.isAfterToken_eq (request : ListRequest) (base key : ObjectPath) :
    (match (request.token.map ObjectPath.mk).map base.append with
      | none => true
      | some offset => offset.precedes (base.append key)) = request.isAfterToken key.text := by
  rw [isAfterToken]
  cases request.token with
  | none => rfl
  | some token => exact ObjectPath.precedes_append base ⟨token⟩ key

/-- The blobs of a container that a request wants, as they are looked for. -/
theorem ObjectStore.WellFormed.select_blobs {s : ObjectStore} (h : s.WellFormed)
    {container : String} {request : ListRequest} {parent : Option ObjectPath}
    (hparent : ContainerStore.parentOf request.start = .ok parent) :
    request.select (s.blobs container) =
      (((s.below ((ObjectPath.encode container).append (parent.getD .root))).filter fun m ↦
          match (request.token.map ObjectPath.mk).map (ObjectPath.encode container).append with
          | none => true
          | some offset => offset.precedes m.path).filter fun m ↦
        Text.startsWith (m.relativeTo (.encode container)).path.text request.start).map fun m ↦
          { name := (m.relativeTo (.encode container)).path.text, size := m.size } := by
  rw [ListRequest.select, List.filter_filter, List.filter_congr fun m _ ↦ Bool.and_comm _ _,
    ← List.filter_filter, h.filter_below_parent _ hparent, blobs_eq_map_below, List.filter_map,
    List.filter_filter]
  congr 1
  refine List.filter_congr fun m hm ↦ ?_
  obtain ⟨key, hpath, -, -, hkey⟩ := h.of_mem_below hm
  simp only [Function.comp_apply, ListRequest.wants, hkey, hpath, request.isAfterToken_eq,
    Bool.and_comm]

/-- **A page has the first blobs of the container that the request wants**, in the order of their
names, and a token exactly if there are more. -/
theorem MemoryWorld.Plain.list_eq_ofFirst {w : MemoryWorld} {container : String}
    (h : w.Plain container) {request : ListRequest} {parent : Option ObjectPath}
    (hparent : ContainerStore.parentOf request.start = .ok parent)
    (htoken : ∀ name, request.token = some name → (⟨name⟩ : ObjectPath).Valid) :
    BlobService.inMemory.list () container request w =
      (.ok (.ofFirst request.size (request.select (w.store.store.blobs container))), w) := by
  rw [h.list_eq_listPage, ContainerStore.listPage_of_list hparent
    (ContainerStore.offsetOf_eq htoken)
    (ContainerStore.list_under_of_list (list_eq h.faultless _ _ _ _)),
    ContainerStore.pageOf_eq_ofFirst, Option.getD_some, h.wellFormed.select_blobs hparent,
    List.map_map, List.map_take, ListPage.ofFirst_take]
  rfl

end BlobFs

import BlobFs.Account.Exchange
import BlobFs.Account.Listing
import BlobFs.Service.Containers

/-!
# The blob service of an account

The containers of an account as stores of objects, each question to a store being one request or,
for a listing, one request for each page until enough objects are found.
-/

set_option autoImplicit false

namespace BlobFs

namespace AccountClient

variable {τ : Type}

/-! ## One object -/

/-- The segments of an object's address below its account. -/
def segmentsOf (container : String) (path : ObjectPath) : List String :=
  container :: (Text.pieces '/' path.text).filter (· ≠ "")

/-- What the headers of a response tell of an object, or what is wrong with them. -/
def metaOf (path : ObjectPath) (response : HttpResponse) : Except String ObjectMeta :=
  match response.header? "last-modified", response.header? "etag",
      response.header? "content-length" with
  | none, _, _ => .error "Last-Modified Header missing from response"
  | some modified, etag, length =>
    match HttpDate.parse? modified, etag, length with
    | none, _, _ => .error s!"Invalid last modified '{modified}': input contains invalid characters"
    | _, none, _ => .error "ETag Header missing from response"
    | _, _, none => .error "Content-Length Header missing from response"
    | some modified, some _, some length =>
      match Text.word? length with
      | some size => .ok { path, size, modified }
      | none => .error s!"Invalid content length '{length}': invalid digit found in string"

/-- What a response tells of an object. -/
def headOf (path : ObjectPath) (response : HttpResponse) : Except StoreError ObjectMeta :=
  match response.header? "x-ms-resource-type" with
  | some sort =>
    if sort = "file" then (metaOf path response).mapError credentialFailure
    else .error (.notFound path ("Not a file, got x-ms-resource-type: " ++ sort))
  | none => (metaOf path response).mapError credentialFailure

/-- Asks what there is to tell of an object. -/
def head (network : Network τ) (client : AccountClient) (container : String) (path : ObjectPath)
    (state : τ) : Except StoreError ObjectMeta × τ :=
  match client.send network "HEAD" (segmentsOf container path) [] none state with
  | (.error e, state) => (.error (e.toStoreError path), state)
  | (.ok response, state) => (headOf path response, state)

/-- Asks for bytes of an object. -/
def getRange (network : Network τ) (client : AccountClient) (container : String)
    (path : ObjectPath) (start stop : Nat) (state : τ) : Except StoreError Bytes × τ :=
  match client.send network "GET" (segmentsOf container path) [] (some (start, stop)) state with
  | (.error e, state) => (.error (e.toStoreError path), state)
  | (.ok response, state) =>
    if response.status = 206 then (.ok response.body, state)
    else (.error (credentialFailure "Received non-partial response when range requested"), state)

/-! ## Listings -/

/-- The query of a request for a page. -/
def listQuery (start : String) (marker : Option String) : List (String × String) :=
  [("restype", "container"), ("comp", "list")] ++
    (if start.isEmpty then [] else [("prefix", start)]) ++
    (marker.toList.map fun marker ↦ ("marker", marker))

/-- The objects on a page, directories left out. -/
def objectsOf (start : String) (page : AccountPage) : Except StoreError (List ObjectMeta) :=
  (page.blobs.filter fun blob ↦
    !blob.isDirectory && start.utf8ByteSize < blob.name.utf8ByteSize).mapM fun blob ↦
      match ObjectPath.parse blob.name with
      | .ok path => .ok { path, size := blob.size, modified := blob.modified }
      | .error problem => .error (.invalidPath (problem.describe blob.name))

/-- Asks for one page. -/
def listOnce (network : Network τ) (client : AccountClient) (container start : String)
    (marker : Option String) (state : τ) :
    Except StoreError (List ObjectMeta × Option String) × τ :=
  match client.send network "GET" [container] (listQuery start marker) none state with
  | (.error e, state) => (.error e.toListError, state)
  | (.ok response, state) =>
    match response.text?.bind AccountPage.ofXml? with
    | none => (.error (credentialFailure "Got invalid list response"), state)
    | some page =>
      match objectsOf start page with
      | .ok metas => (.ok (metas, page.nextMarker), state)
      | .error e => (.error e, state)

/-- Asks for page after page, at most as many as the first number says, until so many objects of
interest are found as the last number says. -/
def listFrom (network : Network τ) (client : AccountClient) (container start : String)
    (wanted : ObjectMeta → Bool) :
    Nat → Option String → Nat → τ → Except StoreError (List ObjectMeta) × τ
  | 0, _, _, state => (.error (credentialFailure "The listing did not end"), state)
  | pages + 1, marker, limit, state =>
    match client.listOnce network container start marker state with
    | (.error e, state) => (.error e, state)
    | (.ok (metas, next), state) =>
      let found := (metas.filter wanted).take limit
      if next.isNone ∨ limit ≤ found.length then (.ok found, state)
      else
        match listFrom network client container start wanted pages next (limit - found.length)
            state with
        | (.ok more, state) => (.ok (found ++ more), state)
        | (.error e, state) => (.error e, state)

/-- What the names below a path begin with. -/
def startBelow (parent : Option ObjectPath) : String :=
  match parent with
  | none => ""
  | some path => if path.text.isEmpty then "" else path.text ++ "/"

/-- A container of the account as a store of objects. -/
def store (network : Network τ) (client : AccountClient) (container : String) :
    ContainerStore τ where
  head := client.head network container
  getRange := client.getRange network container
  list parent offset wanted limit state :=
    let later (m : ObjectMeta) : Bool := (offset.map fun path ↦ path.precedes m.path).getD true
    client.listFrom network container (startBelow parent) (fun m ↦ later m && wanted m)
      (network.pageLimit state) none limit state

end AccountClient

/-- The blob service that is reached over a network. -/
def BlobService.overNetwork {τ : Type} (host : Host) (network : Network τ) :
    BlobService τ AccountClient where
  connect spec state := (AccountClient.ofSpec host spec, state)
  properties client blob state :=
    StoreOpener.properties (fun container ↦ .ok (client.store network container)) blob state
  download client blob offset length transfer state :=
    StoreOpener.download (fun container ↦ .ok (client.store network container)) blob offset length
      transfer state
  list client container request state :=
    StoreOpener.list (fun container ↦ .ok (client.store network container)) container request state

end BlobFs

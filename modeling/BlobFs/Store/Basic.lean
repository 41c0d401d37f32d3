import BlobFs.Bytes
import BlobFs.Error
import BlobFs.Store.Path

/-!
# What a store of objects offers

A store keeps the objects of one container.  `ContainerStore σ` is what a client may ask of it; each
answer may change the state `σ` of whatever stands behind it, so a store may be a map in memory, a
service at the other end of a wire or a store that fails on purpose.

A listing is asked for the first few objects of interest and not for all: a store may find them in
pieces, and what lies behind the last one wanted is never looked at.
-/

set_option autoImplicit false

namespace BlobFs

/-- Why a store did not do what it was asked. -/
inductive StoreError where
  | notFound (path : ObjectPath) (message : String)
  | permissionDenied (path : ObjectPath) (message : String)
  | unauthenticated (path : ObjectPath) (message : String)
  | precondition (path : ObjectPath) (message : String)
  | alreadyExists (path : ObjectPath) (message : String)
  | notModified (path : ObjectPath) (message : String)
  | invalidPath (reason : String)
  | notSupported (message : String)
  | generic (store message : String)
  deriving DecidableEq

namespace StoreError

/-- The failure in words. -/
def describe : StoreError → String
  | .notFound path message => s!"Object at location {path.text} not found: {message}"
  | .permissionDenied path message =>
    s!"The operation lacked the necessary privileges to complete for path {path.text}: {message}"
  | .unauthenticated path message =>
    s!"The operation lacked valid authentication credentials for path {path.text}: {message}"
  | .precondition path message =>
    s!"Request precondition failure for path {path.text}: {message}"
  | .alreadyExists path message => s!"Object at location {path.text} already exists: {message}"
  | .notModified path message => s!"Object at location {path.text} not modified: {message}"
  | .invalidPath reason => "Encountered object with invalid path: " ++ reason
  | .notSupported message => s!"Operation not supported: {message}"
  | .generic store message => s!"Generic {store} error: {message}"

/-- The failure as the blob service reports it: with status and code where there are any. -/
def toRemote (e : StoreError) : RemoteError :=
  match e with
  | .notFound .. => .service 404 "BlobNotFound" "Not Found" e.describe
  | .permissionDenied .. =>
    .service 403 "AuthorizationPermissionMismatch" "Forbidden" e.describe
  | .unauthenticated .. => .service 401 "InvalidAuthenticationInfo" "Unauthorized" e.describe
  | _ => .other e.describe

end StoreError

/-- What a store tells of an object without its contents. -/
structure ObjectMeta where
  path : ObjectPath
  size : Nat
  /-- When the object was written, in seconds of Unix time. -/
  modified : Int
  deriving DecidableEq

/-- What may be asked of the objects of one container. -/
structure ContainerStore (σ : Type) where
  head : ObjectPath → σ → Except StoreError ObjectMeta × σ
  /-- The bytes from the first offset to before the second; an end past the object is cut. -/
  getRange : ObjectPath → Nat → Nat → σ → Except StoreError Bytes × σ
  /-- The first objects, at most as many as the number says, that lie below the first path, come
  after the second and are of interest; or the failure that was met before they were found. -/
  list : Option ObjectPath → Option ObjectPath → (ObjectMeta → Bool) → Nat → σ →
    Except StoreError (List ObjectMeta) × σ

end BlobFs

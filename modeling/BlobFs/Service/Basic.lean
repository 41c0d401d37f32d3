import BlobFs.ReadOptions
import BlobFs.Resolve
import BlobFs.Store.Basic

/-!
# What a blob service offers

The file system reaches blobs only through a `BlobService`: it connects to an account, asks for a
blob's properties, downloads a range of its bytes and lists a container page by page.  A service is
given by its steps on a state `σ`, and a connection by whatever client `κ` the service hands out, so
the file system can be run, and reasoned about, over any service at all: one in memory, one that
follows a script, one at the other end of a wire.

A listing is a sequence of pages, each of which may name a token for the next.  A service need not
be honest about its tokens, and nothing forces it to stop.
-/

set_option autoImplicit false

namespace BlobFs

/-- A blob by its container and its name there. -/
structure BlobName where
  container : String
  path : String
  deriving DecidableEq

/-- What a service tells of a blob. -/
structure BlobProperties where
  size : Nat
  /-- When the blob was written, in seconds of Unix time. -/
  modified : Option Int
  deriving DecidableEq

/-- How a download may be split up. -/
structure TransferOptions where
  concurrency : Nat
  chunkSize : Nat
  deriving DecidableEq

/-- The way of downloading that a handle's options ask for. -/
def ReadOptions.transfer (options : ReadOptions) : TransferOptions :=
  { concurrency := options.transferConcurrency, chunkSize := options.transferChunkSize }

/-- A blob in a listing. -/
structure BlobItem where
  name : String
  size : Nat
  deriving DecidableEq

/-- A request for one page of a listing. -/
structure ListRequest where
  /-- What the names must begin with. -/
  nameStart : Option String
  /-- The token of the page before. -/
  token : Option String
  pageSize : Option Nat
  deriving DecidableEq

/-- The same request for the page after a token. -/
def ListRequest.withToken (request : ListRequest) (token : String) : ListRequest :=
  { request with token := some token }

/-- One page of a listing. -/
structure ListPage where
  blobs : List BlobItem
  /-- The token for the next page, if there is one. -/
  nextToken : Option String
  deriving DecidableEq

/-- The steps of a blob service. -/
structure BlobService (σ κ : Type) where
  connect : ConnectionSpec → σ → Except StorageError κ × σ
  properties : κ → BlobName → σ → Except RemoteError BlobProperties × σ
  /-- Downloads as many bytes as the second number says from the offset that the first one is. -/
  download : κ → BlobName → Nat → Nat → TransferOptions → σ → Except RemoteError Bytes × σ
  list : κ → String → ListRequest → σ → Except RemoteError ListPage × σ

end BlobFs

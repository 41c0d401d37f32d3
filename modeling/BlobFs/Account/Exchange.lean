import BlobFs.Account.Client

/-!
# Exchanging messages with an account

How a client's requests are put together, sent and sent again.  What carries them is left open: a
`Network` is any pair of steps on a state, one that carries a request and one that comes by a token.

A request that the server could not deal with for the moment is sent again, up to ten times; any
other failure is final.  A server that refuses a request is told apart by its status
(`ExchangeFailure.toStoreError`).
-/

set_option autoImplicit false

namespace BlobFs

/-- What carries requests. -/
structure Network (τ : Type) where
  exchange : HttpRequest → τ → Except String HttpResponse × τ
  token : TokenSource → τ → Except StoreError String × τ
  /-- How many pages a listing takes at most. -/
  pageLimit : τ → Nat

/-- Why a request got no answer that can be used. -/
inductive ExchangeFailure where
  /-- The server refused it. -/
  | refused (request : HttpRequest) (status : Nat) (body : String)
  /-- It did not reach the server. -/
  | unreachable (request : HttpRequest) (reason : String)
  /-- There is no token to send with it. -/
  | noToken (cause : StoreError)

namespace ExchangeFailure

/-- The failure in words. -/
def describe : ExchangeFailure → String
  | .refused request status body =>
    s!"Error performing {request.method} {request.url.location} - Server returned non-2xx status code: " ++
      HttpResponse.statusText status ++ ": " ++ body
  | .unreachable request reason =>
    s!"Error performing {request.method} {request.url.location} - HTTP error: {reason}"
  | .noToken cause => cause.describe

/-- The failure of a request about one object. -/
def toStoreError (path : ObjectPath) (e : ExchangeFailure) : StoreError :=
  match e with
  | .refused _ 404 _ => .notFound path e.describe
  | .refused _ 304 _ => .notModified path e.describe
  | .refused _ 412 _ => .precondition path e.describe
  | .refused _ 409 _ => .alreadyExists path e.describe
  | .refused _ 403 _ => .permissionDenied path e.describe
  | .refused _ 401 _ => .unauthenticated path e.describe
  | .noToken cause => cause
  | _ => credentialFailure e.describe

/-- The failure of a request for a listing. -/
def toListError (e : ExchangeFailure) : StoreError :=
  match e with
  | .noToken cause => cause
  | _ => credentialFailure ("Error performing list request: " ++ e.describe)

end ExchangeFailure

namespace AccountClient

variable {τ : Type}

/-- How often a request is sent again. -/
def retryLimit : Nat := 10

/-- Whether a status says that the same request may do better a little later. -/
def isPassing (status : Nat) : Bool :=
  (500 ≤ status && status < 600) || status == 429 || status == 408

/-- Sends a request, and up to so many times again. -/
def sendAgain (network : Network τ) (request : HttpRequest) :
    Nat → τ → Except ExchangeFailure HttpResponse × τ
  | retries, state =>
    match network.exchange request state with
    | (.error reason, state) => (.error (.unreachable request reason), state)
    | (.ok response, state) =>
      if response.isSuccess then (.ok response, state)
      else match retries with
        | 0 => (.error (.refused request response.status response.shownText), state)
        | retries + 1 =>
          if isPassing response.status then sendAgain network request retries state
          else (.error (.refused request response.status response.shownText), state)

/-- The authorization of a request, and the pairs that its query needs for it. -/
def authorize (network : Network τ) (client : AccountClient) (state : τ) :
    Except ExchangeFailure (Option Authorization × List (String × String)) × τ :=
  match client.signing with
  | .unsigned => (.ok (none, []), state)
  | .sharedKey account key => (.ok (some (.sharedKey account key), []), state)
  | .sharedAccess pairs => (.ok (none, pairs), state)
  | .tokens source =>
    match network.token source state with
    | (.ok token, state) => (.ok (some (.bearer token), []), state)
    | (.error e, state) => (.error (.noToken e), state)

/-- Whether requests may go out without encryption: only where the account's address says so. -/
def allowsPlain (client : AccountClient) : Bool :=
  Text.startsWith client.accountUrl "http://" || client.isEmulator

/-- Sends a request for something below the account's address. -/
def send (network : Network τ) (client : AccountClient) (method : String) (segments : List String)
    (pairs : List (String × String)) (range : Option (Nat × Nat)) (state : τ) :
    Except ExchangeFailure HttpResponse × τ :=
  match authorize network client state with
  | (.error e, state) => (.error e, state)
  | (.ok (authorization, more), state) =>
    let url := (client.base.extend segments).withPairs (pairs ++ more)
    let request : HttpRequest := { method, url, range, authorization, proxy := client.proxy }
    if url.scheme = "http" ∧ ¬client.allowsPlain then
      (.error (.unreachable request "URL scheme is not allowed"), state)
    else sendAgain network request retryLimit state

end AccountClient

end BlobFs

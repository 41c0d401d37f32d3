import BlobFs.Account.Exchange

/-!
# Running on answers that are known

Whatever runs over a `Network` is a function of what the network answers.  `Replay` is a network
that answers from a list and stops at the first request beyond it: that request is kept, and nothing
is answered from then on.

So a real network needs no part in a run.  A run is made on the answers known so far; if a request
is missing its answer, somebody carries it, and the run is made again with one answer more.  Each
request is carried once, and only the run that misses nothing counts.
-/

set_option autoImplicit false

namespace BlobFs

/-- The answers that are left, and the request that none was left for. -/
structure Replay where
  answers : List (Except String HttpResponse)
  missing : Option HttpRequest

namespace Replay

/-- A run on these answers. -/
def ofAnswers (answers : List (Except String HttpResponse)) : Replay :=
  { answers, missing := none }

/-- Takes the next answer for a request. -/
def exchange (request : HttpRequest) (state : Replay) : Except String HttpResponse × Replay :=
  match state.missing, state.answers with
  | none, answer :: rest => (answer, { state with answers := rest })
  | none, [] => (.error "the answer is not known yet", { state with missing := some request })
  | some _, _ => (.error "an earlier answer is not known yet", state)

/-- The network of known answers; there is nobody to give tokens. -/
def network : Network Replay where
  exchange := exchange
  token _ state := (.error (credentialFailure "there is no source of tokens"), state)
  pageLimit state := state.answers.length + 2

end Replay

end BlobFs

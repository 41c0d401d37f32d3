import BlobFs.Proofs.Outcome
import BlobFs.Token.Certificate
import Mathlib.Data.List.Induction

/-!
# When a token is asked for again

A certificate credential keeps the token that it got and asks for another one when the kept one is
about to expire.  This file follows a credential through any calls, at any readings of the clock,
whatever signs its assertions and whatever the token endpoint answers.

* `CertificateCredential.call` — a call with a note of the requests that it sent and of what came
  back; `calls` is one call after another, each with its own reading of the clock.
* `granted?` — whether an answer of the endpoint brings a token; `Grant` is such a token with the
  time at which it was asked for, and `latestGrant` the last one of some calls.
* `CanAsk` — whether there is a request to send at all: the assertion can be signed and the address
  takes requests (`exists_requestAt_iff`).
* `Makes` — all that a call can come to: the kept token, a new one, or a failure, with or without a
  request (`makes_call`).
* `cache_calls` — the kept token is the latest grant, after any calls.

So whether a call sends a request can be told from the grants, if it can send one at all
(`call_after_readings`).  The clock may even go back.  A credential that has nothing to send fails
without a request (`unreadable_address_not_asked`).
-/

set_option autoImplicit false

namespace BlobFs.CertificateCredential

variable {τ : Type}

/-! ## Calls and grants -/

/-- A call: when it was made, the requests that it sent with what came back, and its answer. -/
structure Call where
  time : Nat
  exchanges : List (TokenRequest × Except String HttpResponse)
  answer : Except StoreError String

/-- A token, when it was asked for, and how many seconds it is good for. -/
structure Grant where
  token : String
  time : Nat
  lifetime : Nat
  deriving DecidableEq

/-- The reading of the clock when the token expires. -/
def Grant.expiry (grant : Grant) : Nat :=
  grant.time + grant.lifetime * Clock.second

/-- The token as it is kept. -/
def Grant.cached (grant : Grant) : CachedToken :=
  { token := grant.token, expiresAt := grant.expiry }

/-- The token and its lifetime, if that is what came back: the endpoint did what it was asked, and
what it said can be read. -/
def granted? : Except String HttpResponse → Option (String × Nat)
  | .error _ => none
  | .ok response => if response.isSuccess then tokenOfBody? response else none

/-- The token that a call got from the endpoint, if it got one. -/
def Call.grant? (call : Call) : Option Grant :=
  call.exchanges.findSome? fun exchange ↦ (granted? exchange.2).map fun (token, lifetime) ↦
    { token, time := call.time, lifetime }

/-- The token that the endpoint gave last. -/
def latestGrant (past : List Call) : Option Grant :=
  past.reverse.findSome? Call.grant?

theorem latestGrant_append (past : List Call) (call : Call) :
    latestGrant (past ++ [call]) = call.grant?.or (latestGrant past) := by
  rw [latestGrant, List.reverse_append, List.reverse_singleton, List.singleton_append,
    List.findSome?_cons]
  cases call.grant? <;> rfl

/-- A call of the credential at a reading of the clock, with the credential and the state after
it. -/
def call (sign : SignAssertion) (ask : AskEndpoint τ) (c : CertificateCredential) (now : Nat)
    (state : τ) : Call × CertificateCredential × τ :=
  let (answer, c, exchanges, state) := c.getToken sign (noted ask) now ([], state)
  ({ time := now, exchanges, answer }, c, state)

/-- Calls at these readings of the clock, with the credential and the state after them. -/
def calls (sign : SignAssertion) (ask : AskEndpoint τ) (c : CertificateCredential) (state : τ)
    (readings : List Nat) : List Call × CertificateCredential × τ :=
  readings.foldl (fun (past, c, state) now ↦
    let (call, c, state) := c.call sign ask now state
    (past ++ [call], c, state)) ([], c, state)

theorem calls_append (sign : SignAssertion) (ask : AskEndpoint τ) (c : CertificateCredential)
    (state : τ) (readings : List Nat) (now : Nat) :
    c.calls sign ask state (readings ++ [now]) =
      let run := c.calls sign ask state readings
      let next := run.2.1.call sign ask now run.2.2
      (run.1 ++ [next.1], next.2) := by
  rw [calls, List.foldl_append]
  rfl

/-! ## Requests -/

/-- Whether there is a request to send: the assertion can be signed, and the address is one that
requests can be sent to. -/
def CanAsk (sign : SignAssertion) (c : CertificateCredential) (now : Nat) : Prop :=
  (∃ signed, sign c.certificate.key (c.assertionAt now) = .ok signed) ∧
    ∃ url, WebUrl.parse c.tokenUrl = .ok url ∧ url.takesRequests = true

theorem endpoint_eq_ok_iff {c : CertificateCredential} {url : WebUrl} :
    c.endpoint = .ok url ↔ WebUrl.parse c.tokenUrl = .ok url ∧ url.takesRequests = true := by
  rw [endpoint]
  cases WebUrl.parse c.tokenUrl with
  | error problem => simp
  | ok other =>
    dsimp only
    by_cases h : other.takesRequests = true
    · rw [if_pos h, Except.ok.injEq, Except.ok.injEq]
      exact ⟨fun he ↦ ⟨he, he ▸ h⟩, And.left⟩
    · rw [if_neg h]
      refine ⟨nofun, ?_⟩
      rintro ⟨he, hurl⟩
      exact absurd (Except.ok.inj he ▸ hurl) h

/-- There is a request exactly if one can be sent. -/
theorem exists_requestAt_iff {sign : SignAssertion} {c : CertificateCredential} {now : Nat} :
    (∃ request, c.requestAt sign now = .ok request) ↔ c.CanAsk sign now := by
  simp only [CanAsk, ← endpoint_eq_ok_iff]
  rw [requestAt]
  cases sign c.certificate.key (c.assertionAt now) with
  | error reason => simp
  | ok signed => cases c.endpoint <;> simp

/-- What is kept makes no difference to a request. -/
theorem requestAt_withCache (sign : SignAssertion) (c : CertificateCredential)
    (cache : Option CachedToken) (now : Nat) :
    { c with cache }.requestAt sign now = c.requestAt sign now := by
  simp only [requestAt, endpoint, assertionAt, tokenUrl, formFields]

theorem exists_requestAt_eq_error {sign : SignAssertion} {c : CertificateCredential} {now : Nat}
    (h : ¬ c.CanAsk sign now) : ∃ e, c.requestAt sign now = .error e := by
  cases hrequest : c.requestAt sign now with
  | error e => exact ⟨e, rfl⟩
  | ok request => exact absurd (exists_requestAt_iff.1 ⟨request, hrequest⟩) h

/-! ## Answers -/

theorem tokenOfAnswer_of_granted (c : CertificateCredential) (now : Nat)
    {answer : Except String HttpResponse} {token : String} {lifetime : Nat}
    (h : granted? answer = some (token, lifetime)) :
    c.tokenOfAnswer now answer = .ok { token, expiresAt := now + lifetime * Clock.second } := by
  cases answer with
  | error reason => cases h
  | ok response =>
    rw [granted?] at h
    split at h
    · next hsuccess =>
      rw [tokenOfAnswer, tokenOfResponse, hsuccess, h]
      rfl
    · cases h

theorem tokenOfAnswer_of_not_granted (c : CertificateCredential) (now : Nat)
    {answer : Except String HttpResponse} (h : granted? answer = none) :
    ∃ e, c.tokenOfAnswer now answer = .error e := by
  cases answer with
  | error reason => exact ⟨_, rfl⟩
  | ok response =>
    rw [granted?] at h
    split at h
    · next hsuccess =>
      rw [tokenOfAnswer, tokenOfResponse, hsuccess, h]
      exact ⟨_, rfl⟩
    · next hfailure =>
      rw [tokenOfAnswer, tokenOfResponse, Bool.eq_false_iff.2 hfailure]
      exact ⟨_, rfl⟩

/-! ## One call -/

/-- Whether the credential keeps a token that is not about to expire. -/
def KeepsFresh (c : CertificateCredential) (now : Nat) : Prop :=
  ∃ cached, c.cache = some cached ∧ now + CachedToken.margin < cached.expiresAt

/-- All that a call can come to: the call, and the credential and the state after it. -/
inductive Makes (sign : SignAssertion) (ask : AskEndpoint τ) (c : CertificateCredential)
    (now : Nat) (state : τ) : Call × CertificateCredential × τ → Prop
  /-- The kept token is good for long enough. -/
  | kept {cached : CachedToken} (h : c.cache = some cached)
      (hfresh : now + CachedToken.margin < cached.expiresAt) :
      Makes sign ask c now state
        ({ time := now, exchanges := [], answer := .ok cached.token }, c, state)
  /-- There is no request to send. -/
  | unsent {e : StorageError} (hstale : ¬ c.KeepsFresh now) (h : c.requestAt sign now = .error e) :
      Makes sign ask c now state
        ({ time := now, exchanges := [], answer := .error (credentialFailure e.message) }, c, state)
  /-- The request brings a token, which is kept. -/
  | granted {request : TokenRequest} {answer : Except String HttpResponse} {after : τ}
      {token : String} {lifetime : Nat} (hstale : ¬ c.KeepsFresh now)
      (h : c.requestAt sign now = .ok request) (hask : ask request state = (answer, after))
      (hgrant : granted? answer = some (token, lifetime)) :
      Makes sign ask c now state
        ({ time := now, exchanges := [(request, answer)], answer := .ok token },
          { c with cache := some { token, expiresAt := now + lifetime * Clock.second } }, after)
  /-- The request brings no token. -/
  | denied {request : TokenRequest} {answer : Except String HttpResponse} {after : τ}
      {e : StoreError} (hstale : ¬ c.KeepsFresh now) (h : c.requestAt sign now = .ok request)
      (hask : ask request state = (answer, after)) (hgrant : granted? answer = none) :
      Makes sign ask c now state
        ({ time := now, exchanges := [(request, answer)], answer := .error e }, c, after)

section

variable {sign : SignAssertion} {ask : AskEndpoint τ} {c : CertificateCredential} {now : Nat}
  {state : τ}

theorem getToken_of_fresh {cached : CachedToken} (h : c.cache = some cached)
    (hfresh : now + CachedToken.margin < cached.expiresAt) :
    c.getToken sign ask now state = (.ok cached.token, c, state) := by
  have hkept : c.cache.filter (·.isFresh now) = some cached := by
    rw [h, Option.filter_some, CachedToken.isFresh, decide_eq_true hfresh, if_pos rfl]
  rw [getToken, hkept]

/-- A credential without a fresh token gets one from the endpoint, or fails. -/
theorem getToken_of_stale (hstale : ¬ c.KeepsFresh now) :
    c.getToken sign ask now state =
      match fetchToken sign ask c now state with
      | (.error e, after) => (.error (credentialFailure e.message), c, after)
      | (.ok cached, after) => (.ok cached.token, { c with cache := some cached }, after) := by
  have hnone : c.cache.filter (·.isFresh now) = none := by
    rw [Option.filter_eq_none_iff]
    intro cached h hfresh
    exact hstale ⟨cached, h, of_decide_eq_true hfresh⟩
  rcases hfetch : fetchToken sign ask c now state with ⟨_ | cached, after⟩ <;>
    simp only [getToken, hnone, hfetch]

/-- Without a request nothing is asked. -/
theorem fetchToken_of_error {e : StorageError} (h : c.requestAt sign now = .error e) :
    fetchToken sign ask c now state = (.error e, state) := by
  rw [fetchToken, h]

/-- With a request, exactly this is asked. -/
theorem fetchToken_of_ok {request : TokenRequest} {answer : Except String HttpResponse} {after : τ}
    (h : c.requestAt sign now = .ok request) (hask : ask request state = (answer, after)) :
    fetchToken sign ask c now state = (c.tokenOfAnswer now answer, after) := by
  simp only [fetchToken, h, hask]

end

/-- A call with notes is the plain call, and comes to one of these. -/
theorem makes_call (sign : SignAssertion) (ask : AskEndpoint τ) (c : CertificateCredential)
    (now : Nat) (state : τ) :
    c.getToken sign ask now state =
        ((c.call sign ask now state).1.answer, (c.call sign ask now state).2) ∧
      Makes sign ask c now state (c.call sign ask now state) := by
  by_cases hfresh : c.KeepsFresh now
  · obtain ⟨cached, hcache, hlt⟩ := hfresh
    rw [call, getToken_of_fresh hcache hlt, getToken_of_fresh hcache hlt]
    exact ⟨rfl, .kept hcache hlt⟩
  · rw [call, getToken_of_stale hfresh, getToken_of_stale hfresh]
    cases hrequest : c.requestAt sign now with
    | error e =>
      rw [fetchToken_of_error hrequest, fetchToken_of_error hrequest]
      exact ⟨rfl, .unsent hfresh hrequest⟩
    | ok request =>
      rcases hask : ask request state with ⟨answer, after⟩
      rw [fetchToken_of_ok hrequest hask, fetchToken_of_ok hrequest (noted_of_eq hask [])]
      cases hgrant : granted? answer with
      | none =>
        obtain ⟨e, he⟩ := c.tokenOfAnswer_of_not_granted now hgrant
        rw [he]
        exact ⟨rfl, .denied hfresh hrequest hask hgrant⟩
      | some grant =>
        obtain ⟨token, lifetime⟩ := grant
        rw [c.tokenOfAnswer_of_granted now hgrant]
        exact ⟨rfl, .granted hfresh hrequest hask hgrant⟩

section

variable {sign : SignAssertion} {ask : AskEndpoint τ} {c : CertificateCredential} {now : Nat}
  {state : τ} {result : Call × CertificateCredential × τ}

/-- What a call keeps is the token that it got; if it got none, the one kept before. -/
theorem Makes.cache_eq (h : Makes sign ask c now state result) :
    result.2.1.cache = (result.1.grant?.map Grant.cached).or c.cache := by
  cases h with
  | kept h hfresh => rfl
  | unsent hstale h => rfl
  | granted hstale h hask hgrant =>
    rw [Call.grant?, List.findSome?_singleton, hgrant]
    rfl
  | denied hstale h hask hgrant =>
    rw [Call.grant?, List.findSome?_singleton, hgrant]
    rfl

/-- Nothing but the kept token changes, so the requests stay the same. -/
theorem Makes.requestAt_eq (h : Makes sign ask c now state result) (later : Nat) :
    result.2.1.requestAt sign later = c.requestAt sign later := by
  cases h with
  | kept | unsent | denied => rfl
  | granted => exact requestAt_withCache _ _ _ _

theorem Makes.exchanges_eq_nil_iff (h : Makes sign ask c now state result) :
    result.1.exchanges = [] ↔ c.KeepsFresh now ∨ ¬ c.CanAsk sign now := by
  rw [← exists_requestAt_iff]
  cases h with
  | kept h hfresh => exact ⟨fun _ ↦ .inl ⟨_, h, hfresh⟩, fun _ ↦ rfl⟩
  | unsent hstale h => exact ⟨fun _ ↦ .inr (by simp [h]), fun _ ↦ rfl⟩
  | granted hstale h | denied hstale h =>
    refine ⟨nofun, ?_⟩
    rintro (hfresh | hnone)
    · exact absurd hfresh hstale
    · exact absurd ⟨_, h⟩ hnone

/-- A fresh token is handed out, and nothing else happens. -/
theorem Makes.eq_of_fresh (h : Makes sign ask c now state result) {cached : CachedToken}
    (hcache : c.cache = some cached) (hfresh : now + CachedToken.margin < cached.expiresAt) :
    result = ({ time := now, exchanges := [], answer := .ok cached.token }, c, state) := by
  cases h with
  | kept h hlt =>
    cases h.symm.trans hcache
    rfl
  | unsent hstale | granted hstale | denied hstale => exact absurd ⟨cached, hcache, hfresh⟩ hstale

/-- Without a fresh token one request is sent, and its answer decides. -/
theorem Makes.of_ok (h : Makes sign ask c now state result) (hstale : ¬ c.KeepsFresh now)
    {request : TokenRequest} (hrequest : c.requestAt sign now = .ok request) :
    result.1.exchanges = [(request, (ask request state).1)] ∧
      (∀ token lifetime, granted? (ask request state).1 = some (token, lifetime) →
        result.1.answer = .ok token ∧
          result.2.1.cache = some (Grant.cached { token, time := now, lifetime })) ∧
      (granted? (ask request state).1 = none →
        (∃ e, result.1.answer = .error e) ∧ result.2.1 = c) := by
  cases h with
  | kept h hlt => exact absurd ⟨_, h, hlt⟩ hstale
  | unsent _ h => cases h.symm.trans hrequest
  | granted _ h hask hgrant =>
    cases h.symm.trans hrequest
    rw [hask]
    refine ⟨rfl, fun token lifetime hsome ↦ ?_, fun hnone ↦ ?_⟩
    · cases hgrant.symm.trans hsome
      exact ⟨rfl, rfl⟩
    · cases hgrant.symm.trans hnone
  | denied _ h hask hgrant =>
    cases h.symm.trans hrequest
    rw [hask]
    refine ⟨rfl, fun token lifetime hsome ↦ ?_, fun _ ↦ ⟨⟨_, rfl⟩, rfl⟩⟩
    cases hgrant.symm.trans hsome

/-- Where there is no request to send, a call without a fresh token fails. -/
theorem Makes.of_error (h : Makes sign ask c now state result) (hstale : ¬ c.KeepsFresh now)
    {e : StorageError} (hrequest : c.requestAt sign now = .error e) :
    result = ({ time := now, exchanges := [], answer := .error (credentialFailure e.message) },
      c, state) := by
  cases h with
  | kept h hlt => exact absurd ⟨_, h, hlt⟩ hstale
  | unsent _ h =>
    cases h.symm.trans hrequest
    rfl
  | granted _ h | denied _ h => cases h.symm.trans hrequest

end

/-! ## Any number of calls -/

/-- **The kept token is the latest grant.** -/
theorem cache_calls (sign : SignAssertion) (ask : AskEndpoint τ) {c : CertificateCredential}
    (hnew : c.cache = none) (state : τ) (readings : List Nat) :
    (c.calls sign ask state readings).2.1.cache =
        (latestGrant (c.calls sign ask state readings).1).map Grant.cached ∧
      ∀ later, (c.calls sign ask state readings).2.1.requestAt sign later =
        c.requestAt sign later := by
  induction readings using List.reverseRecOn with
  | nil => exact ⟨hnew, fun _ ↦ rfl⟩
  | append_singleton readings now ih =>
    obtain ⟨hcache, hrequest⟩ := ih
    rw [calls_append]
    generalize c.calls sign ask state readings = run at hcache hrequest
    have hmakes := (makes_call sign ask run.2.1 now run.2.2).2
    refine ⟨?_, fun later ↦ (hmakes.requestAt_eq later).trans (hrequest later)⟩
    rw [latestGrant_append, hmakes.cache_eq, hcache, Option.map_or]

theorem keepsFresh_iff {c : CertificateCredential} {latest : Option Grant} {now : Nat}
    (h : c.cache = latest.map Grant.cached) :
    c.KeepsFresh now ↔ ∃ grant, latest = some grant ∧ now + CachedToken.margin < grant.expiry := by
  rw [KeepsFresh, h]
  cases latest with
  | none => simp
  | some grant => simp [Grant.cached]

/-- **When a call sends a request, and what comes of it.**  Let a new credential be called at any
readings of the clock, and then once more, now; let anything sign its assertions and anything answer
its requests.

* What it keeps is the token that the endpoint gave last.
* The call sends no request exactly if that token is good for more than 300 seconds from now, or if
  there is nothing to send: the assertion cannot be signed, or the address takes no requests.
* If the token is good for so long, it is the answer, and nothing changes.
* Otherwise the call sends one request, if there is one.  If that brings a token, it is the answer
  and is kept; if not, the call fails and the credential stays as it was.
* If there is nothing to send, the call fails and nothing changes.
* So without a request no token is handed out that expires within 300 seconds. -/
theorem call_after_readings (sign : SignAssertion) (ask : AskEndpoint τ)
    {c : CertificateCredential} (hnew : c.cache = none) (state : τ) (readings : List Nat)
    (now : Nat) :
    let run := c.calls sign ask state readings
    let held := run.2.1
    let latest := latestGrant run.1
    let next := held.call sign ask now run.2.2
    let fresh (grant : Grant) : Prop := now + 300 * Clock.second < grant.expiry
    held.getToken sign ask now run.2.2 = (next.1.answer, next.2) ∧
    held.cache = latest.map Grant.cached ∧
    (next.1.exchanges = [] ↔
      (∃ grant, latest = some grant ∧ fresh grant) ∨ ¬ c.CanAsk sign now) ∧
    (∀ grant, latest = some grant → fresh grant →
      next.1.exchanges = [] ∧ next.1.answer = .ok grant.token ∧ next.2 = run.2) ∧
    ((∀ grant, latest = some grant → ¬ fresh grant) →
      (c.CanAsk sign now → ∃ request, c.requestAt sign now = .ok request ∧
        let answer := (ask request run.2.2).1
        next.1.exchanges = [(request, answer)] ∧
        (∀ token lifetime, granted? answer = some (token, lifetime) →
          next.1.answer = .ok token ∧
            next.2.1.cache = some (Grant.cached { token, time := now, lifetime })) ∧
        (granted? answer = none → (∃ e, next.1.answer = .error e) ∧ next.2.1 = held)) ∧
      (¬ c.CanAsk sign now → (∃ e, next.1.answer = .error e) ∧ next.2 = run.2)) ∧
    (∀ token, next.1.exchanges = [] → next.1.answer = .ok token →
      ∃ grant, latest = some grant ∧ fresh grant ∧ grant.token = token) := by
  intro run held latest next fresh
  obtain ⟨hcache, hrequest⟩ := cache_calls sign ask hnew state readings
  obtain ⟨hplain, hmakes⟩ := makes_call sign ask held now run.2.2
  replace hmakes : Makes sign ask held now run.2.2 next := hmakes
  have hnow : held.requestAt sign now = c.requestAt sign now := hrequest now
  have hcan : held.CanAsk sign now ↔ c.CanAsk sign now := by
    rw [← exists_requestAt_iff, hnow, exists_requestAt_iff]
  have hkeeps : held.KeepsFresh now ↔ ∃ grant, latest = some grant ∧ fresh grant :=
    keepsFresh_iff hcache
  have hgood (grant : Grant) (hlatest : latest = some grant) (hfresh : fresh grant) :
      next = ({ time := now, exchanges := [], answer := .ok grant.token }, held, run.2.2) := by
    have hheld : held.cache = some grant.cached := by rw [hcache, ← Option.map_some, ← hlatest]
    exact hmakes.eq_of_fresh hheld hfresh
  have hunsent (hstale : ¬ held.KeepsFresh now) (hnot : ¬ c.CanAsk sign now) :
      (∃ e, next.1.answer = .error e) ∧ next.2 = run.2 := by
    obtain ⟨e, he⟩ := exists_requestAt_eq_error hnot
    rw [hmakes.of_error hstale (hnow.trans he)]
    exact ⟨⟨_, rfl⟩, rfl⟩
  refine ⟨hplain, hcache, ?_, fun grant hlatest hfresh ↦ ?_, fun hnone ↦ ?_,
    fun token hexchanges hanswer ↦ ?_⟩
  · rw [hmakes.exchanges_eq_nil_iff, hkeeps, hcan]
  · rw [hgood grant hlatest hfresh]
    exact ⟨rfl, rfl, rfl⟩
  · have hstale : ¬ held.KeepsFresh now := by
      rw [hkeeps]
      rintro ⟨grant, hlatest, hfresh⟩
      exact hnone grant hlatest hfresh
    refine ⟨fun hable ↦ ?_, hunsent hstale⟩
    obtain ⟨request, hsome⟩ := exists_requestAt_iff.2 hable
    exact ⟨request, hsome, hmakes.of_ok hstale (hnow.trans hsome)⟩
  · by_cases hfresh : held.KeepsFresh now
    · obtain ⟨grant, hlatest, hgrant⟩ := hkeeps.1 hfresh
      rw [hgood grant hlatest hgrant] at hanswer
      cases hanswer
      exact ⟨grant, hlatest, hgrant, rfl⟩
    · have hnot := (hmakes.exchanges_eq_nil_iff.1 hexchanges).resolve_left hfresh
      obtain ⟨⟨e, he⟩, -⟩ := hunsent hfresh (mt hcan.2 hnot)
      cases he.symm.trans hanswer

/-! ### A token at the end of its time -/

/-- A key of 2048 bits. -/
def sampleKey : RsaKey :=
  let lines := [
    "MIIEowIBAAKCAQEAr2a+tmxEh2voF/wt+QT2sNb2bhh2P1cH+jF1IjVhB4JDy/dcRfRe5/MwsBQard/TP9E5va6e",
    "gbD3FOa1+Ua/kcR+iixyFlJZXQEbPicP3ruysXy0FcAgjwVvs5yDSKUgoOxpX8Ta3fILxBX1wSWOjtr6jznsez3t",
    "dAkby+LHCxeXJL1QlchGnlzY+jv/Zxbih59V2lk4zmxjVUyPybIKYqs7q1RtKXxVpecEbjfkP0odGGL0bf0K2Fzq",
    "2+oDOO1B/A8WRhPlLFsKGmfjAazvcOyqDbD7lL83fzq3tK/Y7TKPQy6I9ueWUknctWt5QSqkazVp4Q9A8ATM05YN",
    "qF5fRQIDAQABAoIBAAnrK3mxYaauyW8hyY+9Yh3Z6hGLvJQUXdUeGtuWXShJi3/rOwKRsRQ4wlYSrPeMIqwHLta1",
    "Gy2GTlKWQVAZWhfqHqW9oa31diw2Nc4r80/LGW3D+YMJXE36Jrjnbt0ayV+QPt01ipLmbxfljgIgF5GofGbBBchq",
    "VhUrtrCu4EaWNMnqpLENQcl1GErpSvlZMZDOs8WycqON/kk4c+w1rnQ+v5mom2O+u/VQUsEVbo3V9vzt3HgDtl/v",
    "2yb6wKB1C1NFej2jkoiIec59iD6fUHkUld6nMSyDDDHcNK2jXQC1LRtd7vwzioccvnz3FMA47vEjYJXDnuULT+oK",
    "1HFHckECgYEA7ml1cZ6rUIAASg3/SsNnCWdHdtQsXrYgCffIwbYNi6KCPZgdbmyF1Ooy98Gtc47W10iNApOlHhdj",
    "wG/qPk2RZBJf5Xf1DvL48LPQJZnHE6xpSMcaILzhAAhHUVh/ILLEug/56oxu3ZqGNwSi1jsFmsp2wkDTD/Tz8LNL",
    "1scWJDkCgYEAvFdL1d4/t+ZZHyfPbvce3HElIOVq3CrEaoz9KedShhPvzqj1trxDea8coK2iFvCEn4zpDTdPDll6",
    "0UEthoc4PPDzePuWDVcnou+MowH4bwNM4ax5TUFnFCwufiIpoSbMezlZwgznm+/EXZgVeGHmpko88m098RuEkScl",
    "box2i20CgYA16ZspSlwrJAbsuCWW3oEaW0SJ1okCEeVE28eGJokBnoodK5zcL6ZD84H7DM0QaKiknj9k6cZY+6kP",
    "Bz/NPvU10AHnfizoaIFqzP6wwgmGpWJZlsyNwqiOvVCDUKPO3R4nhR1asM8RRbQ8FMxN7aLi0g3w93/DB/1x3Nm1",
    "g+e54QKBgEgolgiBlx4JJfoW0ZWtHmjM/LGm1BM4W3qLO++TDf4Ko2UlPMbfSGbVnX0+KQzq55UNcri6iRJxW+nS",
    "M/QH2JcYpd+jXHEOBESbzOEjPyChPhJ0dyEPPsPuzX1L73EroUpQxb/gG9iVu0E0pH0z3R+277Td/85hgZ/vRJsf",
    "O8fdAoGBAKMHkUtkoxw3+H/04BdIoUCppLL8zmtkPsFOJimDRR+seUq0bBtqE9ooy3qGnW39E/S5zRPE503WhWow",
    "uc1Bge8AOulsmrU7ZGSNdjgQo7a3lG/MhjOS2H2KULj2mEtKu2mspnNlShEhjgKpLgoB0tMjRI4s7Hgpr5yMx5pw",
    "2vgn"]
  { der := (Base64.decode (String.join lines).toList).toOption.getD [] }

/-- A signing that works. -/
def sampleSign : SignAssertion := fun _ _ ↦ .ok "header.claims.signature"

/-- A credential that has not been called yet. -/
def sampleCredential : CertificateCredential :=
  { tenant := "tenant"
    client := "client"
    authorityHost := "https://login.example"
    certificate := { thumbprint := "thumbprint", key := sampleKey }
    proxy := none
    cache := none }

/-- The address that its requests go to. -/
def sampleAddress : WebUrl :=
  { scheme := "https"
    userName := ""
    password := ""
    host := some (.name "login.example")
    port := none
    path := "/tenant/oauth2/v2.0/token"
    query := none
    fragment := none }

/-- An endpoint that gives a token for an hour less a second, and then refuses. -/
def onceGranting : AskEndpoint Bool := fun _ given ↦
  if given then (.ok { status := 503, headers := [], body := [] }, true)
  else (.ok { status := 200, headers := []
              body := .ofText "\x7b\"expires_in\":3599,\"access_token\":\"hourly\"\x7d" }, true)

/-- The calls at the start of the clock and ten minutes later. -/
def hourlyRun : List Call × CertificateCredential × Bool :=
  sampleCredential.calls sampleSign onceGranting false [0, 600 * Clock.second]

/-- A nanosecond before its last 300 seconds the token is handed out once more; then it is asked for
again, and the refusal leaves it kept. -/
theorem hourly_token_asked_again :
    let before :=
      hourlyRun.2.1.call sampleSign onceGranting (3299 * Clock.second - 1) hourlyRun.2.2
    let after := hourlyRun.2.1.call sampleSign onceGranting (3299 * Clock.second) hourlyRun.2.2
    sampleCredential.cache = none ∧
      before.1.exchanges = [] ∧ before.1.answer = .ok "hourly" ∧
      after.1.exchanges ≠ [] ∧ (∃ e, after.1.answer = .error e) ∧
      after.2.1.cache = some { token := "hourly", expiresAt := 3599 * Clock.second } := by
  have hnew : sampleCredential.cache = none := rfl
  have hlatest : latestGrant hourlyRun.1 =
      some { token := "hourly", time := 0, lifetime := 3599 } := by
    decide +kernel
  have hgiven : hourlyRun.2.2 = true := by decide +kernel
  have hable : sampleCredential.CanAsk sampleSign (3299 * Clock.second) :=
    ⟨⟨_, rfl⟩, sampleAddress, by decide +kernel, by decide +kernel⟩
  rw [hourlyRun] at hlatest hgiven ⊢
  obtain ⟨-, hcache, -, hfresh, -, -⟩ := call_after_readings sampleSign onceGranting hnew false
    [0, 600 * Clock.second] (3299 * Clock.second - 1)
  obtain ⟨hbefore, hanswer, -⟩ := hfresh _ hlatest (by decide)
  obtain ⟨-, -, -, -, hstale, -⟩ := call_after_readings sampleSign onceGranting hnew false
    [0, 600 * Clock.second] (3299 * Clock.second)
  obtain ⟨hsends, -⟩ := hstale fun grant hgrant ↦ by
    cases hlatest.symm.trans hgrant
    decide
  obtain ⟨request, -, hafter, -, hdenied⟩ := hsends hable
  have hrefused : granted? (onceGranting request true).1 = none := rfl
  obtain ⟨hfails, hkept⟩ := hdenied (by rw [hgiven]; exact hrefused)
  refine ⟨hnew, hbefore, hanswer, ?_, hfails, ?_⟩
  · rw [hafter]
    exact List.cons_ne_nil _ _
  · rw [hkept, hcache, hlatest]
    rfl

/-- No request goes to an address that cannot be read, though no token is kept: here the port is too
large.  So not every call without a fresh token sends one. -/
theorem unreadable_address_not_asked :
    let c := { sampleCredential with authorityHost := "http://authority:99999" }
    let run := c.calls sampleSign onceGranting false []
    let next := run.2.1.call sampleSign onceGranting 0 run.2.2
    c.cache = none ∧
      ¬(next.1.exchanges = [] ↔
        ∃ grant, latestGrant run.1 = some grant ∧ 0 + 300 * Clock.second < grant.expiry) ∧
      next.1.exchanges.length ≠ 1 ∧ ∃ e, next.1.answer = .error e := by
  intro c run next
  have hexchanges : next.1.exchanges = [] := by decide +kernel
  have hlatest : latestGrant run.1 = none := rfl
  have hfails : next.1.answer.toOption = none := by decide +kernel
  refine ⟨rfl, fun h ↦ ?_, by rw [hexchanges]; decide, ?_⟩
  · obtain ⟨grant, hgrant, -⟩ := h.1 hexchanges
    cases hlatest.symm.trans hgrant
  · cases hanswer : next.1.answer with
    | error e => exact ⟨e, rfl⟩
    | ok token =>
      rw [hanswer] at hfails
      cases hfails

end BlobFs.CertificateCredential

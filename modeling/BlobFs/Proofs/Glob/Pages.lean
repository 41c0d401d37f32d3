import BlobFs.Proofs.Glob
import Mathlib.Data.Nat.Find

/-!
# Reading pages from any service

A listing is as good as the service that gives it: pages may come in any order, tokens may come
again, and any request may fail.  This file follows the reading of a listing through whatever the
service answers.

* `PageScript` — the answers to the requests for pages, one after another and without an end.
  `BlobService.answering` is any service with a script in place of its listing, and keeps the
  requests.
* `PageScript.Ends` — what ends a reading: a failure, a page without a token, or a token that *any*
  earlier page had.
* `PageScript.request` — what is asked for: always the same beginning, and the token of the answer
  before.
* `gatherPages_of_ends` — the reading asks up to the first answer that ends it and no further, and
  what it comes to is decided there (`PageScript.outcome`).  It is by induction on how many answers
  are still to come; the tokens seen are those of the answers so far (`PageScript.SeenBy`).
* `expand_eq_none_iff` — where no answer ends the reading, and only there, it never comes to
  anything.

`glob_of_ends` says so of a whole pattern: the requests, and either all that matches or a failure.
-/

set_option autoImplicit false

namespace BlobFs

/-! ## Scripts -/

/-- Answers to requests for pages, one after another, whatever is asked. -/
abbrev PageScript := Nat → Except RemoteError ListPage

namespace PageScript

/-- The token that an answer names, if it is a page that names one. -/
def token? (script : PageScript) (i : Nat) : Option String :=
  match script i with
  | .ok page => page.nextToken
  | .error _ => none

/-- What is taken from the page that an answer is, if it is one. -/
def taken {α : Type} (script : PageScript) (select : ListPage → List α) (i : Nat) : List α :=
  match script i with
  | .ok page => select page
  | .error _ => []

/-- Whether the reading of a listing ends with this answer. -/
inductive Ends (script : PageScript) (n : Nat) : Prop
  /-- It is a failure. -/
  | failed {e : RemoteError} (h : script n = .error e)
  /-- It is a page without a token. -/
  | last {page : ListPage} (h : script n = .ok page) (hnext : page.nextToken = none)
  /-- It is a page with a token that an earlier page had. -/
  | repeated {page : ListPage} {token : String} {i : Nat} (h : script n = .ok page)
      (hnext : page.nextToken = some token) (hi : i < n) (hearlier : script.token? i = some token)

/-- The requests for pages of the names with a beginning: the first one names no token, and each
later one the token of the answer before. -/
def request (script : PageScript) (start : String) : Nat → ListRequest
  | 0 => { nameStart := some start, token := none, pageSize := none }
  | i + 1 => { nameStart := some start, token := script.token? i, pageSize := none }

/-- What a reading of the answers from `first` to `last` comes to. -/
def outcome (script : PageScript) (path : String) (select : ListPage → List String)
    (first last : Nat) : Except StorageError (List String) :=
  match script last with
  | .error e => .error (.remote s!"AzureStorageFileSystem list of '{path}'" e)
  | .ok page =>
    match page.nextToken with
    | some token => .error (.repeatedToken path token)
    | none => .ok ((List.range' first (last + 1 - first)).flatMap (script.taken select))

variable {script : PageScript} {n : Nat}

/-- An answer that does not end the reading is a page with a token that no earlier page had. -/
theorem not_ends_iff :
    ¬ script.Ends n ↔ ∃ page token, script n = .ok page ∧ page.nextToken = some token ∧
      ∀ i < n, script.token? i ≠ some token := by
  constructor
  · intro h
    cases hn : script n with
    | error e => exact absurd (.failed hn) h
    | ok page =>
      cases hnext : page.nextToken with
      | none => exact absurd (.last hn hnext) h
      | some token =>
        exact ⟨page, token, rfl, hnext, fun i hi hearlier ↦ h (.repeated hn hnext hi hearlier)⟩
  · rintro ⟨page, token, hn, hnext, hnew⟩ (h | ⟨h, hnone⟩ | ⟨h, hsome, hi, hearlier⟩)
    · cases hn.symm.trans h
    · cases hn.symm.trans h
      cases hnext.symm.trans hnone
    · cases hn.symm.trans h
      cases hnext.symm.trans hsome
      exact hnew _ hi hearlier

theorem token?_of_ok {page : ListPage} (h : script n = .ok page) :
    script.token? n = page.nextToken := by
  rw [token?, h]

/-- After a page with a token, the next request is for the page that the token names. -/
theorem withToken_request {start token : String} (h : script.token? n = some token) :
    (script.request start n).withToken token = script.request start (n + 1) := by
  cases n with
  | zero => rw [request, request, h, ListRequest.withToken]
  | succ i => rw [request, request, h, ListRequest.withToken]

/-- Whether these are the tokens that the first answers name. -/
def SeenBy (script : PageScript) (seen : List String) (count : Nat) : Prop :=
  ∀ token, token ∈ seen ↔ ∃ i < count, script.token? i = some token

theorem SeenBy.zero (script : PageScript) : script.SeenBy [] 0 := by
  simp [SeenBy]

theorem SeenBy.succ {seen : List String} {token : String} (h : script.SeenBy seen n)
    (htoken : script.token? n = some token) : script.SeenBy (token :: seen) (n + 1) := by
  intro other
  rw [List.mem_cons, h other]
  constructor
  · rintro (rfl | ⟨i, hi, hother⟩)
    · exact ⟨n, Nat.lt_succ_self n, htoken⟩
    · exact ⟨i, Nat.lt_succ_of_lt hi, hother⟩
  · rintro ⟨i, hi, hother⟩
    rcases Nat.lt_succ_iff_lt_or_eq.1 hi with hi | rfl
    · exact .inr ⟨i, hi, hother⟩
    · exact .inl (Option.some.inj (hother.symm.trans htoken))

theorem SeenBy.not_mem {seen : List String} {token : String} (h : script.SeenBy seen n)
    (hnew : ∀ i < n, script.token? i ≠ some token) : token ∉ seen := by
  rw [h token]
  rintro ⟨i, hi, hearlier⟩
  exact hnew i hi hearlier

/-- What a page matches, for every answer that is one. -/
theorem taken_matchingUrls (script : PageScript) (url : BlobUrl) (pattern : Pattern) :
    script.taken (FileSystem.matchingUrls url pattern) = fun i ↦
      (((script.taken ListPage.blobs i).map BlobItem.name).filter pattern.matchesName).map
        url.urlFor := by
  funext i
  rw [taken, taken]
  cases script i with
  | error e => rfl
  | ok page =>
    rw [List.filter_map, List.map_map]
    rfl

section

variable {path : String} {select : ListPage → List String} {first last : Nat}

theorem outcome_of_error {e : RemoteError} (h : script last = .error e) :
    script.outcome path select first last =
      .error (.remote s!"AzureStorageFileSystem list of '{path}'" e) := by
  rw [outcome, h]

theorem outcome_of_some {page : ListPage} {token : String} (h : script last = .ok page)
    (hnext : page.nextToken = some token) :
    script.outcome path select first last = .error (.repeatedToken path token) := by
  rw [outcome, h]
  simp only [hnext]

theorem outcome_of_none {page : ListPage} (h : script last = .ok page)
    (hnext : page.nextToken = none) :
    script.outcome path select first last =
      .ok ((List.range' first (last + 1 - first)).flatMap (script.taken select)) := by
  rw [outcome, h]
  simp only [hnext]

/-- Only a page without a token lets the reading come to something. -/
theorem exists_last_of_outcome {urls : List String}
    (h : script.outcome path select first last = .ok urls) :
    ∃ page, script last = .ok page ∧ page.nextToken = none := by
  rw [outcome] at h
  split at h
  · cases h
  · next page hpage =>
    split at h
    · cases h
    · next hnext => exact ⟨page, hpage, hnext⟩

/-- One page more in front. -/
theorem outcome_succ {page : ListPage} (h : script first = .ok page) (hlt : first < last) :
    (script.outcome path select (first + 1) last).map (select page ++ ·) =
      script.outcome path select first last := by
  have hcount : last + 1 - first = (last + 1 - (first + 1)) + 1 := by omega
  have htaken : script.taken select first = select page := by rw [taken, h]
  rw [outcome, outcome, hcount, List.range'_succ, List.flatMap_cons, htaken]
  cases script last with
  | error e => rfl
  | ok final => cases hnext : final.nextToken <;> simp only [hnext] <;> rfl

end

end PageScript

/-- The service with the answers of a script in place of its listings; the requests are kept, each
with the container it was for. -/
def BlobService.answering {σ κ : Type} (service : BlobService σ κ) (script : PageScript) :
    BlobService (σ × List (String × ListRequest)) κ :=
  { service.beside with
    list := fun _ container request state ↦
      (script state.2.length, state.1, state.2 ++ [(container, request)]) }

namespace FileSystem

/-! ## Reading to the end -/

section

variable {τ : Type} {list : ListRequest → τ → Except RemoteError ListPage × τ}
  {script : PageScript} {asked : τ → List (String × ListRequest)} {container : String}

/-- Whether the requests are answered by the script and kept. -/
def Follows (list : ListRequest → τ → Except RemoteError ListPage × τ) (script : PageScript)
    (asked : τ → List (String × ListRequest)) (container : String) : Prop :=
  ∀ request state, ∃ after, list request state = (script (asked state).length, after) ∧
    asked after = asked state ++ [(container, request)]

/-- **A reading asks up to the first answer that ends it**, and comes to what is decided there. -/
theorem gatherPages_of_ends (hlist : Follows list script asked container) {n : Nat}
    (hends : script.Ends n) (hfirst : ∀ i < n, ¬ script.Ends i) (start path : String)
    (select : ListPage → List String) {seen : List String} {state : τ} {left : Nat}
    (hleft : (asked state).length + left = n)
    (hseen : script.SeenBy seen (asked state).length) :
    ∃ after, (script.request start (asked state).length).gatherPages list path select seen state =
        some (script.outcome path select (asked state).length n, after) ∧
      asked after = asked state ++ (List.range' (asked state).length (left + 1)).map
        fun i ↦ (container, script.request start i) := by
  induction left generalizing seen state with
  | zero =>
    obtain ⟨after, hpage, hafter⟩ := hlist (script.request start (asked state).length) state
    rw [Nat.add_zero] at hleft
    refine ⟨after, ?_, hafter⟩
    rw [hleft] at hpage hseen ⊢
    cases hends with
    | failed h =>
      rw [gatherPages_of_error (h ▸ hpage), PageScript.outcome_of_error h]
    | last h hnext =>
      rw [gatherPages_of_none (h ▸ hpage) hnext, PageScript.outcome_of_none h hnext,
        Nat.add_sub_cancel_left, List.range'_one, List.flatMap_singleton, PageScript.taken, h]
    | repeated h hnext hi hearlier =>
      rw [gatherPages_of_seen (h ▸ hpage) hnext ((hseen _).2 ⟨_, hi, hearlier⟩),
        PageScript.outcome_of_some h hnext]
  | succ left ih =>
    obtain ⟨after, hpage, hafter⟩ := hlist (script.request start (asked state).length) state
    obtain ⟨page, token, h, hnext, hnew⟩ :=
      PageScript.not_ends_iff.1 (hfirst (asked state).length (by omega))
    have htoken : script.token? (asked state).length = some token :=
      (PageScript.token?_of_ok h).trans hnext
    have hcount : (asked after).length = (asked state).length + 1 := by
      rw [hafter, List.length_append, List.length_singleton]
    obtain ⟨last, hrest, hasked⟩ := ih (by omega) (hcount ▸ hseen.succ htoken)
    refine ⟨last, ?_, ?_⟩
    · rw [hcount, ← PageScript.withToken_request htoken] at hrest
      rw [gatherPages_of_new (h ▸ hpage) hnext (hseen.not_mem hnew) hrest,
        PageScript.outcome_succ h (by omega)]
    · rw [hasked, hcount, hafter, List.range'_succ, List.map_cons, List.append_assoc]
      rfl

/-- A reading that comes to anything has an answer that ends it, so where no answer does the service
is asked for ever. -/
theorem exists_ends_of_gatherPages (hlist : Follows list script asked container) {path : String}
    {select : ListPage → List String} {request : ListRequest} {seen : List String} {state : τ}
    {result : Except StorageError (List String) × τ}
    (hread : request.gatherPages list path select seen state = some result)
    (hseen : script.SeenBy seen (asked state).length) :
    ∃ n ≥ (asked state).length, script.Ends n := by
  refine ListRequest.gatherPages.partial_correctness list path select
    (fun _ seen state _ ↦ script.SeenBy seen (asked state).length →
      ∃ n ≥ (asked state).length, script.Ends n)
    ?_ request seen state result hread hseen
  intro rest ih request seen state result hread hseen
  by_cases hends : script.Ends (asked state).length
  · exact ⟨_, Nat.le_refl _, hends⟩
  · obtain ⟨page, token, h, hnext, hnew⟩ := PageScript.not_ends_iff.1 hends
    obtain ⟨after, hpage, hafter⟩ := hlist request state
    have hcount : (asked after).length = (asked state).length + 1 := by
      rw [hafter, List.length_append, List.length_singleton]
    have htoken : script.token? (asked state).length = some token :=
      (PageScript.token?_of_ok h).trans hnext
    simp only [hpage, h, hnext, if_neg (hseen.not_mem hnew)] at hread
    obtain ⟨more, hmore, -⟩ := Option.bind_eq_some_iff.1 hread
    obtain ⟨n, hn, hends'⟩ := ih _ _ _ _ hmore (hcount ▸ hseen.succ htoken)
    exact ⟨n, by omega, hends'⟩

end

/-! ## Patterns -/

variable {σ κ : Type}

/-- With or without counting, the requests are answered by the script. -/
theorem follows_answering (service : BlobService σ κ) (script : PageScript) (recorded : Bool)
    (client : κ) (container : String) :
    Follows (((service.answering script).withStats recorded).list client container) script
      (fun state : HttpStats × σ × List (String × ListRequest) ↦ state.2.2) container := by
  rintro request ⟨stats, inner, asked⟩
  have hpage : (service.answering script).list client container request (inner, asked) =
      (script asked.length, inner, asked ++ [(container, request)]) := rfl
  obtain ⟨counted, hlist⟩ := list_withStats hpage recorded stats
  exact ⟨_, hlist, rfl⟩

/-- Making a connection asks for no page. -/
theorem asked_of_create {service : BlobService σ κ} {script : PageScript} {host : Host}
    {secrets : SecretRegistry} {path : String} {url : BlobUrl}
    (scene : Scene (σ × List (String × ListRequest)) κ) :
    (create (service.answering script) host secrets path url scene).2.2 = scene.world.2 := by
  rcases world_of_create (service.answering script) host secrets path url scene with
    ⟨e, h⟩ | ⟨spec, h⟩
  · rw [h]
  · rw [h]
    rfl

/-- Expanding a pattern reads all pages up to the end. -/
theorem expand_of_ends (service : BlobService σ κ) {script : PageScript} (path : String)
    (url : BlobUrl) (start : String) (connection : Connection κ)
    {scene : Scene (σ × List (String × ListRequest)) κ} (hasked : scene.world.2 = []) {n : Nat}
    (hends : script.Ends n) (hfirst : ∀ i < n, ¬ script.Ends i) :
    ∃ result, expand (service.answering script) path url start connection scene = some result ∧
      result.1 = script.outcome path (matchingUrls url (.ofText url.path)) 0 n ∧
      result.2.world.2 =
        (List.range (n + 1)).map fun i ↦ (url.container, script.request start i) := by
  have hfollows := follows_answering service script connection.recorded connection.client
    url.container
  have hleft : scene.world.2.length + n = n := by rw [hasked, List.length_nil, Nat.zero_add]
  have hnone : script.SeenBy [] scene.world.2.length := by
    rw [hasked]
    exact .zero script
  obtain ⟨⟨stats, world⟩, hpages, hall⟩ : ∃ after, ListRequest.gatherPages _ path _ _ []
      (scene.session.stats, scene.world) = some (_, after) ∧ after.2.2 = _ :=
    gatherPages_of_ends hfollows hends hfirst start path (matchingUrls url (.ofText url.path))
      hleft hnone
  simp only [hasked, List.length_nil, List.nil_append] at hpages hall
  rw [List.range_eq_range']
  exact ⟨_, expand_eq hpages, rfl, hall⟩

/-- If no answer ends the reading, the pattern is never expanded, and in no other case. -/
theorem expand_eq_none_iff (service : BlobService σ κ) {script : PageScript} (path : String)
    (url : BlobUrl) (start : String) (connection : Connection κ)
    {scene : Scene (σ × List (String × ListRequest)) κ} (hasked : scene.world.2 = []) :
    expand (service.answering script) path url start connection scene = none ↔
      ∀ n, ¬ script.Ends n := by
  classical
  constructor
  · intro hnone n hends
    have hsome : ∃ n, script.Ends n := ⟨n, hends⟩
    obtain ⟨result, hresult, -⟩ := expand_of_ends service path url start connection hasked
      (Nat.find_spec hsome) fun i hi ↦ Nat.find_min hsome hi
    cases hnone.symm.trans hresult
  · intro hnever
    rw [expand, Scene.run?, Option.map_eq_none_iff, Option.eq_none_iff_forall_ne_some]
    intro result hread
    have hnone : script.SeenBy [] scene.world.2.length := by
      rw [hasked]
      exact .zero script
    obtain ⟨n, -, hends⟩ := exists_ends_of_gatherPages (follows_answering service script
      connection.recorded connection.client url.container) hread hnone
    exact hnever n hends

/-- **What a pattern asks for and answers, whatever the service does.**  Let the service answer the
requests for pages by a script, each answer a failure or a page of any blobs with or without a
token, and let answer `n` be the first that is a failure, has no token, or has the token of any
page before.  Then the requests are `n + 1`, all for the names with the text before the first
wildcard, the first one without a token and each later one with the token of the answer before.
If answer `n` is a page without a token, the URLs are those of all blobs on all pages that match
the whole pattern, in the order of the pages; in no other case are there any URLs.  A failure of
the service is carried up with its code and its reason phrase. -/
theorem glob_of_ends {service : BlobService σ κ} {script : PageScript} {host : Host}
    {secrets : SecretRegistry} {path : String} {url : BlobUrl}
    {scene : Scene (σ × List (String × ListRequest)) κ} {id : Nat} {start : String}
    {wildcard : Char} {rest : List Char} (hurl : parseUrl path = .ok url)
    (hpath : url.path.toList = start.toList ++ wildcard :: rest) (hwild : wildcard ∈ wildcards)
    (hstart : ∀ c ∈ start.toList, c ∉ wildcards)
    (hcontext : (contextFor (service.answering script) host secrets path url scene).1 = .ok id)
    (hasked : scene.world.2 = []) {n : Nat} (hends : script.Ends n)
    (hfirst : ∀ i < n, ¬ script.Ends i) :
    ∃ result, glob (service.answering script) host secrets path scene = some result ∧
    result.2.world.2 =
      ((List.range (n + 1)).map fun i ↦ (url.container, script.request start i)) ∧
    ((∃ urls, result.1 = .ok urls) ↔ ∃ page, script n = .ok page ∧ page.nextToken = none) ∧
    (∀ page, script n = .ok page → page.nextToken = none →
      result.1 = .ok ((List.range (n + 1)).flatMap fun i ↦
        (((script.taken ListPage.blobs i).map BlobItem.name).filter
          (Pattern.ofText url.path).matchesName).map url.urlFor)) ∧
    (∀ page token, script n = .ok page → page.nextToken = some token →
      ∃ failure, result.1 = .error failure ∧ failure = .repeatedToken path token ∧
        failure.kind = .io) ∧
    (∀ e, script n = .error e →
      ∃ failure, result.1 = .error failure ∧
        failure = .remote s!"AzureStorageFileSystem list of '{path}'" e ∧
        ∀ status code reason message, e = .service status code reason message →
          failure.kind = .io ∧ failure.code? = some code ∧ failure.reason? = some reason) := by
  obtain ⟨connection, after, hglob, hworld⟩ :=
    exists_expand_of_context hurl (beforeWildcard?_eq hpath hwild hstart) hcontext
  have hnothing : after.world.2 = [] := by
    rcases hworld with hworld | hworld
    · rw [hworld, hasked]
    · rw [hworld, asked_of_create, hasked]
  obtain ⟨result, hexpand, hanswer, hrequests⟩ :=
    expand_of_ends service path url start connection hnothing hends hfirst
  refine ⟨result, hglob.trans hexpand, hrequests, ⟨?_, ?_⟩, fun page hn hnext ↦ ?_,
    fun page token hn hnext ↦ ?_, fun e hn ↦ ?_⟩
  · rintro ⟨urls, hurls⟩
    exact PageScript.exists_last_of_outcome (hanswer.symm.trans hurls)
  · rintro ⟨page, hn, hnext⟩
    exact ⟨_, hanswer.trans (PageScript.outcome_of_none hn hnext)⟩
  · rw [hanswer, PageScript.outcome_of_none hn hnext, ← List.range_eq_range',
      PageScript.taken_matchingUrls, Nat.sub_zero]
  · exact ⟨_, hanswer.trans (PageScript.outcome_of_some hn hnext), rfl, rfl⟩
  · refine ⟨_, hanswer.trans (PageScript.outcome_of_error hn), rfl, ?_⟩
    rintro status code reason message rfl
    exact ⟨rfl, rfl, rfl⟩

/-! ### A token that comes again -/

/-- The third page has the token of the first. -/
def circularScript : PageScript
  | 0 => .ok { blobs := [{ name := "a1", size := 1 }], nextToken := some "t" }
  | 1 => .ok { blobs := [{ name := "a2", size := 1 }], nextToken := some "u" }
  | _ => .ok { blobs := [{ name := "a3", size := 1 }], nextToken := some "t" }

/-- A new session over a service with nothing to list. -/
def scriptedScene : Scene (MemoryWorld × List (String × ListRequest)) Unit :=
  { session := .new .empty, world := (sampleService, []) }

theorem glob_of_circularScript :
    ∃ result, glob (BlobService.inMemory.answering circularScript) .empty .empty
        "az://acct.blob.example/c/a*" scriptedScene = some result ∧
      result.1 = .error (.repeatedToken "az://acct.blob.example/c/a*" "t") ∧
      result.2.world.2.map (fun asked ↦ asked.2.token) = [none, some "t", some "u"] := by
  have hearlier : circularScript.token? 0 = some "t" := rfl
  have hends : circularScript.Ends 2 := .repeated rfl rfl (by decide) hearlier
  have hfirst : ∀ i < 2, ¬ circularScript.Ends i := by
    intro i hi
    rw [PageScript.not_ends_iff]
    match i, hi with
    | 0, _ => exact ⟨_, "t", rfl, rfl, nofun⟩
    | 1, _ => exact ⟨_, "u", rfl, rfl, fun j hj ↦ by
        obtain rfl : j = 0 := by omega
        decide⟩
  have hurl : parseUrl "az://acct.blob.example/c/a*" = .ok sampleUrl := rfl
  have hpath : sampleUrl.path.toList = "a".toList ++ '*' :: [] := rfl
  have hstart : ∀ c ∈ "a".toList, c ∉ wildcards := by simp [wildcards]
  have hcontext : (contextFor (BlobService.inMemory.answering circularScript) .empty .empty
    "az://acct.blob.example/c/a*" sampleUrl scriptedScene).1 = .ok 0 := rfl
  obtain ⟨result, hglob, hasked, -, -, hrepeated, -⟩ :=
    glob_of_ends hurl hpath (by decide) hstart hcontext rfl hends hfirst
  obtain ⟨failure, hfailure, rfl, -⟩ := hrepeated _ "t" rfl rfl
  refine ⟨result, hglob, hfailure, ?_⟩
  rw [hasked]
  rfl

end FileSystem

end BlobFs

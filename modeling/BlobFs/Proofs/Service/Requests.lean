import BlobFs.Service.Recorded
import BlobFs.Service.Rehearsed
import Mathlib.Algebra.GroupWithZero.Nat

/-!
# Requests and their counts

A client puts its requests to a service one after another (`BlobService.askAll`), each of them a
question of one of the three sorts that a script can answer.

Counting goes by the answers: `HttpStats.noting` is what one answer adds to the counters, and a
counted service answers as the service does and has noted every answer (`askAll_recorded`).  So each
counter is a count over the answers, and `counts_of_recorded` says which: the questions for
properties and for pages are all counted, however they were answered, the downloads only if their
bytes arrived.
-/

set_option autoImplicit false

namespace BlobFs

/-! ## Questions and answers -/

/-- What a service answers to a request. -/
inductive BlobAnswer where
  | list (answer : Except RemoteError ListPage)
  | head (answer : Except RemoteError BlobProperties)
  | get (answer : Except RemoteError Bytes)

/-- What is asked for. -/
def ScriptedCall.sort : ScriptedCall → CallSort
  | .list .. => .list
  | .head .. => .head
  | .get .. => .get

namespace BlobAnswer

/-- What was asked for. -/
def sort : BlobAnswer → CallSort
  | .list _ => .list
  | .head _ => .head
  | .get _ => .get

/-- The bytes that a download brought. -/
def data? : BlobAnswer → Option Bytes
  | .get (.ok data) => some data
  | _ => none

/-- Whether the answer is the failure of a download. -/
def isFailedDownload : BlobAnswer → Bool
  | .get (.error _) => true
  | _ => false

/-- A download brings bytes or fails. -/
theorem length_filterMap_data? (answers : List BlobAnswer) :
    (answers.filterMap data?).length + answers.countP isFailedDownload =
      (answers.map sort).count .get := by
  induction answers with
  | nil => rfl
  | cons answer answers ih =>
    rw [List.map_cons, List.count_cons, List.countP_cons, ← ih, List.filterMap_cons]
    cases answer with
    | list page => rfl
    | head properties => rfl
    | get download =>
      cases download with
      | error e => simp [sort, data?, isFailedDownload, Nat.add_assoc]
      | ok data => simp [sort, data?, isFailedDownload, Nat.add_right_comm]

end BlobAnswer

namespace BlobService

variable {σ κ : Type}

/-- Puts one request to a service. -/
def ask (service : BlobService σ κ) (client : κ) (call : ScriptedCall) (state : σ) :
    BlobAnswer × σ :=
  match call with
  | .list container request =>
    let (answer, state) := service.list client container request state
    (.list answer, state)
  | .head blob =>
    let (answer, state) := service.properties client blob state
    (.head answer, state)
  | .get blob offset length transfer =>
    let (answer, state) := service.download client blob offset length transfer state
    (.get answer, state)

/-- Puts some requests to a service in turn. -/
def askAll (service : BlobService σ κ) (client : κ) :
    List ScriptedCall → σ → List BlobAnswer × σ
  | [], state => ([], state)
  | call :: calls, state =>
    let (answer, state) := service.ask client call state
    let (answers, state) := askAll service client calls state
    (answer :: answers, state)

theorem sort_ask (service : BlobService σ κ) (client : κ) (call : ScriptedCall) (state : σ) :
    (service.ask client call state).1.sort = call.sort := by
  cases call <;> rfl

/-- Every question gets an answer of its own sort. -/
theorem map_sort_askAll (service : BlobService σ κ) (client : κ) (calls : List ScriptedCall)
    (state : σ) :
    (service.askAll client calls state).1.map BlobAnswer.sort = calls.map ScriptedCall.sort := by
  induction calls generalizing state with
  | nil => rfl
  | cons call calls ih =>
    rw [askAll, List.map_cons, List.map_cons, sort_ask, ih]

end BlobService

/-! ## What an answer adds to the counters -/

namespace HttpStats

/-- A word to which any number is added shows their sum up to its limit. -/
theorem toNat_add_ofNat (x : UInt64) (n : Nat) :
    (x + UInt64.ofNat n).toNat = (x.toNat + n) % wordLimit := by
  rw [UInt64.toNat_add, UInt64.toNat_ofNat', Nat.add_mod_mod]
  rfl

theorem add_ofNat_add_ofNat (x : UInt64) (m n : Nat) :
    x + UInt64.ofNat m + UInt64.ofNat n = x + UInt64.ofNat (m + n) := by
  rw [UInt64.ofNat_add, UInt64.add_assoc]

theorem add_one_add_ofNat (x : UInt64) (n : Nat) :
    x + 1 + UInt64.ofNat n = x + UInt64.ofNat (n + 1) := by
  rw [Nat.add_comm n 1]
  exact add_ofNat_add_ofNat x 1 n

/-- The counters with one more answer noted. -/
def noting (stats : HttpStats) : BlobAnswer → HttpStats
  | .list _ => stats.addList
  | .head _ => stats.addHead
  | .get (.ok data) => stats.addGet data.length
  | .get (.error _) => stats

/-- Each counter goes on by a count over the answers noted. -/
theorem foldl_noting (stats : HttpStats) (answers : List BlobAnswer) :
    answers.foldl noting stats =
      { headCount := stats.headCount + .ofNat ((answers.map BlobAnswer.sort).count .head)
        getCount := stats.getCount + .ofNat (answers.filterMap BlobAnswer.data?).length
        listCount := stats.listCount + .ofNat ((answers.map BlobAnswer.sort).count .list)
        bytesReceived := stats.bytesReceived +
          .ofNat ((answers.filterMap BlobAnswer.data?).map List.length).sum } := by
  induction answers generalizing stats with
  | nil => simp
  | cons answer answers ih =>
    rw [List.foldl_cons, ih, List.map_cons, List.count_cons, List.count_cons, List.filterMap_cons]
    rcases answer with page | properties | ⟨e | data⟩
    · simp [noting, addList, BlobAnswer.sort, BlobAnswer.data?, add_one_add_ofNat]
    · simp [noting, addHead, BlobAnswer.sort, BlobAnswer.data?, add_one_add_ofNat]
    · simp [noting, BlobAnswer.sort, BlobAnswer.data?]
    · simp [noting, addGet, BlobAnswer.sort, BlobAnswer.data?, add_one_add_ofNat,
        add_ofNat_add_ofNat]

end HttpStats

/-! ## A counted service -/

namespace BlobService

variable {σ κ : Type}

/-- A counted service answers a request as the service does, and notes the answer. -/
theorem ask_recorded (service : BlobService σ κ) (client : κ) (call : ScriptedCall)
    (stats : HttpStats) (state : σ) :
    service.recorded.ask client call (stats, state) =
      ((service.ask client call state).1, stats.noting (service.ask client call state).1,
        (service.ask client call state).2) := by
  cases call with
  | list container request => rfl
  | head blob => rfl
  | get blob offset length transfer =>
    rcases hx : service.download client blob offset length transfer state with ⟨e | data, after⟩ <;>
      simp only [ask, recorded, hx, HttpStats.noting]

/-- **A counted service answers as the service does, and has noted every answer.** -/
theorem askAll_recorded (service : BlobService σ κ) (client : κ) (calls : List ScriptedCall)
    (stats : HttpStats) (state : σ) :
    service.recorded.askAll client calls (stats, state) =
      ((service.askAll client calls state).1,
        (service.askAll client calls state).1.foldl HttpStats.noting stats,
        (service.askAll client calls state).2) := by
  induction calls generalizing stats state with
  | nil => rfl
  | cons call calls ih =>
    simp only [askAll, ask_recorded, ih, List.foldl_cons]

/-- **What the counters show after any requests.**  The answers, and what the service behind them
came to, are those without counting.  Every question for properties and every question for a page is
counted, whatever was answered.  Of the downloads only those are counted that brought bytes, and the
bytes are those of all of them; so the count falls short of the downloads asked for by exactly those
that failed.  A counter shows its sum as it is, as long as that fits a word, and what is left of it
by 2⁶⁴ from then on. -/
theorem counts_of_recorded (service : BlobService σ κ) (client : κ) (calls : List ScriptedCall)
    (stats : HttpStats) (state : σ) :
    let plain := service.askAll client calls state
    let counted := service.recorded.askAll client calls (stats, state)
    let sorts := calls.map ScriptedCall.sort
    let arrived := plain.1.filterMap BlobAnswer.data?
    counted.1 = plain.1 ∧ counted.2.2 = plain.2 ∧
      counted.2.1.headCount.toNat = (stats.headCount.toNat + sorts.count .head) % wordLimit ∧
      counted.2.1.listCount.toNat = (stats.listCount.toNat + sorts.count .list) % wordLimit ∧
      counted.2.1.getCount.toNat = (stats.getCount.toNat + arrived.length) % wordLimit ∧
      arrived.length + plain.1.countP BlobAnswer.isFailedDownload = sorts.count .get ∧
      counted.2.1.bytesReceived.toNat =
        (stats.bytesReceived.toNat + (arrived.map List.length).sum) % wordLimit := by
  intro plain counted sorts arrived
  have hcounted : counted = (plain.1, plain.1.foldl HttpStats.noting stats, plain.2) :=
    askAll_recorded service client calls stats state
  have hsorts : plain.1.map BlobAnswer.sort = sorts := map_sort_askAll service client calls state
  rw [hcounted, HttpStats.foldl_noting, hsorts]
  refine ⟨rfl, rfl, HttpStats.toNat_add_ofNat _ _, HttpStats.toNat_add_ofNat _ _,
    HttpStats.toNat_add_ofNat _ _, ?_, HttpStats.toNat_add_ofNat _ _⟩
  rw [← hsorts]
  exact BlobAnswer.length_filterMap_data? plain.1

/-- The download of a blob that is not there is asked for but not counted. -/
theorem missing_download_not_counted :
    let calls : List ScriptedCall :=
      [.get { container := "c", path := "b" } 0 1 { concurrency := 1, chunkSize := 1 }]
    let world : MemoryWorld :=
      { store := { store := .empty, faults := [] }, broken := []
        attempts := { specs := [], refusals := 0, made := 0 } }
    (inMemory.recorded.askAll () calls (.zero, world)).2.1.getCount.toNat ≠
      (calls.map ScriptedCall.sort).count .get := by
  decide +kernel

end BlobService

end BlobFs

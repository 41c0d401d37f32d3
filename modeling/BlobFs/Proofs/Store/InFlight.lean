import BlobFs.Proofs.Store.Download
import Mathlib.Logic.Relation

/-!
# Several requests at once

The chunks of a download are asked for ahead: up to a limit, requests are on their way together, and
their answers come in any order.  They are collected in the order of the chunks, and the first
failure in that order is the failure of the download.  `fetchChunks` asks for one chunk after the
other instead.  For a store that is not changed by being asked, that makes no difference.

* `InFlight` — a download under way, and `InFlight.Step` what may happen to it next.
* `InFlight.Sound` — the invariant: what has been collected, what is on its way and what is still
  waiting are together the chunks in order, and every answer that has come is the store's.
* `InFlight.fetchChunks_eq_of_outcome?` — so whichever way a download takes, if it ends, it ends as
  `fetchChunks` does.  `InFlight.exists_end` — and it can always end, as long as one request is
  allowed at all; no way is infinite, because every step leaves less to do (`InFlight.left_of_step`).
* `ContainerStore.downloadRange_eq_joined` — the bytes are put together from what has been collected.
-/

set_option autoImplicit false

namespace BlobFs

variable {σ : Type}

/-- A chunk that has been asked for, with the answer if it has come. -/
abbrev Request := (Nat × Nat) × Option (Except StoreError Bytes)

/-- A download under way. -/
structure InFlight (σ : Type) where
  /-- The chunks not asked for yet. -/
  waiting : List (Nat × Nat)
  /-- The chunks asked for and not collected. -/
  asked : List Request
  collected : List Bytes
  state : σ

namespace InFlight

/-- A download that has asked for nothing yet. -/
def new (ranges : List (Nat × Nat)) (state : σ) : InFlight σ :=
  { waiting := ranges, asked := [], collected := [], state }

/-- How the download has ended, if it has: with the failure of the chunk to be collected next, or
with all chunks. -/
def outcome? (t : InFlight σ) : Option (Except RemoteError (List Bytes)) :=
  match t.asked with
  | (_, some (.error e)) :: _ => some (.error e.toRemote)
  | [] => if t.waiting = [] then some (.ok t.collected) else none
  | _ => none

/-- What may happen next, with at most `limit` requests on their way. -/
inductive Step (store : ContainerStore σ) (path : ObjectPath) (limit : Nat) :
    InFlight σ → InFlight σ → Prop
  /-- The next chunk is asked for. -/
  | ask {chunk : Nat × Nat} {waiting : List (Nat × Nat)} {asked : List Request}
      {collected : List Bytes} {state : σ} (room : asked.length < limit) :
      Step store path limit ⟨chunk :: waiting, asked, collected, state⟩
        ⟨waiting, asked ++ [(chunk, none)], collected, state⟩
  /-- The answer comes for some chunk. -/
  | answer {chunk : Nat × Nat} {waiting : List (Nat × Nat)} {before after : List Request}
      {collected : List Bytes} {state : σ} :
      Step store path limit ⟨waiting, before ++ (chunk, none) :: after, collected, state⟩
        ⟨waiting,
          before ++ (chunk, some (store.getRange path chunk.1 chunk.2 state).1) :: after, collected,
          (store.getRange path chunk.1 chunk.2 state).2⟩
  /-- The first of the chunks asked for is collected. -/
  | collect {chunk : Nat × Nat} {data : Bytes} {waiting : List (Nat × Nat)}
      {asked : List Request} {collected : List Bytes} {state : σ} :
      Step store path limit ⟨waiting, (chunk, some (.ok data)) :: asked, collected, state⟩
        ⟨waiting, asked, collected ++ [data], state⟩

/-- What may have happened after a while. -/
def Reaches (store : ContainerStore σ) (path : ObjectPath) (limit : Nat) :
    InFlight σ → InFlight σ → Prop :=
  Relation.ReflTransGen (Step store path limit)

variable {store : ContainerStore σ} {path : ObjectPath} {limit : Nat} {ranges : List (Nat × Nat)}
  {state : σ} {t after : InFlight σ}

/-! ## Nothing is lost or exchanged -/

/-- A download of these chunks out of a store in this state. -/
structure Sound (store : ContainerStore σ) (path : ObjectPath) (ranges : List (Nat × Nat))
    (state : σ) (t : InFlight σ) : Prop where
  state_eq : t.state = state
  /-- The chunks collected are the first, and the bytes are what the store answers for them. -/
  split : ∃ done : List (Nat × Nat), ranges = done ++ (t.asked.map Prod.fst ++ t.waiting) ∧
    done.map (fun chunk ↦ (store.getRange path chunk.1 chunk.2 state).1) = t.collected.map .ok
  answers : ∀ chunk answer, (chunk, some answer) ∈ t.asked →
    answer = (store.getRange path chunk.1 chunk.2 state).1

theorem Sound.new (store : ContainerStore σ) (path : ObjectPath) (ranges : List (Nat × Nat))
    (state : σ) : (new ranges state).Sound store path ranges state where
  state_eq := rfl
  split := ⟨[], rfl, rfl⟩
  answers := nofun

theorem Sound.step (hstill : ∀ start stop, (store.getRange path start stop state).2 = state)
    (h : t.Sound store path ranges state) (hstep : Step store path limit t after) :
    after.Sound store path ranges state := by
  obtain ⟨rfl, ⟨done, hranges, hdone⟩, hanswers⟩ := h
  cases hstep with
  | ask room =>
    refine ⟨rfl, ⟨done, ?_, hdone⟩, fun chunk answer hmem ↦ ?_⟩
    · simpa using hranges
    · exact hanswers chunk answer (by simpa using hmem)
  | answer =>
    refine ⟨hstill _ _, ⟨done, by simpa using hranges, hdone⟩, fun chunk answer hmem ↦ ?_⟩
    rcases List.mem_append.1 hmem with hbefore | hrest
    · exact hanswers chunk answer (List.mem_append_left _ hbefore)
    · rcases List.mem_cons.1 hrest with hnew | hafter
      · cases hnew
        rfl
      · exact hanswers chunk answer (List.mem_append_right _ (.tail _ hafter))
  | @collect chunk data =>
    have hdata : Except.ok data = _ := hanswers chunk (.ok data) (.head _)
    refine ⟨rfl, ⟨done ++ [chunk], by simpa using hranges, ?_⟩,
      fun chunk answer hmem ↦ hanswers chunk answer (.tail _ hmem)⟩
    simp only [List.map_append, hdone, List.map_cons, List.map_nil, ← hdata]

theorem Sound.of_reaches (hstill : ∀ start stop, (store.getRange path start stop state).2 = state)
    (h : Reaches store path limit (.new ranges state) t) : t.Sound store path ranges state := by
  induction h with
  | refl => exact .new store path ranges state
  | tail _ hstep ih => exact ih.step hstill hstep

/-- Chunks that have come need not be asked for again. -/
theorem fetchChunks_append {chunks : List (Nat × Nat)} {data : List Bytes}
    (hstill : ∀ start stop, (store.getRange path start stop state).2 = state)
    (h : chunks.map (fun chunk ↦ (store.getRange path chunk.1 chunk.2 state).1) = data.map .ok)
    (rest : List (Nat × Nat)) :
    store.fetchChunks path (chunks ++ rest) state =
      ((store.fetchChunks path rest state).1.map (data ++ ·),
        (store.fetchChunks path rest state).2) := by
  induction chunks generalizing data with
  | nil =>
    cases data with
    | nil =>
      rw [List.nil_append]
      rcases store.fetchChunks path rest state with ⟨_ | chunks, last⟩ <;> rfl
    | cons _ _ => cases h
  | cons chunk chunks ih =>
    cases data with
    | nil => cases h
    | cons bytes data =>
      obtain ⟨hfirst, hrest⟩ := List.cons.inj h
      have hget : store.getRange path chunk.1 chunk.2 state = (.ok bytes, state) :=
        Prod.ext hfirst (hstill _ _)
      rw [List.cons_append, ContainerStore.fetchChunks, hget]
      simp only [ih hrest]
      rcases store.fetchChunks path rest state with ⟨_ | chunks, last⟩ <;> rfl

/-- **Every way ends as asking for one chunk after the other does.** -/
theorem fetchChunks_eq_of_outcome?
    (hstill : ∀ start stop, (store.getRange path start stop state).2 = state)
    (h : Reaches store path limit (.new ranges state) t)
    {fetched : Except RemoteError (List Bytes)} (hend : t.outcome? = some fetched) :
    (store.fetchChunks path ranges state).1 = fetched := by
  obtain ⟨-, ⟨done, rfl, hdone⟩, hanswers⟩ := Sound.of_reaches hstill h
  rw [fetchChunks_append hstill hdone]
  obtain ⟨waiting, asked, collected, now⟩ := t
  rw [outcome?] at hend
  dsimp only at hend hanswers ⊢
  split at hend
  · next chunk e asked =>
    cases hend
    have hget : store.getRange path chunk.1 chunk.2 state = (.error e, state) :=
      Prod.ext (hanswers chunk _ (.head _)).symm (hstill _ _)
    rw [List.map_cons, List.cons_append, ContainerStore.fetchChunks, hget]
    rfl
  · split at hend
    · next hwaiting =>
      cases hend
      rw [hwaiting]
      simp [ContainerStore.fetchChunks, Except.map]
    · cases hend
  · cases hend

/-! ## Downloads end -/

/-- How many steps are left at most: three for a chunk that waits, two for one asked for, and one
for one whose answer has come. -/
def left (t : InFlight σ) : Nat :=
  3 * t.waiting.length + t.asked.length + t.asked.countP fun request ↦ request.2.isNone

/-- Every step leaves one step less. -/
theorem left_of_step (h : Step store path limit t after) : after.left + 1 = t.left := by
  cases h <;> simp [left] <;> omega

/-- While a download has not ended, something can happen. -/
theorem exists_step (hlimit : 0 < limit) (h : t.outcome? = none) :
    ∃ after, Step store path limit t after := by
  obtain ⟨waiting, asked, collected, now⟩ := t
  rcases asked with _ | ⟨⟨chunk, _ | _ | data⟩, asked⟩
  · cases waiting with
    | nil => cases h
    | cons chunk waiting => exact ⟨_, .ask hlimit⟩
  · show ∃ after, Step store path limit ⟨waiting, [] ++ (chunk, none) :: asked, collected, now⟩ after
    exact ⟨_, .answer⟩
  · cases h
  · exact ⟨_, .collect⟩

/-- **However far a download has come, it can end.** -/
theorem exists_end (hlimit : 0 < limit) (t : InFlight σ) :
    ∃ last, Reaches store path limit t last ∧ last.outcome?.isSome := by
  induction hleft : t.left using Nat.strongRecOn generalizing t with
  | ind left ih =>
    cases hend : t.outcome? with
    | some fetched => exact ⟨t, .refl, by rw [hend]; rfl⟩
    | none =>
      obtain ⟨after, hstep⟩ : ∃ after, Step store path limit t after := exists_step hlimit hend
      have hless := left_of_step hstep
      obtain ⟨last, hreaches, hlast⟩ := ih after.left (by omega) after rfl
      exact ⟨last, .head hstep hreaches, hlast⟩

end InFlight

/-! ## Downloads -/

namespace ContainerStore

/-- The chunks as one, if they are as long together as the range. -/
def joined (name : String) (length : Nat) :
    Except RemoteError (List Bytes) → Except RemoteError Bytes
  | .error e => .error e
  | .ok chunks =>
    if chunks.flatten.length = length then .ok chunks.flatten
    else .error (.other
      s!"Short read of '{name}': expected {length} bytes, got {chunks.flatten.length}")

theorem downloadRange_eq_joined {name : String} {path : ObjectPath} (hp : pathOf name = .ok path)
    (store : ContainerStore σ) {offset length : Nat} (hpos : 0 < length)
    (transfer : TransferOptions) (state : σ) :
    (store.downloadRange name offset length transfer state).1 =
      joined name length
        (store.fetchChunks path (chunkRanges offset length transfer.chunkSize) state).1 := by
  rw [downloadRange, if_neg (by omega), hp]
  dsimp only
  rcases store.fetchChunks path (chunkRanges offset length transfer.chunkSize) state
    with ⟨_ | chunks, after⟩
  · rfl
  · dsimp only [joined]
    split <;> rfl

end ContainerStore

end BlobFs

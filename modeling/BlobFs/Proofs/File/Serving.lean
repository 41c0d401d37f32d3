import BlobFs.Proofs.File.Bounds
import Mathlib.Data.List.DropRight

/-!
# What a window serves after any calls

A window is moved, copied from, filled, stopped and dropped, in any order.  What it holds and what
it hands out next can be told from what has happened to it, without looking at it.

* `WindowCall` and `WindowEvent` — a call of a window, and how it went.  `lastRefill` reads off the
  events which bytes the window was filled with last, `GoesOnAt` at which offset of the file copying
  goes on, and `AtRest` that it does not.  One or the other is always so.
* `ReadWindow.Reflects` — the invariant: the window holds and serves just what the events say, and
  it is a true copy of a part of some content (`ReadWindow.Shows`).  Which content that is changes
  with every filling, and nothing is said about it but that its length is a word.
* `Bounded.perform?` — the calls once more, with every sum, difference, part and copy checked.
  What the invariant says of the content is enough for all of them to go through.
* `ReadWindow.Serves` — what all this says of a window, and `serves_after_calls`: it is so after
  every run of calls.
-/

set_option autoImplicit false

namespace BlobFs

/-! ## Calls and events -/

/-- A call of a window. -/
inductive WindowCall where
  | move (offset : Nat)
  /-- What the window has is copied to the front of a target, as far as it fits. -/
  | copy (target : Bytes)
  | refill (start : Nat) (data : Bytes)
  | bypass
  | reset

/-- Whether the call keeps to the capacity of its window and to offsets that are words. -/
def WindowCall.Fits (capacity : Nat) : WindowCall → Prop
  | .refill start data => data.length ≤ capacity ∧ start + data.length < wordLimit
  | _ => True

/-- How a call of a window went. -/
inductive WindowEvent where
  /-- The window was moved to an offset, which lies inside it or does not. -/
  | moved (offset : Nat) (inside : Bool)
  /-- The window handed out these bytes. -/
  | copied (bytes : Bytes)
  | refilled (start : Nat) (data : Bytes)
  | bypassed
  | dropped
  deriving DecidableEq

namespace WindowEvent

/-- The offset and the bytes that the window was filled with, if it was. -/
def refill? : WindowEvent → Option (Nat × Bytes)
  | .refilled start data => some (start, data)
  | _ => none

/-- Whether the window was dropped. -/
def isDrop : WindowEvent → Bool
  | .dropped => true
  | _ => false

/-- The offset that was set for the window to serve from: where it was filled, or moved inside. -/
def place? : WindowEvent → Option Nat
  | .refilled start _ => some start
  | .moved offset true => some offset
  | _ => none

/-- Whether the window was stopped: moved out of what it holds, bypassed, or dropped. -/
def stops : WindowEvent → Bool
  | .moved _ inside => !inside
  | .bypassed | .dropped => true
  | _ => false

/-- The bytes that were handed out. -/
def bytes : WindowEvent → Bytes
  | .copied bytes => bytes
  | _ => []

/-- The offset at which copying goes on after the event, given the one before it. -/
def advance (place : Option Nat) : WindowEvent → Option Nat
  | .copied bytes => place.map (· + bytes.length)
  | event => event.place?

variable {event : WindowEvent} {offset : Nat}

theorem advance_of_place? (h : event.place? = some offset) (place : Option Nat) :
    event.advance place = some offset := by
  cases event with
  | copied bytes => cases h
  | _ => exact h

theorem advance_of_stops (h : event.stops = true) (place : Option Nat) :
    event.advance place = none := by
  cases event with
  | moved offset inside =>
    cases inside with
    | true => cases h
    | false => rfl
  | copied bytes => cases h
  | refilled start data => cases h
  | bypassed => rfl
  | dropped => rfl

/-- An event that neither sets an offset nor stops the window moves on by what it hands out. -/
theorem advance_of_going_on (hplace : event.place? = none) (hstops : event.stops = false)
    (place : Option Nat) : event.advance place = place.map (· + event.bytes.length) := by
  cases event with
  | moved offset inside =>
    cases inside with
    | true => cases hplace
    | false => cases hstops
  | copied bytes => rfl
  | refilled start data => cases hplace
  | bypassed => cases hstops
  | dropped => cases hstops

/-- A window that does not serve does so only once an offset is set. -/
theorem advance_none (h : event.place? = none) : event.advance none = none := by
  cases event with
  | copied bytes => rfl
  | _ => exact h

end WindowEvent

/-- What the window was filled with last, since it was last dropped. -/
def lastRefill (events : List WindowEvent) : Option (Nat × Bytes) :=
  (events.rtakeWhile fun event ↦ !event.isDrop).reverse.findSome? WindowEvent.refill?

/-- Copying goes on at this place: at the offset that some event has set, and as many bytes on as
have been handed out since.  No other offset has been set since, and nothing has stopped the
window. -/
def GoesOnAt (events : List WindowEvent) (place : Nat) : Prop :=
  ∃ before event later offset, events = before ++ event :: later ∧ event.place? = some offset ∧
    (∀ e ∈ later, e.place? = none ∧ e.stops = false) ∧
    place = offset + (later.flatMap WindowEvent.bytes).length

/-- Nothing is to be copied: no offset has been set at all, or none since some event that has
stopped the window. -/
def AtRest (events : List WindowEvent) : Prop :=
  (∀ e ∈ events, e.place? = none) ∨
    ∃ before event later, events = before ++ event :: later ∧ event.stops = true ∧
      ∀ e ∈ later, e.place? = none

/-- The place at which copying goes on, if it does, found by going through the events. -/
def placeAfter (events : List WindowEvent) : Option Nat :=
  events.foldl WindowEvent.advance none

section

variable {events later : List WindowEvent} {place : Nat}

theorem lastRefill_append (events : List WindowEvent) (event : WindowEvent) :
    lastRefill (events ++ [event]) =
      if event.isDrop then none else event.refill?.or (lastRefill events) := by
  rw [lastRefill]
  cases hdrop : event.isDrop with
  | true => rw [List.rtakeWhile_concat_neg _ _ _ (by simp [hdrop])]; rfl
  | false =>
    rw [List.rtakeWhile_concat_pos _ _ _ (by simp [hdrop]), List.reverse_append,
      List.reverse_singleton, List.singleton_append, List.findSome?_cons, lastRefill]
    cases event.refill? <;> rfl

theorem placeAfter_append (events : List WindowEvent) (event : WindowEvent) :
    placeAfter (events ++ [event]) = event.advance (placeAfter events) := by
  rw [placeAfter, List.foldl_append]
  rfl

/-- While no offset is set and nothing stops the window, copying moves on by what is handed out. -/
theorem foldl_advance_of_going_on (place : Option Nat)
    (h : ∀ event ∈ later, event.place? = none ∧ event.stops = false) :
    later.foldl WindowEvent.advance place =
      place.map (· + (later.flatMap WindowEvent.bytes).length) := by
  induction later generalizing place with
  | nil => simp
  | cons event later ih =>
    obtain ⟨⟨hplace, hstops⟩, hlater⟩ := List.forall_mem_cons.1 h
    rw [List.foldl_cons, ih _ hlater, WindowEvent.advance_of_going_on hplace hstops, Option.map_map,
      List.flatMap_cons, List.length_append]
    simp only [Function.comp_def, Nat.add_assoc]

theorem foldl_advance_none (h : ∀ event ∈ later, event.place? = none) :
    later.foldl WindowEvent.advance none = none := by
  induction later with
  | nil => rfl
  | cons event later ih =>
    obtain ⟨hevent, hlater⟩ := List.forall_mem_cons.1 h
    rw [List.foldl_cons, WindowEvent.advance_none hevent, ih hlater]

theorem GoesOnAt.placeAfter_eq (h : GoesOnAt events place) : placeAfter events = some place := by
  obtain ⟨before, event, later, offset, rfl, hset, hlater, rfl⟩ := h
  rw [placeAfter, List.foldl_append, List.foldl_cons, WindowEvent.advance_of_place? hset,
    foldl_advance_of_going_on _ hlater, Option.map_some]

theorem AtRest.placeAfter_eq (h : AtRest events) : placeAfter events = none := by
  rcases h with hunset | ⟨before, event, later, rfl, hstops, hlater⟩
  · exact foldl_advance_none hunset
  · rw [placeAfter, List.foldl_append, List.foldl_cons, WindowEvent.advance_of_stops hstops,
      foldl_advance_none hlater]

/-- There is no third case. -/
theorem exists_goesOnAt_or_atRest (events : List WindowEvent) :
    (∃ place, GoesOnAt events place) ∨ AtRest events := by
  induction events using List.reverseRecOn with
  | nil => exact .inr (.inl nofun)
  | append_singleton events event ih =>
    cases hset : event.place? with
    | some offset => exact .inl ⟨_, events, event, [], offset, rfl, hset, nofun, rfl⟩
    | none =>
      cases hstops : event.stops with
      | true => exact .inr (.inr ⟨events, event, [], rfl, hstops, nofun⟩)
      | false =>
        rcases ih with ⟨place, before, first, later, offset, rfl, hfirst, hlater, rfl⟩ |
          hunset | ⟨before, first, later, rfl, hfirst, hlater⟩
        · refine .inl ⟨_, before, first, later ++ [event], offset, by simp, hfirst, ?_, rfl⟩
          exact List.forall_mem_append.2 ⟨hlater, by simp [hset, hstops]⟩
        · exact .inr (.inl (List.forall_mem_append.2 ⟨hunset, by simp [hset]⟩))
        · refine .inr (.inr ⟨before, first, later ++ [event], by simp, hfirst, ?_⟩)
          exact List.forall_mem_append.2 ⟨hlater, by simp [hset]⟩

end

namespace ReadWindow

/-- How a call goes, and the window after it. -/
def perform (w : ReadWindow) : WindowCall → WindowEvent × ReadWindow
  | .move offset => (.moved offset (w.positionAt offset).1, (w.positionAt offset).2)
  | .copy target => (.copied (w.copy target.length).1, (w.copy target.length).2)
  | .refill start data => (.refilled start data, w.refill start data)
  | .bypass => (.bypassed, w.bypass)
  | .reset => (.dropped, w.reset)

/-- How some calls go in turn, and the window after them. -/
def performAll (w : ReadWindow) : List WindowCall → List WindowEvent × ReadWindow
  | [] => ([], w)
  | call :: calls =>
    let (event, w) := w.perform call
    let (events, w) := w.performAll calls
    (event :: events, w)

/-- The offset of the next byte that the window hands out, if it is serving. -/
def place? (w : ReadWindow) : Option Nat :=
  match w.state with
  | .serving start cursor => some (start + cursor)
  | _ => none

variable {w : ReadWindow} {content : Bytes} {capacity place : Nat}

theorem place?_bypass (w : ReadWindow) : w.bypass.place? = none := by
  obtain ⟨capacity, data, state⟩ := w
  cases state <;> rfl

theorem place?_eq_some_iff :
    w.place? = some place ↔ ∃ start cursor, w.state = .serving start cursor ∧
      start + cursor = place := by
  rw [place?]
  split <;> simp_all

theorem place?_eq_none_iff :
    w.place? = none ↔ ∀ start cursor, w.state ≠ .serving start cursor := by
  rw [place?]
  split <;> simp_all

/-! ## The invariant -/

/-- The window is as the events say. -/
structure Reflects (w : ReadWindow) (capacity : Nat) (events : List WindowEvent) : Prop where
  capacity_eq : w.capacity = capacity
  /-- The window is a true copy of a part of something. -/
  shows_some : ∃ content : Bytes, content.length < wordLimit ∧ w.Shows content
  held_eq : w.held = lastRefill events
  place_eq : w.place? = placeAfter events

theorem reflects_new (capacity : Nat) : (new capacity).Reflects capacity [] where
  capacity_eq := rfl
  shows_some := ⟨[], by decide, .new capacity []⟩
  held_eq := rfl
  place_eq := rfl

theorem capacity_perform (w : ReadWindow) (call : WindowCall) :
    (w.perform call).2.capacity = w.capacity := by
  cases call with
  | move offset => exact capacity_positionAt w offset
  | copy target => exact capacity_copy w target.length
  | refill start data => rfl
  | bypass => exact capacity_bypass w
  | reset => rfl

/-- A filled window shows other content, and no other call makes a difference. -/
theorem exists_shows_perform (hword : content.length < wordLimit) (h : w.Shows content)
    {call : WindowCall} (hfits : call.Fits w.capacity) :
    ∃ content : Bytes, content.length < wordLimit ∧ (w.perform call).2.Shows content := by
  cases call with
  | move offset => exact ⟨content, hword, h.positionAt offset⟩
  | copy target => exact ⟨content, hword, h.copy target.length⟩
  | refill start data =>
    obtain ⟨other, hlength, hdata⟩ := Bytes.exists_slice_eq (Nat.le_refl (start + data.length))
    exact ⟨other, hlength ▸ hfits.2, .refill hdata (Nat.le_of_eq hlength.symm) hfits.1⟩
  | bypass => exact ⟨content, hword, h.bypass⟩
  | reset => exact ⟨content, hword, .reset w content⟩

theorem held_perform (w : ReadWindow) (call : WindowCall) :
    (w.perform call).2.held =
      if (w.perform call).1.isDrop then none else (w.perform call).1.refill?.or w.held := by
  cases call with
  | move offset => exact held_positionAt w offset
  | copy target => exact held_copy w target.length
  | refill start data => rfl
  | bypass => exact held_bypass w
  | reset => rfl

/-- Copying moves on by what it hands out. -/
theorem place?_copy (w : ReadWindow) (count : Nat) :
    (w.copy count).2.place? = w.place?.map (· + (w.copy count).1.length) := by
  cases hplace : w.place? with
  | none => rw [copy_of_not_serving (place?_eq_none_iff.1 hplace), hplace]; rfl
  | some place =>
    obtain ⟨start, cursor, hs, rfl⟩ := place?_eq_some_iff.1 hplace
    rw [copy_of_serving hs]
    exact congrArg some (Nat.add_assoc ..).symm

/-- A window that is moved inside serves from there. -/
theorem place?_positionAt (w : ReadWindow) (offset : Nat) :
    (w.positionAt offset).2.place? = if (w.positionAt offset).1 then some offset else none := by
  cases hc : w.covers offset with
  | false => rw [positionAt_of_not_covers hc, place?_bypass]; rfl
  | true =>
    obtain ⟨start, hs, hle, -⟩ := covers_iff.1 hc
    rw [positionAt_of_covers hs hc]
    exact congrArg some (Nat.add_sub_of_le hle)

theorem place?_perform (w : ReadWindow) (call : WindowCall) :
    (w.perform call).2.place? = (w.perform call).1.advance w.place? := by
  cases call with
  | move offset =>
    refine (place?_positionAt w offset).trans ?_
    rw [perform]
    cases (w.positionAt offset).1 <;> rfl
  | copy target => exact place?_copy w target.length
  | refill start data => rfl
  | bypass => exact place?_bypass w
  | reset => rfl

/-- No call breaks the invariant. -/
theorem Reflects.perform {events : List WindowEvent} (h : w.Reflects capacity events)
    {call : WindowCall} (hfits : call.Fits capacity) :
    (w.perform call).2.Reflects capacity (events ++ [(w.perform call).1]) where
  capacity_eq := (capacity_perform w call).trans h.capacity_eq
  shows_some := by
    obtain ⟨content, hword, hshows⟩ := h.shows_some
    exact exists_shows_perform hword hshows (h.capacity_eq ▸ hfits)
  held_eq := by rw [held_perform, h.held_eq, lastRefill_append]
  place_eq := by rw [place?_perform, h.place_eq, placeAfter_append]

theorem Reflects.performAll {events : List WindowEvent} (h : w.Reflects capacity events)
    {calls : List WindowCall} (hfits : ∀ call ∈ calls, call.Fits capacity) :
    (w.performAll calls).2.Reflects capacity (events ++ (w.performAll calls).1) := by
  induction calls generalizing w events with
  | nil =>
    rw [ReadWindow.performAll, List.append_nil]
    exact h
  | cons call calls ih =>
    obtain ⟨hcall, hcalls⟩ := List.forall_mem_cons.1 hfits
    have hlater := ih (h.perform hcall) hcalls
    rwa [List.append_assoc, List.singleton_append] at hlater

end ReadWindow

/-! ## Checked calls -/

namespace Bounded

/-- How many bytes the window can still hand out. -/
def available? (w : ReadWindow) : Option Nat :=
  match w.state with
  | .serving _ cursor => sub? w.data.length cursor
  | _ => some 0

/-- How a call goes, and the window after it. -/
def perform? (w : ReadWindow) : WindowCall → Option (WindowEvent × ReadWindow)
  | .move offset => do
    let (inside, w) ← positionAt? w offset
    return (.moved offset inside, w)
  | .copy target => do
    let (count, target, w) ← copyInto? w target 0
    return (.copied (target.take count), w)
  | .refill start data => do
    let w ← refill? w start data
    return (.refilled start data, w)
  | .bypass => some (.bypassed, w.bypass)
  | .reset => some (.dropped, w.reset)

/-- How some calls go in turn, and the window after them. -/
def performAll? (w : ReadWindow) : List WindowCall → Option (List WindowEvent × ReadWindow)
  | [] => some ([], w)
  | call :: calls => do
    let (event, w) ← perform? w call
    let (events, w) ← performAll? w calls
    return (event :: events, w)

variable {w : ReadWindow} {content : Bytes} {capacity : Nat}

theorem available?_of_shows (h : w.Shows content) : available? w = some w.available := by
  rw [available?, ReadWindow.available]
  cases hs : w.state with
  | serving start cursor => exact sub?_of_le (h.cursor_le start cursor hs)
  | empty => rfl
  | kept start => rfl

/-- Copying to the front of a target. -/
theorem copyInto?_front (h : w.Shows content) (target : Bytes) :
    copyInto? w target 0 =
      some ((w.copy target.length).1.length, target.overwrite (w.copy target.length).1,
        (w.copy target.length).2) := by
  have hroom : ([] : Bytes).length ≤ target.length := Nat.zero_le _
  have hfront := copyInto?_of_shows h hroom
  rwa [overwrite_nil, List.length_nil, Nat.sub_zero, List.nil_append] at hfront

theorem perform?_of_shows (h : w.Shows content) (hword : content.length < wordLimit)
    {call : WindowCall} (hfits : call.Fits w.capacity) :
    perform? w call = some (w.perform call) := by
  cases call with
  | move offset =>
    rw [perform?, positionAt?_of_shows h hword]
    rfl
  | copy target =>
    rw [perform?, copyInto?_front h]
    simp only [Option.bind_eq_bind, Option.bind_some, Option.pure_def, Bytes.overwrite,
      List.take_left]
    rfl
  | refill start data =>
    rw [perform?, refill?, if_pos hfits.1]
    rfl
  | bypass => rfl
  | reset => rfl

theorem perform?_of_reflects {events : List WindowEvent} (h : w.Reflects capacity events)
    {call : WindowCall} (hfits : call.Fits capacity) :
    perform? w call = some (w.perform call) := by
  obtain ⟨content, hword, hshows⟩ := h.shows_some
  exact perform?_of_shows hshows hword (h.capacity_eq ▸ hfits)

/-- **No call leaves its bounds**, so the checked calls go as the others do. -/
theorem performAll?_eq {events : List WindowEvent} (h : w.Reflects capacity events)
    {calls : List WindowCall} (hfits : ∀ call ∈ calls, call.Fits capacity) :
    performAll? w calls = some (w.performAll calls) := by
  induction calls generalizing w events with
  | nil => rfl
  | cons call calls ih =>
    obtain ⟨hcall, hcalls⟩ := List.forall_mem_cons.1 hfits
    rw [performAll?, perform?_of_reflects h hcall]
    simp only [Option.bind_eq_bind, Option.bind_some]
    rw [ih (h.perform hcall) hcalls]
    rfl

end Bounded

/-! ## The result -/

namespace ReadWindow

/-- What a window of this capacity is like after these events. -/
structure Serves (w : ReadWindow) (capacity : Nat) (events : List WindowEvent) : Prop where
  cursor_le : ∀ start cursor, w.state = .serving start cursor → cursor ≤ w.data.length
  length_le : w.data.length ≤ capacity
  /-- Looking at the window takes no sum or difference out of its bounds. -/
  looks : Bounded.available? w = some w.available ∧ Bounded.range? w = some w.range?
  /-- Nor does any further call. -/
  calls : ∀ call, call.Fits capacity → Bounded.perform? w call = some (w.perform call)
  /-- The window is the one that was filled last. -/
  held_eq : w.held = lastRefill events
  range_eq : w.range? = (lastRefill events).map fun held ↦ (held.1, held.1 + held.2.length)
  /-- Moving, copying and stopping leave it as it is. -/
  keeps : (∀ offset, (w.positionAt offset).2.held = w.held) ∧
    (∀ count, (w.copy count).2.held = w.held) ∧ w.bypass.held = w.held
  moves_inside_iff : ∀ offset, (w.positionAt offset).1 = true ↔
    ∃ start data, lastRefill events = some (start, data) ∧ start ≤ offset ∧
      offset < start + data.length
  /-- Where copying goes on, the bytes held are handed out from there on, as many as there is room
  for and as there are left. -/
  copies : ∀ place, GoesOnAt events place →
    ∃ start data, lastRefill events = some (start, data) ∧ start ≤ place ∧
      place ≤ start + data.length ∧ w.available = start + data.length - place ∧
      ∀ target : Bytes,
        let bytes := data.slice (place - start) target.length
        bytes.length = min target.length (start + data.length - place) ∧
          (w.copy target.length).1 = bytes ∧
          Bounded.copyInto? w target 0 =
            some (bytes.length, target.overwrite bytes, (w.copy target.length).2)
  /-- Where nothing is to be copied, nothing is handed out. -/
  rests : AtRest events → w.available = 0 ∧ ∀ count, w.copy count = ([], w)

variable {w : ReadWindow} {capacity place : Nat} {events : List WindowEvent}

theorem range?_eq (w : ReadWindow) :
    w.range? = w.held.map fun held ↦ (held.1, held.1 + held.2.length) := by
  rw [range?, held, Option.map_map]
  rfl

theorem positionAt_fst_eq_true_iff {offset : Nat} :
    (w.positionAt offset).1 = true ↔ ∃ start data, w.held = some (start, data) ∧
      start ≤ offset ∧ offset < start + data.length := by
  have hcovers : (w.positionAt offset).1 = w.covers offset := by
    cases hc : w.covers offset with
    | false => rw [positionAt_of_not_covers hc]
    | true =>
      obtain ⟨start, hs, -, -⟩ := covers_iff.1 hc
      rw [positionAt_of_covers hs hc]
  rw [hcovers, covers_iff, held]
  simp

/-- A window that does not serve hands out nothing. -/
theorem copy_of_place?_eq_none (h : w.place? = none) :
    w.available = 0 ∧ ∀ count, w.copy count = ([], w) := by
  have hnot := place?_eq_none_iff.1 h
  refine ⟨?_, copy_of_not_serving hnot⟩
  rw [available]
  split
  · next hs => exact absurd hs (hnot _ _)
  · rfl

/-- A window that serves hands out what it holds from its place on. -/
theorem copy_of_place?_eq_some (hcursor : ∀ start cursor, w.state = .serving start cursor →
      cursor ≤ w.data.length) (h : w.place? = some place) :
    ∃ start, w.held = some (start, w.data) ∧ start ≤ place ∧ place ≤ start + w.data.length ∧
      w.available = start + w.data.length - place ∧
      ∀ count, (w.copy count).1 = w.data.slice (place - start) count := by
  obtain ⟨start, cursor, hs, rfl⟩ := place?_eq_some_iff.1 h
  have hle := hcursor start cursor hs
  refine ⟨start, ?_, by omega, by omega, ?_, fun count ↦ ?_⟩
  · rw [held, start?_of_serving hs]
    rfl
  · rw [available, hs]
    dsimp only
    omega
  · rw [copy_of_serving hs, Nat.add_sub_cancel_left]

/-- A window that reflects the events serves as they say. -/
theorem Reflects.serves (h : w.Reflects capacity events) : w.Serves capacity events := by
  obtain ⟨content, hword, hshows⟩ := h.shows_some
  exact
    { cursor_le := hshows.cursor_le
      length_le := h.capacity_eq ▸ hshows.fits
      looks := ⟨Bounded.available?_of_shows hshows, Bounded.range?_of_shows hshows hword⟩
      calls := fun call hfits ↦ Bounded.perform?_of_reflects h hfits
      held_eq := h.held_eq
      range_eq := by rw [range?_eq, h.held_eq]
      keeps := ⟨held_positionAt w, held_copy w, held_bypass w⟩
      moves_inside_iff := fun offset ↦ by rw [positionAt_fst_eq_true_iff, h.held_eq]
      copies := by
        intro place hplace
        obtain ⟨start, hheld, hle, hstop, havailable, hcopy⟩ :=
          copy_of_place?_eq_some hshows.cursor_le (h.place_eq.trans hplace.placeAfter_eq)
        refine ⟨start, w.data, h.held_eq ▸ hheld, hle, hstop, havailable, fun target ↦ ?_⟩
        refine ⟨?_, hcopy target.length, ?_⟩
        · rw [Bytes.length_slice]
          omega
        · rw [Bounded.copyInto?_front hshows, hcopy]
      rests := fun hrest ↦ copy_of_place?_eq_none (h.place_eq.trans hrest.placeAfter_eq) }

/-- **What a window serves after any calls.**  A window that is filled within its capacity, with
bytes at offsets that are words, may be called in any order.  No call leaves the bounds of words and
arrays, and after them the window serves as the events say: either copying goes on at some place, or
nothing is to be copied. -/
theorem serves_after_calls (capacity : Nat) (calls : List WindowCall)
    (hfits : ∀ call ∈ calls, call.Fits capacity) :
    let after := (new capacity).performAll calls
    Bounded.performAll? (new capacity) calls = some after ∧ after.2.Serves capacity after.1 ∧
      ((∃ place, GoesOnAt after.1 place) ∨ AtRest after.1) := by
  intro after
  have hnew := reflects_new capacity
  have hafter : after.2.Reflects capacity after.1 := hnew.performAll hfits
  exact ⟨Bounded.performAll?_eq hnew hfits, hafter.serves, exists_goesOnAt_or_atRest after.1⟩

/-- A window is filled with four bytes.  One of them is copied; then it is moved out of what it
holds, and back to where two are left, of which one is copied. -/
def sampleCalls : List WindowCall :=
  [.refill 10 [0, 1, 2, 3], .copy [9], .move 14, .copy [9], .move 12, .copy [9]]

theorem copies_after_moving_back :
    (∀ call ∈ sampleCalls, call.Fits 4) ∧
      ((new 4).performAll sampleCalls).1 =
        [.refilled 10 [0, 1, 2, 3], .copied [0], .moved 14 false, .copied [], .moved 12 true,
          .copied [2]] ∧
      (((new 4).performAll sampleCalls).2.copy 3).1 = [3] := by
  have hfits : ∀ call ∈ sampleCalls, call.Fits 4 := by
    simp [sampleCalls, WindowCall.Fits, wordLimit, UInt64.size]
  have hevents : ((new 4).performAll sampleCalls).1 =
      [.refilled 10 [0, 1, 2, 3], .copied [0], .moved 14 false, .copied []] ++
        .moved 12 true :: [.copied [2]] := by decide
  have hplace : GoesOnAt ((new 4).performAll sampleCalls).1 13 :=
    ⟨_, .moved 12 true, [.copied [2]], 12, hevents, rfl, by decide, rfl⟩
  obtain ⟨start, data, hlast, -, -, -, hcopy⟩ :=
    (serves_after_calls 4 sampleCalls hfits).2.1.copies 13 hplace
  have hheld : some (start, data) = some (10, [0, 1, 2, 3]) := by
    rw [← hlast]
    decide
  cases hheld
  exact ⟨hfits, hevents, (hcopy [9, 9, 9]).2.1⟩

end ReadWindow

end BlobFs

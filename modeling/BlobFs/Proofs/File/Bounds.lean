import BlobFs.Proofs.File.Reader

/-!
# Reading stays within its bounds

`Reader` computes with natural numbers and lists, where a difference stops at zero and a part of a
list that reaches past its end is cut.  A reader made of words and arrays has no such mercy.  This
file reads once more, into a target of fixed size that belongs to the caller, with every sum,
difference, part and copy checked: a step that would leave its bounds has no result at all.

* `add?`, `sub?`, `part?`, `write?` — the checked steps.
* `Bounded.readAt?` and `Bounded.read?` — reading with them.  The target is filled in rounds, and a
  read that is not done after the rounds it is given has no result either.
* `readAt?_eq` and `read?_eq` — for a reader that follows its content and two rounds or more there
  always is a result, and it is that of `Reader.readAt` and `Reader.read`: the bytes handed out
  stand at the beginning of the target, and the rest of the target is as it was.
-/

set_option autoImplicit false

namespace BlobFs

/-- A target whose first bytes have been replaced. -/
def Bytes.overwrite (target bytes : Bytes) : Bytes :=
  bytes ++ target.drop bytes.length

namespace Bounded

/-! ## Checked steps -/

/-- A sum that has to fit a word. -/
def add? (a b : Nat) : Option Nat :=
  if a + b < wordLimit then some (a + b) else none

/-- A difference that must not be negative. -/
def sub? (a b : Nat) : Option Nat :=
  if b ≤ a then some (a - b) else none

/-- The bytes from `start` to before `stop`, which have to lie within. -/
def part? (data : Bytes) (start stop : Nat) : Option Bytes :=
  if start ≤ stop ∧ stop ≤ data.length then some (data.slice start (stop - start)) else none

/-- The target with the bytes from `start` to before `stop` replaced, by just as many. -/
def write? (target : Bytes) (start stop : Nat) (bytes : Bytes) : Option Bytes :=
  if start ≤ stop ∧ stop ≤ target.length ∧ bytes.length = stop - start then
    some (target.take start ++ bytes ++ target.drop stop)
  else none

theorem add?_of_lt {a b : Nat} (h : a + b < wordLimit) : add? a b = some (a + b) :=
  if_pos h

theorem sub?_of_le {a b : Nat} (h : b ≤ a) : sub? a b = some (a - b) :=
  if_pos h

theorem part?_of_le {data : Bytes} {start stop : Nat} (h : start ≤ stop) (hs : stop ≤ data.length) :
    part? data start stop = some (data.slice start (stop - start)) :=
  if_pos ⟨h, hs⟩

theorem overwrite_nil (target : Bytes) : target.overwrite [] = target := rfl

theorem length_overwrite {target bytes : Bytes} (h : bytes.length ≤ target.length) :
    (target.overwrite bytes).length = target.length := by
  rw [Bytes.overwrite, List.length_append, List.length_drop]
  omega

/-- Writing on where the last write ended. -/
theorem write?_overwrite (target front back : Bytes)
    (h : front.length + back.length ≤ target.length) :
    write? (target.overwrite front) front.length (front.length + back.length) back =
      some (target.overwrite (front ++ back)) := by
  have hlen : (target.overwrite front).length = target.length := length_overwrite (by omega)
  rw [write?, if_pos ⟨by omega, by omega, by omega⟩, Bytes.overwrite, List.take_left,
    List.drop_length_add_append, List.drop_drop, Bytes.overwrite, List.length_append]

/-- Replacing a whole target. -/
theorem write?_all {target bytes : Bytes} (h : bytes.length = target.length) :
    write? target 0 target.length bytes = some (target.overwrite bytes) := by
  have hall := write?_overwrite target [] bytes (by rw [List.length_nil]; omega)
  simpa [overwrite_nil, h] using hall

/-- Writing a front back that has been written to. -/
theorem write?_front {target bytes : Bytes} {count : Nat} (h : bytes.length ≤ count)
    (hc : count ≤ target.length) :
    write? target 0 count ((target.slice 0 count).overwrite bytes) =
      some (target.overwrite bytes) := by
  have hfront : (target.slice 0 count).length = count := Bytes.length_slice_of_le (by omega)
  have hlen : ((target.slice 0 count).overwrite bytes).length = count := by
    rw [length_overwrite (by omega), hfront]
  have hrest : (target.slice 0 count).drop bytes.length ++ target.drop count =
      target.drop bytes.length := by
    rw [Bytes.slice, List.drop_zero, List.drop_take]
    conv => rhs; rw [← List.take_append_drop (count - bytes.length) (target.drop bytes.length)]
    rw [List.drop_drop, Nat.add_sub_of_le h]
  rw [write?, if_pos ⟨Nat.zero_le _, hc, by omega⟩, List.take_zero, List.nil_append,
    Bytes.overwrite, List.append_assoc, hrest]
  rfl

/-! ## The window -/

/-- The part of the file that the window covers, if its end is a word. -/
def range? (w : ReadWindow) : Option (Option (Nat × Nat)) :=
  match w.start? with
  | none => some none
  | some start => (add? start w.data.length).map fun stop ↦ some (start, stop)

/-- Moves the window to an offset. -/
def positionAt? (w : ReadWindow) (offset : Nat) : Option (Bool × ReadWindow) := do
  match ← range? w with
  | none => return (false, w.bypass)
  | some (start, stop) =>
    if start ≤ offset ∧ offset < stop then
      let cursor ← sub? offset start
      return (true, { w with state := .serving start cursor })
    else return (false, w.bypass)

/-- Copies what the window has into the target from `filled` on, and says how much that was. -/
def copyInto? (w : ReadWindow) (target : Bytes) (filled : Nat) :
    Option (Nat × Bytes × ReadWindow) :=
  match w.state with
  | .serving start cursor => do
    let room ← sub? target.length filled
    let left ← sub? w.data.length cursor
    let bytes ← part? w.data cursor (cursor + min room left)
    let target ← write? target filled (filled + min room left) bytes
    return (min room left, target, { w with state := .serving start (cursor + min room left) })
  | _ => some (0, target, w)

/-- Fills the window, within its capacity. -/
def refill? (w : ReadWindow) (start : Nat) (data : Bytes) : Option ReadWindow :=
  if data.length ≤ w.capacity then some (w.refill start data) else none

variable {w : ReadWindow} {content : Bytes}

theorem range?_of_shows (h : w.Shows content) (hw : content.length < wordLimit) :
    range? w = some w.range? := by
  rw [range?, ReadWindow.range?]
  cases hs : w.start? with
  | none => rfl
  | some start =>
    have hends := h.ends start hs
    have hstop : add? start w.data.length = some (start + w.data.length) := add?_of_lt (by omega)
    simp only [hstop, Option.map_some]

theorem positionAt?_of_shows (h : w.Shows content) (hw : content.length < wordLimit)
    (offset : Nat) : positionAt? w offset = some (w.positionAt offset) := by
  rw [positionAt?, range?_of_shows h hw, ReadWindow.positionAt, ReadWindow.covers,
    ReadWindow.range?]
  cases hs : w.start? with
  | none => rfl
  | some start =>
    by_cases hc : start ≤ offset ∧ offset < start + w.data.length
    · simp [hc, sub?_of_le hc.1]
    · simp [hc]

/-- Copying joins what the window has to what the target holds already. -/
theorem copyInto?_of_shows (h : w.Shows content) {target front : Bytes}
    (hf : front.length ≤ target.length) :
    copyInto? w (target.overwrite front) front.length =
      some ((w.copy (target.length - front.length)).1.length,
        target.overwrite (front ++ (w.copy (target.length - front.length)).1),
        (w.copy (target.length - front.length)).2) := by
  rw [copyInto?]
  split
  · next start cursor hs =>
    have hcur := h.cursor_le start cursor hs
    have hlen := length_overwrite hf
    have hbytes : (w.data.slice cursor (target.length - front.length)).length =
        min (target.length - front.length) (w.data.length - cursor) := Bytes.length_slice _ _ _
    have hpart : w.data.slice cursor (min (target.length - front.length) (w.data.length - cursor)) =
        w.data.slice cursor (target.length - front.length) := by
      rw [← hbytes, Bytes.slice_length_slice]
    rw [hlen, sub?_of_le hf, sub?_of_le hcur, ReadWindow.copy_of_serving hs]
    simp only [Option.bind_eq_bind, Option.bind_some, Option.pure_def]
    rw [part?_of_le (by omega) (by omega), Nat.add_sub_cancel_left, hpart, ← hbytes]
    simp only [Option.bind_some]
    rw [write?_overwrite _ _ _ (by omega)]
    rfl
  · next hs =>
    rw [ReadWindow.copy_of_not_serving (fun start cursor hc ↦ hs start cursor hc),
      List.append_nil]
    rfl

/-! ## Reading -/

/-- What a read with checked steps comes to. -/
structure Delivery (τ : Type) where
  failure : Option StorageError
  /-- The caller's target afterwards. -/
  target : Bytes
  reader : Reader
  state : τ

/-- What a read hands out, delivered into a target. -/
def deliver {τ : Type} (target : Bytes) (result : ReadOutcome × Reader × τ) : Delivery τ :=
  { failure := result.1.failure
    target := target.overwrite result.1.bytes
    reader := result.2.1
    state := result.2.2 }

variable {τ : Type}

/-- Brings what is missing in the target from `filled` on: past the window, or through a window that
is filled for the next round. -/
def fetchRest? (fetch : Fetch τ) (next : Reader → Bytes → Nat → τ → Option (Delivery τ))
    (r : Reader) (target : Bytes) (filled : Nat) (state : τ) : Option (Delivery τ) := do
  let missing ← sub? target.length filled
  let left ← sub? r.size r.position
  if min r.window.capacity left < missing then
    match r.fetchExactly fetch r.position missing state with
    | (.error e, state) => return { failure := some e, target, reader := r, state }
    | (.ok data, state) =>
      let target ← write? target filled target.length data
      let position ← add? r.position missing
      return { failure := none, target, state
               reader := { r with window := r.window.bypass, position } }
  else
    match r.fetchExactly fetch r.position (min r.window.capacity left) state with
    | (.error e, state) => return { failure := some e, target, reader := r, state }
    | (.ok data, state) =>
      let window ← refill? r.window r.position data
      next { r with window } target filled state

/-- Fills the target from `filled` on, in at most so many rounds, each of which begins with what the
window has. -/
def fill? (fetch : Fetch τ) : Nat → Reader → Bytes → Nat → τ → Option (Delivery τ)
  | 0, _, _, _, _ => none
  | rounds + 1, r, target, filled, state =>
    if filled < target.length then do
      let (copied, target, window) ← copyInto? r.window target filled
      let filled ← add? filled copied
      let position ← add? r.position copied
      let r : Reader := { r with window, position }
      if filled = target.length then return { failure := none, target, reader := r, state }
      else fetchRest? fetch (fill? fetch rounds) r target filled state
    else return { failure := none, target, reader := r, state }

/-- Fills the whole target with the bytes at `offset`. -/
def readAt? (fetch : Fetch τ) (rounds : Nat) (r : Reader) (target : Bytes) (offset : Nat)
    (state : τ) : Option (Delivery τ) :=
  if r.inBounds offset target.length then
    if r.direct && 0 < target.length then
      match r.fetchExactly fetch offset target.length state with
      | (.error e, state) => some { failure := some e, target, reader := r, state }
      | (.ok data, state) => do
        let filled ← write? target 0 target.length data
        let position ← add? offset target.length
        return { failure := none, target := filled, state
                 reader := { r with window := r.window.reset, position } }
    else do
      let (_, window) ← positionAt? r.window offset
      fill? fetch rounds { r with window, position := offset } target 0 state
  else
    some { failure := some (.outOfBounds target.length offset r.path r.size), target, reader := r
           state }

/-- Fills the front of the target with the bytes at the position, as far as there are any. -/
def read? (fetch : Fetch τ) (rounds : Nat) (r : Reader) (target : Bytes) (state : τ) :
    Option (Delivery τ) :=
  if r.readable target.length = 0 then some { failure := none, target, reader := r, state }
  else do
    let front ← part? target 0 (r.readable target.length)
    let d ← readAt? fetch rounds r front r.position state
    let target ← write? target 0 (r.readable target.length) d.target
    return { d with target }

/-! ## The checked steps are the steps -/

variable {r : Reader} {fetch : Fetch τ}

/-- The reader after the window has handed out at most `count` bytes. -/
def served (r : Reader) (count : Nat) : Reader :=
  { r with
    window := (r.window.copy count).2
    position := r.position + (r.window.copy count).1.length }

theorem served_zero (r : Reader) : served r 0 = r := by
  rw [served, ReadWindow.copy_zero]
  rfl

theorem served_follows (hr : r.Follows content) (count : Nat) : (served r count).Follows content :=
  ⟨hr.size_eq, hr.shows.copy count⟩

/-- A round joins what the window has to the front of the target, and goes on if that is not all. -/
theorem fill?_round (fetch : Fetch τ) (hr : r.Follows content) (hw : content.length < wordLimit)
    (target front : Bytes) (hf : front.length < target.length)
    (ht : target.length ≤ content.length)
    (hb : r.position + (target.length - front.length) ≤ content.length) (rounds : Nat) (state : τ) :
    fill? fetch (rounds + 1) r (target.overwrite front) front.length state =
      let count := target.length - front.length
      let filled := target.overwrite (front ++ (r.window.copy count).1)
      if front.length + (r.window.copy count).1.length = target.length then
        some { failure := none, target := filled, reader := served r count, state }
      else
        fetchRest? fetch (fill? fetch rounds) (served r count) filled
          (front.length + (r.window.copy count).1.length) state := by
  have hle := ReadWindow.length_copy_le r.window (target.length - front.length)
  have hlen : (target.overwrite front).length = target.length := length_overwrite (by omega)
  have hfilled :
      (target.overwrite (front ++ (r.window.copy (target.length - front.length)).1)).length =
        target.length :=
    length_overwrite (by rw [List.length_append]; omega)
  rw [fill?, if_pos (by omega), copyInto?_of_shows hr.shows (by omega)]
  simp only [Option.bind_eq_bind, Option.bind_some]
  rw [add?_of_lt (by omega), add?_of_lt (by omega)]
  simp only [Option.bind_some, hfilled]
  rfl

/-- What is missing is brought in one more round, as `Reader.readRest` brings it. -/
theorem fetchRest?_eq (hr : r.Follows content) (hw : content.length < wordLimit)
    {target front : Bytes} (hlt : front.length < target.length)
    (ht : target.length ≤ content.length)
    (hb : r.position + (target.length - front.length) ≤ content.length) (rounds : Nat)
    (state : τ) :
    fetchRest? fetch (fill? fetch (rounds + 1)) r (target.overwrite front) front.length state =
      some (deliver target (r.readRest fetch front (target.length - front.length) state)) := by
  have hlen : (target.overwrite front).length = target.length := length_overwrite (by omega)
  have hsize := hr.size_eq
  rw [fetchRest?, hlen, sub?_of_le (by omega), sub?_of_le (by omega)]
  simp only [Option.bind_eq_bind, Option.bind_some]
  by_cases hahead : min r.window.capacity (r.size - r.position) < target.length - front.length
  · rw [if_pos hahead]
    rcases hx : r.fetchExactly fetch r.position (target.length - front.length) state
      with ⟨_ | data, after⟩
    · simp only [Reader.readRest, if_pos hahead, hx]
      rfl
    · obtain ⟨-, hdata⟩ := Reader.fetchExactly_eq_ok hx
      have hwrite : write? (target.overwrite front) front.length target.length data =
          some (target.overwrite (front ++ data)) := by
        rw [← write?_overwrite _ _ _ (by omega), hdata, Nat.add_sub_of_le (by omega)]
      simp only [Reader.readRest, if_pos hahead, hx, hwrite, Option.bind_some]
      rw [add?_of_lt (by omega)]
      rfl
  · rw [if_neg hahead]
    rcases hx : r.fetchExactly fetch r.position (min r.window.capacity (r.size - r.position)) state
      with ⟨_ | data, after⟩
    · simp only [Reader.readRest, if_neg hahead, hx]
      rfl
    · obtain ⟨-, hcount⟩ := Reader.fetchExactly_eq_ok hx
      -- the bytes may be any, so the window now shows some content of the same length
      obtain ⟨other, hother, hdata⟩ :=
        Bytes.exists_slice_eq (show r.position + data.length ≤ content.length by omega)
      have hshows : (r.window.refill r.position data).Shows other :=
        .refill hdata (by omega) (by omega)
      have hrefill : refill? r.window r.position data = some (r.window.refill r.position data) :=
        if_pos (by omega)
      have hcopied :
          ((r.window.refill r.position data).copy (target.length - front.length)).1.length =
            target.length - front.length := by
        rw [hshows.bytes_copy rfl, Bytes.length_slice_of_le] <;>
          simp only [ReadWindow.refill] <;> omega
      have hfollows : Reader.Follows { r with window := r.window.refill r.position data } other :=
        ⟨hr.size_eq.trans hother.symm, hshows⟩
      rw [← hother] at hw ht hb
      simp only [Reader.readRest, if_neg hahead, hx, hrefill, Option.bind_some]
      rw [fill?_round fetch hfollows hw target front hlt ht hb]
      dsimp only
      rw [if_pos (by rw [hcopied]; omega)]
      rfl

/-- Two rounds bring what a buffered read does. -/
theorem fill?_eq (hr : r.Follows content) (hw : content.length < wordLimit) {target : Bytes}
    (hb : r.position + target.length ≤ content.length) (rounds : Nat) (state : τ) :
    fill? fetch (rounds + 2) r target 0 state =
      some (deliver target
        (if (r.window.copy target.length).1.length = target.length then
          (⟨(r.window.copy target.length).1, none⟩, served r target.length, state)
        else (served r target.length).readRest fetch (r.window.copy target.length).1
          (target.length - (r.window.copy target.length).1.length) state)) := by
  have hle := ReadWindow.length_copy_le r.window target.length
  rcases Nat.eq_zero_or_pos target.length with h0 | hpos
  · rw [fill?, if_neg (by omega), h0, ReadWindow.copy_zero, served_zero]
    rfl
  · have hround := fill?_round fetch hr hw target [] hpos (by omega) (by simpa using hb)
      (rounds + 1) state
    simp only [overwrite_nil, List.length_nil, Nat.sub_zero, List.nil_append,
      Nat.zero_add] at hround
    rw [hround]
    split
    · rfl
    · exact fetchRest?_eq (served_follows hr _) hw (by omega) (by omega)
        (by simp only [served]; omega) rounds state

/-- **A read at an offset stays within its bounds**, and brings the target what `Reader.readAt`
hands out.  What is fetched need not be the content. -/
theorem readAt?_eq (hr : r.Follows content) (hw : content.length < wordLimit) (rounds : Nat)
    (target : Bytes) (offset : Nat) (state : τ) :
    readAt? fetch (rounds + 2) r target offset state =
      some (deliver target (r.readAt fetch offset target.length state)) := by
  rw [readAt?, Reader.readAt]
  split
  · next hin =>
    have hsize := hr.size_eq
    have hb : offset + target.length ≤ content.length := by
      rw [← hsize]
      exact (Reader.inBounds_iff.1 hin).2
    split
    · rcases hx : r.fetchExactly fetch offset target.length state with ⟨_ | data, after⟩
      · simp only [Reader.readDirect, hx]
        rfl
      · obtain ⟨-, hdata⟩ := Reader.fetchExactly_eq_ok hx
        simp only [Reader.readDirect, hx, write?_all hdata,
          add?_of_lt (Reader.inBounds_iff.1 hin).1]
        rfl
    · have hmoved : Reader.Follows
          { r with window := (r.window.positionAt offset).2, position := offset } content :=
        ⟨hsize, hr.shows.positionAt offset⟩
      rw [positionAt?_of_shows hr.shows hw]
      simp only [Option.bind_eq_bind, Option.bind_some]
      exact fill?_eq hmoved hw hb rounds state
  · rfl

/-- **A read at the position stays within its bounds**, and brings the front of the target what
`Reader.read` hands out. -/
theorem read?_eq (hr : r.Follows content) (hw : content.length < wordLimit) {holds : τ → Prop}
    (hf : fetch.Serves content holds) (rounds : Nat) (target : Bytes) {state : τ}
    (hs : holds state) :
    read? fetch (rounds + 2) r target state =
      some (deliver target (r.read fetch target.length state)) := by
  rw [read?, Reader.read]
  split
  · rfl
  · have hk : r.readable target.length ≤ target.length := Nat.min_le_left _ _
    have hfront : (target.slice 0 (r.readable target.length)).length = r.readable target.length :=
      Bytes.length_slice_of_le (by omega)
    rw [part?_of_le (Nat.zero_le _) hk, Nat.sub_zero]
    simp only [Option.bind_eq_bind, Option.bind_some]
    have hle : (r.readAt fetch r.position (r.readable target.length) state).1.bytes.length ≤
        r.readable target.length := (Reader.readAt_readsTo hr hf state hs _ _).length_le
    rw [readAt?_eq hr hw rounds _ _ state, hfront]
    simp only [Option.bind_some, deliver, write?_front hle hk]
    rfl

end Bounded

end BlobFs

import BlobFs.Store.Basic

/-!
# The read-ahead window

A handle keeps the bytes of its latest read-ahead, the *window*, and serves reads from it for as
long as they fall into it.  The window is in one of three states:

* `empty` — nothing has been fetched, or what was fetched has been dropped;
* `serving start cursor` — the window starts at offset `start` of the file, and the next byte to
  hand out is the one `cursor` places into it;
* `kept start` — the window is held but hands out nothing, until a position inside it is asked for.

Every operation keeps the cursor within the window: positions are only taken inside it, and a copy
ends where the window does.
-/

set_option autoImplicit false

namespace BlobFs

/-- Where the window stands. -/
inductive WindowState where
  | empty
  | serving (start cursor : Nat)
  | kept (start : Nat)
  deriving DecidableEq

/-- A window over a file: the bytes held and where they stand. -/
structure ReadWindow where
  capacity : Nat
  data : Bytes
  state : WindowState
  deriving DecidableEq

namespace ReadWindow

/-- A window that holds nothing yet. -/
def new (capacity : Nat) : ReadWindow :=
  { capacity, data := [], state := .empty }

/-- The offset at which the window starts, if one is held. -/
def start? (w : ReadWindow) : Option Nat :=
  match w.state with
  | .empty => none
  | .serving start _ => some start
  | .kept start => some start

/-- The part of the file that the window covers: its start and its end. -/
def range? (w : ReadWindow) : Option (Nat × Nat) :=
  w.start?.map fun start ↦ (start, start + w.data.length)

/-- Whether an offset of the file lies inside the window. -/
def covers (w : ReadWindow) (offset : Nat) : Bool :=
  match w.range? with
  | none => false
  | some (start, stop) => start ≤ offset && offset < stop

/-- Stops serving but keeps the window. -/
def bypass (w : ReadWindow) : ReadWindow :=
  match w.state with
  | .empty => w
  | .serving start _ | .kept start => { w with state := .kept start }

/-- Moves to an offset: the window serves from there if it covers it, and stops serving if not.
Says which. -/
def positionAt (w : ReadWindow) (offset : Nat) : Bool × ReadWindow :=
  match w.start? with
  | none => (false, w.bypass)
  | some start =>
    if w.covers offset then (true, { w with state := .serving start (offset - start) })
    else (false, w.bypass)

/-- How many bytes the window can still hand out. -/
def available (w : ReadWindow) : Nat :=
  match w.state with
  | .serving _ cursor => w.data.length - cursor
  | _ => 0

/-- Hands out at most `count` bytes and moves past them. -/
def copy (w : ReadWindow) (count : Nat) : Bytes × ReadWindow :=
  match w.state with
  | .serving start cursor =>
    let bytes := (w.data.drop cursor).take count
    (bytes, { w with state := .serving start (cursor + bytes.length) })
  | _ => ([], w)

/-- Holds new bytes, which start at this offset, and serves them from the beginning. -/
def refill (w : ReadWindow) (start : Nat) (data : Bytes) : ReadWindow :=
  { w with data, state := .serving start 0 }

/-- Drops the window. -/
def reset (w : ReadWindow) : ReadWindow :=
  { w with data := [], state := .empty }

end ReadWindow

end BlobFs

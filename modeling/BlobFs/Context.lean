import BlobFs.Error

/-!
# Connection contexts and their cache

A context is a connection to an account that a session keeps and uses again.  It is active until it
is retired, and a retired one is never used again.

`ContextCache α` holds every context that was made, each known by its number, and for some accounts
the number of the context to use.  Entries of retired contexts stay until they are replaced; a
look-up does not find them.  The empty account name is an account like any other: it stands for
whatever account the settings name.
-/

set_option autoImplicit false

namespace BlobFs

/-- A connection and whether it may still be used. -/
structure Context (α : Type) where
  connection : α
  retired : Bool
  deriving DecidableEq

/-- Contexts by number, and the numbers kept for accounts. -/
structure ContextCache (α : Type) where
  contexts : List (Context α)
  entries : List (String × Nat)
  deriving DecidableEq

namespace ContextCache

variable {α : Type}

/-- No contexts at all. -/
def empty : ContextCache α := { contexts := [], entries := [] }

/-! ## Contexts -/

/-- The context with this number. -/
def context? (c : ContextCache α) (id : Nat) : Option (Context α) :=
  c.contexts[id]?

/-- Whether the context with this number may be used. -/
def isActive (c : ContextCache α) (id : Nat) : Bool :=
  match c.context? id with
  | some context => !context.retired
  | none => false

/-- Makes a new, active context and gives its number. -/
def make (c : ContextCache α) (connection : α) : Nat × ContextCache α :=
  (c.contexts.length,
    { c with contexts := c.contexts ++ [{ connection, retired := false }] })

/-- Retires the context with this number. -/
def retire (c : ContextCache α) (id : Nat) : ContextCache α :=
  { c with contexts := c.contexts.modify id fun context ↦ { context with retired := true } }

/-- The connection of an active context, for use with one blob. -/
def connectionOf (c : ContextCache α) (id : Nat) : Except StorageError α :=
  match c.context? id with
  | some context => if context.retired then .error .retiredContext else .ok context.connection
  | none => .error .retiredContext

/-! ## Entries -/

/-- The number of the active context kept for an account. -/
def lookup (c : ContextCache α) (account : String) : Option Nat :=
  (c.entries.lookup account).filter c.isActive

/-- Keeps a context for an account, in place of any other. -/
def insert (c : ContextCache α) (account : String) (id : Nat) : ContextCache α :=
  { c with entries := (account, id) :: c.entries.filter fun entry ↦ entry.1 != account }

/-- Retires every context that is kept for an account. -/
def retireAll (c : ContextCache α) : ContextCache α :=
  c.entries.foldl (fun c entry ↦ c.retire entry.2) c

/-- For how many accounts a context is kept, retired ones included. -/
def size (c : ContextCache α) : Nat :=
  c.entries.length

end ContextCache

end BlobFs

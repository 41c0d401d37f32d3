import BlobFs.Context
import BlobFs.Service.Recorded

/-!
# Sessions

A session is one unit of work: its settings, the connections it has made and the requests it has
counted.  `Scene` is a session together with the world that the service acts on; the operations of
the file system are steps on scenes.
-/

set_option autoImplicit false

namespace BlobFs

/-- A connection as a session keeps it: the client, what it was made from and how it reads. -/
structure Connection (κ : Type) where
  client : κ
  spec : ConnectionSpec
  readOptions : ReadOptions
  /-- Whether its requests are counted. -/
  recorded : Bool

/-- A unit of work. -/
structure Session (κ : Type) where
  settings : Settings
  contexts : ContextCache (Connection κ)
  stats : HttpStats
  /-- Whether connections may be kept for later accesses. -/
  keepsContexts : Bool
  /-- Whether requests may be counted. -/
  keepsStats : Bool

namespace Session

variable {κ : Type}

/-- A session that has done nothing yet. -/
def new (settings : Settings) : Session κ :=
  { settings, contexts := .empty, stats := .zero, keepsContexts := true, keepsStats := true }

/-- A session that neither keeps connections nor counts requests. -/
def bare (settings : Settings) : Session κ :=
  { settings, contexts := .empty, stats := .zero, keepsContexts := false, keepsStats := false }

/-- The end of a piece of work: every kept connection is retired, so the next access makes a new
one. -/
def finish (s : Session κ) : Session κ :=
  { s with contexts := s.contexts.retireAll }

end Session

/-- A session and the world around it. -/
structure Scene (σ κ : Type) where
  session : Session κ
  world : σ

namespace Scene

variable {σ κ α : Type}

/-- Runs a step on the counters and the world. -/
def run (scene : Scene σ κ) (step : HttpStats × σ → α × HttpStats × σ) : α × Scene σ κ :=
  let (answer, stats, world) := step (scene.session.stats, scene.world)
  (answer, { session := { scene.session with stats }, world })

/-- Runs a step that may come to no answer at all. -/
def run? (scene : Scene σ κ) (step : HttpStats × σ → Option (α × HttpStats × σ)) :
    Option (α × Scene σ κ) :=
  (step (scene.session.stats, scene.world)).map fun (answer, stats, world) ↦
    (answer, { session := { scene.session with stats }, world })

end Scene

end BlobFs

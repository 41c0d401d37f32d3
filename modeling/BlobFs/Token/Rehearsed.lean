import BlobFs.Token.Chained

/-!
# Token sources to rehearse with

Each source has a list of results and takes them in turn; the last one repeats, and a source without
results always fails.
-/

set_option autoImplicit false

namespace BlobFs

/-- A token source that follows a list. -/
structure ScriptedSource where
  /-- A token, or none for a failure. -/
  results : List (Option String)
  /-- How often it has been asked. -/
  asked : Nat

/-- The result of the next call. -/
def ScriptedSource.next (s : ScriptedSource) : Option String :=
  match s.results[s.asked]? with
  | some result => result
  | none => s.results.getLast?.getD none

/-- Asks one of several sources. -/
def ScriptedSource.ask : AskSource (List ScriptedSource) := fun i sources ↦
  match sources[i]? with
  | none => (.error (.generic "Scripted" "no such source"), sources)
  | some source =>
    let sources := sources.set i { source with asked := source.asked + 1 }
    match source.next with
    | some token => (.ok token, sources)
    | none => (.error (.generic "Scripted" s!"call {source.asked} refused"), sources)

end BlobFs

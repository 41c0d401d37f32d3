import BlobFs.FileSystem
import BlobFs.Host
import BlobFs.Json.Records
import BlobFs.Time.Calendar

/-!
# The command

The command lists the blobs that a pattern matches, one line for each, with its size and the time it
was written.  The settings come from the environment; a settings file, if one is named, overrides
them.  If requests are counted, the counts follow the list.

A failure ends the command: what was listed before it stays, and the failure itself is described on
the error output.
-/

set_option autoImplicit false

namespace BlobFs

/-- Why the command failed. -/
inductive CommandFailure where
  | noPattern
  | unreadableSettings (problem : FileProblem)
  | malformedSettings (reason : String)
  | storage (e : StorageError)
  deriving DecidableEq

/-- What the command wrote, line by line, and how it ended. -/
structure CommandResult where
  lines : List String
  failure : Option CommandFailure

namespace CommandFailure

/-- How the command is used. -/
def usage : String :=
  "usage: azure-blob-vfs <az://[account.endpoint/]container/pattern> [settings.json]"

/-- A failure of the operating system described as a value. -/
def describeOs (code : Nat) (kind message : String) : String :=
  Text.describeRecord "Os" [("code", toString code), ("kind", kind), ("message", Text.quote message)]

/-- The failure described as a value. -/
def debug : CommandFailure → String
  | .noPattern => Text.quote usage
  | .unreadableSettings .notFound => describeOs 2 "NotFound" "No such file or directory"
  | .unreadableSettings .notDirectory => describeOs 20 "NotADirectory" "Not a directory"
  | .unreadableSettings problem => "Error(" ++ Text.quote problem.describe ++ ", line: 1, column: 0)"
  | .malformedSettings reason => "Error(" ++ Text.quote reason ++ ")"
  | .storage e => e.debug

end CommandFailure

namespace CommandResult

/-- What goes to the standard output. -/
def output (result : CommandResult) : String :=
  String.join (result.lines.map (· ++ "\n"))

/-- What goes to the error output. -/
def errorOutput (result : CommandResult) : String :=
  match result.failure with
  | none => ""
  | some failure => "Error: " ++ failure.debug ++ "\n"

/-- The exit code. -/
def exitCode (result : CommandResult) : Nat :=
  if result.failure.isNone then 0 else 1

/-- Nothing written, and a failure. -/
def failed (failure : CommandFailure) : CommandResult :=
  { lines := [], failure := some failure }

end CommandResult

/-- The counts as lines of JSON. -/
def HttpStats.jsonLines (s : HttpStats) : List String :=
  ["\x7b",
    "  \"head_count\": " ++ toString s.headCount.toNat ++ ",",
    "  \"get_count\": " ++ toString s.getCount.toNat ++ ",",
    "  \"list_count\": " ++ toString s.listCount.toNat ++ ",",
    "  \"bytes_received\": " ++ toString s.bytesReceived.toNat,
    "\x7d"]

namespace Command

variable {σ κ : Type}

/-- The settings in a file. -/
def settingsFile (host : Host) (path : String) : Except CommandFailure Settings :=
  match host.fileText path with
  | .error .isDirectory => .error (.malformedSettings FileProblem.isDirectory.describe)
  | .error .notText => .error (.malformedSettings "invalid unicode code point")
  | .error problem => .error (.unreadableSettings problem)
  | .ok text =>
    match (JsonValue.parse? text).bind Settings.ofJson? with
    | some settings => .ok settings
    | none => .error (.malformedSettings "not a settings file")

/-- The settings of a run: those of the environment, overridden by those of the file. -/
def settingsOf (host : Host) (path : Option String) : Except CommandFailure Settings :=
  let fromEnvironment := Settings.ofEnvironment host.environment
  match path with
  | none => .ok fromEnvironment
  | some path => (settingsFile host path).map fromEnvironment.extend

/-- The line of an open blob. -/
def lineOf (path : String) (handle : FileHandle κ) : String :=
  path ++ "\t" ++ toString handle.reader.size ++ "\t" ++
    (handle.modified.map Calendar.describe).getD ""

/-- Opens one blob after another for its line, up to the first failure. -/
def listPaths (service : BlobService σ κ) (host : Host) :
    List String → Scene σ κ → CommandResult × Scene σ κ
  | [], scene => ({ lines := [], failure := none }, scene)
  | path :: rest, scene =>
    match FileSystem.openFile service host .empty path .forReading scene with
    | (.error e, scene) => (.failed (.storage e), scene)
    | (.ok handle, scene) =>
      let (result, scene) := listPaths service host rest scene
      ({ result with lines := lineOf path handle :: result.lines }, scene)

/-- Lists the blobs that were found. -/
def listFound (service : BlobService σ κ) (host : Host) (counts : Bool)
    (found : Except StorageError (List String)) (scene : Scene σ κ) : CommandResult × Scene σ κ :=
  match found with
  | .error e => (.failed (.storage e), scene)
  | .ok paths =>
    let (result, scene) := listPaths service host paths scene
    if counts ∧ result.failure.isNone then
      ({ result with lines := result.lines ++ scene.session.stats.jsonLines }, scene)
    else (result, scene)

/-- Lists the blobs that a pattern matches. -/
def listMatches (service : BlobService σ κ) (host : Host) (pattern : String) (counts : Bool)
    (scene : Scene σ κ) : Option (CommandResult × Scene σ κ) :=
  (FileSystem.glob service host .empty pattern scene).map fun (found, scene) ↦
    listFound service host counts found scene

/-- Runs the command with its arguments.  There is no result where the service never ends its
listing. -/
def run (service : BlobService σ κ) (host : Host) (arguments : List String) (world : σ) :
    Option (CommandResult × σ) :=
  match arguments with
  | [] => some (.failed .noPattern, world)
  | pattern :: rest =>
    match settingsOf host rest.head? with
    | .error failure => some (.failed failure, world)
    | .ok settings =>
      match settings.switch Settings.httpStats false with
      | .error e => some (.failed (.storage e), world)
      | .ok counts =>
        (listMatches service host pattern counts { session := .new settings, world }).map
          fun (result, scene) ↦ (result, scene.world)

end Command

end BlobFs

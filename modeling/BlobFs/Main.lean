import BlobFs.Account.Replay
import BlobFs.Account.Service
import BlobFs.CommandLine
import BlobFs.Machine
import BlobFs.Web.Wire
import Std.Async.DNS
import Std.Async.TCP

/-!
# The program

The command on the machine that it is started on.  What it may look at is read beforehand into a
`Machine`, and the requests that it makes are carried one at a time between runs on the answers
known so far (`Replay`), so that all it does is done by `Command.run`.

Requests are carried over connections without encryption.
-/

set_option autoImplicit false

namespace BlobFs

namespace Program

/-- The variables that a run may look at. -/
def variableNames : List String :=
  Settings.known.map Settings.variableOf ++
    ["HTTP_PROXY", "CURL_CA_INFO", "CURL_CA_PATH", "AZURE_CLIENT_ID", "AZURE_TENANT_ID",
      "AZURE_CLIENT_SECRET", "AZURE_FEDERATED_TOKEN_FILE", "AZURE_AUTHORITY_HOST"]

/-- Why a file cannot be read. -/
def problemOf (e : IO.Error) : FileProblem :=
  match e with
  | .noFileOrDirectory .. => .notFound
  | .inappropriateType _ code _ => if code = 20 then .notDirectory else .isDirectory
  | _ => .other (toString e)

/-- The text of a file, or why it cannot be read. -/
def readText (path : String) : IO (Except FileProblem String) := do
  try
    let content ← IO.FS.readBinFile path
    return (String.fromUTF8? content).elim (.error .notText) .ok
  catch e => return .error (problemOf e)

/-- The file at a path, unless there is none. -/
def lookAt (path : String) : IO (Option (String × Except FileProblem String)) := do
  match ← readText path with
  | .error .notFound => return none
  | content => return some (path, content)

/-- What a run with these arguments may look at. -/
def lookAround (arguments : List String) : IO Machine := do
  let environment ← variableNames.filterMapM fun name ↦ do
    return (← IO.getEnv name).map fun value ↦ (name, value)
  let named := (arguments.drop 1).take 1 ++ (environment.lookup "CURL_CA_INFO").toList
  let files ← (named ++ Transport.bundleCandidates).filterMapM lookAt
  return { environment, files, directories := [] }

/-- All that comes over a connection until it ends. -/
partial def receiveAll (client : Std.Async.TCP.Socket.Client) (received : ByteArray) :
    Std.Async.Async ByteArray := do
  match ← client.recv? 65536 with
  | none => return received
  | some more => receiveAll client (received ++ more)

/-- Sends a message and receives what comes back. -/
def converse (peer : WebUrl) (message : Bytes) : Std.Async.Async Bytes := do
  let port := UInt16.ofNat peer.connectionPort
  let addresses ← Std.Async.DNS.getAddrInfo peer.connectionHost (toString port)
  match addresses.toList with
  | [] => throw (IO.userError s!"there is no address for {peer.connectionHost}")
  | address :: _ =>
    let client ← Std.Async.TCP.Socket.Client.mk
    client.connect (match address with
      | .v4 address => .v4 { addr := address, port }
      | .v6 address => .v6 { addr := address, port })
    client.send ⟨message.toArray⟩
    return (← receiveAll client .empty).toList

/-- Carries a request and brings back its answer. -/
def carry (request : HttpRequest) : IO (Except String HttpResponse) := do
  match request.obstacle? with
  | some reason => return .error reason
  | none =>
    try
      let received ← (converse request.peer request.wire).block
      return (HttpResponse.ofWire? request.method received).elim
        (.error "the answer cannot be read") .ok
    catch e => return .error (toString e)

/-- Runs the command, carrying one request after another until none is missing its answer. -/
partial def runOn (host : Host) (arguments : List String)
    (answers : List (Except String HttpResponse)) : IO CommandResult := do
  match Command.run (.overNetwork host Replay.network) host arguments (.ofAnswers answers) with
  -- Nothing is answered beyond the known answers, so every listing on them ends.
  | none => throw (IO.userError "the listing does not end")
  | some (result, replay) =>
    match replay.missing with
    | none => return result
    | some request => runOn host arguments (answers ++ [← carry request])

end Program

end BlobFs

/-- Runs the command with the arguments of the process. -/
def main (arguments : List String) : IO UInt32 := do
  let machine ← BlobFs.Program.lookAround arguments
  let result ← BlobFs.Program.runOn machine.host arguments []
  IO.print result.output
  IO.eprint result.errorOutput
  return UInt32.ofNat result.exitCode

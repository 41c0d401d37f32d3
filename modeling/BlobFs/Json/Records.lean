import BlobFs.Json.Parser
import BlobFs.ReadOptions
import BlobFs.Secret.Basic
import BlobFs.Text.Word

/-!
# Settings, secrets and read options as JSON

Each of the three is a record.  Of settings everything may be left out, of a secret all but its name
and its type, of read options nothing.
-/

set_option autoImplicit false

namespace BlobFs

/-- The settings that a JSON value holds. -/
def Settings.ofJson? (value : JsonValue) : Option Settings :=
  match value.record? ["options"] with
  | some [options] => JsonValue.memberOr JsonValue.entries? .empty options
  | _ => none

/-- The secret that a JSON value describes. -/
def Secret.ofJson? (value : JsonValue) : Option Secret :=
  match value.record? ["name", "type", "provider", "scope", "values"] with
  | some [some name, some type, provider, scope, values] => do
    let name ← name.text?
    let type ← type.text?
    let provider ← JsonValue.memberOr JsonValue.text? Secret.defaultProvider provider
    let scope ← JsonValue.memberOr JsonValue.texts? [] scope
    let values ← JsonValue.memberOr JsonValue.entries? .empty values
    return { name, type, provider, scope, values }
  | _ => none

/-- A number that fits a 64-bit word. -/
def JsonValue.word? (value : JsonValue) : Option Nat :=
  value.number?.filter (· < wordLimit)

/-- The read options that a JSON value holds. -/
def ReadOptions.ofJson? (value : JsonValue) : Option ReadOptions :=
  match value.record? ["transfer_concurrency", "transfer_chunk_size", "buffer_size"] with
  | some [some concurrency, some chunkSize, some bufferSize] => do
    let transferConcurrency ← concurrency.word?
    let transferChunkSize ← chunkSize.word?
    let bufferSize ← bufferSize.word?
    return { transferConcurrency, transferChunkSize, bufferSize }
  | _ => none

end BlobFs

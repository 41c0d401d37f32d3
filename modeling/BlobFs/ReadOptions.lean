import BlobFs.Settings

/-!
# Tuning of reads

Three numbers govern how bytes are fetched: how many requests may be in flight, how large a piece
one request asks for, and how many bytes a handle reads ahead.  A session may set each; none of
them may be zero.
-/

set_option autoImplicit false

namespace BlobFs

/-- How bytes are fetched. -/
structure ReadOptions where
  transferConcurrency : Nat
  transferChunkSize : Nat
  bufferSize : Nat
  deriving DecidableEq

namespace ReadOptions

/-- Five requests at once, pieces and window of one mebibyte. -/
def standard : ReadOptions :=
  { transferConcurrency := 5, transferChunkSize := 1024 * 1024, bufferSize := 1024 * 1024 }

/-- The options whose value is zero, by the name of the setting, in the order of the checks. -/
def zeroSettings (options : ReadOptions) : List String :=
  [(Settings.readTransferConcurrency, options.transferConcurrency),
    (Settings.readTransferChunkSize, options.transferChunkSize),
    (Settings.readBufferSize, options.bufferSize)].filterMap
      fun (key, value) ↦ if value = 0 then some key else none

/-- The options that the settings ask for, the standard ones where they ask for none. -/
def ofSettings (settings : Settings) : Except StorageError ReadOptions := do
  let concurrency ← Settings.number Settings.readTransferConcurrency
    (settings.get? Settings.readTransferConcurrency)
  let chunkSize ← Settings.number Settings.readTransferChunkSize
    (settings.get? Settings.readTransferChunkSize)
  let bufferSize ← Settings.number Settings.readBufferSize
    (settings.get? Settings.readBufferSize)
  let options : ReadOptions :=
    { transferConcurrency := concurrency.getD standard.transferConcurrency
      transferChunkSize := chunkSize.getD standard.transferChunkSize
      bufferSize := bufferSize.getD standard.bufferSize }
  match options.zeroSettings with
  | [] => .ok options
  | key :: _ => .error (.zeroSetting key)

end ReadOptions

end BlobFs

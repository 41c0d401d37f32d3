import BlobFs.Entries
import BlobFs.Error
import BlobFs.Text.Blank
import BlobFs.Text.Lower
import BlobFs.Text.Word

/-!
# Session settings

A session is configured by named text values.  This file holds the names that mean something, how a
value is read as a number or a boolean, and the settings found in the process environment.

A value is read without the blanks around it, and a blank value counts as not set.
-/

set_option autoImplicit false

namespace BlobFs

/-- The settings of a session. -/
abbrev Settings := Entries

namespace Settings

/-! ## Names -/

def readBufferSize : String := "azure_read_buffer_size"
def readTransferConcurrency : String := "azure_read_transfer_concurrency"
def readTransferChunkSize : String := "azure_read_transfer_chunk_size"
def contextCaching : String := "azure_context_caching"
def httpStats : String := "azure_http_stats"
def transportOptionType : String := "azure_transport_option_type"
def httpProxy : String := "azure_http_proxy"
def proxyUserName : String := "azure_proxy_user_name"
def proxyPassword : String := "azure_proxy_password"
def storageConnectionString : String := "azure_storage_connection_string"
def credentialChain : String := "azure_credential_chain"
def accountName : String := "azure_account_name"
def endpoint : String := "azure_endpoint"

/-- Every name that means something. -/
def known : List String :=
  [readBufferSize, readTransferConcurrency, readTransferChunkSize, contextCaching, httpStats,
    transportOptionType, httpProxy, proxyUserName, proxyPassword, storageConnectionString,
    credentialChain, accountName, endpoint]

/-! ## Reading a value -/

/-- A value as a number below 2⁶⁴; none when it is missing or blank. -/
def number (key : String) (value : Option String) : Except StorageError (Option Nat) :=
  match value.map Text.trim with
  | none => .ok none
  | some text =>
    if text.isEmpty then .ok none
    else match Text.word? text with
      | some n => .ok (some n)
      | none => .error (.invalidNumber key text)

/-- The boolean that a lower-case text stands for. -/
def booleanWord? : String → Option Bool
  | "true" | "1" | "on" | "yes" => some true
  | "false" | "0" | "off" | "no" => some false
  | _ => none

/-- A value as a boolean, in any letter case; none when it is missing or blank. -/
def boolean (key : String) (value : Option String) : Except StorageError (Option Bool) :=
  match value.map fun v ↦ Text.lower (Text.trim v) with
  | none => .ok none
  | some text =>
    if text.isEmpty then .ok none
    else match booleanWord? text with
      | some b => .ok (some b)
      | none => .error (.invalidBoolean key text)

/-- The switch `key`, or `fallback` when it is not set. -/
def switch (settings : Settings) (key : String) (fallback : Bool) : Except StorageError Bool :=
  match boolean key (settings.get? key) with
  | .ok value => .ok (value.getD fallback)
  | .error e => .error e

/-- A value that is not blank, as it stands. -/
def nonBlank (value : Option String) : Option String :=
  value.filter fun text ↦ !Text.isBlankText text

/-! ## The environment's settings -/

/-- The environment variable that sets `key`. -/
def variableOf (key : String) : String :=
  String.ofList (key.toList.map Char.toUpper)

/-- The settings that the environment gives. -/
def ofEnvironment (lookup : String → Option String) : Settings :=
  .ofList (known.filterMap fun key ↦ (lookup (variableOf key)).map fun value ↦ (key, value))

end Settings

end BlobFs

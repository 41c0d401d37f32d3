import BlobFs.Error
import BlobFs.Text.Blank
import BlobFs.Text.Lower
import BlobFs.Text.Split

/-!
# Connection strings

A connection string names an account and its key in one text, `Key=Value;Key=Value`.  A part
without `=` or with a blank key says nothing; a value may hold further `=`.  Keys are compared
without regard to ASCII case, the first pair with a key decides, and an empty value counts as
missing.
-/

set_option autoImplicit false

namespace BlobFs

/-- The pairs of a connection string, in order. -/
structure ConnectionString where
  pairs : List (String × String)
  deriving DecidableEq

namespace ConnectionString

/-- One part of a connection string, if it says anything. -/
def parsePart (part : String) : Option (String × String) :=
  match Text.cut? '=' part with
  | none => none
  | some (key, value) =>
    let key := Text.trim key
    if key.isEmpty then none else some (key, Text.trim value)

/-- Reads a connection string; every text is one. -/
def parse (raw : String) : ConnectionString :=
  ⟨(Text.pieces ';' raw).filterMap parsePart⟩

/-- The value of a key. -/
def get? (cs : ConnectionString) (key : String) : Option String :=
  ((cs.pairs.find? fun pair ↦ Text.eqIgnoringCase pair.1 key).map Prod.snd).filter
    fun value ↦ !value.isEmpty

def accountName (cs : ConnectionString) : Option String := cs.get? "AccountName"
def accountKey (cs : ConnectionString) : Option String := cs.get? "AccountKey"

/-- The signature that stands in for a key. -/
def sharedAccessSignature (cs : ConnectionString) : Option String :=
  cs.get? "SharedAccessSignature"

/-- Whether the storage emulator on this machine is meant. -/
def usesDevelopmentStorage (cs : ConnectionString) : Bool :=
  match cs.get? "UseDevelopmentStorage" with
  | some value => Text.eqIgnoringCase value "true"
  | none => false

/-- The blob endpoint of the storage emulator. -/
def developmentEndpoint : String := "http://127.0.0.1:10000/devstoreaccount1"

/-- The account of the storage emulator. -/
def developmentAccount : String := "devstoreaccount1"

/-- The URL of the blob service: named outright, that of the emulator, or made of the account's
name. -/
def blobEndpoint (cs : ConnectionString) : Option String :=
  match cs.get? "BlobEndpoint" with
  | some endpoint => some (Text.dropTrailing '/' endpoint)
  | none =>
    if cs.usesDevelopmentStorage then some developmentEndpoint
    else cs.accountName.map fun account ↦
      (cs.get? "DefaultEndpointsProtocol").getD "https" ++ "://" ++ account ++ ".blob." ++
        (cs.get? "EndpointSuffix").getD "core.windows.net"

/-- Whether the connection string is for this account; any is when no account is asked for. -/
def matchesAccount (cs : ConnectionString) (account : String) : Except StorageError Bool :=
  if account.isEmpty then .ok true
  else match cs.accountName with
    | some name => .ok (name == account)
    | none => .error .invalidConnectionString

/-- The connection string described without key and signature. -/
def debug (cs : ConnectionString) : String :=
  Text.describeRecord "ConnectionString" [
    ("account_name", Text.describeOption Text.quote cs.accountName),
    ("blob_endpoint", Text.describeOption Text.quote cs.blobEndpoint)]

end ConnectionString

end BlobFs

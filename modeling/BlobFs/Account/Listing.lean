import BlobFs.Store.Basic
import BlobFs.Text.Word
import BlobFs.Time.HttpDate
import BlobFs.Xml.Basic

/-!
# What an account tells of its blobs

Of a blob an account tells the size and when it was written: in the headers of a response, or for
every blob of a page in an XML text.
-/

set_option autoImplicit false

namespace BlobFs

/-- What a blob is called in a listing, with what is told of it. -/
structure ListedBlob where
  name : String
  size : Nat
  modified : Int
  /-- Whether a directory is listed and not a blob. -/
  isDirectory : Bool

/-- One page of an account's listing. -/
structure AccountPage where
  blobs : List ListedBlob
  /-- What asks for the next page, if there is one. -/
  nextMarker : Option String

namespace AccountPage

/-- The blob that an element describes. -/
def blobOf? (node : XmlNode) : Option ListedBlob := do
  let name ← node.childText? "Name"
  let properties ← node.child? "Properties"
  let modified ← HttpDate.parse? (← properties.childText? "Last-Modified")
  let size ← Text.word? (← properties.childText? "Content-Length")
  let _ ← properties.child? "Content-Type"
  let isDirectory := properties.childText? "ResourceType" == some "directory"
  return { name, size, modified, isDirectory }

/-- The page that an XML text describes. -/
def ofXml? (text : String) : Option AccountPage := do
  let node ← XmlNode.parse? text
  let blobs ← ((← node.child? "Blobs").all "Blob").mapM blobOf?
  return { blobs, nextMarker := (node.childText? "NextMarker").filter (· ≠ "") }

end AccountPage

end BlobFs

import BlobFs.Error
import BlobFs.Text.Blank
import BlobFs.Text.Split

/-!
# Credential chains

A chain is configured as `;`-separated source names, blanks around them and blank items ignored.
It must name at least one source, and only known ones.

`ChainSource.expand` is the order in which the sources are asked: `default` stands for the usual
sources in its place, and every source is asked once, where it is named first.
-/

set_option autoImplicit false

namespace BlobFs

namespace ChainSource

/-! ## Reading a chain -/

/-- The items of a chain that are not blank, without the blanks around them. -/
def chainItems (chain : String) : List String :=
  ((Text.pieces ';' chain).map Text.trim).filter fun item ↦ !item.isEmpty

/-- The sources with these names, or the first name that is not known. -/
def ofNames : List String → Except StorageError (List ChainSource)
  | [] => .ok []
  | name :: rest =>
    match ofName? name with
    | none => .error (.unknownChainSource name)
    | some source =>
      match ofNames rest with
      | .ok sources => .ok (source :: sources)
      | .error e => .error e

/-- Reads a configured chain. -/
def parseChain (chain : String) : Except StorageError (List ChainSource) :=
  match ofNames (chainItems chain) with
  | .error e => .error e
  | .ok [] => .error .emptyChain
  | .ok sources => .ok sources

/-! ## The order of asking -/

/-- The sources that one source stands for. -/
def members : ChainSource → List ChainSource
  | .default => [.env, .cli, .managedIdentity]
  | source => [source]

/-- Adds the sources that are not there yet, in order. -/
def addNew (known more : List ChainSource) : List ChainSource :=
  more.foldl (fun acc source ↦ if source ∈ acc then acc else acc ++ [source]) known

/-- The sources to ask, in order and each once. -/
def expand (sources : List ChainSource) : List ChainSource :=
  sources.foldl (fun acc source ↦ addNew acc source.members) []

/-- The sources described as a list. -/
def debugList (sources : List ChainSource) : String :=
  Text.describeList label sources

end ChainSource

end BlobFs

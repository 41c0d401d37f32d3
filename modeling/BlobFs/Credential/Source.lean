/-!
# Sources of a chained credential

The strategies that a credential chain may name, each of which knows one way to come by a token.
-/

set_option autoImplicit false

namespace BlobFs

/-- One way to come by a token. -/
inductive ChainSource where
  | cli
  | managedIdentity
  | env
  /-- Stands for the usual sources in their usual order. -/
  | default
  deriving DecidableEq

namespace ChainSource

/-- The name in a configured chain. -/
def name : ChainSource → String
  | .cli => "cli"
  | .managedIdentity => "managed_identity"
  | .env => "env"
  | .default => "default"

/-- The source with this name. -/
def ofName? : String → Option ChainSource
  | "cli" => some .cli
  | "managed_identity" => some .managedIdentity
  | "env" => some .env
  | "default" => some .default
  | _ => none

/-- The name in messages. -/
def label : ChainSource → String
  | .cli => "Cli"
  | .managedIdentity => "ManagedIdentity"
  | .env => "Env"
  | .default => "Default"

theorem ofName?_name (source : ChainSource) : ofName? source.name = some source := by
  cases source <;> rfl

theorem eq_name_of_ofName? {name : String} {source : ChainSource}
    (h : ofName? name = some source) : name = source.name := by
  unfold ofName? at h
  split at h <;> cases h <;> rfl

end ChainSource

end BlobFs

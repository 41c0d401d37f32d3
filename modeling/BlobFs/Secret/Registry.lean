import BlobFs.Secret.Basic

/-!
# The registry of secrets

Secrets are held in the order of their latest registration, one for each name.  A look-up takes the
secret that fits the path best, and of equally good ones the one held longest, so registering a
secret again may change which one is found.
-/

set_option autoImplicit false

namespace BlobFs

/-- The registered secrets, the one registered last at the end. -/
structure SecretRegistry where
  secrets : List Secret
  deriving DecidableEq

namespace SecretRegistry

/-- A registry that holds nothing. -/
def empty : SecretRegistry := ⟨[]⟩

/-- The registry without the secret of this name. -/
def erase (r : SecretRegistry) (name : String) : SecretRegistry :=
  ⟨r.secrets.filter fun secret ↦ secret.name != name⟩

/-- The registry with a secret added at the end, in place of any of the same name. -/
def register (r : SecretRegistry) (secret : Secret) : SecretRegistry :=
  ⟨(r.erase secret.name).secrets ++ [secret]⟩

/-- Whether a secret of this name is held. -/
def holds (r : SecretRegistry) (name : String) : Bool :=
  r.secrets.any fun secret ↦ secret.name == name

/-- Removes a secret and says whether it was held. -/
def drop (r : SecretRegistry) (name : String) : Bool × SecretRegistry :=
  (r.holds name, r.erase name)

/-- The better of the best so far and the next secret in turn. -/
def better (path : String) (best : Option (Nat × Secret)) (secret : Secret) :
    Option (Nat × Secret) :=
  match secret.matchLength path, best with
  | none, _ => best
  | some length, none => some (length, secret)
  | some length, some (bestLength, _) => if bestLength < length then some (length, secret) else best

/-- The secret of a type that fits the path best. -/
def lookup (r : SecretRegistry) (path type : String) : Option Secret :=
  (((r.secrets.filter fun secret ↦ secret.type == type).foldl (better path) none)).map Prod.snd

end SecretRegistry

end BlobFs

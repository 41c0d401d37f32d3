/-!
# The machine around the process

What is read from outside a session: environment variables and files.  Both are given as functions,
so that everything above them is a function of its inputs.
-/

set_option autoImplicit false

namespace BlobFs

/-- Why the text of a file cannot be had. -/
inductive FileProblem where
  | notFound
  | notDirectory
  | isDirectory
  | notText
  | other (reason : String)
  deriving DecidableEq

/-- The problem in words. -/
def FileProblem.describe : FileProblem → String
  | .notFound => "No such file or directory (os error 2)"
  | .notDirectory => "Not a directory (os error 20)"
  | .isDirectory => "Is a directory (os error 21)"
  | .notText => "stream did not contain valid UTF-8"
  | .other reason => reason

/-- What the process finds around it. -/
structure Host where
  /-- The value of an environment variable. -/
  environment : String → Option String
  /-- The text of a file, or why it cannot be had. -/
  fileText : String → Except FileProblem String
  /-- Whether there is a file, and not a directory, at the path. -/
  isFile : String → Bool

/-- A machine without variables and files. -/
def Host.empty : Host :=
  { environment := fun _ ↦ none
    fileText := fun _ ↦ .error .notFound
    isFile := fun _ ↦ false }

/-- The value of an environment variable, unless it is empty. -/
def Host.filled? (host : Host) (name : String) : Option String :=
  (host.environment name).filter fun value ↦ !value.isEmpty

end BlobFs

import BlobFs.Host
import BlobFs.Text.Split

/-!
# A machine in memory

Variables, files and directories held in tables, to run against in place of the machine that the
process is on.  A path is looked up by its segments after `.` and `..` have been carried out, so the
tables may hold any spelling of it.
-/

set_option autoImplicit false

namespace BlobFs

/-- A machine with a few variables, files and directories. -/
structure Machine where
  environment : List (String × String)
  files : List (String × Except FileProblem String)
  directories : List String

namespace Machine

/-- One more segment on a path whose last segment stands first. -/
def pushPart (parts : List String) (part : String) : List String :=
  if part = "" ∨ part = "." then parts
  else if part = ".." then parts.drop 1
  else part :: parts

/-- The segments of a path. -/
def partsOf (path : String) : List String :=
  ((Text.pieces '/' path).foldl pushPart []).reverse

/-- Whether a path can only name a directory. -/
def asksForDirectory (path : String) : Bool :=
  path.toList.getLast? == some '/'

/-- The file at a path. -/
def file? (m : Machine) (path : String) : Option (Except FileProblem String) :=
  (m.files.find? fun file ↦ partsOf file.1 == partsOf path).map Prod.snd

/-- Whether there is a directory at a path: one of the table or one that something lies in. -/
def isDirectory (m : Machine) (path : String) : Bool :=
  (m.directories ++ m.files.map Prod.fst).any fun other ↦ (partsOf path).isPrefixOf (partsOf other)

/-- The text of the file at a path. -/
def fileText (m : Machine) (path : String) : Except FileProblem String :=
  if path.isEmpty then .error .notFound
  else match m.file? path with
    | some content => if asksForDirectory path then .error .notDirectory else content
    | none =>
      if m.isDirectory path then .error .isDirectory
      else if (List.range (partsOf path).length).any fun count ↦
          (m.file? ("/".intercalate ((partsOf path).take count))).isSome then .error .notDirectory
      else .error .notFound

/-- Whether there is a file at a path. -/
def isFile (m : Machine) (path : String) : Bool :=
  !path.isEmpty && !asksForDirectory path && (m.file? path).isSome

/-- The machine as what a process finds around it. -/
def host (m : Machine) : Host where
  environment name := m.environment.lookup name
  fileText := m.fileText
  isFile := m.isFile

end Machine

end BlobFs

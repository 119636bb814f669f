import HubProxy.Path
import HubProxy.Text.Quoted

/-!
# Why a file operation fails

Each cause carries the path that it concerns. `FileError.message` is the wording, which shows the
number of the cause as well.
-/

namespace HubProxy

inductive FileError where
  | notFound (path : Path)
  /-- Something is at the path already. -/
  | taken (path : Path)
  /-- A file is where the path leads through a directory. -/
  | notDirectory (path : Path)
  | isDirectory (path : Path)
  /-- A name on the path, or the path as a whole, is too long. -/
  | nameTooLong (path : Path)
  /-- A name on the path holds a NUL, which would end it. -/
  | nullInName
  /-- The system refuses for a reason of its own. -/
  | refused (reason : String)
  /-- The path has no last name to put another one in place of. -/
  | nameless (path : Path)
  /-- The bytes of a file are no text. -/
  | undecodable
  deriving DecidableEq, Repr

def numberedCause (number : Nat) (wording : String) (path : Path) : String :=
  "[Errno " ++ toString number ++ "] " ++ wording ++ ": " ++ Text.quoted path.text

def FileError.message : FileError → String
  | .notFound path => numberedCause 2 "No such file or directory" path
  | .taken path => numberedCause 17 "File exists" path
  | .notDirectory path => numberedCause 20 "Not a directory" path
  | .isDirectory path => numberedCause 21 "Is a directory" path
  | .nameTooLong path => numberedCause 36 "File name too long" path
  | .nullInName => "embedded null byte"
  | .refused reason => reason
  | .nameless path => Text.quoted path.text ++ " has an empty name"
  | .undecodable => "a file does not hold text"

/-- Whether the cause lies in the file system, so that it is reported as such. -/
def FileError.isReported : FileError → Bool
  | .nullInName | .nameless _ | .undecodable => false
  | _ => true

end HubProxy

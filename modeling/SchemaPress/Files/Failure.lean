import SchemaPress.Files.Path
import SchemaPress.Release.Crash
import SchemaPress.Text.Literal

/-!
# Failures of file operations
-/

namespace SchemaPress

/-- Why the system refuses a file operation. -/
inductive Refusal where
  | notFound
  | denied
  | alreadyThere
  | notDirectory
  | isDirectory
  | nameTooLong
  | tooManyLinks
deriving DecidableEq, Repr

namespace Refusal

/-- The system's number of the refusal. -/
def number : Refusal → Nat
  | .notFound => 2
  | .denied => 13
  | .alreadyThere => 17
  | .notDirectory => 20
  | .isDirectory => 21
  | .nameTooLong => 36
  | .tooManyLinks => 40

/-- The system's words for the refusal. -/
def reason : Refusal → String
  | .notFound => "No such file or directory"
  | .denied => "Permission denied"
  | .alreadyThere => "File exists"
  | .notDirectory => "Not a directory"
  | .isDirectory => "Is a directory"
  | .nameTooLong => "File name too long"
  | .tooManyLinks => "Too many levels of symbolic links"

/-- The refusal as it is reported, without the path. -/
def message (refusal : Refusal) : String :=
  "[Errno " ++ toString refusal.number ++ "] " ++ refusal.reason

/-- Whether a refusal only says that the path leads nowhere. -/
def leadsNowhere : Refusal → Bool
  | .notFound | .notDirectory | .tooManyLinks => true
  | _ => false

end Refusal

/-- A file operation that did not succeed. -/
inductive FileFailure where
  /-- The system refused an operation on the entry that the text spells. -/
  | refused (refusal : Refusal) (path : String)
  /-- The system refused to move an entry. -/
  | unmoved (refusal : Refusal) (source target : String)
  /-- The operation was not even tried. -/
  | crash (cause : Crash)
deriving DecidableEq, Repr

namespace FileFailure

/-- The failure as it is reported. -/
def message : FileFailure → String
  | .refused refusal path => refusal.message ++ ": " ++ Text.literal path
  | .unmoved refusal source target =>
    refusal.message ++ ": " ++ Text.literal source ++ " -> " ++ Text.literal target
  | .crash _ => ""

/-- The crash that the failure is where nothing reports it. -/
def toCrash : FileFailure → Crash
  | .refused refusal _ => .system refusal.number
  | .unmoved refusal _ _ => .system refusal.number
  | .crash cause => cause

end FileFailure

end SchemaPress

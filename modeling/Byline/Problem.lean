/-!
# Problems

What can go wrong. A problem belongs to one file or to one script; a run records it and goes on.
`Problem.message` is its wording, and `Problem.fullMessage` adds the cause.
-/

namespace Byline

/-- Why a file could not be used. -/
inductive Cause where
  | notFound
  | alreadyExists
  | notDirectory
  | isDirectory
  /-- A directory would be moved below itself. -/
  | invalidMove
  /-- A name, or the whole path, is longer than allowed. -/
  | nameTooLong
  | notEmpty
  /-- The path holds a character that no path may hold. -/
  | nulInPath
  /-- The octets are no text. -/
  | invalidText
  deriving DecidableEq, Repr

/-- The wording of a cause. -/
def Cause.message : Cause → String
  | .notFound => "No such file or directory (os error 2)"
  | .alreadyExists => "File exists (os error 17)"
  | .notDirectory => "Not a directory (os error 20)"
  | .isDirectory => "Is a directory (os error 21)"
  | .invalidMove => "Invalid argument (os error 22)"
  | .nameTooLong => "File name too long (os error 36)"
  | .notEmpty => "Directory not empty (os error 39)"
  | .nulInPath => "file name contained an unexpected NUL byte"
  | .invalidText => "stream did not contain valid UTF-8"

/-- What was done to a file when it went wrong. -/
inductive Stage where
  | read
  | remove
  | restore
  | removeOldTest
  | removeOldBackup
  | makeCopy
  | backUp
  | replace
  deriving DecidableEq, Repr

/-- The wording of a stage. -/
def Stage.message : Stage → String
  | .read => "read"
  | .remove => "remove"
  | .restore => "restore"
  | .removeOldTest => "remove stale test output"
  | .removeOldBackup => "remove stale backup"
  | .makeCopy => "rewrite"
  | .backUp => "back up"
  | .replace => "replace"

/-- What went wrong. -/
inductive Problem where
  /-- A file could not be analyzed: it could not be read, or it declares nothing. -/
  | analysis (path : String) (cause : Option Cause)
  /-- There is no script. -/
  | noScript (path : String) (cause : Cause)
  /-- The script could not be read to its end. -/
  | unreadableScript (path : String) (cause : Cause)
  /-- A file could not be written, or its backup not put back. -/
  | handling (path : String) (stage : Stage) (cause : Cause)
  /-- What was written could not be read back. -/
  | noDifference (path : String) (cause : Cause)
  /-- The text is no filter. -/
  | invalidFilter (filter : String)
  deriving DecidableEq, Repr

namespace Problem

/-- The wording of a problem. -/
def message : Problem → String
  | analysis path none =>
    "no public type found in " ++ path ++ ": no type declaration or package statement"
  | analysis path (some c) => "no public type found in " ++ path ++ ": " ++ c.message
  | noScript path _ => "rule script not found: " ++ path
  | unreadableScript path _ => "failed to read rule script " ++ path
  | handling path stage _ => "failed to " ++ stage.message ++ " " ++ path
  | noDifference path _ => "cannot compute diff for " ++ path
  | invalidFilter filter => "invalid filter `" ++ filter ++ "`"

/-- The cause that the wording leaves out. -/
def cause? : Problem → Option Cause
  | noScript _ c => some c
  | unreadableScript _ c => some c
  | handling _ _ c => some c
  | noDifference _ c => some c
  | _ => none

/-- The wording of a problem, followed by its cause. -/
def fullMessage (p : Problem) : String :=
  match p.cause? with
  | none => p.message
  | some c => p.message ++ ": " ++ c.message

end Problem

end Byline

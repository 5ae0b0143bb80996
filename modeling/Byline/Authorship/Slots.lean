import Byline.Mode

/-!
# Slots of a source file

A run may touch four files for each source file: the live file itself, and beside it a backup, a
working copy and a test output. Their paths differ from the path of the live file by a suffix.
-/

namespace Byline

/-- The paths of the files that belong to a source file. -/
structure Slots where
  live : String
  backup : String
  temp : String
  test : String
  deriving DecidableEq, Repr

namespace Slots

/-- The slots of the file at a path. -/
def of (path : String) : Slots :=
  ⟨path, path ++ ".at-save", path ++ ".at-temp", path ++ ".at-test"⟩

/-- Where the result of a write is. -/
def output (s : Slots) : Mode → String
  | .test => s.test
  | _ => s.live

/-- Where the file as it was is, after a write. -/
def source (s : Slots) : Mode → String
  | .backup => s.backup
  | _ => s.live

end Slots

end Byline

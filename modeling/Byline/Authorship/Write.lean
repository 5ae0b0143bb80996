import Byline.Record.Basic
import Byline.Authorship.Block
import Byline.Authorship.Slots
import Byline.Storage.Journal
import Byline.Text.Quoted

/-!
# Writing a record to disk

`Record.write` puts the authors of a record into its file, as the mode says: the changed file is
first made as a working copy, and takes the place of the live file, or of the test output, when it
is complete. In restore mode the backup is put back instead. A record without a type or an anchor,
or one to be skipped, leaves the live file alone.

The work is done on a `Journal`, so that what was done before a problem shows too.
-/

namespace Byline

/-- Work on a disk that may end with a problem. -/
abbrev Work := EStateM Problem Journal

namespace Work

/-- Notes an event. -/
def note (level : Level) (message : String) : Work Unit :=
  modify (·.note level message)

/-- Does one operation on the disk. Its failure is a problem of the stage at the path. -/
def apply (stage : Stage) (path : String) (op : Disk → Except Cause Disk) : Work Unit := fun j =>
  match op j.disk with
  | .ok d => .ok () { j with disk := d }
  | .error c => .error (.handling path stage c) j

/-- Gets something from the disk. Its failure is a problem of the stage at the path. -/
def query {α : Type} (stage : Stage) (path : String) (op : Disk → Except Cause α) : Work α :=
  fun j =>
    match op j.disk with
    | .ok a => .ok a j
    | .error c => .error (.handling path stage c) j

/-- Does some work, and removes the file at the path if the work ends with a problem. -/
def orRemove (path : String) (work : Work Unit) : Work Unit := fun j =>
  match work j with
  | .ok a j => .ok a j
  | .error p j =>
    .error p { j with disk := (j.disk.removeFile path).toOption.getD j.disk }

end Work

/-- What became of a record that was written. -/
inductive Written where
  | installed
  | skipped
  | restored
  | nothingToRestore
  deriving DecidableEq, Repr

/-- The name of an outcome. -/
def Written.name : Written → String
  | .installed => "rewritten"
  | .skipped => "skipped"
  | .restored => "restored"
  | .nothingToRestore => "nothing_to_restore"

namespace Slots

/-- Puts the backup back. -/
def restore (s : Slots) : Work Written := do
  if !(← get).disk.has s.backup then return .nothingToRestore
  Work.note .debug ("Restoring " ++ s.live)
  Work.apply .remove s.live (·.removeIfPresent s.live)
  Work.apply .restore s.backup (·.rename s.backup s.live)
  return .restored

/-- Removes what earlier runs left beside the file and the mode does not keep. -/
def removeOld (s : Slots) (mode : Mode) : Work Unit := do
  if mode ≠ .test then Work.apply .removeOldTest s.test (·.removeIfPresent s.test)
  if mode = .noBackup then Work.apply .removeOldBackup s.backup (·.removeIfPresent s.backup)

/-- Makes the working copy: the live file with the authors in its authorship block. -/
def makeCopy (s : Slots) (authors : List String) (anchor : Nat) : Work Unit := do
  let live ← Work.query .makeCopy s.live (·.lookup s.live)
  Work.apply .makeCopy s.live (·.write s.temp [])
  let source ← Work.query .makeCopy s.live fun _ => Disk.content live
  Work.apply .makeCopy s.live (·.write s.temp (Authorship.retagChunks [source] authors anchor))

/-- Moves the working copy into the output of the mode, after the live file was made the backup in
backup mode. -/
def install (s : Slots) (mode : Mode) : Work Unit := do
  if mode = .backup then
    Work.note .trace ("Backing up to: " ++ s.backup)
    Work.apply .removeOldBackup s.backup (·.removeIfPresent s.backup)
    Work.apply .backUp s.live (·.rename s.live s.backup)
  let output := s.output mode
  Work.note .trace ("Writing " ++ output)
  Work.apply .replace output (·.removeIfPresent output)
  Work.apply .replace output (·.rename s.temp output)

end Slots

/-- Writes a record to disk as the mode says. -/
def Record.write (r : Record) (mode : Mode) : Work Written := do
  let s := Slots.of r.path
  if mode = .restore then s.restore
  else
    s.removeOld mode
    match r.typeName, r.anchor, r.disposition with
    | some name, some anchor, .merge | some name, some anchor, .overwrite =>
      Work.note .info ("Processing type: " ++ name)
      Work.note .debug ("Final author list for " ++ name ++ " is: " ++ Quoted.encodeList r.written)
      Work.orRemove s.temp (s.makeCopy r.written anchor)
      Work.orRemove s.temp (s.install mode)
      return .installed
    | _, _, _ =>
      Work.note .info ("Skipping file: " ++ s.live)
      return .skipped

end Byline

import Byline.Log
import Byline.Storage.Disk

/-!
# Journals

A journal is a disk on which work is done, with the events of that work. The events are kept in the
journal, unless it has a log file: then each event is written to that file when it happens, if its
level is grave enough, and is not kept.
-/

namespace Byline

/-- What goes into a log file: the events of a level and above, each with a time. The file itself
is the one that the disk holds open. -/
structure LogFile where
  level : Level
  /-- The time that is written before each event. -/
  time : String
  deriving DecidableEq, Repr

/-- A disk, and the events of the work done on it. -/
structure Journal where
  disk : Disk
  log : Log := []
  /-- What goes into the log file, if there is one. -/
  file : Option LogFile := none

namespace LogFile

/-- The lines of the events that go into the file. -/
def lines (f : LogFile) (log : Log) : Utf8.Bytes :=
  Utf8.ofString (String.join ((log.upTo f.level).map (Event.fileLine f.time)))

end LogFile

namespace Journal

/-- The journal after some events. -/
def addLog (j : Journal) (log : Log) : Journal :=
  match j.file with
  | none => { j with log := j.log ++ log }
  | some f => { j with disk := j.disk.extend (f.lines log) }

/-- The journal after an event. -/
def note (j : Journal) (level : Level) (message : String) : Journal :=
  j.addLog [⟨level, message⟩]

/-- Without a log file events leave the disk alone. -/
theorem disk_addLog {j : Journal} (h : j.file = none) (log : Log) :
    (j.addLog log).disk = j.disk := by
  simp [addLog, h]

/-- Events do not change where events go. -/
theorem file_addLog (j : Journal) (log : Log) : (j.addLog log).file = j.file := by
  unfold addLog
  split <;> rfl

end Journal

end Byline

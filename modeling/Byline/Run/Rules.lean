import Byline.Script.Interpreter
import Byline.Storage.Journal

/-!
# The rules of a run

`Script.load` lets the rule script at a path act on the records of a run. The events of each line
are noted before the next line is read, which shows where the script is the log file as well: such
a script grows while it is read, and each line is cut from the file as it is by then.
-/

namespace Byline.Script

/-- Reads the file at a path line by line as it grows, from an offset on. Ends with the file, at a
line that is no text, or after so many lines, and tells whether it did not end at such a line. -/
def readGrowing (path : String) : Nat → Nat → State → Journal → State × Bool × Journal
  | 0, _, s, j => (s, true, j)
  | lines + 1, offset, s, j =>
    match (Chunks.cutLine (((j.disk.read path).toOption.getD []).drop offset)).1 with
    | [] => (s, true, j)
    | line =>
      match Utf8.decode? line with
      | none => (s, false, j)
      | some text =>
        let (s, log) := s.step (String.ofList (chomp text))
        readGrowing path lines (offset + line.length) s (j.addLog log)

/-- More lines than a growing script can come to: no line has more events than there are records,
and two, and those are no rules themselves. -/
def growth (source : Utf8.Bytes) (rs : Records) : Nat :=
  ((Utf8.lines source).length + 1) * (rs.length + 3)

/-- Interprets the script at a path, which holds these octets at first. -/
def readScript (path : String) (source : Utf8.Bytes) (rs : Records) (j : Journal) :
    State × Bool × Journal :=
  if j.disk.isHeld path then readGrowing path (growth source rs) 0 { records := rs } j
  else
    let (s, log, whole) := runOctets source rs
    (s, whole, j.addLog log)

/-- Lets the script at a path act on records. Gives the records, and what the script did, or else
the problem with it. -/
def load (path : String) (rs : Records) (j : Journal) :
    Records × Except Problem Stats × Journal :=
  match j.disk.lookup path with
  | .error c => (rs, .error (.noScript path c), j)
  | .ok t =>
    match Disk.content t with
    | .error c => (rs, .error (.unreadableScript path c), j)
    | .ok b =>
      let (s, whole, j) := readScript path b rs j
      (s.records, if whole then .ok s.stats else .error (.unreadableScript path .invalidText), j)

/-- The event of a problem with a script. -/
def problemEvent (p : Problem) : Event :=
  match p with
  | .noScript _ _ => ⟨.error, p.fullMessage ++ "; no rules applied"⟩
  | _ => ⟨.error, p.fullMessage ++ "; rule interpretation stopped early"⟩

end Byline.Script

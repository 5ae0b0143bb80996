import Byline.Problem
import Byline.Record.Collection
import Byline.Source.Analysis
import Byline.Storage.Journal
import Byline.Storage.Sources

/-!
# Analysis of the files of a run

The record of a file takes the type, the authors and the anchor that the analysis of the file
finds. The files without a type are discarded. Each event is noted when it happens, and shows in a
file that is read later if that is the log file.
-/

namespace Byline

namespace Record

/-- The record with the findings of an analysis. -/
def take (r : Record) (a : Source.Analysis) : Record :=
  { (a.authors.foldl addFound (r.nameType a.typeName)) with anchor := a.anchor }

/-- The record with the findings in its file. -/
def analyze (d : Disk) (r : Record) : Except Problem Record :=
  match d.read r.path with
  | .error c => .error (.analysis r.path (some c))
  | .ok b =>
    match Source.analyzeBytes b (Path.stem r.path) with
    | none => .error (.analysis r.path none)
    | some a => .ok (r.take a)

/-- The event of what an analysis found. -/
def findingsEvent (r : Record) : Event :=
  ⟨.trace, Quoted.encodeOption r.typeName ++ " anchored at line " ++
    Quoted.encodeNumber r.anchor ++ ", authors " ++ Quoted.encodeList r.authors⟩

/-- Analyzes a record and notes it. The file is read after the first event. -/
def intake (r : Record) (j : Journal) : Except Problem Record × Journal :=
  let j := j.note .trace ("Analyzing .java file: " ++ r.path)
  match r.analyze j.disk with
  | .ok r => (.ok r, j.addLog [r.findingsEvent])
  | .error p => (.error p, j.note .warn ("Discarding file: " ++ p.message))

end Record

namespace Records

/-- Analyzes records one after the other; gives those with a type and the number of the others. -/
def intakeEach : List Record → Journal → Records × Nat × Journal
  | [], j => ([], 0, j)
  | r :: rest, j =>
    let (result, j) := r.intake j
    let (rs, discarded, j) := intakeEach rest j
    match result with
    | .ok r => (r :: rs, discarded, j)
    | .error _ => (rs, discarded + 1, j)

/-- Analyzes all records. -/
def intakeAll (rs : List Record) (j : Journal) : Records × Nat × Journal :=
  intakeEach rs (j.note .debug ("Analyzing " ++ toString rs.length ++ " .java files"))

end Records

/-- The records of the source files below a directory, and the events of the scan. -/
def Disk.enumerate (d : Disk) (base : String) : List Record × Log :=
  let (found, log) := d.findSources base
  (found.map fun p => { path := p }, log)

end Byline

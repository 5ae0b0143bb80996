import Byline.Diff.Compare
import Byline.Digest
import Byline.Report.Basic
import Byline.Authorship.Write

/-!
# Processing the files of a run

A record is written to disk, and its entry in the report is made from the file as it was and as it
is then. A problem with one file is noted in its entry, and the others go on.
-/

namespace Byline

/-- The lines of a file. -/
def Utf8.textLines (b : Utf8.Bytes) : List String :=
  (Byline.lines (Utf8.decodeLossy b)).map String.ofList

/-- The name under which a file is shown in a difference. -/
def Path.shownName (path : String) : String := (Path.fileName? path).getD path

namespace Record

/-- The entry of a record without further details. -/
def report (r : Record) (outcome : Outcome) : ReportEntry :=
  { path := r.path, typeName := r.typeName, disposition := r.disposition, outcome := outcome }

/-- The difference between the file as it was and as it is in the output of the mode. -/
def difference (r : Record) (mode : Mode) (before after : Utf8.Bytes) : Diff :=
  let s := Slots.of r.path
  Diff.compare (Path.shownName (s.source mode)) (Path.shownName (s.output mode))
    (Utf8.textLines before) (Utf8.textLines after)

/-- Compares the output with the file as it was, after the record was written. -/
def compareOutput (r : Record) (mode : Mode) (before : Utf8.Bytes) (j : Journal) :
    Record × ReportEntry × Journal :=
  let output := (Slots.of r.path).output mode
  let entry := { r.report .changed with
    authors := r.written, hashBefore := some (Digest.hex before) }
  match j.disk.read output with
  | .ok after =>
    let diff := r.difference mode before after
    ({ r with diff := some diff },
      { entry with
        outcome := if diff.isEmpty then .unchanged else .changed
        hashAfter := some (Digest.hex after)
        diff := some diff }, j)
  | .error c => (r, entry, j.note .warn (Problem.noDifference output c).fullMessage)

/-- Writes a record to disk and makes its entry. -/
def process (r : Record) (mode : Mode) (j : Journal) : Record × ReportEntry × Journal :=
  match j.disk.read r.path with
  | .error c =>
    let p := Problem.handling r.path .read c
    (r, { r.report .failed with error := some p.fullMessage }, j.note .error p.fullMessage)
  | .ok before =>
    let hash := some (Digest.hex before)
    match r.write mode j with
    | .ok .installed j => r.compareOutput mode before j
    | .ok _ j => (r, { r.report .skipped with hashBefore := hash }, j)
    | .error p j =>
      (r, { r.report .failed with hashBefore := hash, error := some p.fullMessage },
        j.note .error ("Error while writing author tags: " ++ p.fullMessage))

/-- Puts the backup of a record back and makes its entry. -/
def restore (r : Record) (j : Journal) : ReportEntry × Journal :=
  match r.write .restore j with
  | .ok .restored j => (r.report .restored, j)
  | .ok _ j => (r.report .nothingToRestore, j)
  | .error p j => ({ r.report .failed with error := some p.fullMessage }, j.note .error p.fullMessage)

end Record

namespace Records

/-- Processes records one after the other. -/
def processAll (mode : Mode) : Records → Journal → List ReportEntry × Journal
  | [], j => ([], j)
  | r :: rs, j =>
    let (_, entry, j) := r.process mode j
    let (entries, j) := processAll mode rs j
    (entry :: entries, j)

/-- Restores records one after the other. -/
def restoreAll : List Record → Journal → List ReportEntry × Journal
  | [], j => ([], j)
  | r :: rs, j =>
    let (entry, j) := r.restore j
    let (entries, j) := restoreAll rs j
    (entry :: entries, j)

end Records

end Byline

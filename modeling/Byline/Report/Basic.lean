import Byline.Diff.Basic
import Byline.Json
import Byline.Mode
import Byline.Script.Interpreter

/-!
# Reports

What a run did: for each file its outcome, the authors written, the digests and the difference
between the file before and after, and for the whole run the counts.
-/

namespace Byline

/-- What became of a file. -/
inductive Outcome where
  | changed
  | unchanged
  | skipped
  | failed
  | restored
  | nothingToRestore
  deriving DecidableEq, Repr

namespace Outcome

/-- All outcomes. -/
def all : List Outcome := [.changed, .unchanged, .skipped, .failed, .restored, .nothingToRestore]

/-- The name of an outcome in reports. -/
def name : Outcome → String
  | .changed => "rewritten"
  | .unchanged => "unchanged"
  | .skipped => "skipped"
  | .failed => "failed"
  | .restored => "restored"
  | .nothingToRestore => "nothing_to_restore"

/-- The name of an outcome in text. -/
def display : Outcome → String
  | .changed => "Rewritten"
  | .unchanged => "Unchanged"
  | .skipped => "Skipped"
  | .failed => "Failed"
  | .restored => "Restored"
  | .nothingToRestore => "NothingToRestore"

end Outcome

/-- What a run did with one file. -/
structure ReportEntry where
  path : String
  typeName : Option String
  disposition : Disposition
  outcome : Outcome
  /-- The authors that were written. -/
  authors : List String := []
  /-- The digest of the file before the run. -/
  hashBefore : Option String := none
  /-- The digest of the file that was written. -/
  hashAfter : Option String := none
  diff : Option Diff := none
  /-- The problem with the file, if there was one. -/
  error : Option String := none
  deriving DecidableEq, Repr

/-- The name under which a file is shown: that of its type, or its path. -/
def ReportEntry.title (f : ReportEntry) : String := f.typeName.getD f.path

/-- The counts of a run. -/
structure Summary where
  /-- The source files found. -/
  enumerated : Nat := 0
  /-- Those of them with a type. -/
  analyzed : Nat := 0
  /-- Those of them without one. -/
  discarded : Nat := 0
  /-- Those that the rules dropped. -/
  skippedByRules : Nat := 0
  changed : Nat := 0
  unchanged : Nat := 0
  skipped : Nat := 0
  restored : Nat := 0
  failed : Nat := 0
  deriving DecidableEq, Repr

/-- What a run did. -/
structure Report where
  mode : Mode
  projectDir : String
  sourceRoot : String
  /-- What the rules did, if they were read. -/
  rules : Option Script.Stats
  summary : Summary
  files : List ReportEntry
  deriving DecidableEq, Repr

namespace Report

/-- The entry of a type. -/
def file? (r : Report) (typeName : String) : Option ReportEntry :=
  r.files.find? fun f => f.typeName == some typeName

end Report

/-! ## Reports as JSON -/

/-- A chunk as JSON. -/
def Chunk.toJson (c : Chunk) : Json :=
  .object [("position", .number c.position), ("lines", .strings c.lines)]

/-- The name of a kind of delta. -/
def Delta.Kind.name : Delta.Kind → String
  | .insert => "insert"
  | .delete => "delete"
  | .change => "change"

/-- A delta as JSON. -/
def Delta.toJson (d : Delta) : Json :=
  .object [("kind", .string d.kind.name), ("original", d.old.toJson),
    ("revised", d.new.toJson)]

/-- A difference as JSON. -/
def Diff.toJson (d : Diff) : Json :=
  .object [("original_name", .string d.oldName), ("revised_name", .string d.newName),
    ("deltas", .array (d.deltas.map Delta.toJson)), ("unified", .strings d.unified)]

/-- The counts of a script as JSON. -/
def Script.Stats.toJson (s : Script.Stats) : Json :=
  .object [("lines", .number s.lines), ("skipped_records", .number s.skipped),
    ("added", .number s.added), ("removed", .number s.removed)]

/-- The counts of a run as JSON. -/
def Summary.toJson (s : Summary) : Json :=
  .object [("enumerated", .number s.enumerated), ("analyzed", .number s.analyzed),
    ("discarded", .number s.discarded), ("skipped_by_rules", .number s.skippedByRules),
    ("rewritten", .number s.changed), ("unchanged", .number s.unchanged),
    ("skipped", .number s.skipped), ("restored", .number s.restored),
    ("failed", .number s.failed)]

/-- The entry of a file as JSON. -/
def ReportEntry.toJson (f : ReportEntry) : Json :=
  .object [("path", .string f.path), ("type_name", .ofOption f.typeName),
    ("disposition", .string f.disposition.name), ("outcome", .string f.outcome.name),
    ("authors", .strings f.authors), ("original_hash", .ofOption f.hashBefore),
    ("rewritten_hash", .ofOption f.hashAfter),
    ("diff", (f.diff.map Diff.toJson).getD .null), ("error", .ofOption f.error)]

/-- A report as JSON. -/
def Report.toJson (r : Report) : Json :=
  .object [("mode", .string r.mode.name), ("project_dir", .string r.projectDir),
    ("source_root", .string r.sourceRoot),
    ("rules", (r.rules.map Script.Stats.toJson).getD .null), ("summary", r.summary.toJson),
    ("files", .array (r.files.map ReportEntry.toJson))]

end Byline

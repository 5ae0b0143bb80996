import Byline.Run.Intake
import Byline.Run.Process
import Byline.Run.Rules
import Byline.Run.Settings

/-!
# A run

A run enumerates the source files, analyzes them, lets the rule script act on their records, and
processes them one after the other; in restore mode it only puts the backups back. A script that is
missing, or cannot be read to its end, does not stop the run: what it did so far stays.
-/

namespace Byline

/-- The number of entries with an outcome. -/
def countOutcome (o : Outcome) (files : List ReportEntry) : Nat :=
  files.countP fun f => f.outcome == o

namespace Settings

/-- The report of a run. -/
def makeReport (s : Settings) (rules : Option Script.Stats) (summary : Summary)
    (files : List ReportEntry) : Report :=
  ⟨s.mode, s.projectDir, s.sourceRoot, rules, summary, files⟩

/-- Restores the records of the source files. -/
def runRestore (s : Settings) (rs : List Record) (j : Journal) : Report × Journal :=
  let (files, j) := Records.restoreAll rs (j.note .info "Restoring backup files")
  (s.makeReport none
    { enumerated := rs.length
      restored := countOutcome .restored files
      failed := countOutcome .failed files } files, j)

/-- Tags the source files. -/
def runTagging (s : Settings) (rs : List Record) (j : Journal) : Report × Journal :=
  let j := j.note .info ("Analyzing " ++ toString rs.length ++ " .java files")
  let (analyzed, discarded, j) := Records.intakeAll rs j
  let j := j.note .info "Reading rule script and tagging (in memory)"
  let (kept, result, j) := Script.load s.rulesPath analyzed j
  let stats := result.toOption
  let j := j.addLog (match result with
    | .ok _ => []
    | .error p => [Script.problemEvent p])
  let (files, j) := Records.processAll s.mode kept (j.note .info "Writing to disk")
  (s.makeReport stats
    { enumerated := rs.length
      analyzed := analyzed.length
      discarded := discarded
      skippedByRules := (stats.map (·.skipped)).getD 0
      changed := countOutcome .changed files
      unchanged := countOutcome .unchanged files
      skipped := countOutcome .skipped files
      failed := countOutcome .failed files } files, j)

/-- Does a run. -/
def run (s : Settings) (j : Journal) : Report × Journal :=
  let j := j.note .info ("Author tagging running in " ++ s.mode.display ++ " mode")
  let j := j.note .info ("Enumerating .java files in directory: " ++ s.sourceRoot)
  let (rs, log) := j.disk.enumerate s.sourceRoot
  let j := j.addLog log
  let (report, j) := if s.mode = .restore then s.runRestore rs j else s.runTagging rs j
  (report, j.note .info "Done!")

end Settings

end Byline

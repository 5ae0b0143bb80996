import Byline.Report.Basic

/-!
# Reports as plain text

The mode, the project and the counts, and then a section for each file.
-/

namespace Byline.Report

/-- A line with its end. -/
def line (s : String) : String := s ++ "\n"

/-- The counts of a run in words. -/
def counts (s : Summary) : String :=
  toString s.analyzed ++ " analyzed, " ++ toString s.changed ++ " rewritten, " ++
    toString s.unchanged ++ " unchanged, " ++ toString s.skipped ++ " skipped, " ++
    toString s.failed ++ " failed"

/-- The section of a file: its name and outcome, the authors, the problem and the difference. -/
def fileText (f : ReportEntry) : String :=
  line ("\n== " ++ f.title ++ " (" ++ f.outcome.display ++ ")") ++
    (if f.authors.isEmpty then "" else line ("authors: " ++ ", ".intercalate f.authors)) ++
    (match f.error with | none => "" | some e => line ("error: " ++ e)) ++
    (match f.diff with | none => "" | some d => String.join (d.unified.map line))

/-- A report as plain text. -/
def toText (r : Report) : String :=
  line ("mode: " ++ r.mode.display) ++ line ("project_dir: " ++ r.projectDir) ++
    line ("files: " ++ toString r.summary.enumerated ++ " enumerated, " ++ counts r.summary) ++
    String.join (r.files.map fileText)

end Byline.Report

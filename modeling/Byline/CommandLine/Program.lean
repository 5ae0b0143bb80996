import Byline.CommandLine.Arguments
import Byline.Run.Run

/-!
# The program

`Program.run` does what the command line asks for: it reads the arguments, finds the settings, does
the run and writes the report. Its answer is the summary that is printed, or the reason why there is
none.
-/

namespace Byline

namespace Settings

/-- The file and format of the report, if one is written. -/
def reportOf (a : Arguments) (projectDir : String) : Option (String × Format) :=
  let format := a.reportFormat.getD .html
  if a.noReport || a.mode == some .restore then none
  else some (a.report.getD (Path.join projectDir (reportStem ++ "." ++ format.extension)), format)

/-- The settings for arguments, or the reason why the project cannot be used. -/
def ofArguments (d : Disk) (a : Arguments) : Except String Settings :=
  let given := a.projectDir.getD ""
  if !d.hasDir given then
    .error ("Project directory does not exist or is not a directory: " ++ given)
  else match d.canonical given with
    | .error c => .error ("Failed to resolve project directory: " ++ given ++ ": " ++ c.message)
    | .ok dir =>
      let s := ofProject d dir (a.mode.getD .backup)
      .ok { s with
        sourceRoot := a.src.getD s.sourceRoot
        rulesPath := a.rules.getD s.rulesPath
        report := reportOf a dir
        log := .ofVerbosity a.verbose a.quiet a.logFile }

end Settings

/-- The entry of a file in the summary. -/
def ReportEntry.summaryJson (f : ReportEntry) : Json :=
  .object ([("path", .string f.path), ("type_name", .ofOption f.typeName),
    ("outcome", .string f.outcome.name), ("authors", .strings f.authors)] ++
    match f.error with
    | none => []
    | some e => [("error", .string e)])

/-- The summary of a run. -/
def Settings.summaryJson (s : Settings) (r : Report) : Json :=
  .object [("mode", .string r.mode.name), ("project_dir", .string r.projectDir),
    ("report_path", .ofOption (s.report.map (·.1))),
    ("rules", (r.rules.map Script.Stats.toJson).getD .null), ("summary", r.summary.toJson),
    ("files", .array (r.files.map ReportEntry.summaryJson))]

namespace Program

/-- What the program answers. -/
inductive Answer where
  /-- The arguments were refused. -/
  | refused (reason : Refusal)
  /-- There was no run, or its report could not be written. -/
  | failed (message : String)
  /-- A run was done. -/
  | done (settings : Settings) (summary : Json)

/-- The journal in which a run on a disk starts: with a log file, if one is asked for, that is made
where it is missing. All its events bear the same time. -/
def startJournal (d : Disk) (s : Logging) (time : String) : Except String Journal :=
  match s.file with
  | none => .ok { disk := d }
  | some path =>
    match d.hold path with
    | .ok d => .ok { disk := d, file := some ⟨s.level, time⟩ }
    | .error c => .error ("Failed to open log file: " ++ path ++ ": " ++ c.message)

/-- Does a run and writes its report. Gives the journal and, if the report could not be written,
the reason. -/
def perform (s : Settings) (j : Journal) : Report × Journal × Option String :=
  let (report, j) := s.run j
  match s.report with
  | none => (report, j, none)
  | some (path, format) =>
    let (j, problem) := report.save format path j
    (report, j, problem.map Report.SaveProblem.message)

/-- Does what the arguments ask for, at a time. -/
def run (args : List String) (time : String) (d : Disk) : Disk × Log × Answer :=
  match Arguments.read args with
  | .error e => (d, [], .refused e)
  | .ok a =>
    match Settings.ofArguments d a with
    | .error message => (d, [], .failed message)
    | .ok s =>
      match startJournal d s.log time with
      | .error message => (d, [], .failed message)
      | .ok j =>
        let (report, j, problem) := perform s j
        (j.disk.release, j.log, match problem with
          | some message => .failed message
          | none => .done s (s.summaryJson report))

end Program

end Byline

import Byline.Log
import Byline.Mode
import Byline.Report.Format
import Byline.Storage.Disk

/-!
# Settings of a run

Where a run finds the sources and the rules, what it does with the results, and where its report and
log go.
-/

namespace Byline

/-- The level of a log and the file it goes to. -/
structure Logging where
  level : Level := .info
  /-- The file that events are added to. -/
  file : Option String := none
  deriving DecidableEq, Repr

namespace Logging

/-- A log that is quiet, or so many times more verbose than usual. -/
def ofVerbosity (verbose : Nat) (quiet : Bool) (file : Option String) : Logging :=
  ⟨if quiet then .warn else match verbose with
    | 0 => .info
    | 1 => .debug
    | _ => .trace, file⟩

end Logging

/-- The settings of a run. -/
structure Settings where
  projectDir : String
  /-- The directory that is scanned. -/
  sourceRoot : String
  /-- The rule script. -/
  rulesPath : String
  mode : Mode
  /-- The file and format of the report, if one is written. -/
  report : Option (String × Format) := none
  log : Logging := {}
  deriving DecidableEq, Repr

namespace Settings

/-- The name of the rule script in a project. -/
def rulesFile : String := ".authors"

/-- The name of the report in a project, without its extension. -/
def reportStem : String := ".authors-diff-report"

/-- The name of the source directory in a project. -/
def sourceDir : String := "src"

/-- The source directory of a project, if there is one, or else the project itself. -/
def usualSourceRoot (d : Disk) (projectDir : String) : String :=
  let src := Path.join projectDir sourceDir
  if d.hasDir src then src else projectDir

/-- The usual settings for a project, without a report. -/
def ofProject (d : Disk) (projectDir : String) (mode : Mode) : Settings :=
  { projectDir := projectDir
    sourceRoot := usualSourceRoot d projectDir
    rulesPath := Path.join projectDir rulesFile
    mode := mode }

end Settings

end Byline

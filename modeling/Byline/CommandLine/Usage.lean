import Byline.CommandLine.Arguments

/-!
# Usage

The text that explains the command line, and the wording of refusals.
-/

namespace Byline

/-- The explanation of the command line. -/
def usage : String := "\n".intercalate [
  "Brings the author tags of the source files in a project up to its .authors rules.",
  "",
  "Usage: byline [OPTIONS] <PROJECT_DIR> [MODE]",
  "",
  "Modes:",
  "  backup     the previous version of every changed file is kept next to it (usual)",
  "  no-backup  previous backups are removed",
  "  restore    the backups of the previous run are put back",
  "  test       the results go to separate files, and the sources are left alone",
  "",
  "Options:",
  "      --rules <FILE>            the rule script, usually PROJECT_DIR/.authors",
  "      --src <DIR>               the sources, usually PROJECT_DIR/src if there is one",
  "      --report <FILE>           where the report goes",
  "  -f, --report-format <FORMAT>  html (usual), json or text",
  "      --no-report               writes no report",
  "      --log-file <FILE>         adds the events of the run to a file",
  "  -v, --verbose                 shows more events; may be repeated",
  "  -q, --quiet                   shows fewer events",
  "  -h, --help                    shows this text"]

/-- The wording of a refusal. -/
def Refusal.message : Refusal → String
  | .displayHelp => usage
  | .invalidValue => "error: an argument has no value or a value that is not valid"
  | .unknownArgument => "error: there is an argument that is not known"
  | .missingRequiredArgument => "error: the project directory is missing"
  | .argumentConflict => "error: an argument is repeated or excludes another"
  | .tooManyValues => "error: an option that takes no value has one"

end Byline

import Byline.Report.Html
import Byline.Storage.Journal

/-!
# Formats of reports

A report is written as a web page, as JSON or as plain text, into a file whose directory is made if
it is missing.
-/

namespace Byline

/-- The form of a report. -/
inductive Format where
  | html
  | json
  | text
  deriving DecidableEq, Repr

namespace Format

/-- All formats. -/
def all : List Format := [.html, .json, .text]

/-- The name of a format on the command line. -/
def name : Format → String
  | .html => "html"
  | .json => "json"
  | .text => "text"

/-- The extension of files in the format. -/
def extension : Format → String
  | .html => "html"
  | .json => "json"
  | .text => "txt"

/-- The format of that name. -/
def read? (token : String) : Option Format := all.find? fun f => f.name == token

end Format

namespace Report

/-- A report in a format. -/
def render (r : Report) : Format → String
  | .html => r.toHtml
  | .json => r.toJson.pretty
  | .text => r.toText

/-- Why a report could not be saved, with the path in question. -/
inductive SaveProblem where
  | directory (path : String) (cause : Cause)
  | file (path : String) (cause : Cause)
  deriving DecidableEq, Repr

/-- The wording of a problem with saving. -/
def SaveProblem.message : SaveProblem → String
  | .directory path c => "Failed to create report directory: " ++ path ++ ": " ++ c.message
  | .file path c => "Failed to write report: " ++ path ++ ": " ++ c.message

/-- The disk with the directory of a report, or as much of it as could be made. -/
def makeParent (d : Disk) (path : String) : Disk × Option SaveProblem :=
  match Path.parent? path with
  | none => (d, none)
  | some parent =>
    let (d, cause) := d.makeDirs parent
    (d, cause.map (.directory parent))

/-- Saves a report. Also gives the problem, if there was one. -/
def save (r : Report) (format : Format) (path : String) (j : Journal) :
    Journal × Option SaveProblem :=
  match makeParent j.disk path with
  | (d, some p) => ({ j with disk := d }, some p)
  | (d, none) =>
    match d.write path (Utf8.ofString (r.render format)) with
    | .error c => ({ j with disk := d }, some (.file path c))
    | .ok d => ({ j with disk := d }.note .info ("Report generated into file: " ++ path), none)

end Report

end Byline

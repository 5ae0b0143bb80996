import Byline.Report.Text

/-!
# Reports as web pages

The page is built as a list of parts, tags and text, and written out at the end. Text is escaped
when it is written, so that no text of a report can hold a tag.
-/

namespace Byline.Report

/-- A part of a page. -/
inductive Html where
  /-- A tag or declaration, written as it stands between angle brackets. -/
  | tag (body : String)
  /-- Text. -/
  | text (s : String)
  deriving DecidableEq, Repr

namespace Html

/-- A character of text. The characters of tags and entities are written as entities. -/
def escape (c : Char) : List Char :=
  if c = '&' then "&amp;".toList
  else if c = '<' then "&lt;".toList
  else if c = '>' then "&gt;".toList
  else [c]

/-- The characters of a part. -/
def render : Html → List Char
  | .tag body => '<' :: (body.toList ++ ['>'])
  | .text s => s.toList.flatMap escape

/-- A line end. -/
def newline : Html := .text "\n"

/-- Parts inside a tag. -/
def element (opening closing : String) (inside : List Html) : List Html :=
  .tag opening :: (inside ++ [.tag closing])

/-- The rules of style of the page. -/
def style : String :=
  "body\x7bfont-family:sans-serif\x7dpre\x7bbackground:#f6f8fa;padding:8px\x7d\n" ++
  ".add\x7bcolor:#22863a\x7d.del\x7bcolor:#b31d28\x7d.hunk\x7bcolor:#6f42c1\x7d\n"

/-- The start of the page. -/
def head : List Html :=
  [.tag "!DOCTYPE html", newline, .tag "html", newline, .tag "head", newline,
    .tag "meta charset=\"utf-8\"", newline, .tag "title", .text "Author tagging report",
    .tag "/title", newline, .tag "style", newline, .text style, .tag "/style", newline,
    .tag "/head", newline, .tag "body", newline]

/-- The end of the page. -/
def foot : List Html := [.tag "/body", newline, .tag "/html", newline]

/-- The class of a line of a difference, by its first characters. -/
def lineClass (l : String) : String :=
  if ['@', '@'].isPrefixOf l.toList then "hunk"
  else if l.toList.head? = some '+' then "add"
  else if l.toList.head? = some '-' then "del"
  else "ctx"

/-- A line of a difference. -/
def diffLine (l : String) : List Html :=
  element ("span class=\"" ++ lineClass l ++ "\"") "/span" [.text l] ++ [newline]

/-- A list of authors. -/
def authorList (authors : List String) : List Html :=
  if authors.isEmpty then []
  else element "ul" "/ul"
    (newline :: authors.flatMap fun a => element "li" "/li" [.text a] ++ [newline]) ++ [newline]

/-- A difference, unless it is empty. -/
def diffBlock (d : Diff) : List Html :=
  if d.isEmpty then [] else element "pre" "/pre" (d.unified.flatMap diffLine) ++ [newline]

/-- The section of a file. -/
def fileSection (f : ReportEntry) : List Html :=
  element "h2" "/h2" (.text (f.title ++ " ") :: element "small" "/small" [.text f.outcome.display])
    ++ [newline] ++ authorList f.authors ++
    (match f.error with
      | none => []
      | some e => element "p class=\"del\"" "/p" [.text e] ++ [newline]) ++
    (match f.diff with
      | none => []
      | some d => diffBlock d)

/-- The page of a report. -/
def page (r : Report) : List Html :=
  head ++ element "h1" "/h1" [.text "Author tagging report"] ++ [newline] ++
    element "p" "/p" (.text "Project: " :: element "code" "/code" [.text r.projectDir] ++
      [.text (", mode: " ++ r.mode.display)]) ++ [newline] ++
    element "p" "/p" [.text (toString r.summary.enumerated ++ " files enumerated, " ++
      counts r.summary ++ ".")] ++ [newline] ++
    r.files.flatMap fileSection ++ foot

end Html

/-- A report as a web page. -/
def toHtml (r : Report) : String := String.ofList ((Html.page r).flatMap Html.render)

end Byline.Report

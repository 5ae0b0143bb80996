import Byline.Source.Line
import Byline.Text.Lines

/-!
# The authorship block

`Authorship.retag` puts a list of authors into a source file in place of its author tags. It goes
through the lines up to the anchor. The authors go into the first doc comment that is open after a
line above the anchor: at its first author tag, or before the line that closes it, or else before
the anchor; author tags from there up to the anchor are dropped. Without such a comment, a new one
is put before the anchor. All other lines, and all after the anchor, are copied octet by octet.

A `Writer` takes one line at a time. `Authorship.retag` feeds it the lines of a file, and
`Authorship.retagChunks` reads octets that arrive in pieces line by line.
-/

namespace Byline.Authorship

open Utf8 (Bytes)

/-- The place of the writer with respect to the authorship block. -/
inductive Phase where
  /-- No doc comment is open, and no authors were written. -/
  | beforeDoc
  /-- A doc comment is open that has no authors yet. -/
  | insideDoc
  /-- The authors were written; author tags are dropped. -/
  | authorsEmitted
  /-- The anchor was passed; lines are copied. -/
  | copyingRemainder
  deriving DecidableEq, Repr

/-- The name of a phase. -/
def Phase.display : Phase → String
  | .beforeDoc => "BeforeDoc"
  | .insideDoc => "InsideDoc"
  | .authorsEmitted => "AuthorsEmitted"
  | .copyingRemainder => "CopyingRemainder"

/-- Does the line start a doc comment? -/
def startsDocComment (text : List Char) : Bool := ['/', '*', '*'].isPrefixOf text

/-- Does the line end a comment? -/
def endsComment (text : List Char) : Bool := ['*', '/'].isSuffixOf (trimEnd text)

/-- Does the line start a doc comment and leave it open? The end is looked for from the third
character on, so that the slash of the start is not taken for it. -/
def leavesDocOpen (text : List Char) : Bool := startsDocComment text && !endsComment (text.drop 2)

/-- Does the line end with a carriage return and a line feed? -/
def endsWithCrlf (line : Bytes) : Bool := [carriageReturn, newline].isSuffixOf line

/-- The terminator of inserted lines. -/
def terminator (crlf : Bool) : Bytes := if crlf then [carriageReturn, newline] else [newline]

/-- The line of an author tag. -/
def authorLine (crlf : Bool) (name : String) : Bytes :=
  Utf8.encode Source.tagStart ++ Utf8.ofString name ++ terminator crlf

/-- The lines of all authors. -/
def authorLines (crlf : Bool) (authors : List String) : Bytes := authors.flatMap (authorLine crlf)

/-- A doc comment with all authors, or nothing if there are none. -/
def docComment (crlf : Bool) (authors : List String) : Bytes :=
  if authors.isEmpty then []
  else Utf8.ofString "/**" ++ terminator crlf ++ authorLines crlf authors ++
    (Utf8.ofString " */" ++ terminator crlf)

/-- Takes lines one at a time. -/
structure Writer where
  /-- The authors to be written. -/
  authors : List String
  /-- The line that the block stands before. -/
  anchor : Nat
  /-- The place with respect to the block. -/
  phase : Phase := .beforeDoc
  /-- The number of the next line. -/
  lineNo : Nat := 0
  /-- Do inserted lines end with a carriage return and a line feed? -/
  crlf : Bool := false
  deriving DecidableEq, Repr

namespace Writer

/-- The phase after a line and what is written for it, given the line's text and whether it is the
anchor. -/
def emit (w : Writer) (line : Bytes) (text : List Char) (atAnchor : Bool) : Phase × Bytes :=
  let isAuthor := Source.isAuthorLine text
  let next (p : Phase) : Phase := if atAnchor then .copyingRemainder else p
  match w.phase with
  | .copyingRemainder => (.copyingRemainder, line)
  | .beforeDoc =>
    if atAnchor then (.copyingRemainder, docComment w.crlf w.authors ++ line)
    else (if leavesDocOpen text then .insideDoc else .beforeDoc, line)
  | .insideDoc =>
    if isAuthor then (next .authorsEmitted, authorLines w.crlf w.authors)
    else if endsComment text || atAnchor then
      (next .authorsEmitted, authorLines w.crlf w.authors ++ line)
    else (.insideDoc, line)
  | .authorsEmitted => (next .authorsEmitted, if isAuthor then [] else line)

/-- Takes a line with its terminator, and gives what is written for it. -/
def push (w : Writer) (line : Bytes) : Writer × Bytes :=
  let w := { w with crlf := if w.lineNo = 0 then endsWithCrlf line else w.crlf }
  let (phase, out) := w.emit line (Utf8.lineText line) (w.lineNo == w.anchor)
  ({ w with phase := phase, lineNo := w.lineNo + 1 }, out)

/-- Takes lines, and gives all that is written. -/
def pushAll (w : Writer) : List Bytes → Bytes
  | [] => []
  | line :: rest => (w.push line).2 ++ (w.push line).1.pushAll rest

/-- Takes each line of octets that arrive in pieces when it is read, until none is left, and gives
all that is written. -/
def pushRead (w : Writer) (source : Chunks) : Bytes :=
  if _h : source.readLine.1 = [] then []
  else (w.push source.readLine.1).2 ++ (w.push source.readLine.1).1.pushRead source.readLine.2
termination_by source.flatten.length
decreasing_by exact Chunks.length_readLine_lt _h

end Writer

/-- The file with the authors in its authorship block, which stands before line `anchor`. -/
def retag (source : Bytes) (authors : List String) (anchor : Nat) : Bytes :=
  Writer.pushAll { authors := authors, anchor := anchor } (Utf8.lines source)

/-- The same for octets that arrive in pieces. -/
def retagChunks (source : Chunks) (authors : List String) (anchor : Nat) : Bytes :=
  Writer.pushRead { authors := authors, anchor := anchor } source

end Byline.Authorship

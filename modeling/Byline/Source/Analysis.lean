import Byline.Names
import Byline.Source.Line
import Byline.Text.Lines

/-!
# Analysis of a source file

What one pass over the lines of a source file finds: the package, the first public type, the
authors named in tags, and the anchor, which is the line that the authorship block stands before.
The pass ends with the declaration of the type.

Tags and annotations above the package statement belong to the header of the file. They count only
in a file without such a statement.
-/

namespace Byline.Source

/-- What the analysis of a file finds. -/
structure Analysis where
  /-- The name of the package. -/
  packageName : Option String
  /-- The dotted name of the type. -/
  typeName : String
  /-- The authors, in the order of their first tags. -/
  authors : List String
  /-- The line that the authorship block stands before, counted from zero. -/
  anchor : Option Nat
  deriving DecidableEq, Repr

/-- What was found in the lines read so far. -/
structure Findings where
  /-- The line and the name of the package statement. -/
  package : Option (Nat × String) := none
  /-- The authors named after the package statement. -/
  authors : List String := []
  /-- The authors named before it. -/
  headerAuthors : List String := []
  /-- The first annotation after the package statement. -/
  annotation : Option Nat := none
  /-- The first annotation before it. -/
  headerAnnotation : Option Nat := none
  /-- The line of the type and its short name. -/
  declaration : Option (Nat × String) := none
  deriving DecidableEq, Repr

namespace Findings

/-- Takes one line, whose number is `n`. -/
def take (f : Findings) (n : Nat) (line : List Char) : Findings :=
  match packageName? line with
  | some name =>
    if f.package.isSome then f else { f with package := some (n, String.ofList name) }
  | none =>
    match taggedName? line with
    | some name =>
      if f.package.isSome then { f with authors := Names.add f.authors (String.ofList name) }
      else { f with headerAuthors := Names.add f.headerAuthors (String.ofList name) }
    | none =>
      if isAnnotation line then
        if f.package.isSome then { f with annotation := f.annotation.or (some n) }
        else { f with headerAnnotation := f.headerAnnotation.or (some n) }
      else match typeName? line with
        | some name => { f with declaration := some (n, String.ofList name) }
        | none => f

/-- Takes the lines up to the declaration of a type; the first has number `n`. -/
def takeAll (f : Findings) (n : Nat) : List (List Char) → Findings
  | [] => f
  | line :: rest =>
    if (f.take n line).declaration.isSome then f.take n line
    else (f.take n line).takeAll (n + 1) rest

/-- The authors that count. -/
def allAuthors (f : Findings) : List String :=
  if f.package.isSome then f.authors else f.headerAuthors

/-- The line that the authorship block stands before: the first annotation that counts, else the
declaration, else an annotation of the header, else the package statement. -/
def anchor (f : Findings) : Option Nat :=
  let annotation := if f.package.isSome then f.annotation else f.headerAnnotation
  annotation.or ((f.declaration.map (·.1)).or (f.headerAnnotation.or (f.package.map (·.1))))

/-- The dotted name of the type. Without a declaration the file is named for its stem, if it has a
package and a stem. -/
def typeName? (f : Findings) (stem : String) : Option String :=
  match f.package, f.declaration with
  | some (_, package), some (_, name) => some (package ++ "." ++ name)
  | none, some (_, name) => some name
  | some (_, package), none => if stem.isEmpty then none else some (package ++ "." ++ stem)
  | none, none => none

/-- The analysis of a file with that stem. -/
def analysis? (f : Findings) (stem : String) : Option Analysis :=
  (f.typeName? stem).map fun name => ⟨f.package.map (·.2), name, f.allAuthors, f.anchor⟩

end Findings

/-- The analysis of a text, line by line. -/
def analyzeText (source : List Char) (stem : String) : Option Analysis :=
  (Findings.takeAll {} 0 (lines source)).analysis? stem

/-- The analysis of a file: each line is read with replacements and without any line feed or
carriage return at its end. -/
def analyzeBytes (source : Utf8.Bytes) (stem : String) : Option Analysis :=
  (Findings.takeAll {} 0 ((Utf8.lines source).map Utf8.lineText)).analysis? stem

end Byline.Source

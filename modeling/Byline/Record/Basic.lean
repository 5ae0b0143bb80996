import Byline.Diff.Basic
import Byline.Filter.Basic
import Byline.Mode
import Byline.Names

/-!
# Records

A record holds what is known about one source file: the type it declares, the authors found in it,
the authors that rules give it, and where its authorship block belongs. `Record.written` is the
list of authors that goes into the file.
-/

namespace Byline

/-- What is known about a source file. -/
structure Record where
  /-- The path of the file. -/
  path : String
  /-- The dotted name of its type. -/
  typeName : Option String := none
  /-- The authors found in the file. -/
  authors : List String := []
  /-- The authors that rules give it. -/
  newAuthors : List String := []
  /-- How the two combine. -/
  disposition : Disposition := .merge
  /-- The line that the authorship block stands before. -/
  anchor : Option Nat := none
  /-- What the last write changed. -/
  diff : Option Diff := none
  deriving DecidableEq, Repr

namespace Record

/-- Names the type, unless it has a name already. -/
def nameType (r : Record) (name : String) : Record :=
  { r with typeName := r.typeName.or (some name) }

/-- Adds an author found in the file. -/
def addFound (r : Record) (name : String) : Record := { r with authors := Names.add r.authors name }

/-- Would the record take the name as a new author? -/
def lacksNew (r : Record) (name : String) : Bool := Names.lacks r.newAuthors name

/-- Adds an author that a rule gives. -/
def addNew (r : Record) (name : String) : Record :=
  { r with newAuthors := Names.add r.newAuthors name }

/-- The record without the authors for which `p` holds. -/
def dropAuthors (p : String → Bool) (r : Record) : Record :=
  { r with authors := r.authors.filter (!p ·), newAuthors := r.newAuthors.filter (!p ·) }

/-- The number of authors for which `p` holds, in both lists together. -/
def countAuthors (p : String → Bool) (r : Record) : Nat :=
  r.authors.countP p + r.newAuthors.countP p

/-- The authors that go into the file. -/
def written (r : Record) : List String :=
  match r.disposition with
  | .skip => []
  | .merge => Names.addAll [] (r.authors ++ r.newAuthors)
  | .overwrite => r.newAuthors

end Record

end Byline

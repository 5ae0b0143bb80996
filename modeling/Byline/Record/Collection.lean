import Byline.Log
import Byline.Record.Basic
import Byline.Text.Quoted

/-!
# Collections of records

The records that a run works on, in order. Every record of a collection has a type name. Rules act
on the records that a filter of types covers.
-/

namespace Byline

/-- Records in order. -/
abbrev Records := List Record

namespace Records

/-- Adds a record at the end, if it has a type name. -/
def push (rs : Records) (r : Record) : Records := if r.typeName.isSome then rs ++ [r] else rs

/-- The collection of the records that have a type name. -/
def ofList (rs : List Record) : Records := rs.foldl push []

/-- The first record of a type. -/
def get? (rs : Records) (name : String) : Option Record :=
  rs.find? fun r => r.typeName == some name

/-- Does the filter cover the type of the record? -/
def covers (f : TypeFilter) (r : Record) : Bool := f.accepts r.typeName

/-- The records that the filter covers. -/
def covered (f : TypeFilter) (rs : Records) : Records := rs.filter (covers f)

/-- Changes the records that the filter covers. -/
def update (f : TypeFilter) (g : Record → Record) (rs : Records) : Records :=
  rs.map fun r => if covers f r then g r else r

/-- Gives the author to the records that the filter covers. -/
def giveAuthor (f : TypeFilter) (name : String) (rs : Records) : Records :=
  update f (·.addNew name) rs

/-- The records that `giveAuthor` changes. -/
def gaining (f : TypeFilter) (name : String) (rs : Records) : Records :=
  (covered f rs).filter (·.lacksNew name)

/-- Removes the authors for which `p` holds from the records that the filter covers. -/
def removeAuthors (f : TypeFilter) (p : String → Bool) (rs : Records) : Records :=
  update f (Record.dropAuthors p) rs

/-- The number of authors that `removeAuthors` removes. -/
def countRemoved (f : TypeFilter) (p : String → Bool) (rs : Records) : Nat :=
  total ((covered f rs).map (Record.countAuthors p))

/-- Sets the disposition of the records that the filter covers. -/
def withDisposition (f : TypeFilter) (d : Disposition) (rs : Records) : Records :=
  update f ({ · with disposition := d }) rs

/-- Drops the records that the filter covers. -/
def skip (f : TypeFilter) (rs : Records) : Records := rs.filter (!covers f ·)

/-- The events of giving an author to records, one for each record that changes. -/
def additionEvents (f : TypeFilter) (name : String) (rs : Records) : Log :=
  (gaining f name rs).map fun r => ⟨.trace, name ++ " >> " ++ Quoted.encodeOption r.typeName⟩

/-- The events of dropping records. -/
def skipEvents (f : TypeFilter) (rs : Records) : Log :=
  (covered f rs).map fun r => ⟨.trace, "DELETE :: " ++ Quoted.encodeOption r.typeName⟩

end Records

end Byline

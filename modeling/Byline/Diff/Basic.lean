/-!
# Differences between two lists of lines

A difference is a list of deltas, each of which replaces a chunk of the old list by a chunk of the
new one. `Delta.applyAll?` makes the new list from the old one and the deltas; it fails where the
deltas overlap, are out of order or lie outside the old list.
-/

namespace Byline

/-- The sum of the numbers. -/
def total : List Nat → Nat
  | [] => 0
  | n :: ns => n + total ns

/-- Lines that follow one another, and the position of the first of them, counted from zero. -/
structure Chunk where
  position : Nat
  lines : List String
  deriving DecidableEq, Repr

namespace Chunk

/-- The position after the last line. -/
def stop (c : Chunk) : Nat := c.position + c.lines.length

end Chunk

/-- What a delta does. -/
inductive Delta.Kind where
  | insert
  | delete
  | change
  deriving DecidableEq, Repr

/-- The kind of a delta that takes away and puts in so many lines. -/
def Delta.Kind.of (deleted inserted : Nat) : Delta.Kind :=
  if deleted = 0 then .insert else if inserted = 0 then .delete else .change

/-- A chunk of the old list and the chunk of the new list in its place. -/
structure Delta where
  kind : Delta.Kind
  old : Chunk
  new : Chunk
  deriving DecidableEq, Repr

namespace Delta

/-- The lines of the old list from `pos` on, with the deltas applied. A delta has to start at `pos`
or later, and within the list. -/
def applyFrom? (old : List String) (pos : Nat) : List Delta → Option (List String)
  | [] => if pos ≤ old.length then some (old.drop pos) else none
  | d :: ds =>
    if pos ≤ d.old.position ∧ d.old.position ≤ old.length then
      (applyFrom? old d.old.stop ds).map fun rest =>
        (old.take d.old.position).drop pos ++ d.new.lines ++ rest
    else none

/-- The old list with the deltas applied. -/
def applyAll? (old : List String) (ds : List Delta) : Option (List String) :=
  applyFrom? old 0 ds

end Delta

/-- A difference between two named lists of lines, with its rendering. -/
structure Diff where
  oldName : String
  newName : String
  deltas : List Delta
  unified : List String
  deriving DecidableEq, Repr

namespace Diff

/-- Are the lists equal? -/
def isEmpty (d : Diff) : Bool := d.deltas.isEmpty

/-- The number of lines that are put in. -/
def added (d : Diff) : Nat := total (d.deltas.map (·.new.lines.length))

/-- The number of lines that are taken away. -/
def removed (d : Diff) : Nat := total (d.deltas.map (·.old.lines.length))

end Diff

end Byline

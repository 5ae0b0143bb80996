import Byline.Diff.Basic

/-!
# Unified rendering of a difference

Deltas close to one another share a hunk: its header names the ranges of the lines in both lists,
and its lines are marked as kept, deleted or inserted. A hunk starts and ends with at most
`context` lines that are kept.

`render` lays the hunks out in numbers of any size. A program computes them in words of 64 bits, and
a width that is asked for may be too large for these. `render?` is the rendering in words.
-/

namespace Byline.Unified

/-- The number of lines between two deltas. -/
def gap (d e : Delta) : Nat := e.old.position - d.old.stop

/-- The deltas in groups of one hunk each. Neighbours share a hunk if their contexts meet. -/
def hunks (context : Nat) : List Delta → List (List Delta)
  | [] => []
  | d :: ds =>
    match ds, hunks context ds with
    | e :: _, h :: hs => if gap d e ≤ 2 * context then (d :: h) :: hs else [d] :: h :: hs
    | _, _ => [[d]]

/-- A range of lines, counted from one. One line has no length, and no lines are named by the line
before them. -/
def range (start length : Nat) : String :=
  if length = 0 then toString start ++ ",0"
  else if length = 1 then toString (start + 1)
  else toString (start + 1) ++ "," ++ toString length

/-- The lines of a list from one position up to another. -/
def slice (lines : List String) (start stop : Nat) : List String := (lines.take stop).drop start

/-- The marked lines of a hunk from a position of the old list up to another. -/
def body (old : List String) (pos stop : Nat) : List Delta → List String
  | [] => (slice old pos stop).map (" " ++ ·)
  | d :: ds =>
    (slice old pos d.old.position).map (" " ++ ·) ++
      d.old.lines.map ("-" ++ ·) ++ d.new.lines.map ("+" ++ ·) ++
      body old d.old.stop stop ds

/-- A hunk whose first and last deltas are given. -/
def hunk (old : List String) (context : Nat) (first last : Delta) (ds : List Delta) :
    List String :=
  let start := first.old.position - context
  let stop := min (last.old.stop + context) old.length
  let start' := first.new.position - (first.old.position - start)
  let stop' := last.new.stop + (stop - last.old.stop)
  ("@@ -" ++ range start (stop - start) ++ " +" ++ range start' (stop' - start') ++ " @@") ::
    body old start stop ds

/-- A hunk with its header. -/
def hunkLines (old : List String) (context : Nat) : List Delta → List String
  | [] => []
  | d :: ds => hunk old context d ((d :: ds).getLast (by simp)) (d :: ds)

/-- The rendering of a difference: nothing for equal lists, else the names and the hunks. -/
def render (oldName newName : String) (old : List String) (ds : List Delta)
    (context : Nat) : List String :=
  if ds.isEmpty then []
  else ("--- " ++ oldName) :: ("+++ " ++ newName) ::
    (hunks context ds).flatMap (hunkLines old context)

/-! ## Rendering in words

The width enters into two numbers that may not fit into a word: twice the width, which the gap
between two deltas is compared to, and the end of a hunk before it is brought back to the end of the
list. All other numbers are positions in the lists, or lie below one. A number that does not fit is
an overflow. A program that checks its arithmetic stops there, and any other goes on with a number
that is not meant, so that neither has a rendering.
-/

/-- A number, if a word holds it. -/
def word? (n : Nat) : Option Nat := if n < UInt64.size then some n else none

/-- `hunks`, in words. -/
def hunks? (context : UInt64) : List Delta → Option (List (List Delta))
  | [] => some []
  | d :: ds => do
    let groups ← hunks? context ds
    match ds, groups with
    | e :: _, h :: hs => do
      let reach ← word? (2 * context.toNat)
      return if gap d e ≤ reach then (d :: h) :: hs else [d] :: h :: hs
    | _, _ => return [[d]]

/-- `hunk`, in words. -/
def hunk? (old : List String) (context : UInt64) (first last : Delta) (ds : List Delta) :
    Option (List String) :=
  (word? (last.old.stop + context.toNat)).map fun _ => hunk old context.toNat first last ds

/-- `hunkLines`, in words. -/
def hunkLines? (old : List String) (context : UInt64) : List Delta → Option (List String)
  | [] => some []
  | d :: ds => hunk? old context d ((d :: ds).getLast (List.cons_ne_nil d ds)) (d :: ds)

/-- `render`, in words. It fails where a number overflows. -/
def render? (oldName newName : String) (old : List String) (ds : List Delta)
    (context : UInt64) : Option (List String) :=
  if ds.isEmpty then some []
  else do
    let groups ← hunks? context ds
    let lines ← groups.mapM (hunkLines? old context)
    return ("--- " ++ oldName) :: ("+++ " ++ newName) :: lines.flatten

end Byline.Unified

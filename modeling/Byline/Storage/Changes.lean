import Byline.Storage.Tree

/-!
# Changes between file trees

What has to be done to a file tree so that it becomes another: the places to remove, the
directories to make and the files to write, in an order in which they can be done.
-/

namespace Byline

/-- One step from a file tree to another. -/
inductive Change where
  /-- Removes what is at the place, with all below it. -/
  | remove (place : List String)
  /-- Makes a directory. -/
  | makeDir (place : List String)
  /-- Writes a file. -/
  | write (place : List String) (content : Utf8.Bytes)
  deriving DecidableEq, Repr

namespace Tree

/-- The tree after a change. -/
def change (t : Tree) : Change → Tree
  | .remove place => t.erase place
  | .makeDir place => t.put place (.dir [])
  | .write place b => t.put place (.file b)

/-- Removes the entries whose names are not among those to keep. -/
def removals (place : List String) (old new : List (String × Tree)) : List Change :=
  (old.filter fun e => (new.lookup e.1).isNone).map fun e => .remove (place ++ [e.1])

/-- What turns an old file into a new one with these octets. -/
def fileChanges (place : List String) (old : Option Tree) (b : Utf8.Bytes) : List Change :=
  match old with
  | some (.file a) => if a = b then [] else [.write place b]
  | some (.dir _) => [.remove place, .write place b]
  | none => [.write place b]

/-- What turns what was at a place into a directory, whose entries are yet to be changed. -/
def dirChanges (place : List String) (old : Option Tree) (new : List (String × Tree)) :
    List Change :=
  match old with
  | some (.file _) => [.remove place, .makeDir place]
  | some (.dir es) => removals place es new
  | none => [.makeDir place]

mutual

/-- What turns what was at a place into a tree. -/
def changes (place : List String) (old : Option Tree) : Tree → List Change
  | .file b => fileChanges place old b
  | .dir es =>
    dirChanges place old es ++ entryChanges place ((old.map entries).getD []) es

/-- What turns the entries of a directory into others, apart from removing those that are gone. -/
def entryChanges (place : List String) (old : List (String × Tree)) :
    List (String × Tree) → List Change
  | [] => []
  | (n, t) :: es => t.changes (place ++ [n]) (old.lookup n) ++ entryChanges place old es

end

end Tree

end Byline

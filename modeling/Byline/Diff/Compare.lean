import Byline.Diff.Alignment
import Byline.Diff.Unified

/-!
# Comparing two lists of lines

The lines that both lists start and end with are set aside, the rest is aligned, and each run of
deletions and insertions between kept lines becomes a delta.
-/

namespace Byline

/-- An alignment of two lists: those members kept that both start with and end with, and between
them an alignment of the rest. -/
def Alignment.ofTrimmed? (old new : List String) : Option (List Step) :=
  let front := commonLength old new
  let a := old.drop front
  let b := new.drop front
  let back := commonLength a.reverse b.reverse
  (find? (a.take (a.length - back)) (b.take (b.length - back))).map fun steps =>
    List.replicate front Step.keep ++ steps ++ List.replicate back Step.keep

namespace Delta

/-- The delta that takes `deleted` lines away at one position and puts `inserted` lines in at
another, if there are any. -/
def ofRun (old new : List String) (i j deleted inserted : Nat) : List Delta :=
  if deleted = 0 ∧ inserted = 0 then []
  else [⟨.of deleted inserted, ⟨i, (old.drop i).take deleted⟩,
    ⟨j, (new.drop j).take inserted⟩⟩]

/-- The deltas of the steps from the positions `i` and `j` on, of which `deleted` and `inserted`
lines belong to the current run. -/
def ofSteps (old new : List String) :
    List Step → (i j deleted inserted : Nat) → List Delta
  | [], i, j, deleted, inserted => ofRun old new i j deleted inserted
  | .keep :: steps, i, j, deleted, inserted =>
    ofRun old new i j deleted inserted ++
      ofSteps old new steps (i + deleted + 1) (j + inserted + 1) 0 0
  | .delete :: steps, i, j, deleted, inserted =>
    ofSteps old new steps i j (deleted + 1) inserted
  | .insert :: steps, i, j, deleted, inserted =>
    ofSteps old new steps i j deleted (inserted + 1)

/-- The deltas that make the new list of the old. -/
def between (old new : List String) : List Delta :=
  ofSteps old new ((Alignment.ofTrimmed? old new).getD []) 0 0 0 0

end Delta

namespace Diff

/-- The number of kept lines around a change in the rendering. -/
def contextLines : Nat := 3

/-- The difference between two named lists of lines. Its context is too narrow for `Unified.render?`
to overflow, unless the old list is of nearly as many lines as a word counts. -/
def compare (oldName newName : String) (old new : List String) : Diff :=
  let ds := Delta.between old new
  ⟨oldName, newName, ds,
    Unified.render oldName newName old ds contextLines⟩

end Diff

end Byline

import Byline.Log
import Byline.Storage.Disk

/-!
# Source files of a directory

The source files below a directory, at any depth. The files of a directory come in the order of
the names of its entries, those of a directory among them in the place of its name. Every directory
is taken to be one that can be opened.
-/

namespace Byline

/-- The extension of source files. -/
def sourceExtension : String := "java"

namespace Tree

/-- Is the name that of a source file? -/
def isSourceName (name : String) : Bool := Path.extension? name == some sourceExtension

/-- Entries in the order of their names. -/
def byName {α : Type} (es : List (String × α)) : List (String × α) :=
  es.mergeSort fun a b => a.1 ≤ b.1

/-- Is an entry that is a file a source file? -/
def ownSource (name : String) : List (List String) := if isSourceName name then [[]] else []

mutual

/-- The paths of the source files below an entry of that name, from the entry on. -/
def sourcesAt (name : String) : Tree → List (List String)
  | .file _ => ownSource name
  | .dir es => (byName (sourcesIn es)).flatMap fun (n, ps) => ps.map (n :: ·)

/-- For each entry the paths of the source files below it, from the entry on. -/
def sourcesIn : List (String × Tree) → List (String × List (List String))
  | [] => []
  | (n, t) :: es => (n, t.sourcesAt n) :: sourcesIn es

end

/-- The paths of the source files in a directory, in order. -/
def sources (t : Tree) : List (List String) :=
  match t with
  | .file _ => []
  | .dir es => (byName (sourcesIn es)).flatMap fun (n, ps) => ps.map (n :: ·)

end Tree

namespace Disk

/-- A path that stands for the standard input and not for a directory. -/
def isStandardInput (path : String) : Bool :=
  !Path.isAbsolute path && (Path.body path == [['-']])

/-- The source files below a directory, in order, and the events of the scan. -/
def findSources (d : Disk) (base : String) : List String × Log :=
  match d.lookup base with
  | .ok (.dir es) =>
    let found := if isStandardInput base then [] else
      (Tree.sources (.dir es)).map (·.foldl Path.join base)
    (found, found.map fun p => ⟨.trace, "Found .java file: " ++ p⟩)
  | _ => ([], [⟨.error, "Something's wrong, it is not an existing directory: " ++ base⟩])

end Disk

end Byline

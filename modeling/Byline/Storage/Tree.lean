import Byline.Text.Utf8

/-!
# File trees

A tree is a file with its octets or a directory with named entries. `Tree.at?` looks up the tree at
a list of names, `Tree.put` puts a tree there, and `Tree.erase` removes what is there.

The names in a directory are meant to differ from one another (`Tree.Proper`); a look-up finds the
first entry of a name, and putting an entry keeps its place.

A tree has what names and octets say of files and nothing else: no links of either kind, no special
files, no owners, access rights or times, and no names that are not Unicode.
-/

namespace Byline

/-- A file or a directory. -/
inductive Tree where
  /-- A file. -/
  | file (content : Utf8.Bytes)
  /-- A directory. -/
  | dir (entries : List (String × Tree))
  deriving Repr

namespace Tree

/-- Entries with the tree under a name, in the place of what was there, or at the end. -/
def putEntry (name : String) (t : Tree) : List (String × Tree) → List (String × Tree)
  | [] => [(name, t)]
  | (n, u) :: es => if n = name then (name, t) :: es else (n, u) :: putEntry name t es

/-- Entries without a name. -/
def eraseEntry (name : String) (es : List (String × Tree)) : List (String × Tree) :=
  es.filter (·.1 != name)

/-- The tree at a path. -/
def at? : Tree → List String → Option Tree
  | t, [] => some t
  | .file _, _ :: _ => none
  | .dir es, n :: ns =>
    match es.lookup n with
    | none => none
    | some t => t.at? ns

/-- Puts a tree at a path; directories on the way that are missing are made, and below a file
nothing can be put. -/
def put : Tree → List String → Tree → Tree
  | _, [], u => u
  | .file b, _ :: _, _ => .file b
  | .dir es, n :: ns, u => .dir (putEntry n (((es.lookup n).getD (.dir [])).put ns u) es)

/-- Removes what is at a path. -/
def erase : Tree → List String → Tree
  | t, [] => t
  | .file b, _ :: _ => .file b
  | .dir es, [n] => .dir (eraseEntry n es)
  | .dir es, n :: ns =>
    match es.lookup n with
    | none => .dir es
    | some t => .dir (putEntry n (t.erase ns) es)

/-- Is it a directory? -/
def isDir : Tree → Bool
  | .dir _ => true
  | .file _ => false

/-- What stands in a directory. -/
def entries : Tree → List (String × Tree)
  | .dir es => es
  | .file _ => []

/-- A name that a directory may hold: not empty, without a slash, and not one or two dots. -/
def IsName (n : String) : Prop := n ≠ "" ∧ '/' ∉ n.toList ∧ n ≠ "." ∧ n ≠ ".."

/-- The names in each directory are names and differ from one another. -/
inductive Proper : Tree → Prop where
  | file (b : Utf8.Bytes) : Proper (.file b)
  | dir {es : List (String × Tree)} (distinct : (es.map (·.1)).Nodup)
      (names : ∀ e ∈ es, IsName e.1) (below : ∀ e ∈ es, Proper e.2) : Proper (.dir es)

end Tree

end Byline

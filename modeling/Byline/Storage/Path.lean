/-!
# Paths

A path is a string whose parts are separated by slashes. It is kept as it was given, since that is
how it is shown. The functions here find its last part, what stands before it, and its extension.
A part that is empty or a dot says nothing, except a dot at the start of a relative path.
-/

namespace Byline.Path

/-- The pieces of a path between slashes. -/
def pieces : List Char → List (List Char)
  | [] => [[]]
  | c :: s =>
    if c = '/' then [] :: pieces s
    else match pieces s with
      | [] => [[c]]
      | p :: ps => (c :: p) :: ps

/-- Does the path start at the root? -/
def isAbsolute (path : String) : Bool := path.toList.head? == some '/'

/-- Does the path end with a slash? -/
def endsWithSlash (path : String) : Bool := path.toList.getLast? == some '/'

/-- The pieces that are not empty. -/
def parts (path : String) : List String :=
  ((pieces path.toList).filter (!·.isEmpty)).map String.ofList

/-- The path below a directory. A path from the root stays as it is. -/
def join (base name : String) : String :=
  if isAbsolute name then name
  else if base.isEmpty || endsWithSlash base then base ++ name
  else base ++ "/" ++ name

/-- The path from the root with these parts. -/
def ofParts (ps : List String) : String := "/" ++ "/".intercalate ps

/-- Pieces without those at the end that say nothing. -/
def dropIdle (ps : List (List Char)) : List (List Char) :=
  (ps.reverse.dropWhile fun p => p.isEmpty || p == ['.']).reverse

/-- The pieces of a path up to its last part. A relative path that has no part but a dot at its
start keeps the dot. -/
def body (path : String) : List (List Char) :=
  let ps := pieces path.toList
  let kept := dropIdle ps
  if kept.isEmpty && ps.head? == some ['.'] then [['.']] else kept

/-- The last part of the path, unless that is a dot or two. -/
def fileName? (path : String) : Option String :=
  match (body path).getLast? with
  | none => none
  | some p => if p.isEmpty || p == ['.'] || p == ['.', '.'] then none else some (String.ofList p)

/-- The path of the directory that holds the file. -/
def parent? (path : String) : Option String :=
  let ps := body path
  if ps.isEmpty || ps == [[]] then none
  else
    let before := ps.dropLast
    let kept := dropIdle before
    let kept := if kept.isEmpty && before.head? == some ['.'] then [['.']] else kept
    if kept.isEmpty && isAbsolute path then some "/"
    else some ("/".intercalate (kept.map String.ofList))

/-- The beginnings of a path, the longest first, from its parts in reverse order. A part that says
nothing ends none of them. -/
def beginnings (absolute : Bool) : List String → List (List String)
  | [] => []
  | p :: ps =>
    if p = "." ∧ (absolute ∨ ps ≠ []) then beginnings absolute ps
    else (p :: ps).reverse :: beginnings absolute ps

/-- The parts of a path, and after them those of each path that leads above it, the nearest first. -/
def ancestors (path : String) : List (List String) :=
  parts path :: (beginnings (isAbsolute path) (parts path).reverse).drop 1

/-- A file name cut at its last dot. A name without a dot, or with one at its start only, has no
extension. -/
def cutName (name : List Char) : List Char × Option (List Char) :=
  let ext := (name.reverse.takeWhile (· != '.')).reverse
  let stem := name.take (name.length - ext.length - 1)
  if name.contains '.' && !stem.isEmpty && name != ['.', '.'] then (stem, some ext)
  else (name, none)

/-- The file name without its extension; empty if the path has no file name. -/
def stem (path : String) : String :=
  match fileName? path with
  | none => ""
  | some n => String.ofList (cutName n.toList).1

/-- The extension of a file name. -/
def extension? (name : String) : Option String := (cutName name.toList).2.map String.ofList

end Byline.Path

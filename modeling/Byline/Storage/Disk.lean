import Byline.Problem
import Byline.Storage.Path
import Byline.Storage.Tree

/-!
# Disks

A disk is a file tree with a working directory, from which relative paths start. Its operations
take paths as they were given and fail with a cause, as those of an operating system do: every part
of a path but the last has to lead to a directory, and no name may be too long.

One file may be held open for additions at its end. It stays the same file when it is moved or when
new octets are put into it; once it is removed, or another file is moved to its place, additions to
it are lost.

All that makes an operation fail is in the tree and in the path: something is missing, a file stands
where a directory is needed or the other way round, a name is too long. Access rights, full disks,
errors of input and output, links, names that are not Unicode and other programs at work on the same
files are left out, so that nothing said of a disk speaks of failures that come from these.
-/

namespace Byline

/-- A file tree and the names that lead to the working directory. -/
structure Disk where
  root : Tree
  home : List String
  /-- The names that lead to the file that is held open. -/
  held : Option (List String) := none

namespace Disk

/-- The number of octets that a name may have. -/
def nameLimit : Nat := 255

/-- The number of octets that a path has less than. -/
def pathLimit : Nat := 4096

/-- The place that a part of a path leads to from a directory. -/
def enter (place : List String) (part : String) : List String :=
  if part = "." then place else if part = ".." then place.dropLast else place ++ [part]

/-- The place that the parts of a path lead to, each from a directory. -/
def walk (root : Tree) : List String → List String → Except Cause (List String)
  | place, [] => .ok place
  | place, part :: parts =>
    match root.at? place with
    | none => .error .notFound
    | some (.file _) => .error .notDirectory
    | some (.dir _) =>
      if nameLimit < part.utf8ByteSize then .error .nameTooLong
      else walk root (enter place part) parts

/-- The place that a path starts from, if it can be a path at all. -/
def origin (d : Disk) (path : String) : Except Cause (List String) :=
  if path.toList.contains '\x00' then .error .nulInPath
  else if path.isEmpty then .error .notFound
  else if pathLimit ≤ path.utf8ByteSize then .error .nameTooLong
  else .ok (if Path.isAbsolute path then [] else d.home)

/-- The place that a path leads to. -/
def locate (d : Disk) (path : String) : Except Cause (List String) := do
  walk d.root (← d.origin path) (Path.parts path)

/-- What is at a path. A path that ends with a slash has to lead to a directory. -/
def lookup (d : Disk) (path : String) : Except Cause Tree := do
  match d.root.at? (← d.locate path) with
  | none => .error .notFound
  | some t => if Path.endsWithSlash path && !t.isDir then .error .notDirectory else return t

/-- Is anything at the path? -/
def has (d : Disk) (path : String) : Bool := (d.lookup path).toOption.isSome

/-- Is a directory at the path? -/
def hasDir (d : Disk) (path : String) : Bool := (d.lookup path).toOption.any (·.isDir)

/-- The octets of what was opened. A directory can be opened and not be read. -/
def content : Tree → Except Cause Utf8.Bytes
  | .file b => .ok b
  | .dir _ => .error .isDirectory

/-- The octets of the file at a path. -/
def read (d : Disk) (path : String) : Except Cause Utf8.Bytes := do content (← d.lookup path)

/-- Puts a tree at a place. -/
def set (d : Disk) (place : List String) (t : Tree) : Disk := { d with root := d.root.put place t }

/-- Removes what is at a place. -/
def unset (d : Disk) (place : List String) : Disk :=
  { d with
    root := d.root.erase place
    held := d.held.filter fun h => !place.isPrefixOf h }

/-- The place of the file that a path names for writing, and what that file holds, if it is there
already. A path that ends with a slash never names such a file. -/
def target (d : Disk) (path : String) : Except Cause (List String × Option Utf8.Bytes) := do
  let start ← d.origin path
  if Path.endsWithSlash path then
    let above ← walk d.root start (Path.parts path).dropLast
    match d.root.at? above with
    | none => .error .notFound
    | some (.file _) => .error .notDirectory
    | some (.dir _) => .error .isDirectory
  else
    let place ← walk d.root start (Path.parts path)
    match d.root.at? place with
    | some (.dir _) => .error .isDirectory
    | some (.file b) => return (place, some b)
    | none => return (place, none)

/-- Makes a file with these octets, or puts them into the file at the path. -/
def write (d : Disk) (path : String) (b : Utf8.Bytes) : Except Cause Disk := do
  let (place, _) ← d.target path
  return d.set place (.file b)

/-- Holds the file at a path open for additions; it is made if there is none. -/
def hold (d : Disk) (path : String) : Except Cause Disk := do
  let (place, old) ← d.target path
  return { d.set place (.file (old.getD [])) with held := some place }

/-- Adds octets at the end of the file that is held open. -/
def extend (d : Disk) (b : Utf8.Bytes) : Disk :=
  match d.held with
  | none => d
  | some place =>
    match d.root.at? place with
    | some (.file old) => d.set place (.file (old ++ b))
    | _ => d

/-- Does the path lead to the file that is held open? -/
def isHeld (d : Disk) (path : String) : Bool :=
  d.held.isSome && (d.locate path).toOption == d.held

/-- The disk with no file held open. -/
def release (d : Disk) : Disk := { d with held := none }

/-- Removes the file at a path. -/
def removeFile (d : Disk) (path : String) : Except Cause Disk := do
  match ← d.lookup path with
  | .dir _ => .error .isDirectory
  | .file _ => return d.unset (← d.locate path)

/-- Removes the file at a path, if there is one. -/
def removeIfPresent (d : Disk) (path : String) : Except Cause Disk :=
  match d.removeFile path with
  | .error .notFound => .ok d
  | r => r

/-- The place of what was at a place after a tree was moved from one place to another. What was at
the latter is gone. -/
def follow (source target place : List String) : Option (List String) :=
  if source.isPrefixOf place then some (target ++ place.drop source.length)
  else if target.isPrefixOf place then none
  else some place

/-- Moves the tree at a place to another place. -/
def move (d : Disk) (source target : List String) (t : Tree) : Disk :=
  { d with
    root := (d.root.erase source).put target t
    held := d.held.bind (follow source target) }

/-- Gives the tree at one path another. A file may take the place of a file, and a directory that
of an empty directory. -/
def rename (d : Disk) (source target : String) : Except Cause Disk := do
  let t ← d.lookup source
  let place ← d.locate source
  let place' ← d.locate target
  if Path.endsWithSlash target && !t.isDir then .error .notDirectory
  else if place = place' then return d
  else if place.isPrefixOf place' then .error .invalidMove
  else match d.root.at? place', t with
    | none, _ => return d.move place place' t
    | some (.file _), .file _ => return d.move place place' t
    | some (.file _), .dir _ => .error .notDirectory
    | some (.dir _), .file _ => .error .isDirectory
    | some (.dir es), .dir _ =>
      if es.isEmpty then return d.move place place' t else .error .notEmpty

/-- Makes the directory that the parts of a path lead to. The directory above it has to be there. -/
def makeDir (d : Disk) (start parts : List String) : Except Cause Disk := do
  let place ← walk d.root start parts
  if (d.root.at? place).isSome then .error .alreadyExists else return d.set place (.dir [])

/-- Do the parts of a path lead to a directory? -/
def leadsToDir (d : Disk) (start parts : List String) : Bool :=
  (walk d.root start parts).toOption.any fun place => (d.root.at? place).any (·.isDir)

/-- Makes a directory that may be there already. Also gives the cause if there is none afterwards. -/
def ensureDir (d : Disk) (start parts : List String) : Disk × Option Cause :=
  match d.makeDir start parts with
  | .ok d => (d, none)
  | .error c => (d, if d.leadsToDir start parts then none else some c)

/-- Makes the directory at the first of these paths, and those at the paths after it, which lead
above it, only where nothing is found on the way. Where one cannot be made, those made before it
stay; the cause is given too. -/
def ensureChain (d : Disk) (start : List String) : List (List String) → Disk × Option Cause
  | [] => (d, none)
  | parts :: above =>
    match d.ensureDir start parts with
    | (_, some .notFound) =>
      match d.ensureChain start above with
      | (d, none) => d.ensureDir start parts
      | failed => failed
    | settled => settled

/-- Makes a directory and those above it, where they are missing. The empty path names none. -/
def makeDirs (d : Disk) (path : String) : Disk × Option Cause :=
  if path.isEmpty then (d, none)
  else match d.origin path with
    | .error c => (d, some c)
    | .ok start => d.ensureChain start (Path.ancestors path)

/-- The full path of a directory. -/
def canonical (d : Disk) (path : String) : Except Cause String := do
  let _ ← d.lookup path
  return Path.ofParts (← d.locate path)

end Disk

end Byline

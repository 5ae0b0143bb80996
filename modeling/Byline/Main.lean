import Byline.CommandLine.Program
import Byline.CommandLine.Usage
import Byline.Storage.Changes
import Std.Time.DateTime

/-!
# The command

Reads what the arguments name into a disk, lets the program work on it, and carries the changes
out. The summary goes to the standard output, the events to the standard error.
-/

namespace Byline.Command

/-- The tree at a path from the root; `none` if there is nothing. -/
partial def readTree (path : String) : IO (Option Tree) := do
  let here := (← IO.currentDir) / path
  if ← here.isDir then
    let mut entries := #[]
    for e in ← here.readDir do
      if let some t ← readTree (Path.join path e.fileName) then
        entries := entries.push (e.fileName, t)
    return some (.dir entries.toList)
  else if ← here.pathExists then
    return some (.file (← IO.FS.readBinFile here).toList)
  else return none

/-- Puts what is at the first places of a path on the disk: the directories on the way without what
they hold. Gives the place it got to. -/
def readWay (d : Disk) (place : List String) : List String → IO (Disk × List String)
  | [] => return (d, place)
  | part :: parts => do
    let next := Disk.enter place part
    match d.root.at? next with
    | some _ => readWay d next parts
    | none =>
      if ← ((← IO.currentDir) / Path.ofParts next).isDir then
        readWay (d.set next (.dir [])) next parts
      else
        match ← readTree (Path.ofParts next) with
        | some t => return (d.set next t, next)
        | none => return (d, next)

/-- Puts what is at a path on the disk, with all below it. -/
def readAll (d : Disk) (path : String) : IO Disk := do
  let start := if Path.isAbsolute path then [] else d.home
  let (d, place) ← readWay d start (Path.parts path)
  match ← readTree (Path.ofParts place) with
  | some t => return d.set place t
  | none => return d

/-- Puts what is on the way to a path on the disk, and the file at it. -/
def readFile (d : Disk) (path : String) : IO Disk := do
  let start := if Path.isAbsolute path then [] else d.home
  return (← readWay d start (Path.parts path)).1

/-- The disk with all that the arguments name. -/
def readDisk (a : Arguments) : IO Disk := do
  let home := Path.parts (toString (← IO.currentDir))
  let d : Disk := { root := .dir [], home := home }
  let (d, _) ← readWay d [] home
  let d ← a.projectDir.toList.foldlM readAll d
  let d ← a.src.toList.foldlM readAll d
  (a.rules.toList ++ a.report.toList ++ a.logFile.toList).foldlM readFile d

/-- Carries a change out. -/
def carryOut (c : Change) : IO Unit := do
  let here ← IO.currentDir
  match c with
  | .remove place =>
    let target := here / Path.ofParts place
    if ← target.isDir then IO.FS.removeDirAll target else IO.FS.removeFile target
  | .makeDir place => IO.FS.createDirAll (here / Path.ofParts place)
  | .write place b => IO.FS.writeBinFile (here / Path.ofParts place) ⟨b.toArray⟩

/-- A number with zeros before it, so that it has that many digits. -/
def padded (digits : Nat) (n : Int) : String :=
  let s := toString n
  "".pushn '0' (digits - s.length) ++ s

/-- The time now, as it is written before events. -/
def now : IO String := do
  let t := Std.Time.PlainDateTime.ofWallTime ((← Std.Time.Timestamp.now).toWallTime .zero)
  return padded 4 t.date.year.toInt ++ "-" ++ padded 2 t.date.month.val ++ "-" ++
    padded 2 t.date.day.val ++ "T" ++ padded 2 t.time.hour.val ++ ":" ++
    padded 2 t.time.minute.val ++ ":" ++ padded 2 t.time.second.val ++ "." ++
    padded 6 (t.time.nanosecond.val / 1000) ++ "Z"

/-- Does what the arguments ask for. Gives the exit code. -/
def run (args : List String) (a : Arguments) : IO UInt32 := do
  let before ← readDisk a
  let time ← now
  let (after, log, answer) := Program.run args time before
  (Tree.changes [] (some before.root) after.root).forM carryOut
  for e in log.upTo (Logging.ofVerbosity a.verbose a.quiet a.logFile).level do
    IO.eprint (e.fileLine time)
  match answer with
  | .refused reason => IO.eprintln reason.message; return 2
  | .failed message => IO.eprintln ("Error: " ++ message); return 1
  | .done _ summary => IO.println summary.pretty; return 0

end Byline.Command

/-- The command. -/
def main (args : List String) : IO UInt32 :=
  match Byline.Arguments.read args with
  | .ok a => Byline.Command.run args a
  | .error .displayHelp => do IO.println Byline.usage; return 0
  | .error reason => do IO.eprintln reason.message; return 2

/-!
# Modes and dispositions

A run has a mode, which tells where the results go, and each file has a disposition, which tells
how the authors that rules give it combine with those found in it.
-/

namespace Byline

/-- Where the results of a run go. -/
inductive Mode where
  /-- Into the files; the files as they were are kept beside them. -/
  | backup
  /-- Into the files; what was kept beside them is removed. -/
  | noBackup
  /-- Nothing is written; what was kept beside the files is put back. -/
  | restore
  /-- Into separate files beside the files. -/
  | test
  deriving DecidableEq, Repr

namespace Mode

/-- All modes. -/
def all : List Mode := [.backup, .noBackup, .restore, .test]

/-- The name of a mode on the command line and in reports. -/
def name : Mode → String
  | .backup => "backup"
  | .noBackup => "no-backup"
  | .restore => "restore"
  | .test => "test"

/-- The name of a mode in messages. -/
def display : Mode → String
  | .backup => "BACKUP"
  | .noBackup => "NO_BACKUP"
  | .restore => "RESTORE"
  | .test => "TEST"

/-- The names by which a mode can be given. -/
def names : Mode → List String
  | .noBackup => ["no-backup", "nobackup"]
  | m => [m.name]

/-- The mode of that name, in any case if `anyCase` holds. -/
def read? (anyCase : Bool) (token : String) : Option Mode :=
  all.find? fun m => m.names.any fun n => if anyCase then n == token.toLower else n == token

end Mode

/-- How the authors that rules give a file combine with those found in it. -/
inductive Disposition where
  /-- Those found in it, then those that are new. -/
  | merge
  /-- Only those given by rules. -/
  | overwrite
  /-- The file is left alone. -/
  | skip
  deriving DecidableEq, Repr

namespace Disposition

/-- All dispositions. -/
def all : List Disposition := [.merge, .overwrite, .skip]

/-- The name of a disposition in rules and reports. -/
def name : Disposition → String
  | .merge => "merge"
  | .overwrite => "overwrite"
  | .skip => "skip"

/-- The name of a disposition in messages. -/
def display : Disposition → String
  | .merge => "Merge"
  | .overwrite => "Overwrite"
  | .skip => "Skip"

/-- The disposition of that name, in any case. -/
def read? (token : String) : Option Disposition := all.find? fun d => d.name == token.toLower

end Disposition

end Byline

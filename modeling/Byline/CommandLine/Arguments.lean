import Byline.Mode
import Byline.Report.Format

/-!
# Arguments of the command line

The command line has a project directory, a mode, and options, long ones with two hyphens and short
ones that may stand together after one. An option that takes a value has it attached or as the next
argument. `Arguments.read` reads them all, or tells why they are refused.

A value is checked when the argument after it is taken up, so an argument that does not exist is
refused before a value before it.
-/

namespace Byline

/-- Why arguments are refused, or that help was asked for. -/
inductive Refusal where
  | displayHelp
  | invalidValue
  | unknownArgument
  | missingRequiredArgument
  | argumentConflict
  | tooManyValues
  deriving DecidableEq, Repr

/-- The name of a refusal. -/
def Refusal.name : Refusal → String
  | .displayHelp => "DisplayHelp"
  | .invalidValue => "InvalidValue"
  | .unknownArgument => "UnknownArgument"
  | .missingRequiredArgument => "MissingRequiredArgument"
  | .argumentConflict => "ArgumentConflict"
  | .tooManyValues => "TooManyValues"

/-- What an argument may be about. -/
inductive Argument where
  | projectDir
  | mode
  | rules
  | src
  | report
  | reportFormat
  | noReport
  | logFile
  | verbose
  | quiet
  | help
  deriving DecidableEq, Repr

namespace Argument

/-- The arguments told by their place. -/
def positional : List Argument := [.projectDir, .mode]

/-- The option of a long name. -/
def ofLong? : List Char → Option Argument := fun name =>
  match String.ofList name with
  | "rules" => some .rules
  | "src" => some .src
  | "report" => some .report
  | "report-format" => some .reportFormat
  | "no-report" => some .noReport
  | "log-file" => some .logFile
  | "verbose" => some .verbose
  | "quiet" => some .quiet
  | "help" => some .help
  | _ => none

/-- The option of a letter. -/
def ofShort? : Char → Option Argument
  | 'f' => some .reportFormat
  | 'v' => some .verbose
  | 'q' => some .quiet
  | 'h' => some .help
  | _ => none

/-- Does the option take a value? -/
def takesValue : Argument → Bool
  | .noReport | .verbose | .quiet | .help => false
  | _ => true

end Argument

/-- The arguments that were given. -/
structure Arguments where
  projectDir : Option String := none
  mode : Option Mode := none
  rules : Option String := none
  src : Option String := none
  report : Option String := none
  reportFormat : Option Format := none
  noReport : Bool := false
  logFile : Option String := none
  verbose : Nat := 0
  quiet : Bool := false
  deriving DecidableEq, Repr

namespace Arguments

/-- The most times an option is counted. -/
def mostVerbose : Nat := 255

/-- A value for what was not given before. -/
def once {α : Type} (before : Option α) (read? : String → Option α) (value : Option String) :
    Except Refusal (Option α) :=
  match value with
  | none => .error .invalidValue
  | some v =>
    if before.isSome then .error .argumentConflict
    else match read? v with
      | none => .error .invalidValue
      | some a => .ok (some a)

/-- A path that is not empty. -/
def path? (s : String) : Option String := if s.isEmpty then none else some s

/-- Takes an argument with its value. -/
def accept (a : Arguments) (arg : Argument) (value : Option String) : Except Refusal Arguments :=
  match arg with
  | .projectDir => (once a.projectDir path? value).map ({ a with projectDir := · })
  | .mode => (once a.mode (Mode.read? false) value).map ({ a with mode := · })
  | .rules => (once a.rules path? value).map ({ a with rules := · })
  | .src => (once a.src path? value).map ({ a with src := · })
  | .report => (once a.report path? value).map ({ a with report := · })
  | .reportFormat => (once a.reportFormat Format.read? value).map ({ a with reportFormat := · })
  | .logFile => (once a.logFile path? value).map ({ a with logFile := · })
  | .noReport => if a.noReport then .error .argumentConflict else .ok { a with noReport := true }
  | .quiet => if a.quiet then .error .argumentConflict else .ok { a with quiet := true }
  | .verbose => .ok { a with verbose := min (a.verbose + 1) mostVerbose }
  | .help => .error .displayHelp

end Arguments

/-- Arguments that are being read. -/
structure ArgumentReader where
  /-- The arguments taken. -/
  taken : Arguments := {}
  /-- An argument that is still to be taken, with its value if that was read. -/
  pending : Option (Argument × Option String) := none
  /-- The number of arguments told by their place so far. -/
  place : Nat := 0
  /-- Was the mark read after which all arguments are told by their place? -/
  trailing : Bool := false

namespace ArgumentReader

/-- Takes the argument that is pending. -/
def settle (r : ArgumentReader) : Except Refusal ArgumentReader :=
  match r.pending with
  | none => .ok r
  | some (arg, value) => (r.taken.accept arg value).map fun a => { r with taken := a, pending := none }

/-- Takes an option with its value, after what is pending. -/
def take (r : ArgumentReader) (arg : Argument) (value : Option String) :
    Except Refusal ArgumentReader := do
  let r ← r.settle
  return { r with taken := ← r.taken.accept arg value }

/-- Leaves an argument pending, after what was. -/
def await (r : ArgumentReader) (arg : Argument) (value : Option String) :
    Except Refusal ArgumentReader := do
  return { ← r.settle with pending := some (arg, value) }

/-- Reads an argument told by its place. -/
def readPositional (r : ArgumentReader) (s : String) : Except Refusal ArgumentReader :=
  match Argument.positional[r.place]? with
  | none => .error .unknownArgument
  | some arg => (r.await arg (some s)).map fun r => { r with place := r.place + 1 }

/-- Reads a long option, from the text after its hyphens. -/
def readLong (r : ArgumentReader) (s : List Char) : Except Refusal ArgumentReader :=
  let attached := (s.dropWhile (· != '=')).tail?.map String.ofList
  match Argument.ofLong? (s.takeWhile (· != '=')) with
  | none => .error .unknownArgument
  | some arg =>
    if arg.takesValue then
      match attached with
      | some v => r.take arg (some v)
      | none => r.await arg none
    else if attached.isSome then .error .tooManyValues
    else r.take arg none

/-- Reads short options that stand together. One that takes a value has the rest as its value, with
or without an equals sign, or else the next argument. -/
def readShorts (r : ArgumentReader) : List Char → Except Refusal ArgumentReader
  | [] => .ok r
  | c :: s =>
    match Argument.ofShort? c with
    | none => .error .unknownArgument
    | some arg =>
      if arg.takesValue then
        match s with
        | [] => r.await arg none
        | '=' :: v => r.take arg (some (String.ofList v))
        | v => r.take arg (some (String.ofList v))
      else
        match r.take arg none with
        | .error e => .error e
        | .ok r => r.readShorts s

/-- Reads one argument. -/
def step (r : ArgumentReader) (s : String) : Except Refusal ArgumentReader :=
  if r.trailing then r.readPositional s
  else match s.toList with
    | ['-', '-'] => .ok { r with trailing := true }
    | '-' :: '-' :: long => r.readLong long
    | '-' :: c :: shorts => r.readShorts (c :: shorts)
    | _ =>
      match r.pending with
      | some (arg, none) => .ok { r with pending := some (arg, some s) }
      | _ => r.readPositional s

/-- The arguments at the end. Quiet and verbose exclude each other, and a project directory is
needed. -/
def close (r : ArgumentReader) : Except Refusal Arguments := do
  let a := (← r.settle).taken
  if a.quiet && 0 < a.verbose then .error .argumentConflict
  else if a.projectDir.isNone then .error .missingRequiredArgument
  else return a

end ArgumentReader

/-- Reads all arguments. -/
def Arguments.read (args : List String) : Except Refusal Arguments := do
  (← args.foldlM ArgumentReader.step {}).close

end Byline

/-!
# Logs

The events of a run, in order, each with a level. A log is cut down to the events of a level and
above.
-/

namespace Byline

/-- The weight of an event. -/
inductive Level where
  | error
  | warn
  | info
  | debug
  | trace
  deriving DecidableEq, Repr

namespace Level

/-- The rank of a level; the gravest has rank zero. -/
def rank : Level → Nat
  | .error => 0
  | .warn => 1
  | .info => 2
  | .debug => 3
  | .trace => 4

/-- The name of a level in logs. -/
def display : Level → String
  | .error => "ERROR"
  | .warn => "WARN"
  | .info => "INFO"
  | .debug => "DEBUG"
  | .trace => "TRACE"

/-- The name of a level in settings. -/
def name : Level → String
  | .error => "error"
  | .warn => "warn"
  | .info => "info"
  | .debug => "debug"
  | .trace => "trace"

end Level

/-- Something that happened. -/
structure Event where
  level : Level
  message : String
  deriving DecidableEq, Repr

/-- Events in the order in which they happened. -/
abbrev Log := List Event

namespace Log

/-- The events of a level or a graver one. -/
def upTo (level : Level) (log : Log) : Log := log.filter fun e => e.level.rank ≤ level.rank

end Log

namespace Event

/-- The control characters that could act on a terminal are written by their codes. -/
def safeChar (c : Char) : List Char :=
  if c = '\x1b' ∨ c = '\x07' ∨ c = '\x08' ∨ c = '\x0c' ∨ c = '\x7f' then
    let digits := Nat.toDigits 16 c.toNat
    '\\' :: 'x' :: (List.replicate (2 - digits.length) '0' ++ digits)
  else if 0x80 ≤ c.toNat ∧ c.toNat ≤ 0x9F then
    ['\\', 'u', '\x7b'] ++ Nat.toDigits 16 c.toNat ++ ['\x7d']
  else [c]

/-- The line of an event in a log file: its time, the level right aligned, and the message, with
blanks between them. -/
def fileLine (time : String) (e : Event) : String :=
  time ++ " " ++ "".pushn ' ' (5 - e.level.display.length) ++ e.level.display ++ " " ++
    String.ofList (e.message.toList.flatMap safeChar) ++ "\n"

end Event

end Byline

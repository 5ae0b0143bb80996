import Byline.Problem
import Byline.Record.Collection
import Byline.Script.Line
import Byline.Text.Lines

/-!
# Interpreting a rule script

A script acts on a collection of records, one line after the other. A header opens a block and
closes the one before it; the lines that follow act within the block. In a block for types, `+`
and `-` name authors; in a block for an author, they name types.
-/

namespace Byline.Script

/-- The block that is open. -/
inductive Block where
  /-- No block is open. -/
  | none
  /-- A block for types. Without a filter, lines in it do nothing. -/
  | selection (filter : Option TypeFilter)
  /-- A block for an author. -/
  | author (name : String)

/-- What a script has done so far. -/
structure Stats where
  /-- The lines read. -/
  lines : Nat := 0
  /-- The records dropped. -/
  skipped : Nat := 0
  /-- The authors given to records. -/
  added : Nat := 0
  /-- The authors removed from records. -/
  removed : Nat := 0
  deriving DecidableEq, Repr

/-- A script that is being interpreted. -/
structure State where
  block : Block := .none
  stats : Stats := {}
  records : Records

/-- A warning that the text is no filter. -/
def filterWarning (text : String) : Event := ⟨.warn, (Problem.invalidFilter text).message⟩

/-- Sets the disposition of that name, if there is one. -/
def dispose (f : TypeFilter) (token : String) (rs : Records) : Records × Log :=
  match Disposition.read? token with
  | some d =>
    (rs.withDisposition f d, [⟨.debug, "Setting tagging mode to " ++ d.display ++ " for " ++
      toString (rs.covered f).length ++ " .java files"⟩])
  | none => (rs, [⟨.warn, "Invalid tagging mode: " ++ token⟩])

namespace State

/-- Gives an author to the records that a filter covers. -/
def add (s : State) (f : TypeFilter) (name : String) : State × Log :=
  let n := (s.records.gaining f name).length
  ({ s with
      records := s.records.giveAuthor f name
      stats := { s.stats with added := s.stats.added + n } },
    s.records.additionEvents f name ++
      [⟨.debug, "@author " ++ name ++ " >> " ++ toString n ++ " files"⟩])

/-- Removes the authors for which `p` holds from the records that a filter covers. -/
def remove (s : State) (f : TypeFilter) (p : String → Bool) (text : String) : State × Log :=
  let n := s.records.countRemoved f p
  ({ s with
      records := s.records.removeAuthors f p
      stats := { s.stats with removed := s.stats.removed + n } },
    [⟨.debug, text ++ " << " ++ toString n ++ " authors removed"⟩])

/-- Drops the records that a filter covers. -/
def skip (s : State) (f : TypeFilter) : State × Log :=
  let n := (s.records.covered f).length
  ({ s with
      records := s.records.skip f
      stats := { s.stats with skipped := s.stats.skipped + n } },
    s.records.skipEvents f ++ [⟨.debug, "!skip " ++ f.text ++ " >> " ++ toString n ++ " files"⟩])

/-- Opens a block for the types that a filter covers. -/
def select (s : State) (filter : String) (disposition : Option String) : State × Log :=
  match TypeFilter.read? filter with
  | none => ({ s with block := .selection none }, [filterWarning filter])
  | some f =>
    let chosen : Event := ⟨.debug, "$ " ++ f.text ++ " selects " ++
      toString (s.records.covered f).length ++ " files"⟩
    match disposition with
    | none => ({ s with block := .selection (some f) }, [chosen])
    | some token =>
      let (rs, log) := dispose f token s.records
      ({ s with block := .selection (some f), records := rs }, chosen :: log)

/-- Does what a line says. -/
def perform (s : State) : Line → State × Log
  | .inert => (s, [])
  | .malformed text =>
    ({ s with block := .none }, [⟨.warn, "Ignoring malformed block header `" ++ text ++
      "`; following operations are inert"⟩])
  | .selection filter disposition => s.select filter disposition
  | .author name => ({ s with block := .author name }, [])
  | .command word =>
    match s.block with
    | .selection (some f) =>
      if word.toLower == "skip" then s.skip f
      else
        let (rs, log) := dispose f word s.records
        ({ s with records := rs }, log)
    | .author name =>
      (s, [⟨.debug, "Ignoring `!" ++ word ++ "` in author block `@ " ++ name ++ "`"⟩])
    | _ => (s, [])
  | .add text =>
    match s.block with
    | .selection (some f) => s.add f text
    | .author name =>
      match TypeFilter.read? text with
      | some f => s.add f name
      | none => (s, [filterWarning text])
    | _ => (s, [])
  | .remove text =>
    match s.block with
    | .selection (some f) =>
      match AuthorFilter.read? text with
      | some g => s.remove f g.accepts text
      | none => (s, [filterWarning text])
    | .author name =>
      match TypeFilter.read? text with
      | some f => s.remove f (· == name) name
      | none => (s, [filterWarning text])
    | _ => (s, [])

/-- Reads one line and does what it says. -/
def step (s : State) (raw : String) : State × Log :=
  { s with stats := { s.stats with lines := s.stats.lines + 1 } }.perform (Line.read raw)

/-- Reads lines, one after the other. -/
def steps (s : State) : List String → State × Log
  | [] => (s, [])
  | raw :: rest =>
    let (s, log) := s.step raw
    let (s, log') := s.steps rest
    (s, log ++ log')

/-- Reads the lines of a file, up to the first that is no text. Tells whether there was none. -/
def stepsOctets (s : State) : List Utf8.Bytes → State × Log × Bool
  | [] => (s, [], true)
  | line :: rest =>
    match Utf8.decode? line with
    | none => (s, [], false)
    | some text =>
      let (s, log) := s.step (String.ofList (chomp text))
      let (s, log', whole) := s.stepsOctets rest
      (s, log ++ log', whole)

end State

/-- Interprets a script given as text. -/
def run (source : String) (rs : Records) : State × Log :=
  State.steps { records := rs } ((lines source.toList).map String.ofList)

/-- Interprets a script given as a file, and tells whether it was read to its end. -/
def runOctets (source : Utf8.Bytes) (rs : Records) : State × Log × Bool :=
  State.stepsOctets { records := rs } (Utf8.lines source)

end Byline.Script

import Byline.Pattern.Class
import Byline.Unicode.Added

/-!
# Reading a pattern

`Pattern.read?` reads a pattern from its text. One token at a time is read (`readToken`) and given
to the groups that are open (`Groups.take`): an atom joins the innermost sequence, a repetition
takes the last atom of it, a bar starts its next branch, and parentheses open and close groups. A
text that is no pattern is refused.
-/

namespace Byline.Pattern

/-- A token of a pattern. -/
inductive Token where
  /-- A pattern that may be repeated. -/
  | atom (p : Pattern)
  /-- A repetition of what stands before it. -/
  | iter (least : Nat) (most : Option Nat)
  /-- The bar between branches. -/
  | bar
  /-- The start of a group, with the flags inside it. -/
  | enter (fs : Flags)
  /-- The start of a group with a name. -/
  | enterNamed (name : List Char)
  /-- The end of a group. -/
  | leave
  /-- New flags up to the end of the group. -/
  | flags (fs : Flags)

/-- One character as the flags have it. -/
def literal (fs : Flags) (c : Char) : Pattern :=
  .set (if fs.caseless then
      (if fs.unicode then (Unicode.forms c).contains else (Unicode.asciiForms c).contains)
    else .single c)

/-- The characters a dot stands for. -/
def dot (fs : Flags) : CharSet :=
  if fs.dotAll then fun _ => true
  else if fs.crlf then fun c => c != '\n' && c != '\r'
  else fun c => c != '\n'

/-- The look of a caret. -/
def caret (fs : Flags) : Look := if fs.multiLine then .lineStart fs.crlf else .textStart

/-- The look of a dollar sign. -/
def dollar (fs : Flags) : Look := if fs.multiLine then .lineEnd fs.crlf else .textEnd

/-- The pattern of an escape. A character given by an octet has to be ASCII without the classes of
all characters. -/
def Escape.toPattern? (fs : Flags) : Escape → Option Pattern
  | .char c octet => if octet && !fs.unicode && 0x80 ≤ c.toNat then none else some (literal fs c)
  | .set s => some (.set s)
  | .look l => some (.look l)

/-- Drops the question mark that makes a repetition prefer fewer rounds. -/
def dropLazy : List Char → List Char
  | '?' :: s => s
  | s => s

/-- Reads decimal digits. -/
def readDigits (fs : Flags) : Nat → Option Nat → List Char → Option Nat × List Char
  | 0, value, s => (value, s)
  | _ + 1, value, [] => (value, [])
  | fuel + 1, value, c :: s =>
    if c.isDigit then
      readDigits fs fuel (some (10 * value.getD 0 + (c.toNat - 0x30))) (fs.skip s)
    else (value, c :: s)

/-- Counts of rounds are below this bound. -/
def countBound : Nat := 0x100000000

/-- Reads a count of rounds, with blanks around it. -/
def readCount (fs : Flags) (s : List Char) : Option (Nat × List Char) :=
  let s := s.dropWhile isBlank
  match readDigits fs (s.length + 1) none s with
  | (none, _) => none
  | (some n, r) => if n < countBound then some (n, r.dropWhile isBlank) else none

/-- Reads a repetition with counts, from the text after its opening brace. -/
def readCounts (fs : Flags) (s : List Char) : Option (Token × List Char) := do
  let (least, s) ← readCount fs (fs.skip s)
  let (most, s) ← match s with
    | ',' :: t =>
      match fs.skip t with
      | '\x7d' :: u => some (none, '\x7d' :: u)
      | u => (readCount fs u).map fun (n, r) => (some n, r)
    | s => some (some least, s)
  match s with
  | '\x7d' :: t =>
    if most.all (least ≤ ·) then return (.iter least most, dropLazy (fs.skip t)) else none
  | _ => none

/-- A character of the name of a group; its first character is stricter. -/
def isNameChar (first : Bool) (c : Char) : Bool :=
  if first then c == '_' || Unicode.isAlphabeticLater c
  else c == '_' || c == '.' || c == '[' || c == ']' || Unicode.isAlphanumericLater c

/-- Reads the name of a group up to its closing angle bracket. -/
def readName (first : Bool) : List Char → Option (List Char × List Char)
  | [] => none
  | c :: s =>
    if c = '>' then (if first then none else some ([], s))
    else if isNameChar first c then (readName false s).map fun (n, r) => (c :: n, r)
    else none

/-- Reads the start of a group, from the text after its parenthesis. Looks around a place are no
part of the language. -/
def readGroup (fs : Flags) (s : List Char) : Option (Token × List Char) :=
  match fs.skip s with
  | '?' :: '=' :: _ => none
  | '?' :: '!' :: _ => none
  | '?' :: '<' :: '=' :: _ => none
  | '?' :: '<' :: '!' :: _ => none
  | '?' :: 'P' :: '<' :: t => (readName true t).map fun (n, r) => (.enterNamed n, r)
  | '?' :: '<' :: t => (readName true t).map fun (n, r) => (.enterNamed n, r)
  | '?' :: t =>
    match fs.readDirective [] false false t with
    | none => none
    | some (fs', isEmpty, c, r) =>
      if c = ':' then some (.enter fs', r)
      else if isEmpty then none
      else some (.flags fs', r)
  | t => some (.enter fs, t)

/-- Reads a token from a text that is not empty. -/
def readToken (fs : Flags) : List Char → Option (Token × List Char)
  | [] => none
  | c :: s =>
    if c = '(' then readGroup fs s
    else if c = ')' then some (.leave, s)
    else if c = '|' then some (.bar, s)
    else if c = '[' then (readClass fs s).map fun (cs, r) => (.atom (.set cs), r)
    else if c = '?' then some (.iter 0 (some 1), dropLazy s)
    else if c = '*' then some (.iter 0 none, dropLazy s)
    else if c = '+' then some (.iter 1 none, dropLazy s)
    else if c = '\x7b' then readCounts fs s
    else if c = '\\' then
      match readEscape fs s with
      | none => none
      | some (e, r) => (e.toPattern? fs).map fun p => (.atom p, r)
    else if c = '.' then if fs.unicode then some (.atom (.set (dot fs)), s) else none
    else if c = '^' then some (.atom (.look (caret fs)), s)
    else if c = '$' then some (.atom (.look (dollar fs)), s)
    else some (.atom (literal fs c), s)

/-- A group that is open. -/
structure Group where
  /-- The flags in force. -/
  flags : Flags
  /-- The branches before the last bar. -/
  branches : Option Pattern
  /-- The members of the current branch, latest first. A directive is a member that cannot be
  repeated. -/
  members : List (Option Pattern)

namespace Group

/-- A group without members. -/
def empty (fs : Flags) : Group := ⟨fs, none, []⟩

/-- The current branch. -/
def branch (g : Group) : Pattern := sequence (g.members.reverse.filterMap id)

/-- All branches. -/
def pattern (g : Group) : Pattern :=
  match g.branches with
  | none => g.branch
  | some p => .alt p g.branch

/-- The group with one more member. -/
def push (g : Group) (p : Pattern) : Group := { g with members := some p :: g.members }

end Group

/-- The open groups of a pattern, the pattern itself being the outermost, and the names of groups
so far. -/
structure Groups where
  /-- The innermost group. -/
  inner : Group
  /-- The groups around it, from the inside. -/
  outer : List Group
  /-- The names that were given. -/
  names : List (List Char)

namespace Groups

/-- Nothing was read. -/
def start : Groups := ⟨.empty .initial, [], []⟩

/-- Takes a token. -/
def take (g : Groups) : Token → Option Groups
  | .atom p => some { g with inner := g.inner.push p }
  | .iter least most =>
    match g.inner.members with
    | some p :: ps => some { g with inner := { g.inner with members := some (.iter p least most) :: ps } }
    | _ => none
  | .bar => some { g with inner := ⟨g.inner.flags, some g.inner.pattern, []⟩ }
  | .enter fs => some { g with inner := .empty fs, outer := g.inner :: g.outer }
  | .enterNamed name =>
    if g.names.contains name then none
    else some ⟨.empty g.inner.flags, g.inner :: g.outer, name :: g.names⟩
  | .leave =>
    match g.outer with
    | [] => none
    | o :: os => some { g with inner := o.push g.inner.pattern, outer := os }
  | .flags fs =>
    some { g with inner := { g.inner with flags := fs, members := none :: g.inner.members } }

/-- Reads tokens to the end of the text. -/
def readAll : Nat → Groups → List Char → Option Groups
  | 0, _, _ => none
  | fuel + 1, g, s =>
    match g.inner.flags.skip s with
    | [] => some g
    | c :: t =>
      match readToken g.inner.flags (c :: t) with
      | none => none
      | some (token, r) =>
        match g.take token with
        | none => none
        | some g' => readAll fuel g' r

end Groups

/-- Reads a pattern. Neither the depth of its groups nor its size has a limit. An engine that sets
one, as most do, refuses patterns that are read here, such as one of several hundred groups inside
one another. -/
def read? (s : List Char) : Option Pattern :=
  match Groups.readAll (s.length + 1) .start s with
  | some ⟨g, [], _⟩ => some g.pattern
  | _ => none

end Byline.Pattern

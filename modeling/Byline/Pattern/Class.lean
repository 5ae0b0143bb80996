import Byline.Pattern.Escape

/-!
# Bracketed classes in a pattern

A class in brackets: characters, ranges, escapes, named classes and nested brackets side by side,
and between such unions the operators for intersection, difference and symmetric difference, which
bind alike and from the left. Case is taken into account for each bracket and each operand before
a complement is taken.
-/

namespace Byline.Pattern

/-- The operators between unions. -/
inductive SetOp where
  | inter
  | diff
  | symmDiff
  deriving DecidableEq, Repr

/-- The set of an operator. -/
def SetOp.apply : SetOp → CharSet → CharSet → CharSet
  | .inter => CharSet.inter
  | .diff => CharSet.diff
  | .symmDiff => CharSet.symmDiff

/-- An open bracket. -/
structure Bracket where
  /-- Does it start with a caret? -/
  negated : Bool
  /-- The operand on the left and the operator that was read, if any. -/
  pending : Option (CharSet × SetOp)
  /-- The union read since. -/
  union : CharSet

namespace Bracket

/-- The bracket with more characters in its union. -/
def add (b : Bracket) (s : CharSet) : Bracket := { b with union := b.union.union s }

/-- All that was read, as one set. -/
def operand (fs : Flags) (b : Bracket) : CharSet :=
  match b.pending with
  | none => b.union
  | some (lhs, op) => op.apply (fs.foldSet lhs) (fs.foldSet b.union)

/-- The bracket after an operator. -/
def operate (fs : Flags) (b : Bracket) (op : SetOp) : Bracket :=
  { b with pending := some (b.operand fs, op), union := .empty }

/-- The set of the bracket at its end. A complement needs the classes of all characters. -/
def close? (fs : Flags) (b : Bracket) : Option CharSet :=
  if b.negated && !fs.unicode then none
  else some (CharSet.complIf b.negated (fs.foldSet (b.operand fs)))

end Bracket

/-- Reads the hyphens at the start of a bracket, which stand for themselves. -/
def readHyphens (fs : Flags) : Nat → Bracket → List Char → Option (Bracket × List Char)
  | 0, _, _ => none
  | _ + 1, _, [] => none
  | fuel + 1, b, c :: s =>
    if c = '-' then readHyphens fs fuel (b.add (.single '-')) (fs.skip s) else some (b, c :: s)

/-- Reads the start of a bracket, after the bracket itself: a caret, then hyphens, or else a closing
bracket that stands for itself. -/
def openBracket (fs : Flags) (s : List Char) : Option (Bracket × List Char) := do
  let s := fs.skip s
  let negated := s.head? == some '^'
  let s := if negated then fs.skip (s.drop 1) else s
  let hyphen := s.head? == some '-'
  let (b, s) ← readHyphens fs (s.length + 1) ⟨negated, none, .empty⟩ s
  if !hyphen && s.head? == some ']' then
    let s := fs.skip (s.drop 1)
    if s.isEmpty then none else return (b.add (.single ']'), s)
  else return (b, s)

/-- Reads the name of an ASCII class up to a colon. -/
def readAsciiName : List Char → Option (List Char × List Char)
  | [] => none
  | c :: s => if c = ':' then some ([], s) else (readAsciiName s).map fun (n, r) => (c :: n, r)

/-- Reads an ASCII class from the text after its opening bracket, and whether it is the complement
that is meant. -/
def readAsciiClass : List Char → Option (CharSet × Bool × List Char)
  | ':' :: s => do
    let negated := s.head? == some '^'
    let (name, r) ← readAsciiName (if negated then s.drop 1 else s)
    match r with
    | ']' :: r =>
      let cs ← asciiClass? (String.ofList name)
      return (cs, negated, r)
    | _ => none
  | _ => none

/-- A character in brackets. Without the classes of all characters it has to be ASCII. -/
def classChar? (fs : Flags) (c : Char) : Option Char :=
  if fs.unicode || c.toNat < 0x80 then some c else none

/-- A member of a bracket: a character or a class. -/
inductive Member where
  | char (c : Char)
  | set (s : CharSet)

/-- The characters of a member. -/
def Member.toSet : Member → CharSet
  | .char c => .single c
  | .set s => s

/-- Reads a character or an escape in brackets. -/
def readMember (fs : Flags) : List Char → Option (Member × List Char)
  | [] => none
  | c :: s =>
    if c = '\\' then
      match readEscape fs s with
      | some (.char d _, r) => (classChar? fs d).map fun d => (.char d, r)
      | some (.set t, r) => some (.set t, r)
      | _ => none
    else (classChar? fs c).map fun c => (.char c, s)

/-- The character after the next one, past blanks and the sign of a comment. -/
def peek (fs : Flags) (s : List Char) : Option Char :=
  let r := s.drop 1
  if fs.extended then
    match r.dropWhile isBlank with
    | '#' :: t => (t.dropWhile isBlank).head?
    | t => t.head?
  else r.head?

/-- Reads a member, or a range between two characters. -/
def readItem (fs : Flags) (s : List Char) : Option (CharSet × List Char) := do
  let (m, s) ← readMember fs s
  let s := fs.skip s
  if s.head? != some '-' || peek fs s == some ']' || peek fs s == some '-' then
    return (m.toSet, s)
  else
    let (m', r) ← readMember fs (fs.skip (s.drop 1))
    match m, m' with
    | .char a, .char b => if a ≤ b then return (.range a b, r) else none
    | _, _ => none

/-- Reads brackets up to the end of the outermost one: `b` is the innermost open one, and `outer`
are those around it. Gives the set and the text after the bracket. -/
def readBrackets (fs : Flags) :
    Nat → Bracket → List Bracket → List Char → Option (CharSet × List Char)
  | 0, _, _, _ => none
  | fuel + 1, b, outer, s =>
    match fs.skip s with
    | [] => none
    | '[' :: t =>
      match readAsciiClass t with
      | some (cs, negated, r) =>
        if negated && !fs.unicode then none
        else readBrackets fs fuel (b.add (CharSet.complIf negated (fs.foldSet cs))) outer r
      | none =>
        match openBracket fs t with
        | none => none
        | some (b', r) => readBrackets fs fuel b' (b :: outer) r
    | ']' :: t =>
      match b.close? fs, outer with
      | none, _ => none
      | some cs, [] => some (cs, t)
      | some cs, o :: os => readBrackets fs fuel (o.add cs) os t
    | '&' :: '&' :: t => readBrackets fs fuel (b.operate fs .inter) outer t
    | '-' :: '-' :: t => readBrackets fs fuel (b.operate fs .diff) outer t
    | '~' :: '~' :: t => readBrackets fs fuel (b.operate fs .symmDiff) outer t
    | c :: t =>
      match readItem fs (c :: t) with
      | none => none
      | some (cs, r) => readBrackets fs fuel (b.add cs) outer r

/-- Reads a class from the text after its opening bracket. -/
def readClass (fs : Flags) (s : List Char) : Option (CharSet × List Char) :=
  match openBracket fs s with
  | none => none
  | some (b, r) => readBrackets fs (r.length + 1) b [] r

end Byline.Pattern

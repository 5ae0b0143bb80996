import Byline.Pattern.Flags
import Byline.Pattern.Property

/-!
# Escapes in a pattern

What a backslash introduces: a character, a class or a look. `readEscape` reads one escape from the
text after the backslash and gives the rest of the text. Anything that is no escape is refused.
-/

namespace Byline.Pattern

/-- The meaning of an escape. -/
inductive Escape where
  /-- A character; `octet` holds of one given by two hexadecimal digits. -/
  | char (c : Char) (octet : Bool)
  /-- A class. -/
  | set (s : CharSet)
  /-- A look. -/
  | look (l : Look)

/-- The characters with a meaning in patterns. -/
def metaChars : List Char :=
  ['\\', '.', '+', '*', '?', '(', ')', '|', '[', ']', '\x7b', '\x7d', '^', '$', '#', '&', '-', '~']

/-- Has the character a meaning in patterns? -/
def isMeta (c : Char) : Bool := metaChars.contains c

/-- Does the escaped character stand for itself? All characters with a meaning do, and all other
ASCII characters but letters, digits and angle brackets. -/
def isPlainEscape (c : Char) : Bool :=
  isMeta c || (c.toNat < 0x80 && !c.isAlphanum && c != '<' && c != '>')

/-- The value of a hexadecimal digit. -/
def hexValue? (c : Char) : Option Nat :=
  if c.isDigit then some (c.toNat - 0x30)
  else if 'a' ≤ c ∧ c ≤ 'f' then some (c.toNat - 0x57)
  else if 'A' ≤ c ∧ c ≤ 'F' then some (c.toNat - 0x37)
  else none

/-- The character of a code point; surrogates and numbers beyond the last plane have none. -/
def charOfCode? (n : Nat) : Option Char := if n.isValidChar then some (.ofNat n) else none

/-- Reads that many hexadecimal digits. -/
def readHexDigits (fs : Flags) : Nat → Nat → List Char → Option (Nat × List Char)
  | 0, value, s => some (value, s)
  | _ + 1, _, [] => none
  | n + 1, value, c :: s =>
    match hexValue? c with
    | none => none
    | some d => readHexDigits fs n (16 * value + d) (fs.skip s)

/-- Reads hexadecimal digits up to a closing brace; there must be one digit at least. -/
def readHexBraces (fs : Flags) : Nat → Option Nat → List Char → Option (Nat × List Char)
  | 0, _, _ => none
  | fuel + 1, value, s =>
    match fs.skip s with
    | [] => none
    | c :: t =>
      if c = '\x7d' then value.map (·, fs.skip t)
      else match hexValue? c with
        | none => none
        | some d => readHexBraces fs fuel (some (16 * value.getD 0 + d)) t

/-- Reads a character by its code point: `digits` hexadecimal digits, or any number in braces. -/
def readHex (fs : Flags) (digits : Nat) (s : List Char) : Option (Escape × List Char) :=
  match fs.skip s with
  | [] => none
  | c :: t => do
    if c = '\x7b' then
      let (n, r) ← readHexBraces fs (t.length + 1) none t
      let ch ← charOfCode? n
      return (.char ch false, r)
    else
      let (n, r) ← readHexDigits fs digits 0 (c :: t)
      let ch ← charOfCode? n
      return (.char ch (digits == 2), r)

/-- Reads a name up to a closing brace. -/
def readBraced (fs : Flags) : Nat → List Char → Option (List Char × List Char)
  | 0, _ => none
  | fuel + 1, s =>
    match fs.skip s with
    | [] => none
    | c :: t =>
      if c = '\x7d' then some ([], t)
      else (readBraced fs fuel t).map fun (name, r) => (c :: name, r)

/-- The set as the flags have it: with all forms of its characters if case does not count. -/
def Flags.foldSet (fs : Flags) (s : CharSet) : CharSet :=
  if fs.caseless then (if fs.unicode then s.fold else s.asciiFold) else s

/-- The set, or its complement. -/
def CharSet.complIf (negated : Bool) (s : CharSet) : CharSet := if negated then s.compl else s

/-- Reads the class of a property, which needs the classes of all characters. -/
def readProperty (fs : Flags) (negated : Bool) (s : List Char) : Option (Escape × List Char) :=
  if !fs.unicode then none
  else match fs.skip s with
    | [] => none
    | c :: t => do
      if c = '\x7b' then
        let (name, r) ← readBraced fs (t.length + 1) t
        let (cs, unequal) ← classBody? name
        return (.set (CharSet.complIf (negated != unequal) (fs.foldSet cs)), r)
      else if c = '\\' then none
      else
        let cs ← namedSet? [c]
        return (.set (CharSet.complIf negated (fs.foldSet cs)), fs.skip t)

/-- The kinds of word edges that have a name. -/
def namedEdge? : List Char → Option WordEdge
  | ['s', 't', 'a', 'r', 't'] => some .start
  | ['e', 'n', 'd'] => some .finish
  | ['s', 't', 'a', 'r', 't', '-', 'h', 'a', 'l', 'f'] => some .startHalf
  | ['e', 'n', 'd', '-', 'h', 'a', 'l', 'f'] => some .finishHalf
  | _ => none

/-- A character of the name of a word edge. -/
def isEdgeNameChar (c : Char) : Bool := c.isAlpha || c == '-'

/-- Reads the name of a word edge up to a closing brace. -/
def readEdgeName (fs : Flags) : Nat → List Char → Option (List Char × List Char)
  | 0, _ => none
  | _ + 1, [] => none
  | fuel + 1, c :: s =>
    if isEdgeNameChar c then
      (readEdgeName fs fuel (fs.skip s)).map fun (name, r) => (c :: name, r)
    else if c = '\x7d' then some ([], s)
    else none

/-- Reads what follows the escape of a word boundary: the name of another edge in braces, if the
brace is followed by a character of such a name. -/
def readEdge (fs : Flags) (s : List Char) : Option (WordEdge × List Char) :=
  match s with
  | '\x7b' :: t =>
    match fs.skip t with
    | [] => none
    | c :: u =>
      if isEdgeNameChar c then do
        let (name, r) ← readEdgeName fs (u.length + 2) (c :: u)
        let edge ← namedEdge? name
        return (edge, r)
      else some (.boundary, s)
  | _ => some (.boundary, s)

/-- The controls that have an escape. -/
def controlEscape? : Char → Option Char
  | 'a' => some '\x07'
  | 'f' => some '\x0c'
  | 't' => some '\t'
  | 'n' => some '\n'
  | 'r' => some '\r'
  | 'v' => some '\x0b'
  | _ => none

/-- Reads an escape from the text after its backslash. -/
def readEscape (fs : Flags) : List Char → Option (Escape × List Char)
  | [] => none
  | c :: s =>
    if isPlainEscape c then some (.char c false, s)
    else match controlEscape? c with
      | some d => some (.char d false, s)
      | none =>
        if c = 'x' then readHex fs 2 s
        else if c = 'u' then readHex fs 4 s
        else if c = 'U' then readHex fs 8 s
        else if c = 'p' then readProperty fs false s
        else if c = 'P' then readProperty fs true s
        else if c = 'A' then some (.look .textStart, s)
        else if c = 'z' then some (.look .textEnd, s)
        else if c = 'b' then (readEdge fs s).map fun (e, r) => (.look (.word fs.unicode e), r)
        else if c = 'B' then some (.look (.word fs.unicode .interior), s)
        else if c = '<' then some (.look (.word fs.unicode .start), s)
        else if c = '>' then some (.look (.word fs.unicode .finish), s)
        else match letterClass? fs.unicode c.toLower with
          | none => none
          | some cs =>
            if !c.isUpper then some (.set cs, s)
            else if fs.unicode then some (.set cs.compl, s)
            else none

end Byline.Pattern

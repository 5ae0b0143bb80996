import Byline.Unicode.Property
import Byline.Unicode.Folding

/-!
# Patterns

A pattern describes stretches of text: single characters from a set, looks at the characters around
a place, sequences, alternatives and repetition. Groups leave no trace in a pattern, and neither
does the greed of a repetition, since only the question whether a text has a matching stretch is
asked.

A place in a text is a `Cursor`. `Pattern.Reaches p x y` says that the text from `x` to `y` is a
stretch that `p` describes.
-/

namespace Byline

/-- A set of characters, by its membership test. -/
abbrev CharSet := Char → Bool

namespace CharSet

/-- No character. -/
def empty : CharSet := fun _ => false

/-- One character. -/
def single (c : Char) : CharSet := fun x => x == c

/-- The characters between two, both included. -/
def range (first last : Char) : CharSet := fun x => first ≤ x && x ≤ last

/-- The characters of one set or the other. -/
def union (s t : CharSet) : CharSet := fun x => s x || t x

/-- The characters of both sets. -/
def inter (s t : CharSet) : CharSet := fun x => s x && t x

/-- The characters of the first set that are not in the second. -/
def diff (s t : CharSet) : CharSet := fun x => s x && !t x

/-- The characters of exactly one of the sets. -/
def symmDiff (s t : CharSet) : CharSet := fun x => s x != t x

/-- All other characters. -/
def compl (s : CharSet) : CharSet := fun x => !s x

/-- The characters of which some form is in the set. -/
def fold (s : CharSet) : CharSet := fun x => (Unicode.forms x).any s

/-- The characters of which some form within ASCII is in the set. -/
def asciiFold (s : CharSet) : CharSet := fun x => (Unicode.asciiForms x).any s

/-- The characters of a list. -/
def ofList (cs : List Char) : CharSet := fun x => cs.contains x

/-- The ASCII characters with the digits, letters and the underscore. -/
def asciiWord : CharSet := fun x => x.isAlphanum || x == '_'

end CharSet

/-- A place in a text: the character before it, if any, and the text from it on. Two places of one
text are told apart by the length of the text that is left. -/
structure Cursor where
  /-- The character before the place. -/
  before : Option Char
  /-- The text from the place on. -/
  rest : List Char
  /-- The number of characters of that text. -/
  left : Nat
  left_eq : left = rest.length
  deriving DecidableEq, Repr

namespace Cursor

/-- The place at the start of a text. -/
def start (s : List Char) : Cursor := ⟨none, s, s.length, rfl⟩

/-- The place after the next character, if that is in the set. -/
def take? (s : CharSet) : Cursor → Option Cursor
  | ⟨_, [], _, _⟩ => none
  | ⟨_, c :: r, n, h⟩ => if s c then some ⟨some c, r, n - 1, by simp [h]⟩ else none

/-- The places from the one after `before` to the end of the text, the last first, and after them
`earlier`. -/
def placesOnto (earlier : List Cursor) (before : Option Char) :
    (s : List Char) → (n : Nat) → n = s.length → List Cursor
  | [], n, h => ⟨before, [], n, h⟩ :: earlier
  | c :: r, n, h => placesOnto (⟨before, c :: r, n, h⟩ :: earlier) (some c) r (n - 1) (by simp [h])

/-- Every place in a text, the last first. -/
def places (s : List Char) : List Cursor := placesOnto [] none s s.length rfl

end Cursor

/-- The kinds of looks for the edge of a word. -/
inductive WordEdge where
  /-- A word starts or ends here. -/
  | boundary
  /-- No word starts or ends here. -/
  | interior
  /-- A word starts here. -/
  | start
  /-- A word ends here. -/
  | finish
  /-- No word character is before. -/
  | startHalf
  /-- No word character follows. -/
  | finishHalf
  deriving DecidableEq, Repr

/-- Does the edge lie between a side that belongs to a word, or not, and another? -/
def WordEdge.holds : WordEdge → Bool → Bool → Bool
  | .boundary, before, after => before != after
  | .interior, before, after => before == after
  | .start, before, after => !before && after
  | .finish, before, after => before && !after
  | .startHalf, before, _ => !before
  | .finishHalf, _, after => !after

/-- A condition on the characters around a place. -/
inductive Look where
  /-- The start of the text. -/
  | textStart
  /-- The end of the text. -/
  | textEnd
  /-- The start of a line. If `crlf` holds, a carriage return also ends a line, alone or with a
  line feed after it. -/
  | lineStart (crlf : Bool)
  /-- The end of a line. -/
  | lineEnd (crlf : Bool)
  /-- The edge of a word, of ASCII words only unless `unicode` holds. -/
  | word (unicode : Bool) (edge : WordEdge)
  deriving DecidableEq, Repr

/-- Does the condition hold at the place? -/
def Look.holds (l : Look) (x : Cursor) : Bool :=
  let after := x.rest.head?
  match l with
  | .textStart => x.before.isNone
  | .textEnd => after.isNone
  | .lineStart false => x.before.all (· == '\n')
  | .lineEnd false => after.all (· == '\n')
  | .lineStart true => x.before.all (fun c => c == '\n' || (c == '\r' && after != some '\n'))
  | .lineEnd true => after.all (fun c => c == '\r' || (c == '\n' && x.before != some '\r'))
  | .word unicode edge =>
    let isWord := if unicode then Unicode.isWordChar else CharSet.asciiWord
    edge.holds (x.before.any isWord) (after.any isWord)

/-- A description of stretches of text. -/
inductive Pattern where
  /-- The empty stretch. -/
  | empty
  /-- One character of a set. -/
  | set (s : CharSet)
  /-- The empty stretch where a condition holds. -/
  | look (l : Look)
  /-- A stretch of the first and right after it one of the second. -/
  | seq (p q : Pattern)
  /-- A stretch of either. -/
  | alt (p q : Pattern)
  /-- Stretches one after the other, at least `least` and at most `most`, if there is a bound. -/
  | iter (p : Pattern) (least : Nat) (most : Option Nat)

namespace Pattern

/-- The patterns one after the other. -/
def sequence : List Pattern → Pattern
  | [] => .empty
  | [p] => p
  | p :: ps => .seq p (sequence ps)

/-- The text between two places is a stretch that the pattern describes. -/
inductive Reaches : Pattern → Cursor → Cursor → Prop where
  | empty (x : Cursor) : Reaches .empty x x
  | set {s : CharSet} {x y : Cursor} (h : x.take? s = some y) : Reaches (.set s) x y
  | look {l : Look} {x : Cursor} (h : l.holds x = true) : Reaches (.look l) x x
  | seq {p q : Pattern} {x y z : Cursor} (h : Reaches p x y) (k : Reaches q y z) :
      Reaches (.seq p q) x z
  | altLeft {p q : Pattern} {x y : Cursor} (h : Reaches p x y) : Reaches (.alt p q) x y
  | altRight {p q : Pattern} {x y : Cursor} (h : Reaches q x y) : Reaches (.alt p q) x y
  | iterNone (p : Pattern) (most : Option Nat) (x : Cursor) : Reaches (.iter p 0 most) x x
  | iterMore {p : Pattern} {least : Nat} {most : Option Nat} {x y z : Cursor}
      (bound : most ≠ some 0) (h : Reaches p x y)
      (k : Reaches (.iter p (least - 1) (most.map (· - 1))) y z) :
      Reaches (.iter p least most) x z

/-- The text has a stretch that the pattern describes. -/
def Matches (p : Pattern) (s : List Char) : Prop :=
  ∃ x ∈ Cursor.places s, ∃ y, Reaches p x y

end Pattern

end Byline

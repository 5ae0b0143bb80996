import Byline.Text.Blank

/-!
# Flags of a pattern

The switches that change how the text of a pattern is read, and the directive that sets them:
letters to switch on, and after a hyphen letters to switch off.
-/

namespace Byline.Pattern

/-- The switches. -/
inductive Flag where
  /-- Letters match in either case. -/
  | caseless
  /-- The anchors match at each line. -/
  | multiLine
  /-- The dot also matches a line end. -/
  | dotAll
  /-- Repetitions prefer fewer rounds. -/
  | swapGreed
  /-- Classes and case are those of all characters, not of ASCII only. -/
  | unicode
  /-- A carriage return is a line end too. -/
  | crlf
  /-- Blanks and comments in the text of the pattern mean nothing. -/
  | extended
  deriving DecidableEq, Repr

/-- The letter of a switch. -/
def Flag.ofChar? : Char → Option Flag
  | 'i' => some .caseless
  | 'm' => some .multiLine
  | 's' => some .dotAll
  | 'U' => some .swapGreed
  | 'u' => some .unicode
  | 'R' => some .crlf
  | 'x' => some .extended
  | _ => none

/-- The switches that are on. -/
structure Flags where
  caseless : Bool
  multiLine : Bool
  dotAll : Bool
  unicode : Bool
  crlf : Bool
  extended : Bool
  deriving DecidableEq, Repr

namespace Flags

/-- At first only the classes of all characters are on. -/
def initial : Flags := ⟨false, false, false, true, false, false⟩

/-- Sets one switch. Greed has no switch, as it changes no answer. -/
def put (fs : Flags) (f : Flag) (on : Bool) : Flags :=
  match f with
  | .caseless => { fs with caseless := on }
  | .multiLine => { fs with multiLine := on }
  | .dotAll => { fs with dotAll := on }
  | .swapGreed => fs
  | .unicode => { fs with unicode := on }
  | .crlf => { fs with crlf := on }
  | .extended => { fs with extended := on }

/-- Reads the letters of a directive up to the character that ends it, a colon or a closing
parenthesis. `seen` are the switches named so far, and `negated` tells whether the hyphen was
read; a switch may be named only once, and a hyphen needs a switch after it. Gives the flags, whether
the directive is empty, the ending character and the text after it. -/
def readDirective (fs : Flags) (seen : List Flag) (negated dangling : Bool) :
    List Char → Option (Flags × Bool × Char × List Char)
  | [] => none
  | c :: s =>
    if c = ':' ∨ c = ')' then
      if dangling then none else some (fs, seen.isEmpty, c, s)
    else if c = '-' then
      if negated then none else readDirective fs seen true true s
    else match Flag.ofChar? c with
      | none => none
      | some f =>
        if seen.contains f then none
        else readDirective (fs.put f (!negated)) (f :: seen) negated false s

/-- Drops blanks and comments; a comment runs from a number sign to the end of its line. -/
def dropBlanks : Bool → List Char → List Char
  | _, [] => []
  | true, c :: s => dropBlanks (c != '\n') s
  | false, c :: s =>
    if isBlank c then dropBlanks false s
    else if c = '#' then dropBlanks true s
    else c :: s

/-- Drops the blanks and comments that mean nothing under the flags. -/
def skip (fs : Flags) (s : List Char) : List Char :=
  if fs.extended then dropBlanks false s else s

/-- Under flags that are not extended every character counts. -/
theorem skip_of_not_extended {fs : Flags} (h : fs.extended = false) (s : List Char) :
    fs.skip s = s := by
  simp [skip, h]

end Flags

end Byline.Pattern

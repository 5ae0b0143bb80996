import Byline.Unicode.Added

/-!
# Quoted text

The form in which a log message shows a text with its bounds: between quotation marks, with
backslash escapes for quotation marks, backslashes and a few controls, and with the code point in
braces for every character that is not visible on its own.
-/

namespace Byline.Quoted

open Unicode

/-- Is the character a sound mark of half width? Though it extends the grapheme before it, it takes
a place of its own. -/
def isHalfwidthMark (c : Char) : Bool := c.toNat == 0xFF9E || c.toNat == 0xFF9F

/-- Is the character shown as itself? It is the blank, or assigned and no control, format,
separator or private use character; it is not ignored in display; and it does not extend the
grapheme before it, sound marks of half width apart. -/
def isVisible (c : Char) : Bool :=
  (!extendsGraphemeLater c || isHalfwidthMark c) && !defaultIgnorable.contains c.toNat &&
    (c == ' ' || (isAssignedLater c &&
      !inCategories [.control, .format, .privateUse, .spaceSeparator, .lineSeparator,
        .paragraphSeparator] c))

/-- A code point in hexadecimal digits, lower case. -/
def hex (n : Nat) : List Char := Nat.toDigits 16 n

/-- The escape of a character by its code point. -/
def codePoint (c : Char) : List Char := ['\\', 'u', '\x7b'] ++ hex c.toNat ++ ['\x7d']

/-- The form of one character between quotation marks. -/
def encodeChar (c : Char) : List Char :=
  if c = '\x00' then ['\\', '0']
  else if c = '\t' then ['\\', 't']
  else if c = '\r' then ['\\', 'r']
  else if c = '\n' then ['\\', 'n']
  else if c = '\\' then ['\\', '\\']
  else if c = '"' then ['\\', '"']
  else if isVisible c then [c]
  else codePoint c

/-- A text between quotation marks. -/
def encode (s : String) : String :=
  String.ofList ('"' :: (s.toList.flatMap encodeChar ++ ['"']))

/-- A text that may be absent. -/
def encodeOption : Option String → String
  | none => "None"
  | some s => "Some(" ++ encode s ++ ")"

/-- A number that may be absent. -/
def encodeNumber : Option Nat → String
  | none => "None"
  | some n => "Some(" ++ toString n ++ ")"

/-- Texts in brackets, separated by commas. -/
def encodeList (ss : List String) : String := "[" ++ ", ".intercalate (ss.map encode) ++ "]"

end Byline.Quoted

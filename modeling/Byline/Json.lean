/-!
# JSON

Values of JSON with the members of an object in order, and their text with one member or item to a
line and two blanks for each level.
-/

namespace Byline

/-- A value of JSON. -/
inductive Json where
  | null
  | number (n : Nat)
  | string (s : String)
  | array (items : List Json)
  | object (members : List (String × Json))
  deriving Repr

namespace Json

/-- A string, or null where there is none. -/
def ofOption : Option String → Json
  | none => .null
  | some s => .string s

/-- An array of strings. -/
def strings (ss : List String) : Json := .array (ss.map .string)

/-- A digit of an escape. -/
def hexDigit (n : Nat) : Char := if n < 10 then .ofNat (0x30 + n) else .ofNat (0x57 + n)

/-- A character in quotation marks. Quotation marks, backslashes and controls are escaped. -/
def escape (c : Char) : List Char :=
  if c = '"' then ['\\', '"']
  else if c = '\\' then ['\\', '\\']
  else if c = '\x08' then ['\\', 'b']
  else if c = '\x0c' then ['\\', 'f']
  else if c = '\n' then ['\\', 'n']
  else if c = '\r' then ['\\', 'r']
  else if c = '\t' then ['\\', 't']
  else if c.toNat < 0x20 then
    ['\\', 'u', '0', '0', hexDigit (c.toNat / 16), hexDigit (c.toNat % 16)]
  else [c]

/-- A string in quotation marks. -/
def quote (s : String) : String := String.ofList ('"' :: (s.toList.flatMap escape ++ ['"']))

/-- The start of a line at a level. -/
def indent (level : Nat) : String := "".pushn ' ' (2 * level)

mutual

/-- The text of a value at a level. -/
def render (level : Nat) : Json → String
  | .null => "null"
  | .number n => toString n
  | .string s => quote s
  | .array [] => "[]"
  | .array (j :: js) =>
    "[\n" ++ indent (level + 1) ++ render (level + 1) j ++ renderItems (level + 1) js ++ "\n" ++
      indent level ++ "]"
  | .object [] => "\x7b\x7d"
  | .object ((k, j) :: ms) =>
    "\x7b\n" ++ indent (level + 1) ++ quote k ++ ": " ++ render (level + 1) j ++
      renderMembers (level + 1) ms ++ "\n" ++ indent level ++ "\x7d"

/-- The text of further items of an array. -/
def renderItems (level : Nat) : List Json → String
  | [] => ""
  | j :: js => ",\n" ++ indent level ++ render level j ++ renderItems level js

/-- The text of further members of an object. -/
def renderMembers (level : Nat) : List (String × Json) → String
  | [] => ""
  | (k, j) :: ms =>
    ",\n" ++ indent level ++ quote k ++ ": " ++ render level j ++ renderMembers level ms

end

/-- The text of a value. -/
def pretty (j : Json) : String := render 0 j

end Json

end Byline

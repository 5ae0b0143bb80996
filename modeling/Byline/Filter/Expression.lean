import Byline.Pattern.Escape

/-!
# Filters as patterns

A filter between slashes is the text of a pattern as it stands. Any other filter is a glob, with `?`
for one character and `*` for a run, and is written out as the text of a pattern:

* a filter of types that has a dot covers the whole name, and its `?` and `*` stay within one part
  of it, while `**` crosses dots;
* a filter of types without a dot covers the last part of the name;
* a filter of authors may match anywhere in the name, and its `?` and `*` cross everything but a
  line end.
-/

namespace Byline.Filter

/-- The text of a pattern for the character itself. -/
def escape (c : Char) : List Char := if Pattern.isMeta c then ['\\', c] else [c]

/-- The text between the slashes around a filter, if it has both. -/
def slashed? : List Char → Option (List Char)
  | '/' :: s => if s.getLast? = some '/' then some s.dropLast else none
  | _ => none

/-- The text for one character of a filter of types. -/
def typePiece (c : Char) : List Char :=
  if c = '.' then ['\\', '.']
  else if c = '?' then ['[', '^', '.', ']']
  else if c = '*' then ['[', '^', '.', ']', '*']
  else escape c

/-- The text for a filter of types with a dot. Two stars in a row cross dots. -/
def dottedPieces : List Char → List Char
  | [] => []
  | '*' :: '*' :: s => '.' :: '*' :: dottedPieces s
  | c :: s => typePiece c ++ dottedPieces s

/-- The text of the pattern for a filter of types. -/
def typeExpression (filter : List Char) : List Char :=
  match slashed? filter with
  | some s => s
  | none =>
    if filter.contains '.' then '^' :: (dottedPieces filter ++ ['$'])
    else "(.*\\.)?".toList ++ (filter.flatMap typePiece ++ ['$'])

/-- The text of the pattern that has to cover a whole name. -/
def anchored (s : List Char) : List Char := "^(?:".toList ++ (s ++ ")$".toList)

/-- The text for one character of a filter of authors. -/
def authorPiece (c : Char) : List Char :=
  if c = '?' then ['.'] else if c = '*' then ['.', '*'] else escape c

/-- The text of the pattern for a filter of authors. -/
def authorExpression (filter : List Char) : List Char :=
  match slashed? filter with
  | some s => s
  | none => filter.flatMap authorPiece

end Byline.Filter

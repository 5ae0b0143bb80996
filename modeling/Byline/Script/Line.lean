import Byline.Text.Blank

/-!
# Lines of a rule script

A line is cut at the first number sign and trimmed. What is left starts with a sign that tells its
kind:

* `$ filter` or `$ filter disposition` opens a block for the types that the filter covers;
* `@ author` opens a block for the author;
* `! word` is a command, `+ text` adds and `- text` removes.

A sign that needs a text and has none says nothing, except that a header which cannot be used still
ends the block before it. All other lines are notes.
-/

namespace Byline.Script

/-- The meaning of a line. -/
inductive Line where
  /-- Opens a block for the types that the filter covers. -/
  | selection (filter : String) (disposition : Option String)
  /-- Opens a block for the author. -/
  | author (name : String)
  /-- A command. -/
  | command (word : String)
  /-- An addition. -/
  | add (text : String)
  /-- A removal. -/
  | remove (text : String)
  /-- A header that cannot be used. -/
  | malformed (text : String)
  /-- A line without a meaning. -/
  | inert
  deriving DecidableEq, Repr

namespace Line

/-- The line up to a comment, without blanks at its ends. -/
def content (raw : List Char) : List Char := trim (raw.takeWhile (· != '#'))

/-- The meaning of a trimmed line without a comment. -/
def ofContent : List Char → Line
  | [] => .inert
  | sign :: text =>
    let rest := trim text
    let payload := String.ofList rest
    if sign = '$' then
      match words rest with
      | [filter] => .selection (String.ofList filter) none
      | [filter, disposition] =>
        .selection (String.ofList filter) (some (String.ofList disposition))
      | _ => .malformed (String.ofList (sign :: text))
    else if sign = '@' then
      if rest.isEmpty then .malformed (String.ofList (sign :: text)) else .author payload
    else if rest.isEmpty then .inert
    else if sign = '!' then .command payload
    else if sign = '+' then .add payload
    else if sign = '-' then .remove payload
    else .inert

/-- The meaning of a line. -/
def read (raw : String) : Line := ofContent (content raw.toList)

end Line

end Byline.Script

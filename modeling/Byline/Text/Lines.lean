import Byline.Text.Utf8
import Byline.Text.Blank

/-!
# Lines

A line ends with a line feed, or with the end of the text. `splitInclusive` cuts a list into
lines that keep their terminators, so that the lines joined are the list again
(`flatten_splitInclusive`); `lines` drops the terminators (a line feed, and a carriage return
right before it).

A source of octets may also be read in pieces: `Chunks.readLine` takes the octets up to and with
the next line feed, however the pieces fall, and leaves less to read (`Chunks.length_readLine_lt`).
-/

namespace Byline

/-- A list cut after every member that satisfies `p`; no piece is empty. -/
def splitInclusive {α : Type} (p : α → Bool) : List α → List (List α)
  | [] => []
  | x :: s =>
    if p x then [x] :: splitInclusive p s
    else match splitInclusive p s with
      | [] => [[x]]
      | l :: ls => (x :: l) :: ls

/-- The pieces joined are the list. -/
theorem flatten_splitInclusive {α : Type} (p : α → Bool) (s : List α) :
    (splitInclusive p s).flatten = s := by
  fun_induction splitInclusive p s <;> simp_all

/-- No piece is empty. -/
theorem ne_nil_of_mem_splitInclusive {α : Type} {p : α → Bool} {s l : List α}
    (h : l ∈ splitInclusive p s) : l ≠ [] := by
  fun_induction splitInclusive p s generalizing l with
  | case1 => simp at h
  | case2 x s hx ih =>
    rcases List.mem_cons.1 h with rfl | h
    · simp
    · exact ih h
  | case3 x s hx hs ih => simp_all
  | case4 x s hx l' ls hs ih =>
    rw [hs] at ih
    rcases List.mem_cons.1 h with rfl | h
    · simp
    · exact ih (.tail _ h)

/-- The line feed. -/
def isNewline (c : Char) : Bool := c == '\n'

/-- A line feed or carriage return. -/
def isLineEnd (c : Char) : Bool := c == '\n' || c == '\r'

/-- A line without its terminator: one line feed, and one carriage return right before it. A
carriage return that no line feed follows is part of the line. -/
def chomp (line : List Char) : List Char :=
  if line.getLast? = some '\n' then
    let rest := line.dropLast
    if rest.getLast? = some '\r' then rest.dropLast else rest
  else line

/-- A line without any of the line feeds and carriage returns at its end. -/
def chompAll (line : List Char) : List Char := dropEndWhile isLineEnd line

/-- The lines of a text, without terminators. The empty text has none. -/
def lines (s : List Char) : List (List Char) := (splitInclusive isNewline s).map chomp

/-- The octet of the line feed. -/
def newline : UInt8 := 0x0A

/-- The octet of the carriage return. -/
def carriageReturn : UInt8 := 0x0D

namespace Utf8

/-- The lines of a file, terminators kept. -/
def lines (b : Bytes) : List Bytes := splitInclusive (· == newline) b

/-- The text of one line of a file: read with replacements, and without any line feed or carriage
return at its end. -/
def lineText (line : Bytes) : List Char := chompAll (decodeLossy line)

end Utf8

open Utf8 (Bytes)

/-- Octets that arrive in pieces. -/
abbrev Chunks := List Bytes

namespace Chunks

/-- The octets up to and with the first line feed, and those after it, or all octets where there
is no line feed. -/
def cutLine : Bytes → Bytes × Option Bytes
  | [] => ([], none)
  | b :: s =>
    if b == newline then ([b], some s)
    else ((b :: (cutLine s).1), (cutLine s).2)

/-- The next line with its terminator, and what is left to read. The line is empty only at the
end. -/
def readLine : Chunks → Bytes × Chunks
  | [] => ([], [])
  | c :: cs =>
    match cutLine c with
    | (line, some rest) => (line, rest :: cs)
    | (line, none) => (line ++ (readLine cs).1, (readLine cs).2)

/-- A cut loses nothing. -/
theorem cutLine_append (s : Bytes) : (cutLine s).1 ++ (cutLine s).2.getD [] = s := by
  induction s with
  | nil => rfl
  | cons b s ih => by_cases h : b == newline <;> simp [cutLine, h, ih]

/-- Reading a line loses nothing. -/
theorem readLine_append (cs : Chunks) :
    (readLine cs).1 ++ (readLine cs).2.flatten = cs.flatten := by
  induction cs with
  | nil => rfl
  | cons c cs ih =>
    have hc := cutLine_append c
    rw [readLine]
    split
    · next line rest h =>
      rw [h] at hc
      simp only [Option.getD_some] at hc
      rw [List.flatten_cons, List.flatten_cons, ← List.append_assoc, hc]
    · next line h =>
      rw [h] at hc
      simp only [Option.getD_none, List.append_nil] at hc
      rw [List.flatten_cons, List.append_assoc, ih, hc]

/-- Where a line was read, less is left. -/
theorem length_readLine_lt {cs : Chunks} (h : (readLine cs).1 ≠ []) :
    (readLine cs).2.flatten.length < cs.flatten.length := by
  have e := congrArg List.length (readLine_append cs)
  have p := List.length_pos_iff.2 h
  rw [List.length_append] at e
  omega

end Chunks

end Byline

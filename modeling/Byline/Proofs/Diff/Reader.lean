import Byline.Diff.Alignment
import Byline.Diff.Unified

/-!
# Reading unified renderings

`readPatch?` reads a rendering back into hunks. The numbers of a header become the ranges of a
`Hunk`, and the lines up to the next header become its lines, of which each is kept, deleted or
inserted as its first character says. Nothing but a rendering that is well formed is read: a range
of one line has no length, only a range of no line may be at line zero, and the names of the lists
come before at least one hunk, if there is any line at all.

What is rendered is read back (`readPatch?_render`): a group of deltas is a hunk, with the lines
that `marked` gives.
-/

namespace Byline.Unified

/-! ## Hunks and their reader -/

/-- Lines in place of others, and lines around them that are kept. Positions are counted from
zero. -/
structure Hunk where
  oldStart : Nat
  oldLength : Nat
  newStart : Nat
  newLength : Nat
  lines : List (Step × String)
  deriving DecidableEq, Repr

/-- The number that a text starts with, and the text after it. -/
def takeNumber? (cs : List Char) : Option (Nat × List Char) :=
  if cs.takeWhile Char.isDigit = [] then none
  else some (Nat.ofDigitChars 10 (cs.takeWhile Char.isDigit) 0, cs.dropWhile Char.isDigit)

/-- The position and the length of the range that a text starts with, and the text after it. -/
def takeRange? (cs : List Char) : Option ((Nat × Nat) × List Char) := do
  let (start, rest) ← takeNumber? cs
  match rest with
  | ',' :: rest => do
    let (length, rest) ← takeNumber? rest
    if length = 0 then some ((start, 0), rest)
    else if start = 0 ∨ length = 1 then none
    else some ((start - 1, length), rest)
  | _ => if start = 0 then none else some ((start - 1, 1), rest)

/-- The hunk that a header announces, without its lines. -/
def readHeader? (line : String) : Option Hunk :=
  match line.toList with
  | '@' :: '@' :: ' ' :: '-' :: cs => do
    let ((oldStart, oldLength), cs) ← takeRange? cs
    match cs with
    | ' ' :: '+' :: cs => do
      let ((newStart, newLength), cs) ← takeRange? cs
      if cs = [' ', '@', '@'] then some ⟨oldStart, oldLength, newStart, newLength, []⟩ else none
    | _ => none
  | _ => none

/-- A line without its mark, and what the mark says. -/
def readMarked? (line : String) : Option (Step × String) :=
  match line.toList with
  | ' ' :: cs => some (.keep, String.ofList cs)
  | '-' :: cs => some (.delete, String.ofList cs)
  | '+' :: cs => some (.insert, String.ofList cs)
  | _ => none

/-- The marked lines before the first header, and the hunks. -/
def readHunks? : List String → Option (List (Step × String) × List Hunk)
  | [] => some ([], [])
  | line :: ls => do
    let (ms, hs) ← readHunks? ls
    match readMarked? line with
    | some m => some (m :: ms, hs)
    | none => (readHeader? line).map fun h => ([], { h with lines := ms } :: hs)

/-- The hunks of a rendering of the difference between two named lists. -/
def readPatch? (oldName newName : String) : List String → Option (List Hunk)
  | [] => some []
  | [_] => none
  | first :: second :: ls =>
    if first = "--- " ++ oldName ∧ second = "+++ " ++ newName then
      match readHunks? ls with
      | some ([], h :: hs) => some (h :: hs)
      | _ => none
    else none

/-! ## The hunks of groups of deltas -/

/-- The lines of a hunk from a position of the old list up to another. -/
def marked (old : List String) (pos stop : Nat) : List Delta → List (Step × String)
  | [] => (slice old pos stop).map (.keep, ·)
  | d :: ds =>
    (slice old pos d.old.position).map (.keep, ·) ++ d.old.lines.map (.delete, ·) ++
      d.new.lines.map (.insert, ·) ++ marked old d.old.stop stop ds

/-- The hunk of deltas, for ranges of the lists up to the positions `i'` and `j'`. -/
def Hunk.upTo (old : List String) (i' j' i j : Nat) (ds : List Delta) : Hunk :=
  ⟨i, i' - i, j, j' - j, marked old i i' ds⟩

/-- The hunk of deltas whose first and last are given. -/
def hunkOf (old : List String) (context : Nat) (first last : Delta) (ds : List Delta) : Hunk :=
  let start := first.old.position - context
  let stop := min (last.old.stop + context) old.length
  let start' := first.new.position - (first.old.position - start)
  let stop' := last.new.stop + (stop - last.old.stop)
  .upTo old stop stop' start start' ds

/-- The hunk of a group of deltas, if there is a delta in it. -/
def groupHunks (old : List String) (context : Nat) : List Delta → List Hunk
  | [] => []
  | d :: ds => [hunkOf old context d ((d :: ds).getLast (List.cons_ne_nil d ds)) (d :: ds)]

/-! ## What is read back -/

theorem takeNumber?_append (n : Nat) {c : Char} (hc : c.isDigit = false) (rest : List Char) :
    takeNumber? ((toString n).toList ++ c :: rest) = some (n, c :: rest) := by
  have hdigits : ∀ d ∈ Nat.toDigits 10 n, d.isDigit = true := fun d hd =>
    Nat.isDigit_of_mem_toDigits (by decide) (by decide) hd
  have htake : (c :: rest).takeWhile Char.isDigit = [] := by simp [hc]
  have hdrop : (c :: rest).dropWhile Char.isDigit = c :: rest := by simp [hc]
  rw [Nat.toString_eq_ofList_toDigits, String.toList_ofList, takeNumber?,
    List.takeWhile_append_of_pos hdigits, List.dropWhile_append_of_pos hdigits, htake, hdrop,
    List.append_nil, if_neg Nat.toDigits_ne_nil, Nat.ofDigitChars_toDigits (by decide) (by decide)]

theorem takeRange?_comma (start length : Nat) (rest : List Char) :
    takeRange? ((toString start ++ "," ++ toString length).toList ++ ' ' :: rest) =
      if length = 0 then some ((start, 0), ' ' :: rest)
      else if start = 0 ∨ length = 1 then none
      else some ((start - 1, length), ' ' :: rest) := by
  have htext : (toString start ++ "," ++ toString length).toList ++ ' ' :: rest =
      (toString start).toList ++ ',' :: ((toString length).toList ++ ' ' :: rest) := by
    simp
  rw [htext, takeRange?, takeNumber?_append start (by decide)]
  simp only [Option.bind_eq_bind, Option.bind_some]
  rw [takeNumber?_append length (by decide)]
  rfl

theorem takeRange?_append (start length : Nat) (rest : List Char) :
    takeRange? ((range start length).toList ++ ' ' :: rest) =
      some ((start, length), ' ' :: rest) := by
  unfold range
  by_cases h₀ : length = 0
  · subst h₀
    have htext : toString start ++ ",0" = toString start ++ "," ++ toString 0 := by
      rw [String.append_assoc]
      rfl
    rw [if_pos rfl, htext, takeRange?_comma, if_pos rfl]
  · rw [if_neg h₀]
    by_cases h₁ : length = 1
    · subst h₁
      rw [if_pos rfl, takeRange?, takeNumber?_append (start + 1) (by decide)]
      rfl
    · rw [if_neg h₁, takeRange?_comma, if_neg h₀, if_neg (by omega), Nat.add_sub_cancel]

/-- The header of a hunk. -/
def headerOf (h : Hunk) : String :=
  "@@ -" ++ range h.oldStart h.oldLength ++ " +" ++ range h.newStart h.newLength ++ " @@"

theorem toList_headerOf (h : Hunk) : (headerOf h).toList =
    '@' :: '@' :: ' ' :: '-' :: ((range h.oldStart h.oldLength).toList ++ ' ' :: '+' ::
      ((range h.newStart h.newLength).toList ++ ' ' :: ['@', '@'])) := by
  simp [headerOf]

theorem readHeader?_headerOf (h : Hunk) :
    readHeader? (headerOf h) = some { h with lines := [] } := by
  rw [readHeader?, toList_headerOf]
  simp only [takeRange?_append, Option.bind_eq_bind, Option.bind_some, if_true]

theorem readMarked?_headerOf (h : Hunk) : readMarked? (headerOf h) = none := by
  rw [readMarked?, toList_headerOf]
  rfl

/-- A line with the mark of what becomes of it. -/
def writeMarked : Step × String → String
  | (.keep, line) => " " ++ line
  | (.delete, line) => "-" ++ line
  | (.insert, line) => "+" ++ line

theorem readMarked?_writeMarked (m : Step × String) : readMarked? (writeMarked m) = some m := by
  obtain ⟨step, line⟩ := m
  cases step <;> simp [writeMarked, readMarked?]

theorem body_eq (old : List String) (pos stop : Nat) (ds : List Delta) :
    body old pos stop ds = (marked old pos stop ds).map writeMarked := by
  induction ds generalizing pos with
  | nil => rw [body, marked, List.map_map]; rfl
  | cons d ds ih =>
    rw [body, marked, ih]
    simp only [List.map_append, List.map_map]
    rfl

theorem readHunks?_marked {ls : List String} {hs : List Hunk} (h : readHunks? ls = some ([], hs))
    (ms : List (Step × String)) : readHunks? (ms.map writeMarked ++ ls) = some (ms, hs) := by
  induction ms with
  | nil => exact h
  | cons m ms ih =>
    rw [List.map_cons, List.cons_append, readHunks?, ih]
    simp only [Option.bind_eq_bind, Option.bind_some]
    rw [readMarked?_writeMarked]

theorem readHunks?_cons {ls : List String} {hs : List Hunk} (h : readHunks? ls = some ([], hs))
    (k : Hunk) :
    readHunks? (headerOf k :: k.lines.map writeMarked ++ ls) = some ([], k :: hs) := by
  rw [List.cons_append, readHunks?, readHunks?_marked h]
  simp only [Option.bind_eq_bind, Option.bind_some]
  rw [readMarked?_headerOf, readHeader?_headerOf]
  rfl

theorem hunkLines_eq (old : List String) (context : Nat) (ds : List Delta) :
    hunkLines old context ds =
      (groupHunks old context ds).flatMap fun h => headerOf h :: h.lines.map writeMarked := by
  cases ds with
  | nil => rfl
  | cons d ds =>
    rw [hunkLines, hunk, body_eq, groupHunks, List.flatMap_singleton]
    rfl

theorem readHunks?_flatMap (hs : List Hunk) :
    readHunks? (hs.flatMap fun h => headerOf h :: h.lines.map writeMarked) = some ([], hs) := by
  induction hs with
  | nil => rfl
  | cons h hs ih =>
    rw [List.flatMap_cons]
    exact readHunks?_cons ih h

theorem hunks_cons_cons {context : Nat} {d e : Delta} {ds g : List Delta} {gs : List (List Delta)}
    (h : hunks context (e :: ds) = g :: gs) : hunks context (d :: e :: ds) =
      if gap d e ≤ 2 * context then (d :: g) :: gs else [d] :: g :: gs := by
  unfold hunks
  rw [h]

theorem exists_hunks_cons (context : Nat) (d : Delta) (ds : List Delta) :
    ∃ g gs, hunks context (d :: ds) = (d :: g) :: gs := by
  cases ds with
  | nil => exact ⟨[], [], rfl⟩
  | cons e ds =>
    obtain ⟨g, gs, h⟩ := exists_hunks_cons context e ds
    rw [hunks_cons_cons h]
    by_cases hgap : gap d e ≤ 2 * context
    · rw [if_pos hgap]
      exact ⟨_, _, rfl⟩
    · rw [if_neg hgap]
      exact ⟨_, _, rfl⟩

/-- What is rendered of a difference is read back. -/
theorem readPatch?_render (oldName newName : String) (old : List String) (ds : List Delta)
    (context : Nat) :
    readPatch? oldName newName (render oldName newName old ds context) =
      some ((hunks context ds).flatMap (groupHunks old context)) := by
  cases ds with
  | nil => rfl
  | cons d ds =>
    have hread := readHunks?_flatMap ((hunks context (d :: ds)).flatMap (groupHunks old context))
    rw [List.flatMap_assoc] at hread
    simp only [← hunkLines_eq] at hread
    have hrender : render oldName newName old (d :: ds) context =
        ("--- " ++ oldName) :: ("+++ " ++ newName) ::
          (hunks context (d :: ds)).flatMap (hunkLines old context) := rfl
    rw [hrender, readPatch?, if_pos ⟨rfl, rfl⟩, hread]
    -- The first group has the first delta, so that there is a hunk.
    obtain ⟨g, gs, hgroups⟩ := exists_hunks_cons context d ds
    rw [hgroups]
    rfl

example : readPatch? "a" "b" ["--- a", "+++ b", "@@ -0,0 +1,2 @@", "+x", "+y"] =
    some [⟨0, 0, 0, 2, [(.insert, "x"), (.insert, "y")]⟩] := by decide +kernel

example : readPatch? "a" "b" ["--- a", "+++ b", "@@ -1,1 +1 @@", "-x", "+y"] = none := by
  decide +kernel

end Byline.Unified

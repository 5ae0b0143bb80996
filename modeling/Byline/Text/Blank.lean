/-!
# Blanks

Blank characters (those with the property White_Space), trimming, and the words between blanks.
`mem_words` states what a word is: never empty, and free of blanks.
-/

namespace Byline

/-- Is the character white space? There are twenty-five such characters. -/
def isBlank (c : Char) : Bool :=
  let n := c.toNat
  (0x09 ≤ n && n ≤ 0x0D) || n == 0x20 || n == 0x85 || n == 0xA0 || n == 0x1680 ||
    (0x2000 ≤ n && n ≤ 0x200A) || n == 0x2028 || n == 0x2029 || n == 0x202F || n == 0x205F ||
    n == 0x3000

/-- The list without the longest run at its end whose members all satisfy `p`. -/
def dropEndWhile {α : Type} (p : α → Bool) (s : List α) : List α :=
  (s.reverse.dropWhile p).reverse

/-- The text without the blanks at its end. -/
def trimEnd (s : List Char) : List Char := dropEndWhile isBlank s

/-- The text without the blanks at its start and end. -/
def trim (s : List Char) : List Char := trimEnd (s.dropWhile isBlank)

/-- The words of `c :: s`, where `c` is not blank and `ws` are the words of `s`: a new word if `s`
is empty or starts with a blank, else a longer first word. -/
def consWord (c : Char) (s : List Char) (ws : List (List Char)) : List (List Char) :=
  if s.head?.all isBlank then [c] :: ws
  else match ws with
    | [] => [[c]]
    | w :: ws => (c :: w) :: ws

/-- The maximal runs without a blank, in order. -/
def words : List Char → List (List Char)
  | [] => []
  | c :: s => if isBlank c then words s else consWord c s (words s)

/-- A word is not empty, and its characters are characters of the text that are not blank. -/
theorem mem_words {s w : List Char} (h : w ∈ words s) :
    w ≠ [] ∧ ∀ c ∈ w, c ∈ s ∧ isBlank c = false := by
  induction s generalizing w with
  | nil => simp [words] at h
  | cons c s ih =>
    have ih' : ∀ v ∈ words s, v ≠ [] ∧ ∀ d ∈ v, d ∈ c :: s ∧ isBlank d = false := fun v hv =>
      ⟨(ih hv).1, fun d hd => ⟨.tail _ ((ih hv).2 d hd).1, ((ih hv).2 d hd).2⟩⟩
    by_cases hc : isBlank c = true
    · exact ih' w (by simpa [words, hc] using h)
    · have hb : isBlank c = false := by simpa using hc
      have h' : w ∈ consWord c s (words s) := by simpa [words, hb] using h
      unfold consWord at h'
      split at h'
      · rcases List.mem_cons.1 h' with rfl | h'
        · simp [hb]
        · exact ih' w h'
      cases hws : words s with
      | nil =>
        have : w = [c] := by simpa [hws] using h'
        simp [this, hb]
      | cons v ws =>
        rw [hws] at h' ih'
        rcases List.mem_cons.1 h' with rfl | h'
        · refine ⟨by simp, fun d hd => ?_⟩
          rcases List.mem_cons.1 hd with rfl | hd
          · exact ⟨.head _, hb⟩
          · exact (ih' v (.head _)).2 d hd
        · exact ih' w (.tail _ h')

end Byline

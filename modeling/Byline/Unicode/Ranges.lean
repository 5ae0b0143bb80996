/-!
# Ranges of code points

A set of code points as ranges in ascending order, and the search of one code point in it.
-/

namespace Byline.Unicode

/-- Ranges of code points, both ends included, in ascending order. -/
abbrev Ranges := List (Nat × Nat)

namespace Ranges

/-- The ranges whose ends follow one another in the list. -/
def ofBounds : List Nat → Ranges
  | a :: b :: s => (a, b) :: ofBounds s
  | _ => []

/-- Is the code point in one of the ranges? The search ends at the first range that starts after
it. -/
def contains : Ranges → Nat → Bool
  | [], _ => false
  | (first, last) :: rs, n => if n < first then false else n ≤ last || contains rs n

/-- A code point that is found lies in a range. -/
theorem exists_of_contains {rs : Ranges} {n : Nat} (h : rs.contains n = true) :
    ∃ r ∈ rs, r.1 ≤ n ∧ n ≤ r.2 := by
  induction rs with
  | nil => simp [contains] at h
  | cons r rs ih =>
    simp only [contains] at h
    split at h
    · simp at h
    · next hr =>
      rcases Bool.or_eq_true_iff.1 h with h | h
      · exact ⟨r, .head _, by omega, by simpa using h⟩
      · obtain ⟨q, hq, hn⟩ := ih h
        exact ⟨q, .tail _ hq, hn⟩

end Ranges

end Byline.Unicode

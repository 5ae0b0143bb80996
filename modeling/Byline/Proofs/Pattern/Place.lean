import Byline.Pattern.Basic
import Mathlib.Data.List.Basic

/-!
# Places in a text

A place in a text cuts it in two (`Cursor.between`), and is known by the length of what is left
(`Cursor.In.eq_of_left`). `Cursor.places` lists all places of a text, the last first. A pattern
leads from a place to one of the same text that is no earlier (`Pattern.Reaches.in_text`).
-/

namespace Byline

namespace Cursor

/-- The place between two parts of a text. -/
def between (pre suf : List Char) : Cursor :=
  ⟨pre.getLast?, suf, suf.length, (start suf).left_eq⟩

@[simp]
theorem take?_between_nil (t : CharSet) (pre : List Char) : (between pre []).take? t = none := rfl

@[simp]
theorem take?_between_cons (t : CharSet) (pre : List Char) (c : Char) (suf : List Char) :
    (between pre (c :: suf)).take? t = if t c then some (between (pre ++ [c]) suf) else none := by
  simp [between, take?]

/-- A place of the text. -/
def In (s : List Char) (x : Cursor) : Prop := ∃ pre suf, s = pre ++ suf ∧ x = between pre suf

variable {s : List Char} {x y : Cursor}

/-- Places of one text are told apart by what is left of it. -/
theorem In.eq_of_left (hx : x.In s) (hy : y.In s) (h : x.left = y.left) : x = y := by
  obtain ⟨pre, suf, rfl, rfl⟩ := hx
  obtain ⟨pre', suf', heq, rfl⟩ := hy
  obtain ⟨rfl, rfl⟩ := List.append_inj' heq h
  rfl

/-- The next character is taken off the text that is left. -/
theorem In.take? {t : CharSet} (hx : x.In s) (h : x.take? t = some y) :
    y.In s ∧ y.left + 1 = x.left := by
  obtain ⟨pre, suf, rfl, rfl⟩ := hx
  cases suf with
  | nil => exact absurd h (Option.some_ne_none y).symm
  | cons c suf =>
    rw [take?_between_cons] at h
    split at h
    · obtain rfl := Option.some.inj h
      exact ⟨⟨pre ++ [c], suf, by simp, rfl⟩, rfl⟩
    · cases h

/-! ## All places -/

/-- The places from one on are put onto the earlier ones. -/
theorem mem_placesOnto {earlier : List Cursor} {pre suf : List Char} {n : Nat}
    (h : n = suf.length) :
    x ∈ placesOnto earlier pre.getLast? suf n h ↔
      x ∈ earlier ∨ ∃ w r, suf = w ++ r ∧ x = between (pre ++ w) r := by
  induction suf generalizing earlier pre n with
  | nil =>
    subst h
    simp [placesOnto, between, or_comm]
  | cons c suf ih =>
    subst h
    have hlast : some c = (pre ++ [c]).getLast? := by simp
    rw [placesOnto, hlast, ih, List.mem_cons, or_assoc, or_left_comm]
    refine or_congr_right ?_
    constructor
    · rintro (rfl | ⟨w, r, rfl, rfl⟩)
      · exact ⟨[], c :: suf, rfl, by simp [between]⟩
      · exact ⟨c :: w, r, rfl, by simp⟩
    · rintro ⟨w, r, hw, rfl⟩
      cases w with
      | nil => exact .inl (by simp [between, show r = c :: suf from hw.symm])
      | cons d w =>
        obtain ⟨rfl, rfl⟩ := List.cons.inj hw
        exact .inr ⟨w, r, rfl, by simp⟩

theorem mem_places : x ∈ places s ↔ x.In s := by
  have h : x ∈ placesOnto [] ([] : List Char).getLast? s s.length rfl ↔ _ := mem_placesOnto rfl
  simpa [places, In] using h

/-- The later places come first. -/
theorem pairwise_placesOnto {earlier : List Cursor} {b : Option Char} {suf : List Char} {n : Nat}
    (h : n = suf.length) (hp : earlier.Pairwise (·.left < ·.left))
    (hl : ∀ x ∈ earlier, n < x.left) :
    (placesOnto earlier b suf n h).Pairwise (·.left < ·.left) := by
  induction suf generalizing earlier b n with
  | nil => exact hp.cons hl
  | cons c suf ih =>
    refine ih _ (hp.cons hl) ?_
    intro x hx
    subst h
    rcases List.mem_cons.1 hx with rfl | hx
    · simp
    · have := hl x hx
      simp only [List.length_cons] at this ⊢
      omega

theorem pairwise_places (s : List Char) : (places s).Pairwise (·.left < ·.left) :=
  pairwise_placesOnto rfl .nil fun _ hx => absurd hx List.not_mem_nil

end Cursor

namespace Pattern

variable {s : List Char} {x y : Cursor} {p : Pattern}

/-- A pattern leads to a place of the same text that is no earlier. -/
theorem Reaches.in_text (h : Reaches p x y) (hx : x.In s) : y.In s ∧ y.left ≤ x.left := by
  induction h with
  | empty | look | iterNone => exact ⟨hx, Nat.le_refl _⟩
  | set h =>
    obtain ⟨hy, hl⟩ := hx.take? h
    exact ⟨hy, by omega⟩
  | seq _ _ ih ih' =>
    obtain ⟨hy, hl⟩ := ih hx
    obtain ⟨hz, hl'⟩ := ih' hy
    exact ⟨hz, Nat.le_trans hl' hl⟩
  | altLeft _ ih | altRight _ ih => exact ih hx
  | iterMore _ _ _ ih ih' =>
    obtain ⟨hy, hl⟩ := ih hx
    obtain ⟨hz, hl'⟩ := ih' hy
    exact ⟨hz, Nat.le_trans hl' hl⟩

end Pattern

end Byline

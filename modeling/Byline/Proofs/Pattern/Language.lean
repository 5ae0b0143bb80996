import Byline.Proofs.Pattern.Search
import Mathlib.Computability.Language

/-!
# The language of a pattern

A pattern that does not look around (`Pattern.Blind`) describes the same stretches wherever it
stands: those of its language (`takes_language`), so that it matches a text which has one of them as
a part (`matches_iff_infix`). Between the looks for the start and the end of a
text, it has to lead through the whole text (`matches_anchored`), and does so exactly if the text is
in its language (`reaches_whole_iff`).
-/

namespace Byline.Pattern

open Cursor

/-- Does the pattern look at nothing but the characters that it takes? -/
def Blind : Pattern → Prop
  | .look _ => False
  | .seq p q => p.Blind ∧ q.Blind
  | .alt p q => p.Blind ∧ q.Blind
  | .iter p _ _ => p.Blind
  | _ => True

/-- The texts that the pattern describes, if it does not look around. -/
def language : Pattern → Language Char
  | .empty => 1
  | .set t => {w | ∃ c, t c = true ∧ w = [c]}
  | .look _ => 0
  | .seq p q => p.language * q.language
  | .alt p q => p.language + q.language
  | .iter p least most => {w | ∃ n, least ≤ n ∧ (∀ m ∈ most, n ≤ m) ∧ w ∈ p.language ^ n}

@[simp]
theorem mem_language_set {t : CharSet} {w : List Char} :
    w ∈ (Pattern.set t).language ↔ ∃ c, t c = true ∧ w = [c] := Iff.rfl

/-- The relation leads over exactly the texts of a language, wherever they stand. -/
def Takes (r : Cursor → Cursor → Prop) (l : Language Char) : Prop :=
  ∀ pre suf y, r (between pre suf) y ↔
    ∃ w ∈ l, ∃ rest, suf = w ++ rest ∧ y = between (pre ++ w) rest

namespace Takes

variable {r r' : Cursor → Cursor → Prop} {l m : Language Char} {p q : Pattern}

theorem congr (h : Takes r l) (hr : ∀ x y, r' x y ↔ r x y) : Takes r' l :=
  fun pre suf y => (hr _ y).trans (h pre suf y)

/-- Staying takes nothing. -/
theorem stay : Takes (· = ·) 1 := by
  intro pre suf y
  constructor
  · rintro rfl
    exact ⟨[], rfl, suf, rfl, by simp⟩
  · rintro ⟨w, rfl, rest, rfl, rfl⟩
    simp

/-- One after the other takes a text of each. -/
theorem comp (h : Takes r l) (h' : Takes r' m) :
    Takes (fun x z => ∃ y, r x y ∧ r' y z) (l * m) := by
  intro pre suf z
  rw [Language.mul_def]
  constructor
  · rintro ⟨y, hxy, hyz⟩
    obtain ⟨u, hu, rest, rfl, rfl⟩ := (h pre suf y).1 hxy
    obtain ⟨v, hv, rest, rfl, rfl⟩ := (h' (pre ++ u) rest z).1 hyz
    exact ⟨u ++ v, ⟨u, hu, v, hv, rfl⟩, rest, by simp, by simp⟩
  · rintro ⟨-, ⟨u, hu, v, hv, rfl⟩, rest, rfl, rfl⟩
    refine ⟨between (pre ++ u) (v ++ rest), (h pre _ _).2 ⟨u, hu, v ++ rest, by simp, rfl⟩, ?_⟩
    exact (h' (pre ++ u) _ _).2 ⟨v, hv, rest, rfl, by simp⟩

theorem rounds (h : Takes r l) (n : Nat) : Takes (Rounds r n) (l ^ n) := by
  induction n with
  | zero => exact stay
  | succ n ih =>
    rw [pow_succ']
    exact h.comp ih

theorem set (t : CharSet) : Takes (Reaches (.set t)) (Pattern.set t).language := by
  intro pre suf y
  rw [reaches_set]
  cases suf with
  | nil => simp
  | cons c suf =>
    rw [take?_between_cons]
    constructor
    · intro h
      split at h
      next hc => exact ⟨[c], ⟨c, hc, rfl⟩, suf, rfl, (Option.some.inj h).symm⟩
      next => cases h
    · rintro ⟨w, ⟨d, hd, rfl⟩, rest, hrest, rfl⟩
      obtain ⟨rfl, rfl⟩ := List.cons.inj hrest
      exact if_pos hd

theorem alt (hp : Takes (Reaches p) l) (hq : Takes (Reaches q) m) :
    Takes (Reaches (.alt p q)) (l + m) := by
  intro pre suf y
  simp only [reaches_alt, hp pre suf y, hq pre suf y, Language.mem_add, or_and_right, exists_or]

theorem iter (hp : Takes (Reaches p) p.language) (least : Nat) (most : Option Nat) :
    Takes (Reaches (.iter p least most)) (Pattern.iter p least most).language := by
  intro pre suf y
  rw [reaches_iter]
  constructor
  · rintro ⟨n, hl, hm, hn⟩
    obtain ⟨w, hw, h⟩ := (hp.rounds n pre suf y).1 hn
    exact ⟨w, ⟨n, hl, hm, hw⟩, h⟩
  · rintro ⟨w, ⟨n, hl, hm, hw⟩, h⟩
    exact ⟨n, hl, hm, (hp.rounds n pre suf y).2 ⟨w, hw, h⟩⟩

end Takes

/-- A pattern that does not look around describes the texts of its language, wherever they stand. -/
theorem takes_language {p : Pattern} (hp : p.Blind) : Takes (Reaches p) p.language := by
  induction p with
  | empty => exact Takes.stay.congr fun x y => reaches_empty
  | set t => exact .set t
  | look l => exact hp.elim
  | seq p q ihp ihq => exact ((ihp hp.1).comp (ihq hp.2)).congr fun x y => reaches_seq
  | alt p q ihp ihq => exact (ihp hp.1).alt (ihq hp.2)
  | iter p least most ih => exact (ih hp).iter least most

/-! ## Sequences -/

section

variable {p : Pattern} {ps qs : List Pattern} {x z : Cursor}

theorem reaches_sequence_cons :
    Reaches (sequence (p :: ps)) x z ↔ ∃ y, Reaches p x y ∧ Reaches (sequence ps) y z := by
  cases ps with
  | nil => simp [sequence, reaches_empty]
  | cons q ps => exact reaches_seq

theorem reaches_sequence_append :
    Reaches (sequence (ps ++ qs)) x z ↔
      ∃ y, Reaches (sequence ps) x y ∧ Reaches (sequence qs) y z := by
  induction ps generalizing x with
  | nil => simp [sequence, reaches_empty]
  | cons p ps ih =>
    rw [List.cons_append, reaches_sequence_cons]
    simp only [ih, reaches_sequence_cons]
    constructor
    · rintro ⟨y, hp, w, hps, hqs⟩
      exact ⟨w, ⟨y, hp, hps⟩, hqs⟩
    · rintro ⟨w, ⟨y, hp, hps⟩, hqs⟩
      exact ⟨y, hp, w, hps, hqs⟩

@[simp]
theorem proper_sequence : (sequence ps).Proper ↔ ∀ p ∈ ps, p.Proper := by
  fun_induction sequence ps with
  | case1 => simp [Proper]
  | case2 p => simp
  | case3 p ps hps ih => rw [List.forall_mem_cons, ← ih, Proper]

@[simp]
theorem blind_sequence : (sequence ps).Blind ↔ ∀ p ∈ ps, p.Blind := by
  fun_induction sequence ps with
  | case1 => simp [Blind]
  | case2 p => simp
  | case3 p ps hps ih => rw [List.forall_mem_cons, ← ih, Blind]

theorem language_sequence_cons :
    (sequence (p :: ps)).language = p.language * (sequence ps).language := by
  cases ps with
  | nil => exact (mul_one p.language).symm
  | cons q ps => rfl

end

/-! ## Parts of texts -/

/-- A pattern that does not look around matches a text if some part of the text is in its
language. -/
theorem matches_iff_infix {p : Pattern} (hp : p.Blind) {s : List Char} :
    Matches p s ↔ ∃ w ∈ p.language, w <:+: s := by
  simp only [Matches, mem_places, Cursor.In]
  constructor
  · rintro ⟨-, ⟨pre, suf, rfl, rfl⟩, y, hy⟩
    obtain ⟨w, hw, rest, rfl, -⟩ := (takes_language hp pre suf y).1 hy
    exact ⟨w, hw, pre, rest, by simp⟩
  · rintro ⟨w, hw, pre, rest, rfl⟩
    exact ⟨between pre (w ++ rest), ⟨pre, w ++ rest, by simp, rfl⟩, between (pre ++ w) rest,
      (takes_language hp pre _ _).2 ⟨w, hw, rest, rfl, rfl⟩⟩

/-! ## Whole texts -/

theorem holds_textStart {pre suf : List Char} :
    Look.holds .textStart (between pre suf) = true ↔ pre = [] := by
  simp [Look.holds, between]

theorem holds_textEnd {pre suf : List Char} :
    Look.holds .textEnd (between pre suf) = true ↔ suf = [] := by
  simp [Look.holds, between]

section

variable {p : Pattern} {ps : List Pattern} {s : List Char} {x z : Cursor}

/-- At the start of a text the look for it may be left out. -/
theorem reaches_sequence_textStart :
    Reaches (sequence (.look .textStart :: ps)) (between [] s) z ↔
      Reaches (sequence ps) (between [] s) z := by
  simp [reaches_sequence_cons, reaches_look, holds_textStart]

/-- At the end of a text the look for it may be left out. -/
theorem reaches_sequence_textEnd :
    Reaches (sequence (ps ++ [.look .textEnd])) x (between s []) ↔
      Reaches (sequence ps) x (between s []) := by
  rw [reaches_sequence_append]
  constructor
  · rintro ⟨y, hps, h⟩
    obtain ⟨-, rfl⟩ := reaches_look.1 h
    exact hps
  · intro hps
    exact ⟨between s [], hps, .look (holds_textEnd.2 rfl)⟩

theorem matches_anchored :
    Matches (sequence [.look .textStart, p, .look .textEnd]) s ↔
      Reaches p (between [] s) (between s []) := by
  simp only [Matches, mem_places, sequence, reaches_seq, reaches_look]
  constructor
  · rintro ⟨-, ⟨pre, suf, rfl, rfl⟩, -, -, ⟨hstart, rfl⟩, z, hp, hend, -⟩
    -- the pattern starts where nothing is before, and ends where nothing is left
    obtain rfl := holds_textStart.1 hstart
    obtain ⟨⟨pre, rest, heq, rfl⟩, -⟩ := hp.in_text ⟨[], suf, rfl, rfl⟩
    obtain rfl := holds_textEnd.1 hend
    simpa [show suf = pre by simpa using heq] using hp
  · intro hp
    exact ⟨between [] s, ⟨[], s, rfl, rfl⟩, between s [], between [] s, ⟨holds_textStart.2 rfl, rfl⟩,
      between s [], hp, holds_textEnd.2 rfl, rfl⟩

/-- A relation that takes the texts of a language leads through the whole of exactly those texts. -/
theorem Takes.through {r : Cursor → Cursor → Prop} {l : Language Char} (h : Takes r l) :
    r (between [] s) (between s []) ↔ s ∈ l := by
  rw [h [] s]
  constructor
  · rintro ⟨w, hw, rest, rfl, hrest⟩
    obtain rfl : rest = [] := (congrArg Cursor.rest hrest).symm
    simpa using hw
  · intro hs
    exact ⟨s, hs, [], by simp, rfl⟩

/-- Through a whole text lead the patterns whose language it is in. -/
theorem reaches_whole_iff (hps : ∀ p ∈ ps, p.Blind) :
    Reaches (sequence (ps ++ [.look .textEnd])) (between [] s) (between s []) ↔
      s ∈ (sequence ps).language := by
  rw [reaches_sequence_textEnd]
  exact (takes_language (blind_sequence.2 hps)).through

end

end Byline.Pattern

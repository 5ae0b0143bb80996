import Byline.Report.Html
import Mathlib.Data.List.Basic

/-!
# Markup as it is read

A page is read as a list of pieces: each is a tag with the text after it, up to the next tag
(`Cut`). A page can be read in one way at most (`Cut.unique`). What is written for a list of parts
is read as the same tags, with the texts between them escaped (`Html.cut_render`), and an escaped
text is the text again when it is decoded (`unescape_escape`).
-/

namespace Byline.Report

/-! ## Escaped text -/

/-- The text has no character of a tag. -/
def IsPlain (s : List Char) : Prop := '<' ∉ s ∧ '>' ∉ s

instance (s : List Char) : Decidable (IsPlain s) := inferInstanceAs (Decidable (_ ∧ _))

theorem IsPlain.append {s t : List Char} (hs : IsPlain s) (ht : IsPlain t) : IsPlain (s ++ t) := by
  simp [IsPlain, hs.1, hs.2, ht.1, ht.2]

/-- The text that entities and characters stand for. -/
def unescape : List Char → List Char
  | '&' :: 'a' :: 'm' :: 'p' :: ';' :: s => '&' :: unescape s
  | '&' :: 'l' :: 't' :: ';' :: s => '<' :: unescape s
  | '&' :: 'g' :: 't' :: ';' :: s => '>' :: unescape s
  | c :: s => c :: unescape s
  | [] => []

theorem unescape_cons {c : Char} (h : c ≠ '&') (s : List Char) :
    unescape (c :: s) = c :: unescape s := by
  conv_lhs => unfold unescape
  split <;> simp_all

theorem unescape_escape (s : List Char) : unescape (s.flatMap Html.escape) = s := by
  induction s with
  | nil => rfl
  | cons c s ih =>
    rw [List.flatMap_cons, Html.escape]
    split_ifs with hamp hlt hgt
    · rw [hamp]
      exact congrArg _ ih
    · rw [hlt]
      exact congrArg _ ih
    · rw [hgt]
      exact congrArg _ ih
    · rw [List.singleton_append, unescape_cons hamp, ih]

theorem isPlain_escape (s : List Char) : IsPlain (s.flatMap Html.escape) := by
  induction s with
  | nil => simp [IsPlain]
  | cons c s ih =>
    rw [List.flatMap_cons]
    refine .append ?_ ih
    rw [Html.escape]
    split_ifs with hamp hlt hgt
    · decide
    · decide
    · decide
    · simpa [IsPlain] using ⟨Ne.symm hlt, Ne.symm hgt⟩

/-! ## Pieces -/

/-- A tag, without its angle brackets, and the text after it up to the next tag. Both stand as they are
written. -/
structure Piece where
  tag : List Char
  text : List Char
  deriving DecidableEq, Repr

/-- A piece as it is written. -/
def Piece.source (p : Piece) : List Char := '<' :: (p.tag ++ '>' :: p.text)

/-- The pieces that a page is read as: every angle bracket is that of a tag. -/
structure Cut (s : List Char) (ps : List Piece) : Prop where
  joined : ps.flatMap Piece.source = s
  isPlain_tag : ∀ p ∈ ps, IsPlain p.tag
  isPlain_text : ∀ p ∈ ps, IsPlain p.text

/-- Two texts end at the same place if a character that is in neither of them follows, or nothing. -/
theorem append_inj_of_notMem {a : Char} {x y r t : List Char} (hx : a ∉ x) (hy : a ∉ y)
    (hr : r = [] ∨ r.head? = some a) (ht : t = [] ∨ t.head? = some a) (h : x ++ r = y ++ t) :
    x = y ∧ r = t := by
  have htake {x r : List Char} (hx : a ∉ x) (hr : r = [] ∨ r.head? = some a) :
      (x ++ r).takeWhile (· != a) = x := by
    have hnil : r.takeWhile (· != a) = [] := by
      rcases hr with rfl | hr
      · rfl
      · obtain ⟨t, rfl⟩ := List.head?_eq_some_iff.1 hr
        simp
    rw [List.takeWhile_append_of_pos, hnil, List.append_nil]
    intro c hc
    exact bne_iff_ne.2 fun he => hx (he ▸ hc)
  obtain rfl : x = y := by rw [← htake hx hr, h, htake hy ht]
  exact ⟨rfl, List.append_cancel_left h⟩

namespace Cut

variable {s : List Char} {ps qs : List Piece}

theorem nil_or_head? (ps : List Piece) :
    ps.flatMap Piece.source = [] ∨ (ps.flatMap Piece.source).head? = some '<' := by
  cases ps with
  | nil => exact .inl rfl
  | cons p ps => exact .inr rfl

/-- The tags of a page, and the texts after them, are determined by its characters. -/
theorem unique (h : Cut s ps) (h' : Cut s qs) : ps = qs := by
  obtain ⟨hs, htag, htext⟩ := h
  obtain ⟨hs', htag', htext'⟩ := h'
  have he := hs.trans hs'.symm
  clear hs hs'
  induction ps generalizing qs with
  | nil =>
    cases qs with
    | nil => rfl
    | cons q qs => simp [Piece.source] at he
  | cons p ps ih =>
    cases qs with
    | nil => simp [Piece.source] at he
    | cons q qs =>
      simp only [List.forall_mem_cons] at htag htext htag' htext'
      simp only [List.flatMap_cons, Piece.source, List.cons_append, List.append_assoc,
        List.cons.injEq, true_and] at he
      obtain ⟨htags, hrest⟩ :=
        append_inj_of_notMem htag.1.2 htag'.1.2 (.inr rfl) (.inr rfl) he
      obtain ⟨htexts, hpieces⟩ := append_inj_of_notMem htext.1.1 htext'.1.1 (nil_or_head? ps)
        (nil_or_head? qs) (List.cons.inj hrest).2
      obtain ⟨tag, text⟩ := p
      obtain rfl : tag = q.tag := htags
      obtain rfl : text = q.text := htexts
      rw [ih htag.2 htext.2 htag'.2 htext'.2 hpieces]

end Cut

/-! ## Parts as pieces -/

namespace Html

/-- The text that the parts start with, and the pieces after it. -/
def pieces : List Html → List Char × List Piece
  | [] => ([], [])
  | .tag body :: ps => ([], ⟨body.toList, (pieces ps).1⟩ :: (pieces ps).2)
  | .text s :: ps => (s.toList.flatMap escape ++ (pieces ps).1, (pieces ps).2)

theorem flatMap_render (ps : List Html) :
    ps.flatMap render = (pieces ps).1 ++ (pieces ps).2.flatMap Piece.source := by
  induction ps with
  | nil => rfl
  | cons p ps ih =>
    cases p with
    | tag body => simp [render, pieces, Piece.source, ih]
    | text s => simp [render, pieces, ih]

theorem isPlain_text_pieces (ps : List Html) :
    IsPlain (pieces ps).1 ∧ ∀ p ∈ (pieces ps).2, IsPlain p.text := by
  induction ps with
  | nil => simp [pieces, IsPlain]
  | cons p ps ih =>
    cases p with
    | tag body =>
      refine ⟨by simp [pieces, IsPlain], ?_⟩
      simpa [pieces] using ih
    | text s => exact ⟨(isPlain_escape _).append ih.1, ih.2⟩

/-- The tag of a part has no angle bracket. -/
def HasPlainTag : Html → Prop
  | .tag body => IsPlain body.toList
  | .text _ => True

theorem isPlain_tag_pieces {ps : List Html} (h : ∀ p ∈ ps, p.HasPlainTag) :
    ∀ p ∈ (pieces ps).2, IsPlain p.tag := by
  induction ps with
  | nil => simp [pieces]
  | cons p ps ih =>
    obtain ⟨hp, hps⟩ := List.forall_mem_cons.1 h
    cases p with
    | tag body => simpa [pieces] using ⟨hp, ih hps⟩
    | text s => exact ih hps

/-- Parts that start with a tag are read as their pieces. -/
theorem cut_render {ps : List Html} (h : ∀ p ∈ ps, p.HasPlainTag) (hstart : (pieces ps).1 = []) :
    Cut (ps.flatMap render) (pieces ps).2 where
  joined := by rw [flatMap_render, hstart, List.nil_append]
  isPlain_tag := isPlain_tag_pieces h
  isPlain_text := (isPlain_text_pieces ps).2

end Html

end Byline.Report

import Byline.Filter.Basic
import Byline.Proofs.Filter.Glob
import Byline.Proofs.Pattern.Search
import Byline.Proofs.Text.Blank
import Mathlib.Data.List.DropRight

/-!
# What filters of types cover

A filter of types that is not between slashes always has a pattern, and covers the names that it
covers as a glob (`TypeFilter.accepts_iff_covers`): with a dot in it whole names, without one the
last parts of names (`Filter.lastPart`).

Both kinds are written out between looks for the start and the end of the name, so that the question
is one about languages. The text for a filter without a dot starts with a group that takes
everything up to some dot; as the rest takes no dot, it must be the last one.
-/

namespace Byline

namespace Filter

open Pattern

/-- The part of a name after its last dot, or the whole name. -/
def lastPart (w : List Char) : List Char := w.rtakeWhile (· != '.')

/-- The pattern for what stands before the last part. -/
def qualifier : Pattern :=
  .iter (sequence [.iter (.set (· != '\n')) 0 none, .set (.single '.')]) 0 (some 1)

/-- The patterns that the text of a filter of types spells. -/
def typePatterns (f : List Char) : List Pattern :=
  if '.' ∈ f then .look .textStart :: (patterns (· != '.') true f ++ [.look .textEnd])
  else qualifier :: (patterns (· != '.') false f ++ [.look .textEnd])

section

variable {f g v w : List Char} {ps : List Pattern}

/-- Before the last part stands nothing, or something up to a dot. -/
theorem eq_lastPart_iff :
    v = lastPart w ↔ '.' ∉ v ∧ ∃ u, (u = [] ∨ ∃ q, u = q ++ ['.']) ∧ u ++ v = w := by
  constructor
  · rintro rfl
    refine ⟨fun hdot => ?_, w.rdropWhile (· != '.'), ?_, List.rdropWhile_append_rtakeWhile ..⟩
    · exact absurd (List.mem_rtakeWhile_imp hdot) (by simp)
    by_cases hu : w.rdropWhile (· != '.') = []
    · exact .inl hu
    · have hlast : (w.rdropWhile (· != '.')).getLast hu = '.' := by
        simpa using List.rdropWhile_last_not (· != '.') w hu
      exact .inr ⟨_, (List.dropLast_append_getLast hu).symm.trans (by rw [hlast])⟩
  · rintro ⟨hv, u, hu, rfl⟩
    have hrev : ∀ c ∈ v.reverse, (c != '.') = true := by
      intro c hc
      simp only [bne_iff_ne, ne_eq]
      rintro rfl
      exact hv (List.mem_reverse.1 hc)
    rcases hu with rfl | ⟨q, rfl⟩ <;>
      simp [lastPart, List.rtakeWhile, List.takeWhile_append_of_pos hrev,
        List.takeWhile_eq_self_iff.2 hrev]

theorem mem_language_qualifier (hw : '\n' ∉ w) :
    w ∈ qualifier.language ↔ w = [] ∨ ∃ q, w = q ++ ['.'] := by
  constructor
  · rintro ⟨n, -, hn, h⟩
    have hle : n ≤ 1 := hn 1 rfl
    obtain rfl | rfl : n = 0 ∨ n = 1 := by omega
    · exact .inl h
    · rw [pow_one] at h
      obtain ⟨q, -, -, ⟨c, hc, rfl⟩, rfl⟩ := Language.mem_mul.1 h
      obtain rfl : c = '.' := by simpa [CharSet.single] using hc
      exact .inr ⟨q, rfl⟩
  · rintro (rfl | ⟨q, rfl⟩)
    · exact ⟨0, Nat.le_refl 0, fun m _ => Nat.zero_le m, rfl⟩
    · refine ⟨1, Nat.zero_le 1, fun m hm => (Option.some.inj hm).le, ?_⟩
      rw [pow_one]
      refine Language.mem_mul.2 ⟨q, mem_language_run.2 fun c hc => ?_, ['.'], ⟨'.', rfl, rfl⟩, rfl⟩
      simp only [bne_iff_ne, ne_eq]
      rintro rfl
      exact hw (List.mem_append_left _ hc)

/-- A glob without a dot covers no name with a dot, if its jokers do not. -/
theorem Covers.notMem_dot (h : Covers (· != '.') false g w) (hg : '.' ∉ g) : '.' ∉ w := by
  induction h with
  | nil => exact hg
  | char _ _ _ ih =>
    simp only [List.mem_cons, not_or] at hg ⊢
    exact ⟨hg.1, ih hg.2⟩
  | one member _ ih =>
    simp only [List.mem_cons, not_or] at hg ⊢
    exact ⟨fun hc => by simp [← hc] at member, ih hg.2⟩
  | run _ members _ ih =>
    simp only [List.mem_cons, not_or] at hg
    rw [List.mem_append, not_or]
    exact ⟨fun hu => by simpa using members _ hu, ih hg.2⟩
  | deepRun _ double => cases double

/-! ## The text of a filter -/

theorem spells_qualifier : Spells "(.*\\.)?".toList [qualifier] :=
  (Spells.dot.star.append (.escaped rfl)).optional

theorem spells_anchored (h : Spells f ps) :
    Spells (anchored f) [.look .textStart, sequence ps, .look .textEnd] := by
  simpa [anchored] using Spells.caret.append (h.group.append .dollar)

theorem spells_typeExpression (hf : slashed? f = none) :
    Spells (typeExpression f) (typePatterns f) := by
  simp only [typeExpression, typePatterns, hf, List.contains_iff_mem]
  split
  · exact Spells.caret.append ((spells_dottedPieces f).append .dollar)
  · exact spells_qualifier.append ((spells_pieces spells_typePiece f).append .dollar)

/-! ## The names that match -/

theorem proper_typePatterns : ∀ p ∈ typePatterns f, p.Proper := by
  have hend : Proper (.look .textEnd) := trivial
  unfold typePatterns
  split
  · exact List.forall_mem_cons.2 ⟨trivial, List.forall_mem_append.2
      ⟨proper_patterns, List.forall_mem_singleton.2 hend⟩⟩
  · refine List.forall_mem_cons.2 ⟨⟨?_, fun m _ => Nat.zero_le m⟩, List.forall_mem_append.2
      ⟨proper_patterns, List.forall_mem_singleton.2 hend⟩⟩
    exact ⟨⟨trivial, nofun⟩, trivial⟩

/-- With a dot the filter has to cover the whole name. -/
theorem reaches_typePatterns_of_dot (hf : '.' ∈ f) (hw : '\n' ∉ w) :
    Reaches (sequence (typePatterns f)) (Cursor.between [] w) (Cursor.between w []) ↔
      Covers (· != '.') true f w := by
  rw [typePatterns, if_pos hf, reaches_sequence_textStart, reaches_whole_iff blind_patterns]
  exact mem_language_patterns (fun _ _ => rfl) hw

/-- Without a dot the filter has to cover the last part of the name. -/
theorem reaches_typePatterns_of_no_dot (hf : '.' ∉ f) (hw : '\n' ∉ w) :
    Reaches (sequence (typePatterns f)) (Cursor.between [] w) (Cursor.between w []) ↔
      Covers (· != '.') false f (lastPart w) := by
  have hblind : ∀ p ∈ qualifier :: patterns (· != '.') false f, p.Blind :=
    List.forall_mem_cons.2 ⟨⟨trivial, trivial⟩, blind_patterns⟩
  rw [typePatterns, if_neg hf, ← List.cons_append, reaches_whole_iff hblind,
    language_sequence_cons, Language.mem_mul]
  constructor
  · rintro ⟨u, hu, v, hv, rfl⟩
    rw [List.mem_append, not_or] at hw
    -- the group may end at any dot, but the rest has none
    have hcovers := (mem_language_patterns (fun _ _ => rfl) hw.2).1 hv
    have hlast : v = lastPart (u ++ v) :=
      eq_lastPart_iff.2 ⟨hcovers.notMem_dot hf, u, (mem_language_qualifier hw.1).1 hu, rfl⟩
    exact hlast ▸ hcovers
  · intro hcovers
    obtain ⟨-, u, hu, huv⟩ := eq_lastPart_iff.1 (Eq.refl (lastPart w))
    rw [← huv, List.mem_append, not_or] at hw
    exact ⟨u, (mem_language_qualifier hw.1).2 hu, lastPart w,
      (mem_language_patterns (fun _ _ => rfl) hw.2).2 hcovers, huv⟩

theorem found_anchored_iff (hw : '\n' ∉ w) :
    found (sequence [.look .textStart, sequence (typePatterns f), .look .textEnd]) w = true ↔
      if '.' ∈ f then Covers (· != '.') true f w else Covers (· != '.') false f (lastPart w) := by
  have hproper : (sequence [.look .textStart, sequence (typePatterns f), .look .textEnd]).Proper :=
    ⟨trivial, proper_sequence.2 proper_typePatterns, trivial⟩
  rw [found_eq_true_iff hproper, matches_anchored]
  split
  next hf => exact reaches_typePatterns_of_dot hf hw
  next hf => exact reaches_typePatterns_of_no_dot hf hw

end

end Filter

namespace TypeFilter

open Byline.Filter Pattern

theorem read?_eq {text : String} (hf : slashed? text.toList = none) :
    read? text = some ⟨text, sequence [.look .textStart, sequence (typePatterns text.toList),
      .look .textEnd]⟩ := by
  rw [read?, (spells_anchored (spells_typeExpression hf)).read?_eq, Option.map_some]

/-- A filter is blank if it has no character that is not. -/
theorem isEmpty_trim_eq_false_iff (s : List Char) :
    (trim s).isEmpty = false ↔ ∃ c ∈ s, isBlank c = false := by
  rw [List.isEmpty_eq_false_iff, ne_eq, trim_eq_nil_iff]
  simp

/-- A filter that is not between slashes has a pattern. Unless it is blank, it covers a name without
a line end exactly if the glob covers that name or, if the filter has no dot, its last part. -/
theorem accepts_iff_covers (text : String) (h : ∀ inner, text.toList ≠ '/' :: (inner ++ ['/'])) :
    ∃ f, read? text = some f ∧ ∀ name : String, '\n' ∉ name.toList →
      (f.accepts (some name) = true ↔ (∃ c ∈ text.toList, isBlank c = false) ∧
        if '.' ∈ text.toList then Covers (· != '.') true text.toList name.toList
        else Covers (· != '.') false text.toList (lastPart name.toList)) := by
  refine ⟨_, read?_eq (slashed?_eq_none h), fun name hname => ?_⟩
  rw [accepts]
  cases hblank : (trim text.toList).isEmpty with
  | true => simp [← isEmpty_trim_eq_false_iff, hblank]
  | false =>
    have hsome := (isEmpty_trim_eq_false_iff text.toList).1 hblank
    rw [and_iff_right hsome, ← found_anchored_iff hname]
    rfl

/-- Two stars cross a dot, and a question mark stands for the last character. -/
theorem accepts_iff_covers_starred :
    (∀ inner, "a.**.B?".toList ≠ '/' :: (inner ++ ['/'])) ∧ '\n' ∉ "a.x.y.Bz".toList ∧
      ∃ f, read? "a.**.B?" = some f ∧ f.accepts (some "a.x.y.Bz") = true := by
  have hslash : ∀ inner, "a.**.B?".toList ≠ '/' :: (inner ++ ['/']) := by simp
  have hline : '\n' ∉ "a.x.y.Bz".toList := by decide
  obtain ⟨f, hf, haccepts⟩ := accepts_iff_covers "a.**.B?" hslash
  refine ⟨hslash, hline, f, hf, (haccepts "a.x.y.Bz" hline).2 ⟨⟨'a', by decide, by decide⟩, ?_⟩⟩
  rw [if_pos (by decide)]
  have hend : Covers (· != '.') true ".B?".toList ".Bz".toList :=
    .char (by decide) (by decide) (.char (by decide) (by decide) (.one (by decide) .nil))
  exact .char (by decide) (by decide) (.char (by decide) (by decide)
    (.deepRun "x.y".toList rfl hend))

end TypeFilter

end Byline

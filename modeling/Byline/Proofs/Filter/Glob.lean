import Byline.Filter.Expression
import Byline.Proofs.Pattern.Language
import Byline.Proofs.Pattern.Reader

/-!
# Globs

A glob covers names (`Filter.Covers`), and is written out as a text that spells one pattern for
each joker and for each other character (`Filter.patterns`). The names that a glob covers are those
of the language of these patterns (`mem_language_patterns`), as far as no line end is concerned,
which a dot in a pattern does not stand for.
-/

namespace Byline.Filter

open Pattern

/-- The names that a glob covers, read from the left: `?` stands for one character of the set, `*`
for a run of such characters, and any other character for itself. Two stars in a row stand for any
run at all if `deep` holds. -/
inductive Covers (s : CharSet) (deep : Bool) : List Char → List Char → Prop where
  | nil : Covers s deep [] []
  | char {c : Char} {g w : List Char} (star : c ≠ '*') (mark : c ≠ '?') (h : Covers s deep g w) :
      Covers s deep (c :: g) (c :: w)
  | one {c : Char} {g w : List Char} (member : s c = true) (h : Covers s deep g w) :
      Covers s deep ('?' :: g) (c :: w)
  | run {u g w : List Char} (single : deep = true → g.head? ≠ some '*')
      (members : ∀ c ∈ u, s c = true) (h : Covers s deep g w) : Covers s deep ('*' :: g) (u ++ w)
  | deepRun {g w : List Char} (u : List Char) (double : deep = true) (h : Covers s deep g w) :
      Covers s deep ('*' :: '*' :: g) (u ++ w)

/-- The pattern for one character of a glob. -/
def piece (s : CharSet) (c : Char) : Pattern :=
  if c = '?' then .set s else if c = '*' then .iter (.set s) 0 none else .set (.single c)

/-- The patterns for a glob. Two stars in a row may be one pattern. -/
def patterns (s : CharSet) : Bool → List Char → List Pattern
  | _, [] => []
  | true, '*' :: '*' :: g => .iter (.set (· != '\n')) 0 none :: patterns s true g
  | deep, c :: g => piece s c :: patterns s deep g

section

variable {s t : CharSet} {deep : Bool} {c : Char} {g w : List Char}

theorem proper_piece (s : CharSet) (c : Char) : (piece s c).Proper := by
  unfold piece
  split
  · trivial
  split
  · exact ⟨trivial, nofun⟩
  · trivial

theorem blind_piece (s : CharSet) (c : Char) : (piece s c).Blind := by
  unfold piece
  split
  · trivial
  split <;> trivial

theorem proper_patterns : ∀ p ∈ patterns s deep g, p.Proper := by
  fun_induction patterns s deep g with
  | case1 => simp
  | case2 g ih => exact List.forall_mem_cons.2 ⟨⟨trivial, nofun⟩, ih⟩
  | case3 deep c g _ ih => exact List.forall_mem_cons.2 ⟨proper_piece s c, ih⟩

theorem blind_patterns : ∀ p ∈ patterns s deep g, p.Blind := by
  fun_induction patterns s deep g with
  | case1 => simp
  | case2 g ih => exact List.forall_mem_cons.2 ⟨trivial, ih⟩
  | case3 deep c g _ ih => exact List.forall_mem_cons.2 ⟨blind_piece s c, ih⟩

/-! ## The languages of the pieces -/

/-- A set that may be repeated stands for runs of its characters. -/
theorem mem_language_run :
    w ∈ (Pattern.iter (.set s) 0 none).language ↔ ∀ c ∈ w, s c = true := by
  constructor
  · rintro ⟨n, -, -, hn⟩
    induction n generalizing w with
    | zero =>
      obtain rfl : w = [] := hn
      simp
    | succ n ih =>
      rw [pow_succ', Language.mem_mul] at hn
      obtain ⟨-, ⟨c, hc, rfl⟩, v, hv, rfl⟩ := hn
      exact List.forall_mem_cons.2 ⟨hc, ih hv⟩
  · intro hw
    refine ⟨w.length, Nat.zero_le _, nofun, ?_⟩
    induction w with
    | nil => exact rfl
    | cons c w ih =>
      obtain ⟨hc, hw⟩ := List.forall_mem_cons.1 hw
      rw [List.length_cons, pow_succ', Language.mem_mul]
      exact ⟨[c], ⟨c, hc, rfl⟩, w, ih hw, rfl⟩

/-- The part of a name for one character of a glob, and what is left of it. The sets of the pattern
and of the glob may differ in line ends. -/
theorem mem_language_piece (hs : ∀ c, c ≠ '\n' → t c = s c) (hw : '\n' ∉ w)
    (hc : ∀ h, deep = true → c = '*' → g = '*' :: h → False) :
    (∃ u ∈ (piece t c).language, ∃ v, Covers s deep g v ∧ u ++ v = w) ↔
      Covers s deep (c :: g) w := by
  have hmem : ∀ d ∈ w, t d = s d := fun d hd => hs d fun hnl => hw (hnl ▸ hd)
  constructor
  · rintro ⟨u, hu, v, hv, rfl⟩
    -- a question mark, a star, or any other character
    unfold piece at hu
    split at hu
    next hmark =>
      obtain ⟨d, hd, rfl⟩ := hu
      subst hmark
      exact .one ((hmem d (by simp)).symm.trans hd) hv
    next hmark =>
      split at hu
      next hstar =>
        subst hstar
        refine .run ?_ (fun d hd => ?_) hv
        · -- two stars in a row would have been read as one
          intro hdeep hhead
          obtain ⟨h, rfl⟩ := List.head?_eq_some_iff.1 hhead
          exact hc h hdeep rfl rfl
        · exact (hmem d (by simp [hd])).symm.trans (mem_language_run.1 hu d hd)
      next hstar =>
        obtain ⟨d, hd, rfl⟩ := hu
        obtain rfl : d = c := by simpa [CharSet.single] using hd
        exact .char hstar hmark hv
  · intro h
    cases h with
    | char star mark h =>
      refine ⟨[c], ?_, _, h, rfl⟩
      simp [piece, mark, star, CharSet.single]
    | @one d _ v member h =>
      refine ⟨[d], ?_, v, h, rfl⟩
      simpa [piece] using (hmem d (by simp)).trans member
    | @run u _ v single members h =>
      refine ⟨u, ?_, v, h, rfl⟩
      show u ∈ (Pattern.iter (.set t) 0 none).language
      exact mem_language_run.2 fun d hd => (hmem d (by simp [hd])).trans (members d hd)
    | deepRun u double h => exact (hc _ double rfl rfl).elim

/-- The names without a line end that a glob covers are those of the language of its patterns. -/
theorem mem_language_patterns (hs : ∀ c, c ≠ '\n' → t c = s c) (hw : '\n' ∉ w) :
    w ∈ (sequence (patterns t deep g)).language ↔ Covers s deep g w := by
  fun_induction patterns t deep g generalizing w with
  | case1 deep =>
    constructor
    · rintro rfl
      exact .nil
    · rintro ⟨⟩
      exact rfl
  | case2 g ih =>
    rw [language_sequence_cons, Language.mem_mul]
    constructor
    · rintro ⟨u, -, v, hv, rfl⟩
      exact .deepRun u rfl ((ih (by simp_all)).1 hv)
    · intro h
      cases h with
      | char star => exact absurd rfl star
      | run single => exact absurd rfl (single rfl)
      | @deepRun _ v u double h =>
        refine ⟨u, mem_language_run.2 fun c hc => ?_, v, (ih (by simp_all)).2 h, rfl⟩
        simp only [bne_iff_ne, ne_eq]
        rintro rfl
        exact hw (by simp [hc])
  | case3 deep c g hc ih =>
    rw [language_sequence_cons, Language.mem_mul, ← mem_language_piece hs hw hc]
    constructor
    · rintro ⟨u, hu, v, hv, rfl⟩
      exact ⟨u, hu, v, (ih (by simp_all)).1 hv, rfl⟩
    · rintro ⟨u, hu, v, hv, rfl⟩
      exact ⟨u, hu, v, (ih (by simp_all)).2 hv, rfl⟩

/-! ## The text of a filter -/

theorem slashed?_eq_none (h : ∀ inner, g ≠ '/' :: (inner ++ ['/'])) : slashed? g = none := by
  unfold slashed?
  split
  next s =>
    refine if_neg fun hlast => ?_
    obtain ⟨inner, rfl⟩ := List.getLast?_eq_some_iff.1 hlast
    exact h inner rfl
  next => rfl

theorem spells_escape (c : Char) : Spells (escape c) [.set (.single c)] := by
  unfold escape
  split
  next hc => exact .escaped hc
  next hc => exact .literal (by simpa using hc)

theorem spells_typePiece (c : Char) : Spells (typePiece c) [piece (· != '.') c] := by
  unfold typePiece piece
  split
  next hc =>
    subst hc
    exact .escaped rfl
  next =>
    split
    · exact .noDot
    split
    · exact Spells.noDot.star
    · exact spells_escape c

theorem spells_authorPiece (c : Char) : Spells (authorPiece c) [piece (· != '\n') c] := by
  unfold authorPiece piece
  split
  · exact .dot
  split
  · exact Spells.dot.star
  · exact spells_escape c

/-- The pieces of a glob that has no meaning for two stars in a row. -/
theorem spells_pieces {text : Char → List Char} (h : ∀ c, Spells (text c) [piece s c])
    (g : List Char) : Spells (g.flatMap text) (patterns s false g) := by
  induction g with
  | nil => exact .nil
  | cons c g ih =>
    rw [patterns.eq_3 _ _ _ _ fun h hdeep => (Bool.false_ne_true hdeep).elim]
    exact (h c).append ih

/-- The pieces of a filter with a dot. -/
theorem spells_dottedPieces (g : List Char) :
    Spells (dottedPieces g) (patterns (· != '.') true g) := by
  fun_induction dottedPieces g with
  | case1 => exact .nil
  | case2 g ih => exact Spells.dot.star.append ih
  | case3 c g hc ih =>
    rw [patterns.eq_3 _ _ _ _ fun h _ => hc h]
    exact (spells_typePiece c).append ih

end

end Byline.Filter

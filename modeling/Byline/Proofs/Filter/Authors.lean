import Byline.Filter.Basic
import Byline.Proofs.Filter.Glob
import Byline.Proofs.Pattern.Search

/-!
# What filters of authors cover

A filter of authors that is not between slashes always has a pattern, and covers the names of which
some part is covered by the filter as a glob (`AuthorFilter.accepts_iff_infix`). Its jokers stand for
any characters, and nothing else in it has a meaning.

The pattern is not anchored, and neither looks around nor takes a line end, so that the question is
whether some part of the name is in its language.
-/

namespace Byline.AuthorFilter

open Byline.Filter Pattern

theorem read?_eq {text : String} (hf : slashed? text.toList = none) :
    read? text = some ⟨text, sequence (patterns (· != '\n') false text.toList)⟩ := by
  have hspells : Spells (authorExpression text.toList)
      (patterns (· != '\n') false text.toList) := by
    simpa [authorExpression, hf] using spells_pieces spells_authorPiece text.toList
  rw [read?, hspells.read?_eq, Option.map_some]

/-- A filter that is not between slashes has a pattern. It covers a name without a line end exactly
if the glob covers some part of that name. -/
theorem accepts_iff_infix (text : String) (h : ∀ inner, text.toList ≠ '/' :: (inner ++ ['/'])) :
    ∃ f, read? text = some f ∧ ∀ name : String, '\n' ∉ name.toList →
      (f.accepts name = true ↔
        ∃ part, part <:+: name.toList ∧ Covers (fun _ => true) false text.toList part) := by
  refine ⟨_, read?_eq (slashed?_eq_none h), fun name hname => ?_⟩
  have hproper : (sequence (patterns (· != '\n') false text.toList)).Proper :=
    proper_sequence.2 proper_patterns
  have hblind : (sequence (patterns (· != '\n') false text.toList)).Blind :=
    blind_sequence.2 blind_patterns
  rw [accepts, found_eq_true_iff hproper, matches_iff_infix hblind]
  -- a part of the name has no line end either
  have hpart {part : List Char} (hp : part <:+: name.toList) :
      part ∈ (sequence (patterns (· != '\n') false text.toList)).language ↔
        Covers (fun _ => true) false text.toList part :=
    mem_language_patterns (fun c hc => by simpa using hc) fun hm => hname (hp.subset hm)
  constructor
  · rintro ⟨part, hmem, hp⟩
    exact ⟨part, hp, (hpart hp).1 hmem⟩
  · rintro ⟨part, hp, hcovers⟩
    exact ⟨part, (hpart hp).2 hcovers, hp⟩

/-- Characters with a meaning in patterns stand for themselves, and a star for what it needs to. -/
theorem accepts_iff_infix_bracketed :
    (∀ inner, "J. (D*?)".toList ≠ '/' :: (inner ++ ['/'])) ∧ '\n' ∉ "Mr. J. (Doe) #2".toList ∧
      ∃ f, read? "J. (D*?)" = some f ∧ f.accepts "Mr. J. (Doe) #2" = true := by
  have hslash : ∀ inner, "J. (D*?)".toList ≠ '/' :: (inner ++ ['/']) := by simp
  have hline : '\n' ∉ "Mr. J. (Doe) #2".toList := by decide
  obtain ⟨f, hf, haccepts⟩ := accepts_iff_infix "J. (D*?)" hslash
  have hinfix : "J. (Doe)".toList <:+: "Mr. J. (Doe) #2".toList :=
    ⟨"Mr. ".toList, " #2".toList, by decide⟩
  refine ⟨hslash, hline, f, hf, (haccepts _ hline).2 ⟨"J. (Doe)".toList, hinfix, ?_⟩⟩
  have hend : Covers (fun _ => true) false "*?)".toList ("o".toList ++ "e)".toList) :=
    .run nofun (fun _ _ => rfl) (.one rfl (.char (by decide) (by decide) .nil))
  exact .char (by decide) (by decide) (.char (by decide) (by decide) (.char (by decide) (by decide)
    (.char (by decide) (by decide) (.char (by decide) (by decide) hend))))

end Byline.AuthorFilter

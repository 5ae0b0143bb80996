import Byline.Proofs.Diff.Canonical

/-!
# Unified renderings in words

`render?` fails for two reasons (`Overflows`): twice the context does not fit into a word where it
is asked for, or the context after a delta does not. The first is asked for only between two deltas.
For the second all deltas count, although a hunk computes the end of its last only: the deltas of a
patch end one after the other, so that the last of a hunk is the first to overflow. If nothing
overflows, what is rendered is what `render` lays out (`render?_eq`). So it is a patch between the
lists (`readPatch?_render?_between`), and the context of a comparison always fits
(`render?_contextLines`).
-/

namespace Byline.Unified

/-- Does a number of the rendering not fit into a word? -/
def Overflows (context : UInt64) (ds : List Delta) : Prop :=
  2 ≤ ds.length ∧ UInt64.size ≤ 2 * context.toNat ∨
    ∃ d ∈ ds, UInt64.size ≤ d.old.stop + context.toNat

instance (context : UInt64) (ds : List Delta) : Decidable (Overflows context ds) :=
  inferInstanceAs (Decidable (_ ∨ _))

variable {old new : List String} {context : UInt64} {ds : List Delta}

theorem word?_of_lt {n : Nat} (h : n < UInt64.size) : word? n = some n := if_pos h

theorem word?_of_le {n : Nat} (h : UInt64.size ≤ n) : word? n = none := if_neg (Nat.not_lt.2 h)

/-! ## The groups -/

theorem hunks?_eq (h : 2 ≤ ds.length → 2 * context.toNat < UInt64.size) :
    hunks? context ds = some (hunks context.toNat ds) := by
  induction ds with
  | nil => rfl
  | cons d ds ih =>
    cases ds with
    | nil => rfl
    | cons e ds =>
      have hfits : 2 * context.toNat < UInt64.size := h (by simp)
      obtain ⟨g, gs, hgroups⟩ := exists_hunks_cons context.toNat e ds
      rw [hunks?, ih (fun _ => hfits), hunks_cons_cons hgroups, hgroups]
      simp only [Option.bind_eq_bind, Option.bind_some, word?_of_lt hfits]
      rfl

theorem hunks?_cons_cons_eq_none (h : UInt64.size ≤ 2 * context.toNat) (d e : Delta)
    (ds : List Delta) : hunks? context (d :: e :: ds) = none := by
  induction ds generalizing d e with
  | nil =>
    have hpair : hunks? context [d, e] = (word? (2 * context.toNat)).bind fun reach =>
        some (if gap d e ≤ reach then [[d, e]] else [[d], [e]]) := rfl
    rw [hpair, word?_of_le h, Option.bind_none]
  | cons f ds ih =>
    rw [hunks?, ih e f]
    rfl

theorem hunks?_eq_none (hlen : 2 ≤ ds.length) (h : UInt64.size ≤ 2 * context.toNat) :
    hunks? context ds = none := by
  match ds, hlen with
  | d :: e :: ds, _ => exact hunks?_cons_cons_eq_none h d e ds

/-- Groups that are formed in words are those of `hunks`. -/
theorem eq_hunks_of_hunks? {gs : List (List Delta)} (h : hunks? context ds = some gs) :
    gs = hunks context.toNat ds := by
  have hmerge : 2 ≤ ds.length → 2 * context.toNat < UInt64.size := by
    intro hlen
    by_contra hle
    rw [hunks?_eq_none hlen (Nat.not_lt.1 hle)] at h
    simp at h
  rw [hunks?_eq hmerge] at h
  exact (Option.some.inj h).symm

/-! ## The hunks -/

theorem hunkLines?_eq (h : ∀ d ∈ ds, d.old.stop + context.toNat < UInt64.size) :
    hunkLines? old context ds = some (hunkLines old context.toNat ds) := by
  cases ds with
  | nil => rfl
  | cons d ds =>
    rw [hunkLines?, hunk?, word?_of_lt (h _ (List.getLast_mem _))]
    rfl

/-- The last delta of a hunk overflows if any of its deltas does. -/
theorem hunkLines?_eq_none (old : List String)
    (hds : ds.Pairwise fun d e => d.old.stop ≤ e.old.stop) {d : Delta} (hd : d ∈ ds)
    (h : UInt64.size ≤ d.old.stop + context.toNat) :
    hunkLines? old context ds = none := by
  have hlast : d.old.stop ≤ (ds.getLast (List.ne_nil_of_mem hd)).old.stop :=
    hds.rel_getLast_of_rel_getLast_getLast hd le_rfl
  cases ds with
  | nil => simp at hd
  | cons e ds =>
    rw [hunkLines?, hunk?, word?_of_le (h.trans (Nat.add_le_add_right hlast _))]
    rfl

theorem mapM_hunkLines? {gs : List (List Delta)}
    (h : ∀ d ∈ gs.flatten, d.old.stop + context.toNat < UInt64.size) :
    gs.mapM (hunkLines? old context) = some (gs.map (hunkLines old context.toNat)) := by
  induction gs with
  | nil => rfl
  | cons g gs ih =>
    rw [List.flatten_cons, List.forall_mem_append] at h
    rw [List.mapM_cons, hunkLines?_eq h.1, ih h.2]
    rfl

theorem mapM_hunkLines?_eq_none {gs : List (List Delta)} {g : List Delta} (hg : g ∈ gs)
    (h : hunkLines? old context g = none) : gs.mapM (hunkLines? old context) = none := by
  induction gs with
  | nil => simp at hg
  | cons g' gs ih =>
    rw [List.mapM_cons]
    rcases List.mem_cons.1 hg with rfl | hg
    · rw [h]
      rfl
    · rw [ih hg]
      cases hunkLines? old context g' <;> rfl

/-! ## The rendering -/

/-- The deltas of a patch end one after the other. -/
theorem pairwise_stop_le {i j : Nat} (h : Delta.Patches old new i j ds) :
    ds.Pairwise fun d e => d.old.stop ≤ e.old.stop := by
  have hchain : ds.IsChain fun d e => d.old.stop ≤ e.old.stop := by
    refine h.kept_chain.imp ?_
    rintro d e ⟨n, hn, -, -⟩
    rw [Chunk.stop, Chunk.stop] at *
    omega
  exact hchain.pairwise

theorem render?_of_not_overflows (oldName newName : String) (old : List String)
    (h : ¬ Overflows context ds) :
    render? oldName newName old ds context =
      some (render oldName newName old ds context.toNat) := by
  obtain ⟨hmerge, hstop⟩ := not_or.1 h
  have hgroups : hunks? context ds = some (hunks context.toNat ds) :=
    hunks?_eq fun hlen => Nat.lt_of_not_le fun hle => hmerge ⟨hlen, hle⟩
  have hlines : (hunks context.toNat ds).mapM (hunkLines? old context) =
      some ((hunks context.toNat ds).map (hunkLines old context.toNat)) := by
    refine mapM_hunkLines? fun d hd => Nat.lt_of_not_le fun hle => hstop ⟨d, ?_, hle⟩
    rwa [flatten_hunks] at hd
  rw [render?, render]
  split
  · rfl
  · rw [hgroups]
    simp only [Option.bind_eq_bind, Option.bind_some]
    rw [hlines, List.flatMap_def]
    rfl

theorem render?_of_overflows (oldName newName : String)
    (hds : ds.Pairwise fun d e => d.old.stop ≤ e.old.stop) (h : Overflows context ds) :
    render? oldName newName old ds context = none := by
  rcases h with ⟨hlen, hle⟩ | ⟨d, hd, hle⟩
  · have hne : ds ≠ [] := List.ne_nil_of_length_pos (by omega)
    rw [render?, List.isEmpty_eq_false_iff.2 hne, hunks?_eq_none hlen hle]
    rfl
  · rw [render?, List.isEmpty_eq_false_iff.2 (List.ne_nil_of_mem hd)]
    cases hgroups : hunks? context ds with
    | none => rfl
    | some gs =>
      -- The hunk that shows the delta fails.
      have hflatten : gs.flatten = ds := by rw [eq_hunks_of_hunks? hgroups, flatten_hunks]
      obtain ⟨g, hg, hdg⟩ := List.mem_flatten.1 (hflatten.symm ▸ hd)
      have hsub : g.Sublist ds := hflatten ▸ List.sublist_flatten_of_mem hg
      have hnone := hunkLines?_eq_none old (hds.sublist hsub) hdg hle
      simp only [Option.bind_eq_bind, Option.bind_some, mapM_hunkLines?_eq_none hg hnone]
      rfl

/-- In words a patch is rendered as in numbers of any size, unless a number overflows. -/
theorem render?_eq (oldName newName : String) {i j : Nat} (h : Delta.Patches old new i j ds)
    (context : UInt64) : render? oldName newName old ds context =
      if Overflows context ds then none
      else some (render oldName newName old ds context.toNat) := by
  by_cases hover : Overflows context ds
  · rw [if_pos hover, render?_of_overflows oldName newName (pairwise_stop_le h) hover]
  · rw [if_neg hover, render?_of_not_overflows oldName newName old hover]

/-- The context of a comparison overflows for no list that a word counts the lines of. -/
theorem render?_contextLines (oldName newName : String) (old new : List String)
    (h : old.length + Diff.contextLines < UInt64.size) :
    render? oldName newName old (Delta.between old new) 3 =
      some (Diff.compare oldName newName old new).unified := by
  have hpatches := Delta.patches_between old new
  refine render?_of_not_overflows oldName newName old ?_
  rintro (⟨-, hle⟩ | ⟨d, hd, hle⟩)
  · exact absurd hle (by decide)
  · have hstop : d.old.stop ≤ old.length := (hpatches.sliceOf d hd).1.stop_le
    change UInt64.size ≤ d.old.stop + Diff.contextLines at hle
    omega

/-- In words the difference of two lists is rendered unless a number overflows. What is rendered is
read back as hunks that fit both lists, lie one before the other, and make the new list of the old
one when each goes in the place of its range. Nothing is rendered of equal lists. -/
theorem readPatch?_render?_between (oldName newName : String) (old new : List String)
    (context : UInt64) :
    if Overflows context (Delta.between old new) then
      render? oldName newName old (Delta.between old new) context = none
    else
      ∃ lines, render? oldName newName old (Delta.between old new) context = some lines ∧
        (lines = [] ↔ old = new) ∧
        ∃ hs, readPatch? oldName newName lines = some hs ∧
          (∀ h ∈ hs, h.Fits context.toNat old new) ∧ hs.Pairwise Hunk.Before ∧
          Delta.applyAll? old (hs.map Hunk.delta) = some new := by
  have hrender := render?_eq oldName newName (Delta.patches_between old new) context
  split
  · next hover => rw [hrender, if_pos hover]
  · next hover =>
    rw [if_neg hover] at hrender
    exact ⟨_, hrender, readPatch?_render_between oldName newName old new context.toNat⟩

/-- A line in place of another cannot be rendered with the widest of all contexts, and no two such
changes with half of it. -/
theorem render?_between_eq_none :
    render? "a" "b" ["a"] (Delta.between ["a"] ["b"]) 18446744073709551615 = none ∧
      render? "a" "b" ["a", "x", "a"] (Delta.between ["a", "x", "a"] ["b", "x", "b"])
        9223372036854775808 = none := by
  decide +kernel

/-- With one line less of context the end of the hunk fits, and is that of the list. -/
example : render? "a" "b" ["a"] (Delta.between ["a"] ["b"]) 18446744073709551614 =
    some ["--- a", "+++ b", "@@ -1 +1 @@", "-a", "+b"] := by
  decide +kernel

end Byline.Unified

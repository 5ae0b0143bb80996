import Byline.Proofs.Diff.Patch
import Byline.Proofs.Diff.Reader
import Mathlib.Data.List.Chain

/-!
# Unified renderings as patches

A patch is cut into groups of deltas that lie more than two contexts apart, and each group is shown
with the lines around it. What is shown of a group is itself a patch of the ranges that its header
names (`PatchesUpTo`), so that the hunks in place of the groups are again a patch between the lists
(`patches_groupHunks`). The rendering of a difference is therefore read back as hunks that fit the
lists, lie apart and in order, and make the new list of the old one (`readPatch?_render_between`).
-/

namespace Byline

/-! ## Parts of patches -/

theorem Kept.split {α : Type} {old new : List α} {i j i' j' n : Nat} (h : Kept old new i j i' j')
    (hn : i + n ≤ i') : Kept old new i j (i + n) (j + n) ∧ Kept old new (i + n) (j + n) i' j' := by
  obtain ⟨m, rfl, rfl, he⟩ := h
  have hle : n ≤ m := by omega
  constructor
  · have htake := congrArg (List.take n) he
    rw [List.take_take, List.take_take, Nat.min_eq_left hle] at htake
    exact ⟨n, rfl, rfl, htake⟩
  · have hdrop := congrArg (List.drop n) he
    rw [List.drop_take, List.drop_take, List.drop_drop, List.drop_drop] at hdrop
    exact ⟨m - n, by omega, by omega, hdrop⟩

namespace Unified

theorem slice_append {lines : List String} {i k l : Nat} (hi : i ≤ k) (hk : k ≤ l) :
    slice lines i k ++ slice lines k l = slice lines i l := by
  obtain ⟨m, rfl⟩ := Nat.exists_eq_add_of_le hi
  obtain ⟨n, rfl⟩ := Nat.exists_eq_add_of_le hk
  rw [slice, slice, slice, List.drop_take, List.drop_take, List.drop_take, ← List.drop_drop,
    Nat.add_sub_cancel_left, Nat.add_sub_cancel_left, Nat.add_assoc, Nat.add_sub_cancel_left,
    List.take_add]

theorem length_slice_le (lines : List String) (i k : Nat) : (slice lines i k).length ≤ k - i := by
  rw [slice, List.length_drop, List.length_take]
  omega

theorem slice_eq_of_kept {old new : List String} {i j i' j' : Nat} (h : Kept old new i j i' j') :
    slice old i i' = slice new j j' := by
  obtain ⟨n, rfl, rfl, he⟩ := h
  rwa [slice, slice, List.drop_take, List.drop_take, Nat.add_sub_cancel_left,
    Nat.add_sub_cancel_left]

theorem slice_eq_of_sliceOf {c : Chunk} {lines : List String} (h : c.SliceOf lines) :
    slice lines c.position c.stop = c.lines := by
  rw [slice, List.drop_take, Chunk.stop, Nat.add_sub_cancel_left, h.lines_eq]

theorem sliceOf_slice {lines : List String} {i k : Nat} (hi : i ≤ k) (hk : k ≤ lines.length) :
    (⟨i, slice lines i k⟩ : Chunk).SliceOf lines := by
  rw [slice, List.drop_take]
  exact Delta.sliceOf_take_drop (by omega)

end Unified

namespace Delta

/-- Are the deltas a patch between the lists, from positions `i` and `j` up to `i'` and `j'`? -/
inductive PatchesUpTo (old new : List String) (i' j' : Nat) : Nat → Nat → List Delta → Prop where
  | nil {i j : Nat} : Kept old new i j i' j' → PatchesUpTo old new i' j' i j []
  | cons {i j : Nat} {d : Delta} {ds : List Delta} :
      Kept old new i j d.old.position d.new.position → d.old.SliceOf old → d.new.SliceOf new →
      PatchesUpTo old new i' j' d.old.stop d.new.stop ds → PatchesUpTo old new i' j' i j (d :: ds)

namespace Patches

variable {old new : List String} {i j : Nat} {ds : List Delta}

theorem le (h : Patches old new i j ds) : i ≤ old.length ∧ j ≤ new.length := by
  cases h with
  | nil hk =>
    obtain ⟨n, hi, hj, -⟩ := hk
    omega
  | cons hk ho hn _ =>
    obtain ⟨n, hi, hj, -⟩ := hk
    have hold := ho.stop_le
    have hnew := hn.stop_le
    rw [Chunk.stop] at hold hnew
    omega

theorem kept_head (h : Patches old new i j ds) :
    ∀ d ∈ ds.head?, Kept old new i j d.old.position d.new.position := by
  intro d hd
  cases h with
  | nil hk => simp at hd
  | cons hk ho hn _ =>
    obtain rfl := Option.some.inj hd
    exact hk

/-- Lines before the first delta may be left out of a patch. -/
theorem skip (h : Patches old new i j ds) {n : Nat}
    (hstart : ∀ d ∈ ds.head?, i + n ≤ d.old.position) (hend : ds = [] → i + n ≤ old.length) :
    Kept old new i j (i + n) (j + n) ∧ Patches old new (i + n) (j + n) ds := by
  cases h with
  | nil hk =>
    obtain ⟨hfront, hback⟩ := hk.split (hend rfl)
    exact ⟨hfront, .nil hback⟩
  | cons hk ho hn hrest =>
    obtain ⟨hfront, hback⟩ := hk.split (hstart _ rfl)
    exact ⟨hfront, .cons hback ho hn hrest⟩

/-- The first deltas of a patch, and lines that are kept after them, are a patch up to there, and
the other deltas are one of the rest. -/
theorem split {d : Delta} {ds rest : List Delta} (h : Patches old new i j (d :: ds ++ rest)) :
    let last := (d :: ds).getLast (by simp)
    Patches old new last.old.stop last.new.stop rest ∧
      ∀ i' j', Kept old new last.old.stop last.new.stop i' j' →
        PatchesUpTo old new i' j' i j (d :: ds) := by
  induction ds generalizing d i j with
  | nil =>
    cases h with
    | cons hk ho hn hrest => exact ⟨hrest, fun i' j' hk' => .cons hk ho hn (.nil hk')⟩
  | cons e ds ih =>
    cases h with
    | cons hk ho hn hrest =>
      obtain ⟨hrest', hupTo⟩ := ih hrest
      exact ⟨hrest', fun i' j' hk' => .cons hk ho hn (hupTo i' j' hk')⟩

end Patches

end Delta

namespace Unified

variable {old new : List String} {context : Nat}

/-! ## The lines of a hunk -/

/-- The lines that are not marked so. -/
def without (step : Step) (ms : List (Step × String)) : List String :=
  (ms.filter (·.1 ≠ step)).map (·.2)

@[simp] theorem without_append (step : Step) (ms ms' : List (Step × String)) :
    without step (ms ++ ms') = without step ms ++ without step ms' := by
  rw [without, List.filter_append, List.map_append]
  rfl

@[simp] theorem without_map (step mark : Step) (lines : List String) :
    without step (lines.map (mark, ·)) = if mark = step then [] else lines := by
  by_cases h : mark = step
  · simp [without, List.filter_map, Function.comp_def, h]
  · simp [without, List.filter_map, Function.comp_def, h]

/-- What is shown of a patch without what it inserts are lines of the old list, and without what it
deletes lines of the new one. -/
theorem without_marked {i j i' j' : Nat} {ds : List Delta}
    (h : Delta.PatchesUpTo old new i' j' i j ds) :
    (i ≤ i' ∧ without .insert (marked old i i' ds) = slice old i i') ∧
      (j ≤ j' ∧ without .delete (marked old i i' ds) = slice new j j') := by
  induction h with
  | nil hk =>
    obtain ⟨n, hi, hj, -⟩ := id hk
    simp only [marked, without_map, reduceCtorEq, if_false, and_true]
    exact ⟨by omega, by omega, slice_eq_of_kept hk⟩
  | @cons i j d ds hk ho hn _ ih =>
    obtain ⟨⟨hi, hold⟩, hj, hnew⟩ := ih
    obtain ⟨n, hi₀, hj₀, -⟩ := id hk
    have hstop : d.old.position ≤ d.old.stop ∧ d.new.position ≤ d.new.stop :=
      ⟨Nat.le_add_right _ _, Nat.le_add_right _ _⟩
    simp only [marked, without_append, without_map, reduceCtorEq, if_false, if_true,
      List.append_nil, hold, hnew]
    constructor
    · refine ⟨by omega, ?_⟩
      rw [← slice_eq_of_sliceOf ho, slice_append (by omega) hstop.1, slice_append (by omega) hi]
    · refine ⟨by omega, ?_⟩
      rw [slice_eq_of_kept hk, ← slice_eq_of_sliceOf hn, slice_append (by omega) hstop.2,
        slice_append (by omega) hj]

/-- The lines that are kept before any other. -/
def leading (ms : List (Step × String)) : List (Step × String) := ms.takeWhile (·.1 = .keep)

theorem length_leading (lines : List String) {m : Step × String} (hm : m.1 ≠ .keep)
    (ms : List (Step × String)) :
    (leading (lines.map (.keep, ·) ++ m :: ms)).length = lines.length := by
  rw [leading, List.takeWhile_append_of_pos (by simp), List.takeWhile_cons]
  simp [hm]

/-- The lines that a delta takes away and those that it puts in. -/
def changed (d : Delta) : List (Step × String) :=
  d.old.lines.map (.delete, ·) ++ d.new.lines.map (.insert, ·)

theorem ne_keep_of_mem_changed {d : Delta} {m : Step × String} (h : m ∈ changed d) :
    m.1 ≠ .keep := by
  rcases List.mem_append.1 h with h | h
  · obtain ⟨line, -, rfl⟩ := List.mem_map.1 h
    simp
  · obtain ⟨line, -, rfl⟩ := List.mem_map.1 h
    simp

theorem changed_ne_nil {d : Delta} (h : d.old.lines ≠ [] ∨ d.new.lines ≠ []) : changed d ≠ [] := by
  intro hnil
  obtain ⟨hold, hnew⟩ := List.append_eq_nil_iff.1 hnil
  rw [List.map_eq_nil_iff] at hold hnew
  exact h.elim (· hold) (· hnew)

theorem marked_cons (old : List String) (pos stop : Nat) (d : Delta) (ds : List Delta) :
    marked old pos stop (d :: ds) = (slice old pos d.old.position).map (.keep, ·) ++
      (changed d ++ marked old d.old.stop stop ds) := by
  simp only [marked, changed, List.append_assoc]

theorem length_leading_marked {d : Delta} (h : d.old.lines ≠ [] ∨ d.new.lines ≠ []) (pos stop : Nat)
    (ds : List Delta) :
    (leading (marked old pos stop (d :: ds))).length = (slice old pos d.old.position).length := by
  obtain ⟨m, ms, hm⟩ := List.exists_cons_of_ne_nil (changed_ne_nil h)
  have hkeep : m.1 ≠ .keep := ne_keep_of_mem_changed (hm ▸ List.mem_cons_self)
  rw [marked_cons, hm, List.cons_append]
  exact length_leading _ hkeep _

/-- The lines of a hunk end with those that are kept after its last delta. -/
theorem exists_marked_eq {d : Delta} {ds : List Delta}
    (h : ∀ e ∈ d :: ds, e.old.lines ≠ [] ∨ e.new.lines ≠ []) (pos stop : Nat) :
    ∃ ms m, m.1 ≠ .keep ∧ marked old pos stop (d :: ds) =
      ms ++ m :: (slice old ((d :: ds).getLast (by simp)).old.stop stop).map (.keep, ·) := by
  induction ds generalizing d pos with
  | nil =>
    -- The last line that is changed, and the lines after it.
    rcases List.eq_nil_or_concat (changed d) with hnil | ⟨ms, m, hm⟩
    · exact absurd hnil (changed_ne_nil (h d List.mem_cons_self))
    · refine ⟨(slice old pos d.old.position).map (.keep, ·) ++ ms, m, ?_, ?_⟩
      · have hmem : m ∈ changed d := by simp [hm]
        exact ne_keep_of_mem_changed hmem
      · rw [marked_cons, hm, marked]
        simp
  | cons e ds ih =>
    obtain ⟨ms, m, hm, he⟩ := ih (fun x hx => h x (List.mem_cons_of_mem d hx)) d.old.stop
    refine ⟨(slice old pos d.old.position).map (.keep, ·) ++ (changed d ++ ms), m, hm, ?_⟩
    rw [marked_cons, he, List.getLast_cons (List.cons_ne_nil e ds)]
    simp only [List.append_assoc]

theorem length_trailing_marked {d : Delta} {ds : List Delta}
    (h : ∀ e ∈ d :: ds, e.old.lines ≠ [] ∨ e.new.lines ≠ []) (pos stop : Nat) :
    (leading (marked old pos stop (d :: ds)).reverse).length =
      (slice old ((d :: ds).getLast (by simp)).old.stop stop).length := by
  obtain ⟨ms, m, hm, he⟩ := exists_marked_eq h pos stop
  rw [he, List.reverse_append, List.reverse_cons, ← List.map_reverse, List.append_assoc,
    List.singleton_append, length_leading _ hm, List.length_reverse]

/-! ## Hunks -/

namespace Hunk

/-- The lines of the old list that a hunk shows. -/
def oldLines (h : Hunk) : List String := without .insert h.lines

/-- The lines of the new list that a hunk shows. -/
def newLines (h : Hunk) : List String := without .delete h.lines

/-- The change that a hunk makes, with the lines around it. -/
def delta (h : Hunk) : Delta :=
  ⟨.of h.oldLines.length h.newLines.length, ⟨h.oldStart, h.oldLines⟩, ⟨h.newStart, h.newLines⟩⟩

/-- A hunk fits two lists if it shows as many lines of both as its header says, they are those at
the positions that it names, and it has no more than `context` lines before its first change and
after its last. -/
structure Fits (h : Hunk) (context : Nat) (old new : List String) : Prop where
  oldLength_eq : h.oldLines.length = h.oldLength
  newLength_eq : h.newLines.length = h.newLength
  old_sliceOf : h.delta.old.SliceOf old
  new_sliceOf : h.delta.new.SliceOf new
  leading_le : (leading h.lines).length ≤ context
  trailing_le : (leading h.lines.reverse).length ≤ context

/-- Do the ranges of one hunk lie before those of another, with lines between them? -/
def Before (h k : Hunk) : Prop :=
  h.oldStart + h.oldLength < k.oldStart ∧ h.newStart + h.newLength < k.newStart

instance : Trans Before Before Before where
  trans h k := ⟨by have := h.1; have := k.1; omega, by have := h.2; have := k.2; omega⟩

theorem Fits.stop_eq {k : Hunk} (h : k.Fits context old new) :
    k.delta.old.stop = k.oldStart + k.oldLength ∧ k.delta.new.stop = k.newStart + k.newLength := by
  rw [← h.oldLength_eq, ← h.newLength_eq]
  exact ⟨rfl, rfl⟩

section UpTo

variable {i j i' j' : Nat} {d : Delta} {ds : List Delta}

theorem stop_upTo (h : Delta.PatchesUpTo old new i' j' i j ds) :
    (upTo old i' j' i j ds).oldStart + (upTo old i' j' i j ds).oldLength = i' ∧
      (upTo old i' j' i j ds).newStart + (upTo old i' j' i j ds).newLength = j' := by
  obtain ⟨⟨hi, -⟩, hj, -⟩ := without_marked h
  exact ⟨Nat.add_sub_cancel' hi, Nat.add_sub_cancel' hj⟩

theorem fits_upTo (h : Delta.PatchesUpTo old new i' j' i j (d :: ds)) (hold : i' ≤ old.length)
    (hnew : j' ≤ new.length) (hds : ∀ e ∈ d :: ds, e.old.lines ≠ [] ∨ e.new.lines ≠ [])
    (hlead : d.old.position ≤ i + context)
    (htrail : i' ≤ ((d :: ds).getLast (by simp)).old.stop + context) :
    (upTo old i' j' i j (d :: ds)).Fits context old new := by
  obtain ⟨⟨hi, hshown⟩, hj, hshown'⟩ := without_marked h
  have hsliceOf := sliceOf_slice hi hold
  have hsliceOf' := sliceOf_slice hj hnew
  constructor
  · show (without .insert _).length = i' - i
    rw [upTo, hshown, slice, List.length_drop, List.length_take_of_le hold]
  · show (without .delete _).length = j' - j
    rw [upTo, hshown', slice, List.length_drop, List.length_take_of_le hnew]
  · show Chunk.SliceOf ⟨i, without .insert _⟩ old
    rwa [upTo, hshown]
  · show Chunk.SliceOf ⟨j, without .delete _⟩ new
    rwa [upTo, hshown']
  · show (leading (marked old i i' (d :: ds))).length ≤ context
    rw [length_leading_marked (hds d List.mem_cons_self)]
    exact (length_slice_le _ _ _).trans (by omega)
  · show (leading (marked old i i' (d :: ds)).reverse).length ≤ context
    rw [length_trailing_marked hds]
    exact (length_slice_le _ _ _).trans (by omega)

end UpTo

end Hunk

/-! ## Groups of deltas -/

theorem flatten_hunks (context : Nat) (ds : List Delta) : (hunks context ds).flatten = ds := by
  induction ds with
  | nil => rfl
  | cons d ds ih =>
    cases ds with
    | nil => rfl
    | cons e ds =>
      obtain ⟨g, gs, h⟩ := exists_hunks_cons context e ds
      rw [h] at ih
      rw [hunks_cons_cons h]
      split <;> simpa using ih

/-- There is a delta in each group, and it lies more than two contexts before the next group. -/
inductive Grouped (context : Nat) : List (List Delta) → Prop where
  | nil : Grouped context []
  | cons {d : Delta} {ds : List Delta} {gs : List (List Delta)} :
      (∀ e ∈ gs.flatten.head?, 2 * context < gap ((d :: ds).getLast (by simp)) e) →
      Grouped context gs → Grouped context ((d :: ds) :: gs)

theorem grouped_hunks (context : Nat) (ds : List Delta) : Grouped context (hunks context ds) := by
  induction ds with
  | nil => exact .nil
  | cons d ds ih =>
    cases ds with
    | nil => exact .cons (by simp) .nil
    | cons e ds =>
      obtain ⟨g, gs, h⟩ := exists_hunks_cons context e ds
      rw [h] at ih
      rw [hunks_cons_cons h]
      by_cases hgap : gap d e ≤ 2 * context
      · rw [if_pos hgap]
        cases ih with
        | cons hlast hgs => exact .cons hlast hgs
      · rw [if_neg hgap]
        refine .cons ?_ ih
        intro e' he'
        obtain rfl := Option.some.inj he'
        exact Nat.lt_of_not_le hgap

theorem Grouped.oldStart_eq {gs : List (List Delta)} (h : Grouped context gs) (old : List String) :
    ∀ k ∈ (gs.flatMap (groupHunks old context)).head?,
      ∃ e ∈ gs.flatten.head?, k.oldStart = e.old.position - context := by
  intro k hk
  cases h with
  | nil => simp at hk
  | @cons d ds gs _ _ =>
    obtain rfl := Option.some.inj hk
    exact ⟨d, rfl, rfl⟩

/-- The lines that a hunk shows of a group at the start of a patch: `n` lines are left out before
them, and `m` lines are kept after the last delta. They are a patch of their own, and what comes
after them is a patch that starts before the context of the next delta. -/
theorem exists_window {d last : Delta} {ds rest : List Delta} {i j : Nat}
    (h : Delta.Patches old new i j (d :: ds ++ rest)) (hi : i ≤ d.old.position - context)
    (hlast : (d :: ds).getLast (by simp) = last)
    (hgap : ∀ e ∈ rest.head?, 2 * context < gap last e) :
    ∃ n m, d.old.position - context = i + n ∧
      min (last.old.stop + context) old.length = last.old.stop + m ∧
      Kept old new i j (i + n) (j + n) ∧
      Kept old new (i + n) (j + n) d.old.position d.new.position ∧
      Delta.PatchesUpTo old new (last.old.stop + m) (last.new.stop + m) (i + n) (j + n) (d :: ds) ∧
      Delta.Patches old new (last.old.stop + m) (last.new.stop + m) rest ∧
      ∀ e ∈ rest.head?, last.old.stop + m < e.old.position - context := by
  -- The lines up to the hunk's first.
  obtain ⟨n, hn⟩ := Nat.exists_eq_add_of_le hi
  have hstart : ∀ e ∈ (d :: ds ++ rest).head?, i + n ≤ e.old.position := by
    intro e he
    obtain rfl := Option.some.inj he
    omega
  obtain ⟨hlead, hgroup⟩ := h.skip hstart (by simp)
  -- The group, and the lines after it up to the hunk's end.
  obtain ⟨hrest, hupTo⟩ := hgroup.split
  rw [hlast] at hrest hupTo
  have hle : last.old.stop ≤ old.length := hrest.le.1
  obtain ⟨m, hm⟩ := Nat.exists_eq_add_of_le
    (show last.old.stop ≤ min (last.old.stop + context) old.length by omega)
  have hnext : ∀ e ∈ rest.head?, last.old.stop + m < e.old.position - context := by
    intro e he
    have hfar : 2 * context < e.old.position - last.old.stop := hgap e he
    omega
  have hstop : ∀ e ∈ rest.head?, last.old.stop + m ≤ e.old.position := by
    intro e he
    have := hnext e he
    omega
  obtain ⟨htrail, hafter⟩ := hrest.skip hstop (fun _ => by omega)
  exact ⟨n, m, hn, hm, hlead, hgroup.kept_head d rfl, hupTo _ _ htrail, hafter, hnext⟩

/-- The hunk of a group at the start of a patch. It fits the lists, lines that are kept lead up to it,
and what comes after it is a patch that starts further down. -/
theorem exists_hunk {d : Delta} {ds rest : List Delta}
    (hchange : ∀ e ∈ d :: ds, e.old.lines ≠ [] ∨ e.new.lines ≠ []) {i j : Nat}
    (h : Delta.Patches old new i j (d :: ds ++ rest)) (hi : i ≤ d.old.position - context)
    (hgap : ∀ e ∈ rest.head?, 2 * context < gap ((d :: ds).getLast (by simp)) e) :
    ∃ k, groupHunks old context (d :: ds) = [k] ∧ k.Fits context old new ∧
      Kept old new i j k.oldStart k.newStart ∧
      Delta.Patches old new (k.oldStart + k.oldLength) (k.newStart + k.newLength) rest ∧
      ∀ e ∈ rest.head?, k.oldStart + k.oldLength < e.old.position - context := by
  generalize hlast : (d :: ds).getLast (by simp) = last at hgap
  obtain ⟨n, m, hn, hm, hlead, ⟨p, hp, hq, -⟩, hpart, hafter, hnext⟩ := exists_window h hi hlast hgap
  obtain ⟨hold, hnew⟩ := Hunk.stop_upTo hpart
  refine ⟨.upTo old (last.old.stop + m) (last.new.stop + m) (i + n) (j + n) (d :: ds),
    ?_, ?_, hlead, ?_, ?_⟩
  · -- The header counts the new list's lines back from the first delta.
    rw [groupHunks, hlast, hunkOf, hn, hm,
      show d.new.position - (d.old.position - (i + n)) = j + n by omega, Nat.add_sub_cancel_left]
  · exact Hunk.fits_upTo hpart hafter.le.1 hafter.le.2 hchange (by omega) (by rw [hlast]; omega)
  · rwa [hold, hnew]
  · rwa [hold]

/-- The hunks of groups of a patch are a patch, fit the lists and lie one before the other. The
first of them takes its context from the position `i` on. -/
theorem patches_groupHunks {gs : List (List Delta)} (hgs : Grouped context gs)
    (hchange : ∀ d ∈ gs.flatten, d.old.lines ≠ [] ∨ d.new.lines ≠ []) {i j : Nat}
    (h : Delta.Patches old new i j gs.flatten)
    (hi : ∀ d ∈ gs.flatten.head?, i ≤ d.old.position - context) :
    Delta.Patches old new i j ((gs.flatMap (groupHunks old context)).map Hunk.delta) ∧
      (∀ k ∈ gs.flatMap (groupHunks old context), k.Fits context old new) ∧
      (gs.flatMap (groupHunks old context)).IsChain Hunk.Before := by
  induction hgs generalizing i j with
  | nil => exact ⟨h, by simp, .nil⟩
  | @cons d ds gs hgap hgs ih =>
    rw [List.flatten_cons] at h hchange
    obtain ⟨k, hk, hfits, hlead, hrest, hnext⟩ :=
      exists_hunk (fun e he => hchange e (List.mem_append_left _ he)) h (hi d rfl) hgap
    obtain ⟨hpatches, hall, hchain⟩ := ih (fun e he => hchange e (List.mem_append_right _ he)) hrest
      (fun e he => (hnext e he).le)
    rw [List.flatMap_cons, hk, List.singleton_append, List.map_cons]
    refine ⟨.cons hlead hfits.old_sliceOf hfits.new_sliceOf ?_, ?_, ?_⟩
    · rwa [hfits.stop_eq.1, hfits.stop_eq.2]
    · intro k' hk'
      rcases List.mem_cons.1 hk' with rfl | hk'
      · exact hfits
      · exact hall k' hk'
    · refine List.isChain_cons.2 ⟨?_, hchain⟩
      intro k' hk'
      obtain ⟨e, he, hstart⟩ := hgs.oldStart_eq old k' hk'
      have hapart := hnext e he
      -- As many lines of the new list lie between the two hunks as of the old one.
      obtain ⟨p, hp, hq, -⟩ := hpatches.kept_head k'.delta (by rw [List.head?_map, hk']; rfl)
      change k'.oldStart = _ at hp
      change k'.newStart = _ at hq
      rw [Hunk.Before]
      omega

end Unified

/-! ## The deltas of a difference -/

namespace Delta

section Steps

variable {old new : List String} {i j deleted inserted : Nat}

theorem ne_nil_of_mem_ofRun (ho : i + deleted ≤ old.length) (hn : j + inserted ≤ new.length)
    {d : Delta} (h : d ∈ ofRun old new i j deleted inserted) :
    d.old.lines ≠ [] ∨ d.new.lines ≠ [] := by
  unfold ofRun at h
  split at h
  · simp at h
  · next hrun =>
    obtain rfl := List.mem_singleton.1 h
    have hdeleted := length_take_drop ho
    have hinserted := length_take_drop hn
    by_cases hzero : deleted = 0
    · right
      intro hnil
      change (new.drop j).take inserted = [] at hnil
      rw [hnil] at hinserted
      exact hrun ⟨hzero, hinserted.symm⟩
    · left
      intro hnil
      change (old.drop i).take deleted = [] at hnil
      rw [hnil] at hdeleted
      exact hzero hdeleted.symm

open Byline.Alignment

/-- What holds of the delta of each run holds of all deltas of an alignment. -/
theorem forall_mem_ofSteps {p : Delta → Prop}
    (hrun : ∀ {i j deleted inserted : Nat}, i + deleted ≤ old.length → j + inserted ≤ new.length →
      ∀ d ∈ ofRun old new i j deleted inserted, p d)
    {s t : List String} {steps : List Step} (h : Aligns s t steps)
    (ho : i + deleted ≤ old.length) (hn : j + inserted ≤ new.length)
    (hs : old.drop (i + deleted) = s) (ht : new.drop (j + inserted) = t) :
    ∀ d ∈ ofSteps old new steps i j deleted inserted, p d := by
  induction h generalizing i j deleted inserted with
  | nil => exact hrun ho hn
  | @keep _ _ steps c _ ih =>
    obtain ⟨_, ho', hs'⟩ := of_drop_eq_cons hs
    obtain ⟨_, hn', ht'⟩ := of_drop_eq_cons ht
    have hrest : ∀ d ∈ ofSteps old new steps (i + deleted + 1) (j + inserted + 1) 0 0, p d :=
      ih ho' hn' hs' ht'
    intro d hd
    rw [ofSteps] at hd
    rcases List.mem_append.1 hd with hd | hd
    · exact hrun ho hn d hd
    · exact hrest d hd
  | delete c _ ih =>
    obtain ⟨_, ho', hs'⟩ := of_drop_eq_cons hs
    exact ih ho' hn hs' ht
  | insert c _ ih =>
    obtain ⟨_, hn', ht'⟩ := of_drop_eq_cons ht
    exact ih ho hn' hs ht'

end Steps

/-- What holds of the delta of each run holds of all deltas between two lists. -/
theorem forall_mem_between {old new : List String} {p : Delta → Prop}
    (hrun : ∀ {i j deleted inserted : Nat}, i + deleted ≤ old.length → j + inserted ≤ new.length →
      ∀ d ∈ ofRun old new i j deleted inserted, p d) :
    ∀ d ∈ between old new, p d := by
  obtain ⟨steps, htrim, halign, _⟩ := Alignment.ofTrimmed?_spec old new
  rw [between, htrim, Option.getD_some]
  exact forall_mem_ofSteps hrun halign (Nat.zero_le _) (Nat.zero_le _) rfl rfl

/-- Each delta between two lists takes a line away or puts one in. -/
theorem ne_nil_of_mem_between {old new : List String} {d : Delta} (h : d ∈ between old new) :
    d.old.lines ≠ [] ∨ d.new.lines ≠ [] :=
  forall_mem_between (fun ho hn _ => ne_nil_of_mem_ofRun ho hn) d h

theorem between_eq_nil_iff {old new : List String} : between old new = [] ↔ old = new := by
  constructor
  · intro h
    have hpatches := patches_between old new
    rw [h] at hpatches
    cases hpatches with
    | nil hk => exact hk.drop_eq
  · rintro rfl
    have hchanges := changes_between old old
    have hlcs := length_le_lcsLength (List.Sublist.refl old) (List.Sublist.refl old)
    cases hds : between old old with
    | nil => rfl
    | cons d ds =>
      have hd : d ∈ between old old := hds ▸ List.mem_cons_self
      rw [hds, changes_cons] at hchanges
      rcases ne_nil_of_mem_between hd with hne | hne
      · have := List.length_pos_iff.2 hne
        omega
      · have := List.length_pos_iff.2 hne
        omega

end Delta

namespace Unified

/-- The rendering of a difference is read back as hunks that fit both lists, lie one before the
other, and make the new list of the old one when each goes in the place of its range. Nothing is
rendered of equal lists. -/
theorem readPatch?_render_between (oldName newName : String) (old new : List String)
    (context : Nat) :
    let lines := render oldName newName old (Delta.between old new) context
    (lines = [] ↔ old = new) ∧
    ∃ hs, readPatch? oldName newName lines = some hs ∧
      (∀ h ∈ hs, h.Fits context old new) ∧ hs.Pairwise Hunk.Before ∧
      Delta.applyAll? old (hs.map Hunk.delta) = some new := by
  intro lines
  have hflatten := flatten_hunks context (Delta.between old new)
  have hpatches : Delta.Patches old new 0 0 (hunks context (Delta.between old new)).flatten := by
    rw [hflatten]
    exact Delta.patches_between old new
  obtain ⟨hhunks, hfits, hchain⟩ := patches_groupHunks (grouped_hunks context _)
    (fun d hd => Delta.ne_nil_of_mem_between (hflatten ▸ hd)) hpatches (fun d _ => Nat.zero_le _)
  refine ⟨?_, _, readPatch?_render oldName newName old _ context, hfits, hchain.pairwise,
    hhunks.applyFrom?_eq⟩
  refine Iff.trans ?_ Delta.between_eq_nil_iff
  cases hds : Delta.between old new with
  | nil => simp [lines, hds, render]
  | cons d ds => simp [lines, hds, render]

end Unified

end Byline

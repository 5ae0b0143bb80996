import Byline.Diff.Compare
import Byline.Proofs.Diff.Search
import Mathlib.Tactic.NthRewrite

/-!
# Differences as patches

A list of deltas is a patch between two lists (`Patches`) if each of its chunks is the part of its
list that it names, and the lines between chunks are the same in both lists. The statement says
nothing of a direction: the deltas make the new list of the old one (`Patches.applyFrom?_eq`), and
with the chunks exchanged the old one of the new (`Patches.swap`).

The deltas between two lists are a patch (`patches_between`), and as they come from a shortest
alignment, no list of deltas that applies does with fewer lines (`changes_between`,
`exists_aligns_of_applyFrom?`).
-/

namespace Byline

/-! ## Alignments of trimmed lists -/

/-- What two lists end with is the same in both. -/
theorem drop_commonLength_reverse {α : Type} [DecidableEq α] (s t : List α) :
    s.drop (s.length - commonLength s.reverse t.reverse) =
      t.drop (t.length - commonLength s.reverse t.reverse) := by
  have h := take_commonLength s.reverse t.reverse
  rw [List.take_reverse, List.take_reverse] at h
  exact List.reverse_inj.1 h

namespace Alignment

/-- What is aligned is what the lists hold between a common start and a common end. -/
theorem ofTrimmed?_eq (old new : List String) : ∃ front a b back,
    old = front ++ (a ++ back) ∧ new = front ++ (b ++ back) ∧
      ofTrimmed? old new = (find? a b).map fun steps =>
        List.replicate front.length .keep ++ steps ++ List.replicate back.length .keep := by
  let n := commonLength old new
  let a := old.drop n
  let b := new.drop n
  let m := commonLength a.reverse b.reverse
  have hfront : old.take n = new.take n := take_commonLength old new
  have hback : a.drop (a.length - m) = b.drop (b.length - m) := drop_commonLength_reverse a b
  have hn : (old.take n).length = n := List.length_take_of_le (commonLength_le old new).1
  have hm : (a.drop (a.length - m)).length = m := by
    have hle : m ≤ a.reverse.length := (commonLength_le a.reverse b.reverse).1
    rw [List.length_reverse] at hle
    rw [List.length_drop]
    omega
  refine ⟨old.take n, a.take (a.length - m), b.take (b.length - m), a.drop (a.length - m),
    ?_, ?_, ?_⟩
  · rw [List.take_append_drop, List.take_append_drop]
  · rw [hfront, hback, List.take_append_drop, List.take_append_drop]
  · rw [hn, hm]
    rfl

/-- Trimming first loses nothing: the alignment is a shortest one of the whole lists. -/
theorem ofTrimmed?_spec (old new : List String) :
    ∃ steps, ofTrimmed? old new = some steps ∧ Aligns old new steps ∧
      cost steps + 2 * lcsLength old new = old.length + new.length := by
  obtain ⟨front, a, b, back, rfl, rfl, htrim⟩ := ofTrimmed?_eq old new
  obtain ⟨steps, hfind, halign, hcost⟩ := find?_spec a b
  refine ⟨List.replicate front.length .keep ++ steps ++ List.replicate back.length .keep,
    by rw [htrim, hfind]; rfl, ?_, ?_⟩
  · rw [List.append_assoc]
    exact (Aligns.replicate_keep front).append (halign.append (.replicate_keep back))
  · rw [lcsLength_append_left, lcsLength_append_right]
    simp only [cost_append, cost_replicate_keep, List.length_append]
    omega

end Alignment

/-! ## Patches -/

/-- From positions `i` and `j` up to `i'` and `j'`, do the lists hold the same members? -/
def Kept {α : Type} (old new : List α) (i j i' j' : Nat) : Prop :=
  ∃ n, i' = i + n ∧ j' = j + n ∧ (old.drop i).take n = (new.drop j).take n

namespace Kept

variable {α : Type} {old new : List α} {i j i' j' : Nat}

theorem refl (old new : List α) (i j : Nat) : Kept old new i j i j :=
  ⟨0, rfl, rfl, rfl⟩

theorem swap (h : Kept old new i j i' j') : Kept new old j i j' i' := by
  obtain ⟨n, hi, hj, he⟩ := h
  exact ⟨n, hj, hi, he.symm⟩

theorem snoc {c : α} (h : Kept old new i j i' j') (ho : old[i']? = some c)
    (hn : new[j']? = some c) : Kept old new i j (i' + 1) (j' + 1) := by
  obtain ⟨n, rfl, rfl, he⟩ := h
  refine ⟨n + 1, rfl, rfl, ?_⟩
  rw [List.take_add_one, List.take_add_one, he, List.getElem?_drop, List.getElem?_drop, ho, hn]

/-- The members that are kept up to the ends are all that is left of the lists. -/
theorem drop_eq (h : Kept old new i j old.length new.length) : old.drop i = new.drop j := by
  obtain ⟨n, hi, hj, he⟩ := h
  rwa [List.take_of_length_le (by rw [List.length_drop]; omega),
    List.take_of_length_le (by rw [List.length_drop]; omega)] at he

end Kept

/-- Is the chunk the part of the lines that it names? -/
structure Chunk.SliceOf (c : Chunk) (lines : List String) : Prop where
  stop_le : c.stop ≤ lines.length
  lines_eq : (lines.drop c.position).take c.lines.length = c.lines

namespace Delta

/-- The delta with its chunks exchanged. -/
def swap (d : Delta) : Delta := { d with old := d.new, new := d.old }

/-- Are the deltas a patch between the lists, from positions `i` and `j` on? -/
inductive Patches (old new : List String) : Nat → Nat → List Delta → Prop where
  | nil {i j : Nat} : Kept old new i j old.length new.length → Patches old new i j []
  | cons {i j : Nat} {d : Delta} {ds : List Delta} :
      Kept old new i j d.old.position d.new.position → d.old.SliceOf old → d.new.SliceOf new →
      Patches old new d.old.stop d.new.stop ds → Patches old new i j (d :: ds)

namespace Patches

variable {old new : List String} {i j : Nat} {ds : List Delta}

/-- A patch is one in either direction. -/
theorem swap (h : Patches old new i j ds) : Patches new old j i (ds.map Delta.swap) := by
  induction h with
  | nil hk => exact .nil hk.swap
  | cons hk ho hn _ ih => exact .cons hk.swap hn ho ih

/-- A patch applies, and makes the new list of the old. -/
theorem applyFrom?_eq (h : Patches old new i j ds) : applyFrom? old i ds = some (new.drop j) := by
  induction h with
  | @nil i j hk =>
    obtain ⟨n, hi, _, _⟩ := id hk
    rw [applyFrom?, if_pos (by omega), hk.drop_eq]
  | @cons i j d ds hk ho hn _ ih =>
    obtain ⟨n, hi, hj, he⟩ := hk
    have hle : d.old.position ≤ old.length := (Nat.le_add_right _ _).trans ho.stop_le
    rw [applyFrom?, if_pos ⟨by omega, hle⟩, ih, Option.map_some]
    have hkept : (old.take d.old.position).drop i = (new.drop j).take n := by
      rw [List.drop_take, show d.old.position - i = n by omega, he]
    have hnew : d.new.lines ++ new.drop d.new.stop = (new.drop j).drop n := by
      rw [List.drop_drop, ← hj, Chunk.stop, ← List.drop_drop]
      nth_rewrite 1 [← hn.lines_eq]
      exact List.take_append_drop _ _
    rw [List.append_assoc, hkept, hnew, List.take_append_drop]

end Patches

/-! ## The deltas of an alignment -/

/-- The number of lines that the deltas take away and put in. -/
def changes (ds : List Delta) : Nat :=
  total (ds.map fun d => d.old.lines.length + d.new.lines.length)

@[simp] theorem changes_nil : changes [] = 0 := rfl

@[simp] theorem changes_cons (d : Delta) (ds : List Delta) :
    changes (d :: ds) = d.old.lines.length + d.new.lines.length + changes ds := rfl

@[simp] theorem changes_append (ds ds' : List Delta) :
    changes (ds ++ ds') = changes ds + changes ds' := by
  induction ds with
  | nil => simp
  | cons d ds ih =>
    rw [List.cons_append, changes_cons, changes_cons, ih]
    omega

theorem length_take_drop {lines : List String} {i n : Nat} (h : i + n ≤ lines.length) :
    ((lines.drop i).take n).length = n :=
  List.length_take_of_le (by rw [List.length_drop]; omega)

theorem sliceOf_take_drop {lines : List String} {i n : Nat} (h : i + n ≤ lines.length) :
    (⟨i, (lines.drop i).take n⟩ : Chunk).SliceOf lines := by
  have hlen := length_take_drop h
  refine ⟨?_, ?_⟩
  · rw [Chunk.stop, hlen]
    exact h
  · rw [hlen]

section Steps

variable {old new : List String} {i j deleted inserted : Nat}

theorem changes_ofRun (ho : i + deleted ≤ old.length) (hn : j + inserted ≤ new.length) :
    changes (ofRun old new i j deleted inserted) = deleted + inserted := by
  unfold ofRun
  split
  · next h => rw [h.1, h.2, changes_nil]
  · rw [changes_cons, changes_nil, length_take_drop ho, length_take_drop hn, Nat.add_zero]

/-- A run of deletions and insertions goes between lines that are kept and the rest of a patch. -/
theorem Patches.ofRun_append {i₀ j₀ : Nat} {ds : List Delta} (hk : Kept old new i₀ j₀ i j)
    (ho : i + deleted ≤ old.length) (hn : j + inserted ≤ new.length)
    (hrest : ∀ i₀ j₀, Kept old new i₀ j₀ (i + deleted) (j + inserted) → Patches old new i₀ j₀ ds) :
    Patches old new i₀ j₀ (ofRun old new i j deleted inserted ++ ds) := by
  unfold ofRun
  split
  · next h =>
    obtain ⟨rfl, rfl⟩ := h
    exact hrest i₀ j₀ hk
  · refine .cons hk (sliceOf_take_drop ho) (sliceOf_take_drop hn) ?_
    rw [Chunk.stop, Chunk.stop, length_take_drop ho, length_take_drop hn]
    exact hrest _ _ (.refl old new _ _)

open Byline.Alignment

/-- The deltas of an alignment of what is left of the lists are a patch. Lines up to the current run
may be kept already. -/
theorem patches_ofSteps {s t : List String} {steps : List Step} (h : Aligns s t steps) {i₀ j₀ : Nat}
    (ho : i + deleted ≤ old.length) (hn : j + inserted ≤ new.length)
    (hs : old.drop (i + deleted) = s) (ht : new.drop (j + inserted) = t)
    (hk : Kept old new i₀ j₀ i j) :
    Patches old new i₀ j₀ (ofSteps old new steps i j deleted inserted) := by
  induction h generalizing i j deleted inserted i₀ j₀ with
  | nil =>
    have ho' := List.drop_eq_nil_iff.1 hs
    have hn' := List.drop_eq_nil_iff.1 ht
    rw [ofSteps, ← List.append_nil (ofRun _ _ _ _ _ _)]
    refine .ofRun_append hk ho hn fun i₀ j₀ hk' => .nil ?_
    rwa [show i + deleted = old.length by omega, show j + inserted = new.length by omega] at hk'
  | keep c _ ih =>
    obtain ⟨hc, ho', hs'⟩ := of_drop_eq_cons hs
    obtain ⟨hc', hn', ht'⟩ := of_drop_eq_cons ht
    rw [ofSteps]
    exact .ofRun_append hk ho hn fun i₀ j₀ hk' => ih ho' hn' hs' ht' (hk'.snoc hc hc')
  | delete c _ ih =>
    obtain ⟨_, ho', hs'⟩ := of_drop_eq_cons hs
    exact ih ho' hn hs' ht hk
  | insert c _ ih =>
    obtain ⟨_, hn', ht'⟩ := of_drop_eq_cons ht
    exact ih ho hn' hs ht' hk

/-- The deltas of an alignment change one line for each step that keeps none. -/
theorem changes_ofSteps {s t : List String} {steps : List Step} (h : Aligns s t steps)
    (ho : i + deleted ≤ old.length) (hn : j + inserted ≤ new.length)
    (hs : old.drop (i + deleted) = s) (ht : new.drop (j + inserted) = t) :
    changes (ofSteps old new steps i j deleted inserted) = deleted + inserted + cost steps := by
  induction h generalizing i j deleted inserted with
  | nil =>
    rw [ofSteps, changes_ofRun ho hn]
    rfl
  | @keep _ _ steps c _ ih =>
    obtain ⟨_, ho', hs'⟩ := of_drop_eq_cons hs
    obtain ⟨_, hn', ht'⟩ := of_drop_eq_cons ht
    have hrest : changes (ofSteps old new steps (i + deleted + 1) (j + inserted + 1) 0 0) =
        0 + 0 + cost steps := ih ho' hn' hs' ht'
    rw [ofSteps, changes_append, changes_ofRun ho hn, cost_keep_cons]
    omega
  | @delete _ _ steps c _ ih =>
    obtain ⟨_, ho', hs'⟩ := of_drop_eq_cons hs
    have hrest : changes (ofSteps old new steps i j (deleted + 1) inserted) =
        deleted + 1 + inserted + cost steps := ih ho' hn hs' ht
    rw [ofSteps, cost_delete_cons]
    omega
  | @insert _ _ steps c _ ih =>
    obtain ⟨_, hn', ht'⟩ := of_drop_eq_cons ht
    have hrest : changes (ofSteps old new steps i j deleted (inserted + 1)) =
        deleted + (inserted + 1) + cost steps := ih ho hn' hs ht'
    rw [ofSteps, cost_insert_cons]
    omega

end Steps

/-- The deltas between two lists are a patch between them. -/
theorem patches_between (old new : List String) : Patches old new 0 0 (between old new) := by
  obtain ⟨steps, htrim, halign, _⟩ := Alignment.ofTrimmed?_spec old new
  rw [between, htrim, Option.getD_some]
  exact patches_ofSteps halign (Nat.zero_le _) (Nat.zero_le _) rfl rfl (.refl old new 0 0)

/-- The deltas between two lists change what a longest common subsequence leaves over. -/
theorem changes_between (old new : List String) :
    changes (between old new) + 2 * lcsLength old new = old.length + new.length := by
  obtain ⟨steps, htrim, halign, hcost⟩ := Alignment.ofTrimmed?_spec old new
  have hchanges := changes_ofSteps halign (Nat.zero_le _) (Nat.zero_le _)
    (show old.drop (0 + 0) = old from rfl) (show new.drop (0 + 0) = new from rfl)
  rw [between, htrim, Option.getD_some]
  omega

/-- Deltas that apply come from an alignment that costs what they change. -/
theorem exists_aligns_of_applyFrom? {old result : List String} {pos : Nat} {ds : List Delta}
    (h : applyFrom? old pos ds = some result) :
    pos ≤ old.length ∧ ∃ steps, Alignment.Aligns (old.drop pos) result steps ∧
      Alignment.cost steps = changes ds := by
  induction ds generalizing pos result with
  | nil =>
    rw [applyFrom?] at h
    split at h
    · next hpos =>
      obtain rfl := Option.some.inj h
      exact ⟨hpos, _, .replicate_keep _, by simp⟩
    · simp at h
  | cons d ds ih =>
    rw [applyFrom?] at h
    split at h
    · next hpos =>
      obtain ⟨rest, hrest, rfl⟩ := Option.map_eq_some_iff.1 h
      obtain ⟨hstop, steps, halign, hcost⟩ := ih hrest
      refine ⟨hpos.1.trans hpos.2, ?_⟩
      -- The old lines from `pos` on: those before the delta, those of its chunk, and the rest.
      have hsplit : old.drop pos = (old.take d.old.position).drop pos ++
          ((old.drop d.old.position).take d.old.lines.length ++ old.drop d.old.stop) := by
        rw [Chunk.stop, ← List.drop_drop, List.take_append_drop,
          ← List.drop_append_of_le_length (by rw [List.length_take]; omega),
          List.take_append_drop]
      obtain ⟨change, hchange, hsize⟩ := Alignment.exists_aligns_of_sublist
        (List.nil_sublist ((old.drop d.old.position).take d.old.lines.length))
        (List.nil_sublist d.new.lines)
      rw [length_take_drop hstop, List.length_nil, Nat.mul_zero, Nat.add_zero] at hsize
      rw [hsplit, List.append_assoc]
      refine ⟨_, (Alignment.Aligns.replicate_keep _).append (hchange.append halign), ?_⟩
      simp only [Alignment.cost_append, Alignment.cost_replicate_keep, changes_cons, hsize, hcost,
        Nat.zero_add]
    · simp at h

/-- The deltas between two lists apply to the old list and make the new one of it, and with their
chunks exchanged they apply to the new list and make the old one of it. -/
theorem applyAll?_between (old new : List String) :
    applyAll? old (between old new) = some new ∧
      applyAll? new ((between old new).map swap) = some old :=
  ⟨(patches_between old new).applyFrom?_eq, (patches_between old new).swap.applyFrom?_eq⟩

end Delta

namespace Diff

theorem removed_add_added (d : Diff) : d.removed + d.added = Delta.changes d.deltas := by
  unfold removed added
  induction d.deltas with
  | nil => rfl
  | cons e ds ih =>
    rw [Delta.changes_cons, ← ih]
    simp only [List.map_cons, total]
    omega

/-- A difference removes and adds the lines that a longest common subsequence leaves over, and no
deltas that make the new list of the old one change fewer lines. -/
theorem removed_add_added_compare (oldName newName : String) (old new : List String) :
    IsGreatest (commonLengths old new) (lcsLength old new) ∧
    (compare oldName newName old new).removed + (compare oldName newName old new).added +
      2 * lcsLength old new = old.length + new.length ∧
    ∀ ds, Delta.applyAll? old ds = some new →
      (compare oldName newName old new).removed + (compare oldName newName old new).added ≤
        Delta.changes ds := by
  have hchanges := Delta.changes_between old new
  rw [removed_add_added]
  refine ⟨isGreatest_lcsLength old new, hchanges, ?_⟩
  intro ds hds
  obtain ⟨_, steps, halign, hcost⟩ := Delta.exists_aligns_of_applyFrom? hds
  have hle := halign.length_add_length_le
  rw [List.drop_zero] at hle
  have hdeltas : (compare oldName newName old new).deltas = Delta.between old new := rfl
  rw [hdeltas]
  omega

end Diff

end Byline

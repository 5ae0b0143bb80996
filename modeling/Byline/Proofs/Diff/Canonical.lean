import Byline.Proofs.Diff.Hunks

/-!
# The canonical form of a difference

The deltas between two lists are in canonical form (`Delta.canonical_between`): each names a part of
either list and says in its kind which of the two is empty, the lines outside of all deltas are the
same in both lists, and at least one such line lies between a delta and the next.

That deltas are a patch between the lists says the most of this. What it leaves open is that no run
of deletions and insertions is cut in two, which `isChain_ofSteps` reads off the alignment.
-/

namespace Byline.Delta

open Unified (slice)

/-- The deltas are the maximal runs of changed lines, in order. -/
structure Canonical (old new : List String) (ds : List Delta) : Prop where
  /-- The chunks are parts of the lists. -/
  chunks : ∀ d ∈ ds, d.old.SliceOf old ∧ d.new.SliceOf new
  /-- The kind of a delta says which of its chunks are empty, and not both are. -/
  kinds : ∀ d ∈ ds, (d.kind = .insert ↔ d.old.lines = []) ∧ (d.kind = .delete ↔ d.new.lines = []) ∧
    (d.kind = .change ↔ d.old.lines ≠ [] ∧ d.new.lines ≠ []) ∧
    ¬ (d.old.lines = [] ∧ d.new.lines = [])
  /-- The lines before the first delta are the same in both lists. -/
  before : ∀ d ∈ ds.head?, old.take d.old.position = new.take d.new.position
  /-- Between a delta and the next there are lines, and they are the same in both lists. -/
  apart : ds.IsChain fun d e => d.old.stop < e.old.position ∧ d.new.stop < e.new.position ∧
    slice old d.old.stop e.old.position = slice new d.new.stop e.new.position
  /-- The lines after the last delta are the same in both lists. -/
  after : ∀ d ∈ ds.getLast?, old.drop d.old.stop = new.drop d.new.stop
  /-- Lists without a delta are the same. -/
  same : ds = [] → old = new

/-! ## Parts of a patch -/

namespace Patches

variable {old new : List String} {i j : Nat} {ds : List Delta}

theorem sliceOf (h : Patches old new i j ds) :
    ∀ d ∈ ds, d.old.SliceOf old ∧ d.new.SliceOf new := by
  induction h with
  | nil => simp
  | cons _ ho hn _ ih => exact List.forall_mem_cons.2 ⟨⟨ho, hn⟩, ih⟩

theorem kept_chain (h : Patches old new i j ds) :
    ds.IsChain fun d e => Kept old new d.old.stop d.new.stop e.old.position e.new.position := by
  induction h with
  | nil => exact .nil
  | cons _ _ _ hrest ih => exact List.isChain_cons.2 ⟨hrest.kept_head, ih⟩

theorem kept_getLast (h : Patches old new i j ds) :
    ∀ d ∈ ds.getLast?, Kept old new d.old.stop d.new.stop old.length new.length := by
  induction h with
  | nil => simp
  | @cons _ _ d ds _ _ _ hrest ih =>
    cases hrest with
    | nil hk =>
      intro e he
      obtain rfl := Option.some.inj he
      exact hk
    | cons => simpa using ih

end Patches

/-! ## Runs of an alignment -/

section Steps

variable {old new : List String} {i j deleted inserted : Nat}

/-- The kind of a delta goes by the lengths of its chunks. -/
theorem kind_of_mem_ofRun (ho : i + deleted ≤ old.length) (hn : j + inserted ≤ new.length)
    {d : Delta} (h : d ∈ ofRun old new i j deleted inserted) :
    d.kind = .of d.old.lines.length d.new.lines.length := by
  unfold ofRun at h
  split at h
  · simp at h
  · obtain rfl := List.mem_singleton.1 h
    rw [length_take_drop ho, length_take_drop hn]

theorem stop_of_mem_ofRun (ho : i + deleted ≤ old.length)
    {d : Delta} (h : d ∈ ofRun old new i j deleted inserted) : d.old.stop = i + deleted := by
  unfold ofRun at h
  split at h
  · simp at h
  · obtain rfl := List.mem_singleton.1 h
    rw [Chunk.stop, length_take_drop ho]

theorem isChain_ofRun (r : Delta → Delta → Prop) :
    (ofRun old new i j deleted inserted).IsChain r := by
  unfold ofRun
  split
  · exact .nil
  · exact .singleton _

open Byline.Alignment

/-- A line that is kept ends a run, so that the next delta starts after it. -/
theorem isChain_ofSteps {s t : List String} {steps : List Step} (h : Aligns s t steps)
    (ho : i + deleted ≤ old.length) (hn : j + inserted ≤ new.length)
    (hs : old.drop (i + deleted) = s) (ht : new.drop (j + inserted) = t) :
    (ofSteps old new steps i j deleted inserted).IsChain
      fun d e => d.old.stop < e.old.position := by
  induction h generalizing i j deleted inserted with
  | nil => exact isChain_ofRun _
  | @keep _ _ steps c hsteps ih =>
    obtain ⟨_, ho', hs'⟩ := of_drop_eq_cons hs
    obtain ⟨_, hn', ht'⟩ := of_drop_eq_cons ht
    have hrest : Patches old new (i + deleted + 1) (j + inserted + 1)
        (ofSteps old new steps (i + deleted + 1) (j + inserted + 1) 0 0) :=
      patches_ofSteps hsteps ho' hn' hs' ht' (.refl old new _ _)
    rw [ofSteps]
    refine List.isChain_append.2 ⟨isChain_ofRun _, ih ho' hn' hs' ht', ?_⟩
    intro d hd e he
    obtain ⟨n, hposition, _, _⟩ := hrest.kept_head e he
    rw [stop_of_mem_ofRun ho (List.mem_of_mem_getLast? hd)]
    omega
  | delete c _ ih =>
    obtain ⟨_, ho', hs'⟩ := of_drop_eq_cons hs
    exact ih ho' hn hs' ht
  | insert c _ ih =>
    obtain ⟨_, hn', ht'⟩ := of_drop_eq_cons ht
    exact ih ho hn' hs ht'

end Steps

/-! ## The deltas between two lists -/

/-- A kind that goes by the numbers of lines says which of them are zero. -/
theorem Kind.of_eq_iff (n m : Nat) (h : n ≠ 0 ∨ m ≠ 0) :
    (Kind.of n m = .insert ↔ n = 0) ∧ (Kind.of n m = .delete ↔ m = 0) ∧
      (Kind.of n m = .change ↔ n ≠ 0 ∧ m ≠ 0) := by
  unfold Kind.of
  by_cases hn : n = 0
  · have hm : m ≠ 0 := h.resolve_left (not_not_intro hn)
    simp [hn, hm]
  · by_cases hm : m = 0
    · simp [hn, hm]
    · simp [hn, hm]

theorem kind_of_mem_between {old new : List String} {d : Delta} (h : d ∈ between old new) :
    (d.kind = .insert ↔ d.old.lines = []) ∧ (d.kind = .delete ↔ d.new.lines = []) ∧
      (d.kind = .change ↔ d.old.lines ≠ [] ∧ d.new.lines ≠ []) := by
  have hkind : d.kind = .of d.old.lines.length d.new.lines.length :=
    forall_mem_between (fun ho hn _ => kind_of_mem_ofRun ho hn) d h
  have hne := ne_nil_of_mem_between h
  simp only [ne_eq, ← List.length_eq_zero_iff] at hne ⊢
  rw [hkind]
  exact Kind.of_eq_iff _ _ hne

theorem isChain_between (old new : List String) :
    (between old new).IsChain fun d e => d.old.stop < e.old.position := by
  obtain ⟨steps, htrim, halign, _⟩ := Alignment.ofTrimmed?_spec old new
  rw [between, htrim, Option.getD_some]
  exact isChain_ofSteps halign (Nat.zero_le _) (Nat.zero_le _) rfl rfl

/-- The deltas between two lists are in canonical form. -/
theorem canonical_between (old new : List String) : Canonical old new (between old new) where
  chunks := (patches_between old new).sliceOf
  kinds := by
    intro d hd
    obtain ⟨hinsert, hdelete, hchange⟩ := kind_of_mem_between hd
    refine ⟨hinsert, hdelete, hchange, ?_⟩
    rintro ⟨hold, hnew⟩
    exact (ne_nil_of_mem_between hd).elim (· hold) (· hnew)
  before := by
    intro d hd
    have hk := (patches_between old new).kept_head d hd
    simpa [slice] using Unified.slice_eq_of_kept hk
  apart := by
    refine List.isChain_iff_forall_rel_of_append_cons_cons.2 ?_
    intro d e front back heq
    have hk := List.isChain_iff_forall_rel_of_append_cons_cons.1 (patches_between old new).kept_chain heq
    have hlt := List.isChain_iff_forall_rel_of_append_cons_cons.1 (isChain_between old new) heq
    refine ⟨hlt, ?_, Unified.slice_eq_of_kept hk⟩
    -- as many lines of the new list lie between the two as of the old one
    obtain ⟨n, hold, hnew, _⟩ := hk
    omega
  after := by
    intro d hd
    exact ((patches_between old new).kept_getLast d hd).drop_eq
  same := between_eq_nil_iff.1

end Byline.Delta

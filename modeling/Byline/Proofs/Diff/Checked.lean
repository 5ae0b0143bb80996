import Byline.Proofs.Diff.Access
import Byline.Proofs.Diff.Canonical
import Mathlib.Data.Nat.PSub

/-!
# Comparing with every check made

`checkedCompare?` compares two lists by the traced search, and checks what `compare` takes for
granted: that a slice lies within its list, and that nothing is taken from a smaller number. It fails
where a check does, while `compare` goes on with what is left of the slice, or with zero. Since the
two always agree (`checkedCompare?_eq`), it never has to.

The slices of the lists are those that an alignment names (`checkedOfSteps?_eq`). The deltas are a
patch, so that their positions grow, and as many lines of the old list are kept before the first
delta of a hunk as of the new one. So there is room for the hunk's context in both lists
(`checkedHunkLines?_eq`).
-/

namespace Byline

/-! ## The checked comparison -/

namespace Unified

/-- The lines from one position up to another, if the positions are in order and in the list. -/
def slice? (lines : List String) (start stop : Nat) : Option (List String) :=
  if start ≤ stop ∧ stop ≤ lines.length then some (slice lines start stop) else none

theorem slice?_eq {lines : List String} {start stop : Nat} (h : start ≤ stop)
    (hstop : stop ≤ lines.length) : slice? lines start stop = some (slice lines start stop) :=
  if_pos ⟨h, hstop⟩

end Unified

open Unified (slice slice? slice?_eq)

/-- `ofTrimmed?`, checked. -/
def Alignment.checkedOfTrimmed? (old new : List String) : Option (List Step) := do
  let front := commonLength old new
  let a ← slice? old front old.length
  let b ← slice? new front new.length
  let back := commonLength a.reverse b.reverse
  let stop ← old.length.psub back
  let stop' ← new.length.psub back
  let a ← slice? old front stop
  let b ← slice? new front stop'
  let steps ← (tracedFind a b).result?
  return List.replicate front Step.keep ++ steps ++ List.replicate back Step.keep

namespace Delta

/-- `ofRun`, checked. -/
def checkedOfRun? (old new : List String) (i j deleted inserted : Nat) : Option (List Delta) :=
  if deleted = 0 ∧ inserted = 0 then some []
  else do
    let out ← slice? old i (i + deleted)
    let put ← slice? new j (j + inserted)
    return [⟨.of deleted inserted, ⟨i, out⟩, ⟨j, put⟩⟩]

/-- `ofSteps`, checked. -/
def checkedOfSteps? (old new : List String) :
    List Step → (i j deleted inserted : Nat) → Option (List Delta)
  | [], i, j, deleted, inserted => checkedOfRun? old new i j deleted inserted
  | .keep :: steps, i, j, deleted, inserted => do
    let ds ← checkedOfRun? old new i j deleted inserted
    let rest ← checkedOfSteps? old new steps (i + deleted + 1) (j + inserted + 1) 0 0
    return ds ++ rest
  | .delete :: steps, i, j, deleted, inserted =>
    checkedOfSteps? old new steps i j (deleted + 1) inserted
  | .insert :: steps, i, j, deleted, inserted =>
    checkedOfSteps? old new steps i j deleted (inserted + 1)

end Delta

namespace Unified

/-- `hunks`, checked. -/
def checkedHunks? (context : Nat) : List Delta → Option (List (List Delta))
  | [] => some []
  | d :: ds => do
    let groups ← checkedHunks? context ds
    match ds, groups with
    | e :: _, h :: hs => do
      let gap ← e.old.position.psub d.old.stop
      return if gap ≤ 2 * context then (d :: h) :: hs else [d] :: h :: hs
    | _, _ => return [[d]]

/-- `body`, checked. -/
def checkedBody? (old : List String) (pos stop : Nat) : List Delta → Option (List String)
  | [] => (slice? old pos stop).map (List.map (" " ++ ·))
  | d :: ds => do
    let kept ← slice? old pos d.old.position
    let rest ← checkedBody? old d.old.stop stop ds
    return kept.map (" " ++ ·) ++ d.old.lines.map ("-" ++ ·) ++ d.new.lines.map ("+" ++ ·) ++ rest

/-- `hunk`, checked. A hunk that would start before the list starts with it. -/
def checkedHunk? (old : List String) (context : Nat) (first last : Delta) (ds : List Delta) :
    Option (List String) := do
  let start := first.old.position - context
  let stop := min (last.old.stop + context) old.length
  let leading ← first.old.position.psub start
  let trailing ← stop.psub last.old.stop
  let start' ← first.new.position.psub leading
  let stop' := last.new.stop + trailing
  let length ← stop.psub start
  let length' ← stop'.psub start'
  let lines ← checkedBody? old start stop ds
  return ("@@ -" ++ range start length ++ " +" ++ range start' length' ++ " @@") :: lines

/-- `hunkLines`, checked. -/
def checkedHunkLines? (old : List String) (context : Nat) : List Delta → Option (List String)
  | [] => some []
  | d :: ds => checkedHunk? old context d ((d :: ds).getLast (List.cons_ne_nil d ds)) (d :: ds)

/-- `render`, checked. -/
def checkedRender? (oldName newName : String) (old : List String) (ds : List Delta)
    (context : Nat) : Option (List String) :=
  if ds.isEmpty then some []
  else do
    let groups ← checkedHunks? context ds
    let lines ← groups.mapM (checkedHunkLines? old context)
    return ("--- " ++ oldName) :: ("+++ " ++ newName) :: lines.flatten

end Unified

/-- `compare`, checked. -/
def Diff.checkedCompare? (oldName newName : String) (old new : List String) : Option Diff := do
  let steps ← Alignment.checkedOfTrimmed? old new
  let ds ← Delta.checkedOfSteps? old new steps 0 0 0 0
  let unified ← Unified.checkedRender? oldName newName old ds contextLines
  return ⟨oldName, newName, ds, unified⟩

/-! ## The alignment -/

theorem Alignment.result?_tracedFind {α : Type} [DecidableEq α] (a b : List α) :
    (tracedFind a b).result? = find? a b := by
  obtain ⟨steps, _, _, hfind, hends, _⟩ := exists_ends_tracedFind a b
  rw [hends.result?_eq, hfind]

theorem Alignment.checkedOfTrimmed?_eq (old new : List String) :
    checkedOfTrimmed? old new = ofTrimmed? old new := by
  have hdrop (lines : List String) (front : Nat) :
      slice lines front lines.length = lines.drop front := by rw [slice, List.take_length]
  have htake (lines : List String) (front back : Nat) : slice lines front (lines.length - back) =
      (lines.drop front).take ((lines.drop front).length - back) := by
    rw [slice, List.drop_take, List.length_drop, Nat.sub_right_comm]
  rw [checkedOfTrimmed?, ofTrimmed?]
  obtain ⟨hold, hnew⟩ := commonLength_le old new
  generalize commonLength old new = front at hold hnew ⊢
  simp only [slice?_eq hold le_rfl, slice?_eq hnew le_rfl, hdrop, Option.bind_eq_bind,
    Option.bind_some]
  obtain ⟨ha, hb⟩ := commonLength_le (old.drop front).reverse (new.drop front).reverse
  rw [List.length_reverse, List.length_drop] at ha hb
  generalize commonLength (old.drop front).reverse (new.drop front).reverse = back at ha hb ⊢
  -- What the lists end with starts after what they start with.
  have hback : back ≤ old.length := by omega
  have hback' : back ≤ new.length := by omega
  have hstop : front ≤ old.length - back := by omega
  have hstop' : front ≤ new.length - back := by omega
  simp only [Nat.psub_eq_sub hback, Nat.psub_eq_sub hback', slice?_eq hstop (Nat.sub_le _ _),
    slice?_eq hstop' (Nat.sub_le _ _), htake, result?_tracedFind, Option.bind_some]
  rw [Option.map_eq_bind]
  rfl

/-! ## The deltas of an alignment -/

namespace Delta

theorem checkedOfRun?_eq {old new : List String} {i j deleted inserted : Nat}
    (ho : i + deleted ≤ old.length) (hn : j + inserted ≤ new.length) :
    checkedOfRun? old new i j deleted inserted = some (ofRun old new i j deleted inserted) := by
  rw [checkedOfRun?, ofRun]
  split
  · rfl
  · rw [slice?_eq (Nat.le_add_right _ _) ho, slice?_eq (Nat.le_add_right _ _) hn]
    simp only [slice, List.drop_take, Nat.add_sub_cancel_left]
    rfl

open Byline.Alignment

theorem checkedOfSteps?_eq {old new s t : List String} {i j deleted inserted : Nat}
    {steps : List Step} (h : Aligns s t steps) (ho : i + deleted ≤ old.length)
    (hn : j + inserted ≤ new.length) (hs : old.drop (i + deleted) = s)
    (ht : new.drop (j + inserted) = t) :
    checkedOfSteps? old new steps i j deleted inserted =
      some (ofSteps old new steps i j deleted inserted) := by
  induction h generalizing i j deleted inserted with
  | nil => exact checkedOfRun?_eq ho hn
  | keep c _ ih =>
    obtain ⟨_, ho', hs'⟩ := of_drop_eq_cons hs
    obtain ⟨_, hn', ht'⟩ := of_drop_eq_cons ht
    have hrest : checkedOfSteps? old new _ (i + deleted + 1) (j + inserted + 1) 0 0 = some _ :=
      ih ho' hn' hs' ht'
    rw [checkedOfSteps?, checkedOfRun?_eq ho hn, hrest]
    rfl
  | delete c _ ih =>
    obtain ⟨_, ho', hs'⟩ := of_drop_eq_cons hs
    exact ih ho' hn hs' ht
  | insert c _ ih =>
    obtain ⟨_, hn', ht'⟩ := of_drop_eq_cons ht
    exact ih ho hn' hs ht'

end Delta

/-! ## The rendering -/

namespace Unified

variable {old new : List String} {context : Nat}

theorem checkedHunks?_eq {ds : List Delta}
    (h : ds.IsChain fun d e => d.old.stop ≤ e.old.position) :
    checkedHunks? context ds = some (hunks context ds) := by
  induction ds with
  | nil => rfl
  | cons d ds ih =>
    cases ds with
    | nil => rfl
    | cons e ds =>
      obtain ⟨hle, hrest⟩ := List.isChain_cons_cons.1 h
      obtain ⟨g, gs, hgroups⟩ := exists_hunks_cons context e ds
      rw [checkedHunks?, ih hrest, hunks_cons_cons hgroups, hgroups]
      simp only [Option.bind_eq_bind, Option.bind_some, Nat.psub_eq_sub hle]
      rfl

theorem checkedBody?_eq {i j i' j' : Nat} {ds : List Delta}
    (h : Delta.PatchesUpTo old new i' j' i j ds) (hle : i' ≤ old.length) :
    checkedBody? old i i' ds = some (body old i i' ds) := by
  induction h with
  | nil hk =>
    obtain ⟨n, hi, -, -⟩ := hk
    rw [checkedBody?, slice?_eq (by omega) hle]
    rfl
  | @cons i j d ds hk ho _ _ ih =>
    obtain ⟨n, hi, -, -⟩ := hk
    have hposition : d.old.position ≤ old.length := (Nat.le_add_right _ _).trans ho.stop_le
    rw [checkedBody?, slice?_eq (by omega) hposition, ih]
    rfl

/-- A hunk starts before its first delta in both lists, and ends after its last. -/
theorem checkedHunkLines?_eq {d : Delta} {ds rest : List Delta} {i j : Nat}
    (h : Delta.Patches old new i j (d :: ds ++ rest)) (hi : i ≤ d.old.position - context)
    (hgap : ∀ e ∈ rest.head?, 2 * context < gap ((d :: ds).getLast (by simp)) e) :
    checkedHunkLines? old context (d :: ds) = some (hunkLines old context (d :: ds)) := by
  generalize hlast : (d :: ds).getLast (by simp) = last at hgap
  obtain ⟨n, m, hn, hm, -, ⟨p, hp, hq, -⟩, hpart, hafter, -⟩ := exists_window h hi hlast hgap
  obtain ⟨⟨hrange, -⟩, hrange', -⟩ := without_marked hpart
  have hbody := checkedBody?_eq hpart hafter.le.1
  have hleading : i + n ≤ d.old.position := by omega
  have htrailing : last.old.stop ≤ last.old.stop + m := Nat.le_add_right _ _
  -- The lines between the hunk's first and its first delta are kept, so that both lists have them.
  have hstart' : d.old.position - (i + n) ≤ d.new.position := by omega
  have hstop' : d.new.position - (d.old.position - (i + n)) ≤
      last.new.stop + (last.old.stop + m - last.old.stop) := by omega
  rw [checkedHunkLines?, hunkLines, hlast, checkedHunk?, hunk, hn, hm]
  simp only [Nat.psub_eq_sub hleading, Nat.psub_eq_sub htrailing, Nat.psub_eq_sub hstart',
    Nat.psub_eq_sub hrange, Nat.psub_eq_sub hstop', hbody, Option.bind_eq_bind, Option.bind_some]
  rfl

theorem mapM_checkedHunkLines? {gs : List (List Delta)} (hgs : Grouped context gs) {i j : Nat}
    (h : Delta.Patches old new i j gs.flatten)
    (hi : ∀ d ∈ gs.flatten.head?, i ≤ d.old.position - context) :
    gs.mapM (checkedHunkLines? old context) = some (gs.map (hunkLines old context)) := by
  induction hgs generalizing i j with
  | nil => rfl
  | @cons d ds gs hgap hgs ih =>
    rw [List.flatten_cons] at h
    obtain ⟨_, _, _, _, _, _, _, hrest, hnext⟩ := exists_window h (hi d rfl) rfl hgap
    rw [List.mapM_cons, checkedHunkLines?_eq h (hi d rfl) hgap,
      ih hrest (fun e he => (hnext e he).le)]
    rfl

theorem checkedRender?_eq {ds : List Delta} (oldName newName : String) (context : Nat)
    (h : Delta.Patches old new 0 0 ds) :
    checkedRender? oldName newName old ds context =
      some (render oldName newName old ds context) := by
  have hchain : ds.IsChain fun d e => d.old.stop ≤ e.old.position := by
    refine h.kept_chain.imp ?_
    rintro d e ⟨n, hn, -, -⟩
    omega
  have hflatten := h
  rw [← flatten_hunks context ds] at hflatten
  have hlines := mapM_checkedHunkLines? (grouped_hunks context ds) hflatten
    (fun _ _ => Nat.zero_le _)
  rw [checkedRender?, render]
  split
  · rfl
  · rw [checkedHunks?_eq hchain]
    simp only [Option.bind_eq_bind, Option.bind_some]
    rw [hlines, List.flatMap_def]
    rfl

/-- No patch: two lines are kept before the deleted one, and the new list has no place for them. -/
example : checkedRender? "a" "b" ["x", "y", "z"] [⟨.delete, ⟨2, ["z"]⟩, ⟨0, []⟩⟩] 3 = none := rfl

end Unified

namespace Diff

open Byline.Alignment

theorem checkedCompare?_eq (oldName newName : String) (old new : List String) :
    checkedCompare? oldName newName old new = some (compare oldName newName old new) := by
  obtain ⟨steps, htrim, halign, -⟩ := ofTrimmed?_spec old new
  have hbetween : Delta.between old new = Delta.ofSteps old new steps 0 0 0 0 := by
    rw [Delta.between, htrim, Option.getD_some]
  have hdeltas : Delta.checkedOfSteps? old new steps 0 0 0 0 = some (Delta.between old new) := by
    rw [hbetween]
    exact Delta.checkedOfSteps?_eq halign (Nat.zero_le _) (Nat.zero_le _) rfl rfl
  have hunified := Unified.checkedRender?_eq oldName newName contextLines
    (Delta.patches_between old new)
  simp only [checkedCompare?, checkedOfTrimmed?_eq, htrim, hdeltas, hunified,
    Option.bind_eq_bind, Option.bind_some]
  rfl

/-- A comparison stays within bounds. The search for an alignment of any two lists reaches for
nothing outside of the frontier and the lists, ends its rounds by reaching the far corner, and comes
back to a pairing of equal members that uses up both lists; so no check of a comparison fails. -/
theorem compare_within_bounds :
    (∀ {α : Type} [DecidableEq α] (a b : List α),
      let n := a.length
      let m := b.length
      ∃ steps frontiers d,
        (tracedFind a b).result? = some steps ∧
        (∀ e ∈ (tracedFind a b).accesses, e.Within n m) ∧
        (tracedSearch a.toArray b.toArray (n + m + 1) 0 (.start (n + m)) []).result? =
          some (frontiers, true) ∧ frontiers.length = d + 1 ∧ d ≤ n + m ∧
        find? a b = some steps ∧ Pairs a b steps) ∧
    ∀ oldName newName old new,
      checkedCompare? oldName newName old new = some (compare oldName newName old new) := by
  refine ⟨?_, checkedCompare?_eq⟩
  intro α _ a b n m
  obtain ⟨steps, frontiers, d, hfind, hends, hrounds, hlen, hd⟩ := exists_ends_tracedFind a b
  obtain ⟨steps', hfind', halign, -⟩ := find?_spec a b
  obtain rfl : steps' = steps := Option.some.inj (hfind'.symm.trans hfind)
  exact ⟨steps', frontiers, d, hends.result?_eq, hends.within, hrounds, hlen, hd, hfind,
    halign.pairs⟩

end Diff

end Byline

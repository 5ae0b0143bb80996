import Byline.Names
import Mathlib.Data.List.Nodup

/-!
# Lists of first occurrences

`Names.addAll` keeps the first occurrence of each name. Names that are put between others stay as
they are, in their order, if the others were collected into them (`addAll_append_addAll`), and
exactly then nothing else is found (`addAll_append_eq_iff`).
-/

namespace Byline.Names

variable {names more : List String}

theorem addAll_append (names more rest : List String) :
    addAll names (more ++ rest) = addAll (addAll names more) rest :=
  List.foldl_append

theorem prefix_add (names : List String) (name : String) : names <+: add names name := by
  unfold add
  split
  · exact List.prefix_append names [name]
  · exact List.prefix_rfl

theorem prefix_addAll (names more : List String) : names <+: addAll names more := by
  induction more generalizing names with
  | nil => exact List.prefix_rfl
  | cons name more ih => exact (prefix_add names name).trans (ih (add names name))

/-- Names that are there already are not added. -/
theorem addAll_eq_self (h : ∀ name ∈ more, name ≠ "" → name ∈ names) :
    addAll names more = names := by
  induction more with
  | nil => rfl
  | cons name more ih =>
    have hadd : add names name = names := by
      unfold add
      rw [if_neg]
      rw [lacks_iff, not_and, not_not]
      exact h name List.mem_cons_self
    rw [addAll, List.foldl_cons, hadd]
    exact ih fun x hx => h x (List.mem_cons_of_mem name hx)

/-- Names that are all new are added as they are. -/
theorem addAll_eq_append (h : (names ++ more).Nodup) (hne : "" ∉ more) :
    addAll names more = names ++ more := by
  induction more generalizing names with
  | nil => exact (List.append_nil names).symm
  | cons name more ih =>
    have hname : name ∉ names := by
      intro hm
      exact (List.disjoint_of_nodup_append h) hm List.mem_cons_self
    have hadd : add names name = names ++ [name] := by
      unfold add
      rw [if_pos (lacks_iff.2 ⟨fun he => hne (he ▸ List.mem_cons_self), hname⟩)]
    rw [List.append_cons] at h ⊢
    rw [addAll, List.foldl_cons, hadd]
    exact ih h fun hm => hne (List.mem_cons_of_mem name hm)

/-- Of the names that are added, those stay that are new, at their first occurrence. -/
theorem addAll_eq_append_eraseDups (hne : "" ∉ more) :
    addAll names more = names ++ (more.filter (!names.contains ·)).eraseDups := by
  induction more generalizing names with
  | nil => simp [addAll]
  | cons name more ih =>
    have hname : name ≠ "" := fun he => hne (he ▸ List.mem_cons_self)
    have ih := @ih (add names name) fun hm => hne (List.mem_cons_of_mem name hm)
    rw [addAll, List.foldl_cons, ← addAll, ih]
    by_cases hm : name ∈ names
    · have hadd : add names name = names := if_neg fun hl => (lacks_iff.1 hl).2 hm
      simp [hadd, hm]
    · have hadd : add names name = names ++ [name] := if_pos (lacks_iff.2 ⟨hname, hm⟩)
      simp [hadd, hm, List.eraseDups_cons, Bool.and_comm, beq_eq_decide]

theorem notMem_addAll_nil (names : List String) : "" ∉ addAll [] names := by
  intro h
  rcases mem_addAll.1 h with h | ⟨-, h⟩
  · exact absurd h List.not_mem_nil
  · exact h rfl

/-- A list of first occurrences that starts with others is built from them. -/
theorem addAll_of_prefix (h : names <+: more) (hd : more.Nodup) (hne : "" ∉ more) :
    addAll names more = more := by
  obtain ⟨rest, rfl⟩ := h
  rw [addAll_append, addAll_eq_self fun x hx _ => hx]
  exact addAll_eq_append hd fun hm => hne (List.mem_append_right names hm)

/-- When names that stand between others are all that is found: those above are a start of them, and
those below are among them. -/
theorem addAll_append_eq_iff {above below : List String} (hd : names.Nodup) (hne : "" ∉ names)
    (hbelow : "" ∉ below) :
    addAll [] (above ++ names ++ below) = names ↔ addAll [] above <+: names ∧ below ⊆ names := by
  constructor
  · intro h
    constructor
    · rw [List.append_assoc, addAll_append] at h
      exact h ▸ prefix_addAll (addAll [] above) (names ++ below)
    · intro name hname
      rw [← h, mem_addAll]
      refine .inr ⟨List.mem_append_right _ hname, ?_⟩
      rintro rfl
      exact hbelow hname
  · rintro ⟨habove, hsub⟩
    rw [addAll_append, addAll_append, addAll_of_prefix habove hd hne]
    exact addAll_eq_self fun name hname _ => hsub hname

/-- First occurrences in `t₁`, in `t₂` and in `t₃`, with `new` names after them, are read back from
the place of `t₂`. -/
theorem addAll_append_addAll (t₁ t₂ t₃ new : List String) :
    let written := addAll [] (addAll [] (t₁ ++ t₂ ++ t₃) ++ new)
    addAll [] (t₁ ++ written ++ t₃) = written := by
  intro written
  have hfound : addAll [] (addAll [] (t₁ ++ t₂ ++ t₃)) = addAll [] (t₁ ++ t₂ ++ t₃) :=
    addAll_of_prefix List.nil_prefix (nodup_addAll List.nodup_nil _) (notMem_addAll_nil _)
  have hwritten : written = addAll (addAll [] (t₁ ++ t₂ ++ t₃)) new := by
    rw [← hfound, ← addAll_append]
  have hprefix : addAll [] t₁ <+: written := by
    rw [hwritten]
    refine List.IsPrefix.trans ?_ (prefix_addAll _ new)
    rw [List.append_assoc, addAll_append]
    exact prefix_addAll _ _
  have hnodup : written.Nodup := nodup_addAll List.nodup_nil _
  have hempty : "" ∉ written := notMem_addAll_nil _
  rw [addAll_append, addAll_append, addAll_of_prefix hprefix hnodup hempty]
  refine addAll_eq_self ?_
  intro name hname hne
  rw [hwritten]
  refine (prefix_addAll _ new).subset (mem_addAll.2 (.inr ⟨?_, hne⟩))
  exact List.mem_append_right _ hname

end Byline.Names

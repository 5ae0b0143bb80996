import Byline.Proofs.Diff.Common

/-!
# Alignments and their cost

`Aligns a b steps` states that the steps make the list `b` of the list `a`. The cost of the steps is
the number of those that keep no member. An alignment costs at least what a longest common
subsequence leaves over of both lists (`Aligns.length_add_length_le`), and some alignment costs no
more (`exists_aligns`).

Step by step an alignment goes through both lists to their ends, and what it keeps is equal at the
places it has come to (`Aligns.pairs`).
-/

namespace Byline.Alignment

variable {α : Type}

/-- The steps make the second list of the first. -/
inductive Aligns : List α → List α → List Step → Prop where
  | nil : Aligns [] [] []
  | keep {a b : List α} {steps : List Step} (c : α) :
      Aligns a b steps → Aligns (c :: a) (c :: b) (.keep :: steps)
  | delete {a b : List α} {steps : List Step} (c : α) :
      Aligns a b steps → Aligns (c :: a) b (.delete :: steps)
  | insert {a b : List α} {steps : List Step} (c : α) :
      Aligns a b steps → Aligns a (c :: b) (.insert :: steps)

/-- The number of steps that do not keep a member. -/
def cost (steps : List Step) : Nat := steps.countP (· ≠ .keep)

@[simp] theorem cost_nil : cost [] = 0 := rfl

@[simp] theorem cost_keep_cons (steps : List Step) : cost (.keep :: steps) = cost steps :=
  List.countP_cons_of_neg (by decide)

@[simp] theorem cost_delete_cons (steps : List Step) : cost (.delete :: steps) = cost steps + 1 :=
  List.countP_cons_of_pos (by decide)

@[simp] theorem cost_insert_cons (steps : List Step) : cost (.insert :: steps) = cost steps + 1 :=
  List.countP_cons_of_pos (by decide)

@[simp] theorem cost_append (steps steps' : List Step) :
    cost (steps ++ steps') = cost steps + cost steps' :=
  List.countP_append

@[simp] theorem cost_replicate_keep (n : Nat) : cost (List.replicate n .keep) = 0 := by
  simp [cost, List.countP_replicate]

namespace Aligns

theorem append {a b a' b' : List α} {steps steps' : List Step} (h : Aligns a b steps)
    (h' : Aligns a' b' steps') : Aligns (a ++ a') (b ++ b') (steps ++ steps') := by
  induction h with
  | nil => exact h'
  | keep c _ ih => exact ih.keep c
  | delete c _ ih => exact ih.delete c
  | insert c _ ih => exact ih.insert c

/-- Each list is aligned with itself. -/
theorem replicate_keep (a : List α) : Aligns a a (List.replicate a.length .keep) := by
  induction a with
  | nil => exact .nil
  | cons c a ih => exact ih.keep c

/-- Members that two lists share in front are kept. -/
theorem keep_take {a b : List α} {steps : List Step} {n : Nat} (ha : n ≤ a.length)
    (he : a.take n = b.take n) (h : Aligns (a.drop n) (b.drop n) steps) :
    Aligns a b (List.replicate n .keep ++ steps) := by
  have hk := replicate_keep (a.take n)
  rw [List.length_take_of_le ha] at hk
  have := hk.append h
  rwa [List.take_append_drop, he, List.take_append_drop] at this

/-- The kept members are a common subsequence. -/
theorem exists_sublist {a b : List α} {steps : List Step} (h : Aligns a b steps) :
    ∃ s : List α, s.Sublist a ∧ s.Sublist b ∧
      cost steps + 2 * s.length = a.length + b.length := by
  induction h with
  | nil => exact ⟨[], .slnil, .slnil, rfl⟩
  | keep c _ ih =>
    obtain ⟨s, ha, hb, hs⟩ := ih
    refine ⟨c :: s, ha.cons_cons c, hb.cons_cons c, ?_⟩
    simp only [cost_keep_cons, List.length_cons]
    omega
  | delete c _ ih =>
    obtain ⟨s, ha, hb, hs⟩ := ih
    refine ⟨s, ha.cons c, hb, ?_⟩
    simp only [cost_delete_cons, List.length_cons]
    omega
  | insert c _ ih =>
    obtain ⟨s, ha, hb, hs⟩ := ih
    refine ⟨s, ha, hb.cons c, ?_⟩
    simp only [cost_insert_cons, List.length_cons]
    omega

theorem length_add_length_le [DecidableEq α] {a b : List α} {steps : List Step}
    (h : Aligns a b steps) : a.length + b.length ≤ cost steps + 2 * lcsLength a b := by
  obtain ⟨s, ha, hb, hs⟩ := h.exists_sublist
  have := length_le_lcsLength ha hb
  omega

end Aligns

/-- Every common subsequence is what some alignment keeps. -/
theorem exists_aligns_of_sublist {s a b : List α} (ha : s.Sublist a) (hb : s.Sublist b) :
    ∃ steps, Aligns a b steps ∧ cost steps + 2 * s.length = a.length + b.length := by
  induction ha generalizing b with
  | slnil =>
    induction b with
    | nil => exact ⟨[], .nil, rfl⟩
    | cons c b ih =>
      obtain ⟨steps, h, hs⟩ := ih (List.nil_sublist b)
      exact ⟨_, h.insert c, by simp only [cost_insert_cons, List.length_cons]; omega⟩
  | cons c _ ih =>
    obtain ⟨steps, h, hs⟩ := ih hb
    exact ⟨_, h.delete c, by simp only [cost_delete_cons, List.length_cons]; omega⟩
  | cons_cons c _ ih =>
    induction b with
    | nil => exact absurd hb (by simp)
    | cons d b ihb =>
      rcases List.sublist_cons_iff.1 hb with hb' | ⟨u, hu, hb'⟩
      · obtain ⟨steps, h, hs⟩ := ihb hb'
        refine ⟨_, h.insert d, ?_⟩
        simp only [cost_insert_cons, List.length_cons] at hs ⊢
        omega
      · obtain ⟨rfl, rfl⟩ := List.cons.inj hu
        obtain ⟨steps, h, hs⟩ := ih hb'
        refine ⟨_, h.keep c, ?_⟩
        simp only [cost_keep_cons, List.length_cons]
        omega

theorem exists_aligns [DecidableEq α] (a b : List α) :
    ∃ steps, Aligns a b steps ∧ cost steps + 2 * lcsLength a b = a.length + b.length := by
  obtain ⟨s, ha, hb, hs⟩ := exists_sublist_length_eq_lcsLength a b
  rw [← hs]
  exact exists_aligns_of_sublist ha hb

/-! ## Steps as a walk through both lists -/

/-- The number of members of the first list that steps use up. -/
def columns (steps : List Step) : Nat := steps.countP fun step => step = .keep ∨ step = .delete

/-- The number of members of the second list that steps use up. -/
def rows (steps : List Step) : Nat := steps.countP fun step => step = .keep ∨ step = .insert

@[simp] theorem columns_cons (step : Step) (steps : List Step) :
    columns (step :: steps) = columns steps + if step = .insert then 0 else 1 := by
  cases step <;> simp [columns]

@[simp] theorem rows_cons (step : Step) (steps : List Step) :
    rows (step :: steps) = rows steps + if step = .delete then 0 else 1 := by
  cases step <;> simp [rows]

/-- Do the steps use up both lists, and keep only what is equal at the places they have come to? -/
structure Pairs (a b : List α) (steps : List Step) : Prop where
  columns_eq : columns steps = a.length
  rows_eq : rows steps = b.length
  keeps : ∀ front back, steps = front ++ .keep :: back →
    ∃ c, a[columns front]? = some c ∧ b[rows front]? = some c

namespace Aligns

variable {a b : List α}

/-- The steps after some of them align what those leave of the lists. -/
theorem drop {front back : List Step} (h : Aligns a b (front ++ back)) :
    columns front ≤ a.length ∧ rows front ≤ b.length ∧
      Aligns (a.drop (columns front)) (b.drop (rows front)) back := by
  induction front generalizing a b with
  | nil => exact ⟨Nat.zero_le _, Nat.zero_le _, h⟩
  | cons step front ih =>
    cases h with
    | keep c h =>
      obtain ⟨ha, hb, hrest⟩ := ih h
      exact ⟨by simpa using ha, by simpa using hb, by simpa using hrest⟩
    | delete c h =>
      obtain ⟨ha, hb, hrest⟩ := ih h
      exact ⟨by simpa using ha, by simpa using hb, by simpa using hrest⟩
    | insert c h =>
      obtain ⟨ha, hb, hrest⟩ := ih h
      exact ⟨by simpa using ha, by simpa using hb, by simpa using hrest⟩

/-- Steps that align nothing have nothing to align. -/
theorem eq_nil (h : Aligns a b []) : a = [] ∧ b = [] := by
  cases h
  exact ⟨rfl, rfl⟩

theorem exists_head_eq {steps : List Step} (h : Aligns a b (.keep :: steps)) :
    ∃ c, a[0]? = some c ∧ b[0]? = some c := by
  cases h with
  | keep c _ => exact ⟨c, rfl, rfl⟩

theorem pairs {steps : List Step} (h : Aligns a b steps) : Pairs a b steps := by
  have hall := h
  rw [← List.append_nil steps] at hall
  obtain ⟨ha, hb, hend⟩ := hall.drop
  obtain ⟨ha', hb'⟩ := hend.eq_nil
  refine ⟨ha.antisymm (List.drop_eq_nil_iff.1 ha'), hb.antisymm (List.drop_eq_nil_iff.1 hb'), ?_⟩
  rintro front back rfl
  obtain ⟨c, hc, hc'⟩ := h.drop.2.2.exists_head_eq
  rw [List.getElem?_drop] at hc hc'
  exact ⟨c, hc, hc'⟩

end Aligns

end Byline.Alignment

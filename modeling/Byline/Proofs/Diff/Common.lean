import Byline.Diff.Alignment
import Mathlib.Order.Bounds.Basic

/-!
# What two lists have in common

`commonLength` counts the members that two lists share at their start: they are the same members
(`take_commonLength`), and no more are shared (`succ_le_commonLength`). `lcsLength` is the length of
a longest common subsequence (`isGreatest_lcsLength`). What both lists start with, or end with,
counts in full (`lcsLength_append_left`, `lcsLength_append_right`).
-/

namespace Byline

variable {α : Type} [DecidableEq α]

/-! ## Members shared at the start -/

theorem commonLength_le (s t : List α) :
    commonLength s t ≤ s.length ∧ commonLength s t ≤ t.length := by
  fun_induction commonLength s t with
  | case1 s b t ih => simpa using ih
  | case2 => simp
  | case3 => simp

theorem take_commonLength (s t : List α) :
    s.take (commonLength s t) = t.take (commonLength s t) := by
  fun_induction commonLength s t with
  | case1 s b t ih => simp [ih]
  | case2 => rfl
  | case3 => rfl

theorem getElem?_of_lt_commonLength {s t : List α} {n : Nat} (h : n < commonLength s t) :
    ∃ c, s[n]? = some c ∧ t[n]? = some c := by
  have hs : n < s.length := h.trans_le (commonLength_le s t).1
  have he := congrArg (·[n]?) (take_commonLength s t)
  simp only [List.getElem?_take_of_lt h] at he
  exact ⟨s[n], List.getElem?_eq_getElem hs, he ▸ List.getElem?_eq_getElem hs⟩

/-- A member that both lists go on with after shared members is shared, too. -/
theorem succ_le_commonLength {s t : List α} {n : Nat} {c : α} (h : n ≤ commonLength s t)
    (hs : s[n]? = some c) (ht : t[n]? = some c) : n + 1 ≤ commonLength s t := by
  fun_induction commonLength s t generalizing n with
  | case1 s b t ih =>
    cases n with
    | zero => omega
    | succ n =>
      have := ih (by omega) hs ht
      omega
  | case2 a s b t hne =>
    obtain rfl : n = 0 := by omega
    exact absurd (Option.some.inj (hs.trans ht.symm)) hne
  | case3 s t hne =>
    cases s with
    | nil => simp at hs
    | cons a s =>
      cases t with
      | nil => simp at ht
      | cons b t => exact absurd rfl (hne a s b t rfl)

/-- Members left out at the start of both lists take no more than their number away. -/
theorem commonLength_le_add_drop (s t : List α) (n : Nat) :
    commonLength s t ≤ n + commonLength (s.drop n) (t.drop n) := by
  induction n generalizing s t with
  | zero => simp
  | succ n ih =>
    cases s with
    | nil => simp [commonLength]
    | cons a s =>
      cases t with
      | nil => simp [commonLength]
      | cons b t =>
        have := ih s t
        simp only [commonLength, List.drop_succ_cons]
        split <;> omega

/-! ## Longest common subsequences -/

/-- The lengths for `a :: s` and each second list, given those for `s`. -/
def lcsRow (a : α) (row : List α → Nat) : List α → Nat
  | [] => 0
  | b :: t => if a = b then row t + 1 else max (lcsRow a row t) (row (b :: t))

/-- The length of a longest common subsequence. -/
def lcsLength : List α → List α → Nat
  | [], _ => 0
  | a :: s, t => lcsRow a (lcsLength s) t

@[simp] theorem lcsLength_nil_left (t : List α) : lcsLength [] t = 0 := rfl

@[simp] theorem lcsLength_nil_right (s : List α) : lcsLength s [] = 0 := by
  cases s <;> rfl

theorem lcsLength_cons_cons (a b : α) (s t : List α) : lcsLength (a :: s) (b :: t) =
    if a = b then lcsLength s t + 1 else max (lcsLength (a :: s) t) (lcsLength s (b :: t)) := rfl

theorem length_le_lcsLength {u s t : List α} (hs : u.Sublist s) (ht : u.Sublist t) :
    u.length ≤ lcsLength s t := by
  induction s generalizing u t with
  | nil => simp [List.sublist_nil.1 hs]
  | cons a s ihs =>
    induction t generalizing u with
    | nil => simp [List.sublist_nil.1 ht]
    | cons b t iht =>
      rw [lcsLength_cons_cons]
      split
      · have hu : u.tail.length ≤ lcsLength s t := ihs hs.tail ht.tail
        rw [List.length_tail] at hu
        omega
      · next hne =>
        rcases List.sublist_cons_iff.1 hs with hs' | ⟨v, rfl, hv⟩
        · exact (ihs hs' ht).trans (Nat.le_max_right _ _)
        · -- The subsequence starts with `a`, so that `b` is no member it could use.
          rcases List.sublist_cons_iff.1 ht with ht' | ⟨w, hw, _⟩
          · exact (iht hs ht').trans (Nat.le_max_left _ _)
          · exact absurd (List.cons.inj hw).1 hne

theorem exists_sublist_length_eq_lcsLength (s t : List α) :
    ∃ u : List α, u.Sublist s ∧ u.Sublist t ∧ u.length = lcsLength s t := by
  induction s generalizing t with
  | nil => exact ⟨[], .slnil, List.nil_sublist _, rfl⟩
  | cons a s ihs =>
    induction t with
    | nil => exact ⟨[], List.nil_sublist _, .slnil, rfl⟩
    | cons b t iht =>
      rw [lcsLength_cons_cons]
      split
      · next heq =>
        obtain ⟨u, hs, ht, hu⟩ := ihs t
        subst heq
        exact ⟨a :: u, hs.cons_cons a, ht.cons_cons a, congrArg (· + 1) hu⟩
      · rcases Nat.le_total (lcsLength (a :: s) t) (lcsLength s (b :: t)) with hle | hle
        · obtain ⟨u, hs, ht, hu⟩ := ihs (b :: t)
          exact ⟨u, hs.cons a, ht, by omega⟩
        · obtain ⟨u, hs, ht, hu⟩ := iht
          exact ⟨u, hs, ht.cons b, by omega⟩

/-- The lengths of the subsequences that the lists have in common. -/
def commonLengths (s t : List α) : Set Nat :=
  {n | ∃ u : List α, u.Sublist s ∧ u.Sublist t ∧ u.length = n}

theorem isGreatest_lcsLength (s t : List α) : IsGreatest (commonLengths s t) (lcsLength s t) := by
  refine ⟨exists_sublist_length_eq_lcsLength s t, ?_⟩
  rintro n ⟨u, hs, ht, rfl⟩
  exact length_le_lcsLength hs ht

theorem lcsLength_append_left (p s t : List α) :
    lcsLength (p ++ s) (p ++ t) = p.length + lcsLength s t := by
  induction p with
  | nil => simp
  | cons a p ih =>
    simp only [List.cons_append, lcsLength_cons_cons, if_true, ih, List.length_cons]
    omega

theorem lcsLength_reverse_le (s t : List α) : lcsLength s t ≤ lcsLength s.reverse t.reverse := by
  obtain ⟨u, hs, ht, hu⟩ := exists_sublist_length_eq_lcsLength s t
  rw [← hu, ← List.length_reverse]
  exact length_le_lcsLength hs.reverse ht.reverse

theorem lcsLength_reverse (s t : List α) : lcsLength s.reverse t.reverse = lcsLength s t := by
  apply Nat.le_antisymm
  · simpa using lcsLength_reverse_le s.reverse t.reverse
  · exact lcsLength_reverse_le s t

theorem lcsLength_append_right (s t p : List α) :
    lcsLength (s ++ p) (t ++ p) = lcsLength s t + p.length := by
  rw [← lcsLength_reverse, List.reverse_append, List.reverse_append, lcsLength_append_left,
    lcsLength_reverse, List.length_reverse]
  omega

end Byline

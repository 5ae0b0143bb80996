import Byline.Proofs.Diff.Aligns

/-!
# Paths in the grid of two lists

`Reached a b d i j` states that a path with `d` steps off the diagonals leads from the origin to
column `i` and row `j`. The grid has no far edges here: a path may step past them, but beyond them
it has no diagonals. Such a path is a path within the grid that went further (`Reached.clip`), and
the paths to the far corner are the alignments of the lists (`Reached.of_aligns` is the one half).

A path of `d` steps is at its furthest on a diagonal if it entered the diagonal as far on as it
could and followed it to the end of the equal members (`FurthestOn.slide`). It enters the diagonal
as far on as it could if it came from the furthest point of a neighbouring diagonal
(`FurthestOn.down`, `FurthestOn.right`).
-/

namespace Byline.Alignment

variable {α : Type} {a b : List α}

/-- What the first member of the rest of a list says about the list. -/
theorem of_drop_eq_cons {l s : List α} {n : Nat} {c : α} (h : l.drop n = c :: s) :
    l[n]? = some c ∧ n + 1 ≤ l.length ∧ l.drop (n + 1) = s := by
  have h0 : (l.drop n)[0]? = l[n]? := by simp
  have hn : l[n]? = some c := by rw [← h0, h]; rfl
  refine ⟨hn, (List.getElem?_eq_some_iff.1 hn).1, ?_⟩
  rw [← List.tail_drop, h]
  rfl

/-- Is a point reached by a path with so many steps off the diagonals? The arguments are the number
of steps, the column and the row. -/
inductive Reached (a b : List α) : Nat → Nat → Nat → Prop where
  | origin : Reached a b 0 0 0
  | right {d i j : Nat} : Reached a b d i j → Reached a b (d + 1) (i + 1) j
  | down {d i j : Nat} : Reached a b d i j → Reached a b (d + 1) i (j + 1)
  | diagonal {d i j : Nat} {c : α} : Reached a b d i j → a[i]? = some c → b[j]? = some c →
      Reached a b d (i + 1) (j + 1)

/-- Is a point the first on its diagonal of a path with so many steps off the diagonals? -/
def Entered (a b : List α) : Nat → Nat → Nat → Prop
  | 0, i, j => i = 0 ∧ j = 0
  | d + 1, i, j =>
    (∃ i', i = i' + 1 ∧ Reached a b d i' j) ∨ ∃ j', j = j' + 1 ∧ Reached a b d i j'

/-- The point is the furthest on diagonal `k` of those with `p`. -/
structure FurthestOn (p : Nat → Nat → Prop) (k : Int) (i j : Nat) : Prop where
  diagonal : (i : Int) - j = k
  holds : p i j
  le : ∀ i' j', p i' j' → (i' : Int) - j' = k → i' ≤ i

theorem FurthestOn.unique {p : Nat → Nat → Prop} {k : Int} {i j i' j' : Nat}
    (h : FurthestOn p k i j) (h' : FurthestOn p k i' j') : i = i' ∧ j = j' := by
  have h1 := h.le i' j' h'.holds h'.diagonal
  have h2 := h'.le i j h.holds h.diagonal
  have h3 := h.diagonal
  have h4 := h'.diagonal
  constructor <;> omega

namespace Reached

/-- The diagonals that `d` steps can reach, every other one. -/
theorem exists_diagonal {d i j : Nat} (h : Reached a b d i j) :
    ∃ t ≤ d, (i : Int) - j = 2 * t - d := by
  induction h with
  | origin => exact ⟨0, le_rfl, rfl⟩
  | right _ ih =>
    obtain ⟨t, ht, he⟩ := ih
    exact ⟨t + 1, by omega, by omega⟩
  | down _ ih =>
    obtain ⟨t, ht, he⟩ := ih
    exact ⟨t, by omega, by omega⟩
  | diagonal _ _ _ ih =>
    obtain ⟨t, ht, he⟩ := ih
    exact ⟨t, ht, by omega⟩

/-- A path that stepped past the far edges went further within the grid before. -/
theorem clip {d i j : Nat} (h : Reached a b d i j) :
    ∃ e, Reached a b e (min i a.length) (min j b.length) ∧
      e + (i - a.length) + (j - b.length) = d := by
  induction h with
  | origin => exact ⟨0, by simpa using origin, by omega⟩
  | @right d i j _ ih =>
    obtain ⟨e, he, hd⟩ := ih
    rcases Nat.lt_or_ge i a.length with hi | hi
    · refine ⟨e + 1, ?_, by omega⟩
      rw [show min (i + 1) a.length = min i a.length + 1 by omega]
      exact he.right
    · refine ⟨e, ?_, by omega⟩
      rwa [show min (i + 1) a.length = min i a.length by omega]
  | @down d i j _ ih =>
    obtain ⟨e, he, hd⟩ := ih
    rcases Nat.lt_or_ge j b.length with hj | hj
    · refine ⟨e + 1, ?_, by omega⟩
      rw [show min (j + 1) b.length = min j b.length + 1 by omega]
      exact he.down
    · refine ⟨e, ?_, by omega⟩
      rwa [show min (j + 1) b.length = min j b.length by omega]
  | @diagonal d i j c _ ha hb ih =>
    obtain ⟨e, he, hd⟩ := ih
    have hi : i < a.length := (List.getElem?_eq_some_iff.1 ha).1
    have hj : j < b.length := (List.getElem?_eq_some_iff.1 hb).1
    rw [Nat.min_eq_left hi.le, Nat.min_eq_left hj.le] at he
    refine ⟨e, ?_, by omega⟩
    rw [show min (i + 1) a.length = i + 1 by omega, show min (j + 1) b.length = j + 1 by omega]
    exact he.diagonal ha hb

/-- Equal members are followed as far as the lists have them in common. -/
theorem slide [DecidableEq α] {d i j t : Nat} (h : Reached a b d i j)
    (ht : t ≤ commonLength (a.drop i) (b.drop j)) : Reached a b d (i + t) (j + t) := by
  induction t with
  | zero => exact h
  | succ t ih =>
    obtain ⟨c, ha, hb⟩ := getElem?_of_lt_commonLength ht
    rw [List.getElem?_drop] at ha hb
    exact (ih (by omega)).diagonal ha hb

/-- An alignment of what is left of the lists leads on to the far corner. -/
theorem of_aligns {s t : List α} {steps : List Step} (h : Aligns s t steps) {d i j : Nat}
    (hr : Reached a b d i j) (hi : i ≤ a.length) (hj : j ≤ b.length) (hs : a.drop i = s)
    (ht : b.drop j = t) : Reached a b (d + cost steps) a.length b.length := by
  induction h generalizing d i j with
  | nil =>
    have hi' := List.drop_eq_nil_iff.1 hs
    have hj' := List.drop_eq_nil_iff.1 ht
    obtain rfl : i = a.length := by omega
    obtain rfl : j = b.length := by omega
    exact hr
  | keep c _ ih =>
    obtain ⟨ha, hi', hs'⟩ := of_drop_eq_cons hs
    obtain ⟨hb, hj', ht'⟩ := of_drop_eq_cons ht
    rw [cost_keep_cons]
    exact ih (hr.diagonal ha hb) hi' hj' hs' ht'
  | @delete _ _ steps c _ ih =>
    obtain ⟨_, hi', hs'⟩ := of_drop_eq_cons hs
    rw [cost_delete_cons, show d + (cost steps + 1) = d + 1 + cost steps by omega]
    exact ih hr.right hi' hj hs' ht
  | @insert _ _ steps c _ ih =>
    obtain ⟨_, hj', ht'⟩ := of_drop_eq_cons ht
    rw [cost_insert_cons, show d + (cost steps + 1) = d + 1 + cost steps by omega]
    exact ih hr.down hi hj' hs ht'

end Reached

/-! ## The furthest points of a round -/

namespace Entered

theorem reached {d i j : Nat} (h : Entered a b d i j) : Reached a b d i j := by
  cases d with
  | zero =>
    obtain ⟨rfl, rfl⟩ := h
    exact .origin
  | succ d =>
    rcases h with ⟨i', rfl, h⟩ | ⟨j', rfl, h⟩
    · exact h.right
    · exact h.down

end Entered

/-- A path comes to a point along equal members from the point where it entered the diagonal. -/
theorem Reached.exists_entered [DecidableEq α] {d i j : Nat} (h : Reached a b d i j) :
    ∃ i₀ j₀ t, Entered a b d i₀ j₀ ∧ i = i₀ + t ∧ j = j₀ + t ∧
      t ≤ commonLength (a.drop i₀) (b.drop j₀) := by
  induction h with
  | origin => exact ⟨0, 0, 0, ⟨rfl, rfl⟩, rfl, rfl, Nat.zero_le _⟩
  | @right d i j h _ => exact ⟨i + 1, j, 0, .inl ⟨i, rfl, h⟩, rfl, rfl, Nat.zero_le _⟩
  | @down d i j h _ => exact ⟨i, j + 1, 0, .inr ⟨j, rfl, h⟩, rfl, rfl, Nat.zero_le _⟩
  | diagonal _ ha hb ih =>
    obtain ⟨i₀, j₀, t, he, rfl, rfl, ht⟩ := ih
    rw [← List.getElem?_drop] at ha hb
    exact ⟨i₀, j₀, t + 1, he, rfl, rfl, succ_le_commonLength ht ha hb⟩

namespace FurthestOn

/-- The furthest point of a diagonal lies at the end of the equal members after the furthest point
at which the diagonal can be entered. -/
theorem slide [DecidableEq α] {d i j : Nat} {k : Int} (h : FurthestOn (Entered a b d) k i j) :
    FurthestOn (Reached a b d) k (i + commonLength (a.drop i) (b.drop j))
      (j + commonLength (a.drop i) (b.drop j)) := by
  have hk := h.diagonal
  refine ⟨by omega, h.holds.reached.slide le_rfl, ?_⟩
  intro i' j' hr hk'
  obtain ⟨i₀, j₀, t, he, rfl, rfl, ht⟩ := hr.exists_entered
  have hle := h.le i₀ j₀ he (by omega)
  -- The path entered at `i₀`, not after `i`, so that its equal members reach no further.
  have hd := commonLength_le_add_drop (a.drop i₀) (b.drop j₀) (i - i₀)
  rw [List.drop_drop, List.drop_drop, show i₀ + (i - i₀) = i by omega,
    show j₀ + (i - i₀) = j by omega] at hd
  omega

theorem origin : FurthestOn (Entered a b 0) 0 0 0 := by
  refine ⟨rfl, ⟨rfl, rfl⟩, ?_⟩
  rintro i' j' ⟨rfl, rfl⟩ _
  exact le_rfl

/-- A diagonal is entered furthest on from the diagonal above if that is further on. -/
theorem down {d i j : Nat} {k : Int} (h : FurthestOn (Reached a b d) (k + 1) i j)
    (hlt : ∀ i' j', Reached a b d i' j' → (i' : Int) - j' = k - 1 → i' < i) :
    FurthestOn (Entered a b (d + 1)) k i (j + 1) := by
  have hk := h.diagonal
  refine ⟨by omega, .inr ⟨j, rfl, h.holds⟩, ?_⟩
  rintro i' j' (⟨i₀, rfl, hr⟩ | ⟨j₀, rfl, hr⟩) hk'
  · exact hlt i₀ j' hr (by omega)
  · exact h.le i' j₀ hr (by omega)

/-- A diagonal is entered furthest on from the diagonal below if the one above is no further on. -/
theorem right {d i j : Nat} {k : Int} (h : FurthestOn (Reached a b d) (k - 1) i j)
    (hle : ∀ i' j', Reached a b d i' j' → (i' : Int) - j' = k + 1 → i' ≤ i + 1) :
    FurthestOn (Entered a b (d + 1)) k (i + 1) j := by
  have hk := h.diagonal
  refine ⟨by omega, .inl ⟨i, rfl, h.holds⟩, ?_⟩
  rintro i' j' (⟨i₀, rfl, hr⟩ | ⟨j₀, rfl, hr⟩) hk'
  · have := h.le i₀ j' hr (by omega)
    omega
  · exact hle i' j₀ hr (by omega)

end FurthestOn

end Byline.Alignment

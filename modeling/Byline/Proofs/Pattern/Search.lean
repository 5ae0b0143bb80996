import Byline.Pattern.Search
import Byline.Proofs.Pattern.Place

/-!
# The search finds what there is

`Pattern.advance` works on lists of places of one text, the last first (`Pattern.Listed`). On such
lists it gives all places that the pattern reaches, in such a list again (`advances_advance`), so
that a text is found to match exactly if it has a stretch that the pattern describes
(`found_eq_true_iff`).

A repetition is a number of rounds (`reaches_iter`). The search does the rounds that have to be done
(`times`), which may end early where a round leads nowhere else, and spreads from there over the
places that are new (`spread`). No place needs more rounds than there are characters left, since
rounds that stay at a place can be left out.
-/

namespace Byline.Pattern

variable {s : List Char} {xs ys done : List Cursor} {x y z : Cursor}

/-- A list of places of the text, the last first. -/
structure Listed (s : List Char) (xs : List Cursor) : Prop where
  order : xs.Pairwise (·.left < ·.left)
  within : ∀ x ∈ xs, x.In s

theorem listed_places (s : List Char) : Listed s (Cursor.places s) :=
  ⟨Cursor.pairwise_places s, fun _ => Cursor.mem_places.1⟩

namespace Listed

theorem sublist (h : Listed s ys) (hs : xs.Sublist ys) : Listed s xs :=
  ⟨h.order.sublist hs, fun x hx => h.within x (hs.subset hx)⟩

theorem tail (h : Listed s (x :: xs)) : Listed s xs := h.sublist (List.sublist_cons_self x xs)

theorem left_lt (h : Listed s (x :: xs)) (hy : y ∈ xs) : x.left < y.left :=
  List.rel_of_pairwise_cons h.order hy

theorem notMem_of_left_lt (h : Listed s (y :: ys)) (hlt : x.left < y.left) : x ∉ y :: ys := by
  intro hm
  rcases List.mem_cons.1 hm with rfl | hm
  · exact Nat.lt_irrefl _ hlt
  · exact Nat.lt_asymm hlt (h.left_lt hm)

/-- A place may be put before those that are no later. -/
theorem put {l : List Cursor} (hx : Listed s (l ++ x :: xs)) (hy : Listed s (l ++ y :: ys))
    (h : x.left < y.left) : Listed s (l ++ x :: y :: ys) := by
  obtain ⟨hl, -, hlx⟩ := List.pairwise_append.1 hx.order
  obtain ⟨-, hys, hly⟩ := List.pairwise_append.1 hy.order
  have hxy : ∀ z ∈ y :: ys, x.left < z.left := by
    intro z hz
    rcases List.mem_cons.1 hz with rfl | hz
    · exact h
    · exact Nat.lt_trans h (List.rel_of_pairwise_cons hys hz)
  constructor
  · refine List.pairwise_append.2 ⟨hl, hys.cons hxy, ?_⟩
    intro a ha b hb
    rcases List.mem_cons.1 hb with rfl | hb
    · exact hlx a ha b List.mem_cons_self
    · exact hly a ha b hb
  · intro z hz
    rcases List.mem_append.1 hz with hz | hz
    · exact hx.within z (List.mem_append_left _ hz)
    rcases List.mem_cons.1 hz with rfl | hz
    · exact hx.within z (by simp)
    · exact hy.within z (List.mem_append_right l hz)

/-- Lists whose places have as much left are the same. -/
theorem eq_of_same (hx : Listed s xs) (hy : Listed s ys) (h : same xs ys = true) : xs = ys := by
  have h : xs.map (·.left) = ys.map (·.left) := by simpa [same] using h
  induction xs generalizing ys with
  | nil => exact (List.map_eq_nil_iff.1 h.symm).symm
  | cons x xs ih =>
    cases ys with
    | nil => cases h
    | cons y ys =>
      obtain ⟨hl, hmap⟩ := List.cons.inj h
      rw [(hx.within x List.mem_cons_self).eq_of_left (hy.within y List.mem_cons_self) hl,
        ih hx.tail hy.tail (by simpa [same] using hmap) hmap]

end Listed

/-! ## Two lists in one pass -/

theorem listed_mergeOnto (hx : Listed s (done.reverse ++ xs)) (hy : Listed s (done.reverse ++ ys)) :
    Listed s (mergeOnto done xs ys) := by
  -- the places in `done` come before both lists, so either list after them is in order
  fun_induction mergeOnto done xs ys with
  | case1 done ys => simpa using hy
  | case2 done xs => simpa using hx
  | case3 done x xs y ys heq ih =>
    have hxy : x = y := (hx.within x (by simp)).eq_of_left (hy.within y (by simp)) heq
    exact ih (by simpa using hx) (by simpa [hxy] using hy)
  | case4 done x xs y ys hne hlt ih => exact ih (by simpa using hx) (by simpa using hx.put hy hlt)
  | case5 done x xs y ys hne hle ih =>
    have hlt : y.left < x.left := by omega
    exact ih (by simpa using hy.put hx hlt) (by simpa using hy)

theorem mem_mergeOnto (hx : Listed s xs) (hy : Listed s ys) :
    z ∈ mergeOnto done xs ys ↔ z ∈ done ∨ z ∈ xs ∨ z ∈ ys := by
  fun_induction mergeOnto done xs ys with
  | case1 done ys => simp
  | case2 done xs => simp
  | case3 done x xs y ys heq ih =>
    have hxy : x = y := (hx.within x (by simp)).eq_of_left (hy.within y (by simp)) heq
    rw [ih hx.tail hy.tail, hxy]
    grind
  | case4 done x xs y ys hne hlt ih =>
    rw [ih hx.tail hy]
    grind
  | case5 done x xs y ys hne hle ih =>
    rw [ih hx hy.tail]
    grind

theorem listed_merge (hx : Listed s xs) (hy : Listed s ys) : Listed s (merge xs ys) :=
  listed_mergeOnto hx hy

theorem mem_merge (hx : Listed s xs) (hy : Listed s ys) : z ∈ merge xs ys ↔ z ∈ xs ∨ z ∈ ys :=
  (mem_mergeOnto hx hy).trans (by simp)

theorem listed_withoutOnto (hx : Listed s (done.reverse ++ xs)) :
    Listed s (withoutOnto done xs ys) := by
  fun_induction withoutOnto done xs ys with
  | case1 done ys => simpa using hx
  | case2 done xs => simpa using hx
  | case3 done x xs y ys heq ih =>
    exact ih (hx.sublist ((List.sublist_cons_self x xs).append_left done.reverse))
  | case4 done x xs y ys hne hlt ih => exact ih (by simpa using hx)
  | case5 done x xs y ys hne hle ih => exact ih hx

theorem mem_withoutOnto (hx : Listed s xs) (hy : Listed s ys) :
    z ∈ withoutOnto done xs ys ↔ z ∈ done ∨ z ∈ xs ∧ z ∉ ys := by
  fun_induction withoutOnto done xs ys with
  | case1 done ys => simp
  | case2 done xs => simp
  | case3 done x xs y ys heq ih =>
    have hxy : x = y := (hx.within x (by simp)).eq_of_left (hy.within y (by simp)) heq
    have hne : z ∈ xs → z ≠ x := by
      rintro hz rfl
      exact Nat.lt_irrefl _ (hx.left_lt hz)
    rw [ih hx.tail hy.tail, ← hxy]
    grind
  | case4 done x xs y ys hne hlt ih =>
    have hx' : x ∉ y :: ys := hy.notMem_of_left_lt hlt
    rw [ih hx.tail hy]
    grind
  | case5 done x xs y ys hne hle ih =>
    have hy' : y ∉ x :: xs := hx.notMem_of_left_lt (by omega)
    rw [ih hx hy.tail]
    grind

theorem listed_without (hx : Listed s xs) : Listed s (without xs ys) := listed_withoutOnto hx

theorem mem_without (hx : Listed s xs) (hy : Listed s ys) :
    z ∈ without xs ys ↔ z ∈ xs ∧ z ∉ ys :=
  (mem_withoutOnto hx hy).trans (by simp)

/-! ## Rounds -/

/-- That many steps lead from one place to another. -/
def Rounds (r : Cursor → Cursor → Prop) : Nat → Cursor → Cursor → Prop
  | 0, x, y => x = y
  | n + 1, x, z => ∃ y, r x y ∧ Rounds r n y z

theorem rounds_add {r : Cursor → Cursor → Prop} {m n : Nat} :
    Rounds r (m + n) x z ↔ ∃ y, Rounds r m x y ∧ Rounds r n y z := by
  induction m generalizing x with
  | zero => simp [Rounds]
  | succ m ih =>
    rw [Nat.succ_add]
    simp only [Rounds, ih]
    constructor
    · rintro ⟨w, hw, y, hy, hz⟩
      exact ⟨y, ⟨w, hw, hy⟩, hz⟩
    · rintro ⟨y, ⟨w, hw, hy⟩, hz⟩
      exact ⟨w, hw, y, hy, hz⟩

/-- A repetition is a number of rounds between its bounds. -/
theorem reaches_iter {p : Pattern} {least : Nat} {most : Option Nat} :
    Reaches (.iter p least most) x z ↔
      ∃ n, least ≤ n ∧ (∀ m ∈ most, n ≤ m) ∧ Rounds (Reaches p) n x z := by
  constructor
  · intro h
    generalize hq : Pattern.iter p least most = q at h
    induction h generalizing least most with
    | iterNone p' most' x =>
      obtain ⟨rfl, rfl, rfl⟩ := Pattern.iter.inj hq
      exact ⟨0, Nat.le_refl 0, fun m _ => m.zero_le, rfl⟩
    | @iterMore p' least' most' x y z bound h k ih ih' =>
      obtain ⟨rfl, rfl, rfl⟩ := Pattern.iter.inj hq
      obtain ⟨n, hl, hm, hn⟩ := ih' rfl
      refine ⟨n + 1, by omega, ?_, y, h, hn⟩
      rintro m rfl
      have hpos : m ≠ 0 := fun h0 => bound (congrArg some h0)
      have := hm (m - 1) rfl
      omega
    | _ => cases hq
  · rintro ⟨n, hl, hm, h⟩
    induction n generalizing x least most with
    | zero =>
      obtain rfl := Nat.le_zero.1 hl
      obtain rfl := h
      exact .iterNone p most x
    | succ n ih =>
      obtain ⟨y, hy, h⟩ := h
      refine .iterMore ?_ hy (ih (by omega) ?_ h)
      · rintro rfl
        exact absurd (hm 0 rfl) (Nat.not_succ_le_zero n)
      · intro m' hm'
        obtain ⟨m, rfl, rfl⟩ := Option.map_eq_some_iff.1 hm'
        have := hm m rfl
        omega

/-- Rounds that stay at a place can be left out, and all others use up characters. -/
theorem Rounds.shorten {r : Cursor → Cursor → Prop}
    (hr : ∀ x y, x.In s → r x y → y.In s ∧ y.left ≤ x.left) {n : Nat} (h : Rounds r n x z)
    (hx : x.In s) : ∃ k ≤ x.left, Rounds r k x z := by
  induction n generalizing x with
  | zero => exact ⟨0, Nat.zero_le _, h⟩
  | succ n ih =>
    obtain ⟨y, hxy, h⟩ := h
    obtain ⟨hy, hl⟩ := hr x y hx hxy
    obtain ⟨k, hk, h⟩ := ih h hy
    by_cases hlt : y.left < x.left
    · exact ⟨k + 1, by omega, y, hxy, h⟩
    · -- the round stays where it is
      obtain rfl := hy.eq_of_left hx (by omega)
      exact ⟨k, hk, h⟩

/-! ## Steps on lists of places -/

/-- The step leads from the places of a list to all places that `r` leads to. -/
def Advances (s : List Char) (step : List Cursor → List Cursor) (r : Cursor → Cursor → Prop) :
    Prop :=
  ∀ xs, Listed s xs → Listed s (step xs) ∧ ∀ y, y ∈ step xs ↔ ∃ x ∈ xs, r x y

/-- The places found so far go no further, but for the latest. -/
structure Spreads (r : Cursor → Cursor → Prop) (latest seen : List Cursor) : Prop where
  subset : latest ⊆ seen
  closed : ∀ x ∈ seen, x ∉ latest → ∀ y, r x y → y ∈ seen

/-- From a place found so far, rounds stay among those or go on from one of the latest. -/
theorem Spreads.rounds {r : Cursor → Cursor → Prop} {latest seen : List Cursor}
    (h : Spreads r latest seen) {n : Nat} (hx : x ∈ seen) (hn : Rounds r n x z) :
    z ∈ seen ∨ ∃ y ∈ latest, ∃ k ≤ n, Rounds r k y z := by
  induction n generalizing x with
  | zero =>
    obtain rfl := hn
    exact .inl hx
  | succ n ih =>
    by_cases hlatest : x ∈ latest
    · exact .inr ⟨x, hlatest, n + 1, Nat.le_refl _, hn⟩
    · obtain ⟨y, hxy, hn⟩ := hn
      refine (ih (h.closed x hx hlatest y hxy) hn).imp_right ?_
      rintro ⟨w, hw, k, hk, h⟩
      exact ⟨w, hw, k, by omega, h⟩

namespace Advances

variable {step : List Cursor → List Cursor} {r : Cursor → Cursor → Prop}
  {latest seen : List Cursor}

/-- Where a step leads nowhere else, many steps do not either. -/
theorem rounds_of_eq (h : Advances s step r) (hx : Listed s xs) (heq : step xs = xs) (n : Nat)
    (z : Cursor) : z ∈ xs ↔ ∃ x ∈ xs, Rounds r n x z := by
  have hstep := (h xs hx).2
  rw [heq] at hstep
  induction n with
  | zero => simp [Rounds]
  | succ n ih =>
    constructor
    · intro hz
      obtain ⟨y, hy, hn⟩ := ih.1 hz
      obtain ⟨x, hx, hxy⟩ := (hstep y).1 hy
      exact ⟨x, hx, y, hxy, hn⟩
    · rintro ⟨x, hx, y, hxy, hn⟩
      exact ih.2 ⟨y, (hstep y).2 ⟨x, hx, hxy⟩, hn⟩

theorem times (h : Advances s step r) (n : Nat) : Advances s (times step n) (Rounds r n) := by
  intro xs hx
  induction n generalizing xs with
  | zero => exact ⟨hx, by simp [Pattern.times, Rounds]⟩
  | succ n ih =>
    obtain ⟨hlisted, hmem⟩ := h xs hx
    rw [Pattern.times]
    split
    next hsame => exact ⟨hx, h.rounds_of_eq hx (hlisted.eq_of_same hx hsame) (n + 1)⟩
    next =>
      obtain ⟨hlisted', hmem'⟩ := ih (step xs) hlisted
      refine ⟨hlisted', fun z => ?_⟩
      rw [hmem']
      constructor
      · rintro ⟨y, hy, hn⟩
        obtain ⟨x, hx, hxy⟩ := (hmem y).1 hy
        exact ⟨x, hx, y, hxy, hn⟩
      · rintro ⟨x, hx, y, hxy, hn⟩
        exact ⟨y, (hmem y).2 ⟨x, hx, hxy⟩, hn⟩

theorem mem_fresh (h : Advances s step r) (hl : Listed s latest) (hs : Listed s seen) :
    y ∈ without (step latest) seen ↔ (∃ x ∈ latest, r x y) ∧ y ∉ seen := by
  obtain ⟨hlisted, hmem⟩ := h latest hl
  rw [mem_without hlisted hs, hmem]

theorem spreads_fresh (h : Advances s step r) (hl : Listed s latest) (hs : Listed s seen)
    (hc : Spreads r latest seen) :
    Spreads r (without (step latest) seen) (merge (without (step latest) seen) seen) := by
  have hfresh : Listed s (without (step latest) seen) := listed_without (h latest hl).1
  constructor
  · intro x hx
    exact (mem_merge hfresh hs).2 (.inl hx)
  · intro x hx hnew y hxy
    have hseen : x ∈ seen := ((mem_merge hfresh hs).1 hx).resolve_left hnew
    rw [mem_merge hfresh hs, h.mem_fresh hl hs]
    by_cases hy : y ∈ seen
    · exact .inr hy
    · refine .inl ⟨⟨x, ?_, hxy⟩, hy⟩
      exact Decidable.by_contra fun hlatest => hy (hc.closed x hseen hlatest y hxy)

/-- What the latest places lead to is found, or is led to by what is found now. -/
theorem rounds_fresh (h : Advances s step r) (hl : Listed s latest) (hs : Listed s seen)
    (hc : Spreads r latest seen) (n : Nat) :
    (y ∈ merge (without (step latest) seen) seen ∨
      ∃ x ∈ without (step latest) seen, ∃ k ≤ n, Rounds r k x y) ↔
    y ∈ seen ∨ ∃ x ∈ latest, ∃ k ≤ n + 1, Rounds r k x y := by
  have hfresh : Listed s (without (step latest) seen) := listed_without (h latest hl).1
  constructor
  · rintro (hy | ⟨x, hx, k, hk, hn⟩)
    · rcases (mem_merge hfresh hs).1 hy with hy | hy
      · obtain ⟨⟨x, hx, hxy⟩, -⟩ := (h.mem_fresh hl hs).1 hy
        exact .inr ⟨x, hx, 1, by omega, y, hxy, rfl⟩
      · exact .inl hy
    · obtain ⟨⟨w, hw, hwx⟩, -⟩ := (h.mem_fresh hl hs).1 hx
      exact .inr ⟨w, hw, k + 1, by omega, x, hwx, hn⟩
  · rintro (hy | ⟨x, hx, k, hk, hn⟩)
    · exact .inl ((mem_merge hfresh hs).2 (.inr hy))
    cases k with
    | zero =>
      obtain rfl := hn
      exact .inl ((mem_merge hfresh hs).2 (.inr (hc.subset hx)))
    | succ k =>
      -- the first round leads to a place that is found by now, and the others go on from there
      obtain ⟨w, hxw, hn⟩ := hn
      have hw : w ∈ merge (without (step latest) seen) seen := by
        rw [mem_merge hfresh hs, h.mem_fresh hl hs]
        by_cases hw : w ∈ seen
        · exact .inr hw
        · exact .inl ⟨⟨x, hx, hxw⟩, hw⟩
      refine ((h.spreads_fresh hl hs hc).rounds hw hn).imp_right ?_
      rintro ⟨v, hv, j, hj, hn⟩
      exact ⟨v, hv, j, by omega, hn⟩

theorem spread (h : Advances s step r) (hl : Listed s latest) (hs : Listed s seen)
    (hc : Spreads r latest seen) (n : Nat) :
    Listed s (spread step n latest seen) ∧ ∀ y, y ∈ spread step n latest seen ↔
      y ∈ seen ∨ ∃ x ∈ latest, ∃ k ≤ n, Rounds r k x y := by
  induction n generalizing latest seen with
  | zero =>
    refine ⟨hs, fun y => ⟨.inl, ?_⟩⟩
    rintro (hy | ⟨x, hx, k, hk, hn⟩)
    · exact hy
    · obtain rfl := Nat.le_zero.1 hk
      obtain rfl := hn
      exact hc.subset hx
  | succ n ih =>
    have hfresh : Listed s (without (step latest) seen) := listed_without (h latest hl).1
    rw [Pattern.spread]
    split
    next hempty =>
      refine ⟨hs, fun y => ?_⟩
      rw [← h.rounds_fresh hl hs hc, mem_merge hfresh hs, List.isEmpty_iff.1 hempty]
      simp
    next =>
      obtain ⟨hlisted, hmem⟩ := ih hfresh (listed_merge hfresh hs) (h.spreads_fresh hl hs hc)
      exact ⟨hlisted, fun y => (hmem y).trans (h.rounds_fresh hl hs hc n)⟩

end Advances

/-! ## All that a pattern reaches -/

/-- Are the bounds of all repetitions in order? -/
def Proper : Pattern → Prop
  | .seq p q => p.Proper ∧ q.Proper
  | .alt p q => p.Proper ∧ q.Proper
  | .iter p least most => p.Proper ∧ ∀ m ∈ most, least ≤ m
  | _ => True

theorem reaches_empty : Reaches .empty x y ↔ x = y := by
  constructor
  · rintro ⟨⟩
    rfl
  · rintro rfl
    exact .empty x

theorem reaches_set {t : CharSet} : Reaches (.set t) x y ↔ x.take? t = some y := by
  constructor
  · rintro ⟨⟩
    assumption
  · exact .set

theorem reaches_look {l : Look} : Reaches (.look l) x y ↔ l.holds x = true ∧ x = y := by
  constructor
  · rintro ⟨⟩
    exact ⟨by assumption, rfl⟩
  · rintro ⟨h, rfl⟩
    exact .look h

theorem reaches_seq {p q : Pattern} :
    Reaches (.seq p q) x z ↔ ∃ y, Reaches p x y ∧ Reaches q y z := by
  constructor
  · rintro ⟨⟩
    exact ⟨_, by assumption, by assumption⟩
  · rintro ⟨y, h, h'⟩
    exact .seq h h'

theorem reaches_alt {p q : Pattern} :
    Reaches (.alt p q) x y ↔ Reaches p x y ∨ Reaches q x y := by
  constructor
  · intro h
    cases h with
    | altLeft h => exact .inl h
    | altRight h => exact .inr h
  · rintro (h | h)
    · exact .altLeft h
    · exact .altRight h

theorem left_lt_enough (hx : x ∈ xs) : x.left < enough xs := by
  have hfoldl (l : List Cursor) (m : Nat) : m ≤ l.foldl (fun n y => max n y.left) m ∧
      ∀ y ∈ l, y.left ≤ l.foldl (fun n y => max n y.left) m := by
    induction l generalizing m with
    | nil => exact ⟨Nat.le_refl m, fun _ hy => absurd hy List.not_mem_nil⟩
    | cons w l ih =>
      obtain ⟨hm, hl⟩ := ih (max m w.left)
      refine ⟨by simp only [List.foldl_cons]; omega, ?_⟩
      intro y hy
      rw [List.foldl_cons]
      rcases List.mem_cons.1 hy with rfl | hy
      · omega
      · exact hl y hy
  exact Nat.lt_succ_of_le ((hfoldl xs 0).2 x hx)

theorem advances_set (t : CharSet) (s : List Char) :
    Advances s (advance (.set t)) (Reaches (.set t)) := by
  intro xs hx
  refine ⟨⟨?_, ?_⟩, ?_⟩
  · refine (List.Pairwise.and_mem.1 hx.order).filterMap _ ?_
    rintro x x' ⟨hxs, hxs', hlt⟩ y hy y' hy'
    have := ((hx.within x hxs).take? hy).2
    have := ((hx.within x' hxs').take? hy').2
    omega
  · intro y hy
    obtain ⟨x, hxs, hxy⟩ := List.mem_filterMap.1 hy
    exact ((hx.within x hxs).take? hxy).1
  · intro y
    rw [advance, List.mem_filterMap]
    simp only [reaches_set]

theorem advances_look (l : Look) (s : List Char) :
    Advances s (advance (.look l)) (Reaches (.look l)) := by
  intro xs hx
  refine ⟨hx.sublist List.filter_sublist, fun y => ?_⟩
  rw [advance, List.mem_filter]
  constructor
  · rintro ⟨hy, hl⟩
    exact ⟨y, hy, .look hl⟩
  · rintro ⟨x, hxs, h⟩
    obtain ⟨hl, rfl⟩ := reaches_look.1 h
    exact ⟨hxs, hl⟩

theorem Advances.seq {p q : Pattern} (hp : Advances s (advance p) (Reaches p))
    (hq : Advances s (advance q) (Reaches q)) :
    Advances s (advance (.seq p q)) (Reaches (.seq p q)) := by
  intro xs hx
  obtain ⟨hlisted, hmem⟩ := hp xs hx
  obtain ⟨hlisted', hmem'⟩ := hq (advance p xs) hlisted
  refine ⟨hlisted', fun z => ?_⟩
  rw [advance, hmem']
  constructor
  · rintro ⟨y, hy, hyz⟩
    obtain ⟨x, hxs, hxy⟩ := (hmem y).1 hy
    exact ⟨x, hxs, .seq hxy hyz⟩
  · rintro ⟨x, hxs, h⟩
    obtain ⟨y, hxy, hyz⟩ := reaches_seq.1 h
    exact ⟨y, (hmem y).2 ⟨x, hxs, hxy⟩, hyz⟩

theorem Advances.alt {p q : Pattern} (hp : Advances s (advance p) (Reaches p))
    (hq : Advances s (advance q) (Reaches q)) :
    Advances s (advance (.alt p q)) (Reaches (.alt p q)) := by
  intro xs hx
  obtain ⟨hlisted, hmem⟩ := hp xs hx
  obtain ⟨hlisted', hmem'⟩ := hq xs hx
  refine ⟨listed_merge hlisted hlisted', fun y => ?_⟩
  rw [advance, mem_merge hlisted hlisted', hmem, hmem']
  simp only [reaches_alt, and_or_left, exists_or]

/-- The rounds that have to be done come first, and then those that may follow. -/
theorem Advances.spread_times {step : List Cursor → List Cursor} {r : Cursor → Cursor → Prop}
    (h : Advances s step r) (hx : Listed s xs) (least n : Nat) :
    Listed s (Pattern.spread step n (Pattern.times step least xs) (Pattern.times step least xs)) ∧
    ∀ z, z ∈ Pattern.spread step n (Pattern.times step least xs) (Pattern.times step least xs) ↔
      ∃ x ∈ xs, ∃ y ∈ Pattern.times step least xs, Rounds r least x y ∧
        ∃ k ≤ n, Rounds r k y z := by
  obtain ⟨hlisted, hmem⟩ := h.times least xs hx
  have hall : Spreads r (Pattern.times step least xs) (Pattern.times step least xs) :=
    ⟨fun _ hy => hy, fun _ hy hnew => absurd hy hnew⟩
  obtain ⟨hlisted', hmem'⟩ := h.spread hlisted hlisted hall n
  refine ⟨hlisted', fun z => ?_⟩
  rw [hmem']
  constructor
  · rintro (hz | ⟨y, hy, hn⟩)
    · obtain ⟨x, hxs, hxz⟩ := (hmem z).1 hz
      exact ⟨x, hxs, z, hz, hxz, 0, Nat.zero_le n, rfl⟩
    · obtain ⟨x, hxs, hxy⟩ := (hmem y).1 hy
      exact ⟨x, hxs, y, hy, hxy, hn⟩
  · rintro ⟨x, hxs, y, hy, -, hn⟩
    exact .inr ⟨y, hy, hn⟩

theorem Advances.iter {p : Pattern} (hp : Advances s (advance p) (Reaches p)) {least : Nat}
    {most : Option Nat} (hbound : ∀ m ∈ most, least ≤ m) :
    Advances s (advance (.iter p least most)) (Reaches (.iter p least most)) := by
  intro xs hx
  obtain ⟨hlisted, hmem⟩ := hp.times least xs hx
  obtain ⟨n, hadvance, hsome, hnone⟩ : ∃ n, advance (.iter p least most) xs =
      Pattern.spread (advance p) n (Pattern.times (advance p) least xs)
        (Pattern.times (advance p) least xs) ∧
      (∀ m ∈ most, n = m - least) ∧
      (most = none → n = enough (Pattern.times (advance p) least xs)) := by
    cases most with
    | none => exact ⟨_, rfl, nofun, fun _ => rfl⟩
    | some m => exact ⟨_, rfl, fun _ hm => Option.some.inj hm ▸ rfl, nofun⟩
  obtain ⟨hspread, hmem'⟩ := hp.spread_times hx least n
  rw [hadvance]
  refine ⟨hspread, fun z => (hmem' z).trans ?_⟩
  simp only [reaches_iter]
  constructor
  · rintro ⟨x, hxs, y, hy, hxy, k, hk, hyz⟩
    refine ⟨x, hxs, least + k, Nat.le_add_right least k, ?_, rounds_add.2 ⟨y, hxy, hyz⟩⟩
    intro m hm
    have := hbound m hm
    have := hsome m hm
    omega
  · rintro ⟨x, hxs, n', hl, hm, hn⟩
    obtain ⟨k, rfl⟩ := Nat.exists_eq_add_of_le hl
    obtain ⟨y, hxy, hyz⟩ := rounds_add.1 hn
    have hy : y ∈ Pattern.times (advance p) least xs := (hmem y).2 ⟨x, hxs, hxy⟩
    refine ⟨x, hxs, y, hy, hxy, ?_⟩
    cases most with
    | some m =>
      have := hm m rfl
      have := hsome m rfl
      exact ⟨k, by omega, hyz⟩
    | none =>
      -- more rounds than there are characters left lead nowhere else
      obtain ⟨k, hk, hyz⟩ := hyz.shorten (fun _ _ hx h => h.in_text hx) (hlisted.within y hy)
      have := left_lt_enough hy
      have := hnone rfl
      exact ⟨k, by omega, hyz⟩

/-- The search leads from places to all places that the pattern reaches from them. -/
theorem advances_advance {p : Pattern} (hp : p.Proper) (s : List Char) :
    Advances s (advance p) (Reaches p) := by
  induction p with
  | empty =>
    intro xs hx
    exact ⟨hx, by simp [advance, reaches_empty]⟩
  | set t => exact advances_set t s
  | look l => exact advances_look l s
  | seq p q ihp ihq => exact (ihp hp.1).seq (ihq hp.2)
  | alt p q ihp ihq => exact (ihp hp.1).alt (ihq hp.2)
  | iter p least most ih => exact (ih hp.1).iter hp.2

/-- A text is found to match exactly if it has a stretch that the pattern describes. -/
theorem found_eq_true_iff {p : Pattern} (hp : p.Proper) (s : List Char) :
    found p s = true ↔ Matches p s := by
  obtain ⟨-, hmem⟩ := advances_advance hp s (Cursor.places s) (listed_places s)
  rw [found, Bool.not_eq_true', List.isEmpty_eq_false_iff_exists_mem]
  simp only [hmem, Matches]
  exact ⟨fun ⟨y, x, hx, h⟩ => ⟨x, hx, y, h⟩, fun ⟨x, hx, y, h⟩ => ⟨y, x, hx, h⟩⟩

end Byline.Pattern

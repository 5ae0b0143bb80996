import Byline.Proofs.Diff.Grid

/-!
# The search for a shortest alignment

Before a round the frontier holds the furthest points of the round before (`Ready`). A sweep finds
from them the furthest points of its own round (`Swept.step`), and they make the frontier ready for
the next one. The frontier may hold points of earlier rounds as well; those lie on the diagonals in
between, which the sweep does not look at.

The far corner is reached by the round of its cheapest path and by none before it, so that the
search ends there, and not at a point past the far edges (`search?_spec`). The way back makes the
same choices as the round did, since it sees the frontier as it was before the round
(`follow?_spec`). So there always is an alignment, and it is a shortest one (`find?_spec`).
-/

namespace Byline

namespace Frontier

/-- Does the frontier have a place for each diagonal that so many steps can reach, and one more
above? -/
structure Spans (f : Frontier) (size : Nat) : Prop where
  offset_eq : f.offset = size
  size_columns : f.columns.size = 2 * size + 2

theorem spans_start (size : Nat) : (start size).Spans size :=
  ⟨rfl, by simp [start]⟩

theorem column?_start_one (size : Nat) : (start size).column? 1 = some 0 := by
  have hp : (0 : Int) ≤ 1 + size := by omega
  have hi : (1 + (size : Int)).toNat < 2 * size + 2 := by omega
  simp [column?, start, hp, hi]

/-- A column can be put on every diagonal that the frontier spans, and the others are left alone. -/
theorem Spans.exists_put? {f : Frontier} {size : Nat} (hf : f.Spans size) {k : Int}
    (hl : -(size : Int) ≤ k) (hu : k ≤ size) (x : Int) :
    ∃ g, f.put? k x = some g ∧ g.Spans size ∧ g.column? k = some x ∧
      ∀ k' ≠ k, g.column? k' = f.column? k' := by
  have ho := hf.offset_eq
  have hs := hf.size_columns
  have hp : 0 ≤ k + f.offset := by omega
  have hi : (k + f.offset).toNat < f.columns.size := by omega
  refine ⟨{ f with columns := f.columns.set! (k + f.offset).toNat x }, ?_, ?_, ?_, ?_⟩
  · exact if_pos ⟨hp, hi⟩
  · exact ⟨ho, by simp [hs]⟩
  · simp [column?, hp, hi]
  · intro k' hk
    unfold column?
    by_cases hp' : 0 ≤ k' + f.offset
    · have hne : (k + f.offset).toNat ≠ (k' + f.offset).toNat := by omega
      simp [hp', hne]
    · simp [hp']

end Frontier

namespace Alignment

variable {α : Type} {a b : List α}

/-! ## What a frontier holds -/

/-- Does the frontier hold what a round starts from: the furthest points of the round before? -/
def Ready (a b : List α) (f : Frontier) : Nat → Prop
  | 0 => f.column? 1 = some 0
  | d + 1 => ∀ t ≤ d, ∃ i j : Nat, f.column? (2 * t - d) = some (i : Int) ∧
      FurthestOn (Reached a b d) (2 * t - d) i j

/-- How a round comes to a diagonal. The arguments are the round, the diagonal, and the column and
the row at which the diagonal is entered. -/
inductive Departs (a b : List α) (f : Frontier) : Nat → Int → Nat → Nat → Prop where
  | start : f.column? 1 = some 0 → Departs a b f 0 0 0 0
  | above {d i j : Nat} {k : Int} : f.fromAbove? ((d + 1 : Nat) : Int) k = some true →
      f.column? (k + 1) = some (i : Int) → FurthestOn (Reached a b d) (k + 1) i j →
      Departs a b f (d + 1) k i (j + 1)
  | below {d i j : Nat} {k : Int} : f.fromAbove? ((d + 1 : Nat) : Int) k = some false →
      f.column? (k - 1) = some (i : Int) → FurthestOn (Reached a b d) (k - 1) i j →
      Departs a b f (d + 1) k (i + 1) j

/-- The round finds the column at which it enters the diagonal. -/
theorem Departs.exists_fromAbove? {f : Frontier} {d i j : Nat} {k : Int}
    (h : Departs a b f d k i j) : ∃ above, f.fromAbove? d k = some above ∧
      (if above then f.column? (k + 1) else (f.column? (k - 1)).map (· + 1)) = some (i : Int) := by
  cases h with
  | start h => exact ⟨true, rfl, h⟩
  | above hc hk _ => exact ⟨true, hc, hk⟩
  | below hc hk _ =>
    refine ⟨false, hc, ?_⟩
    simp [hk]

/-- A frontier that is ready for a round leads to each of its diagonals as far on as can be. -/
theorem Ready.exists_departs {f : Frontier} {d t : Nat} (h : Ready a b f d) (ht : t ≤ d) :
    ∃ i j, Departs a b f d (2 * t - d) i j ∧ FurthestOn (Entered a b d) (2 * t - d) i j := by
  cases d with
  | zero =>
    obtain rfl : t = 0 := by omega
    exact ⟨0, 0, .start h, .origin⟩
  | succ d =>
    -- The diagonal above is the one of `t` in the round before, and the one below that of `t - 1`.
    have habove : (2 * t - (d + 1 : Nat) : Int) + 1 = 2 * t - d := by omega
    by_cases h0 : t = 0
    · obtain ⟨i, j, hc, hf⟩ := h 0 (Nat.zero_le d)
      subst h0
      rw [← habove] at hc hf
      refine ⟨i, j + 1, .above (if_pos (by omega)) hc hf, hf.down ?_⟩
      intro i' j' hr hk
      obtain ⟨t', _, ht'⟩ := hr.exists_diagonal
      omega
    obtain ⟨i₁, j₁, hc₁, hf₁⟩ := h (t - 1) (by omega)
    have hbelow : (2 * t - (d + 1 : Nat) : Int) - 1 = 2 * (t - 1 : Nat) - d := by omega
    rw [← hbelow] at hc₁ hf₁
    by_cases hd : t = d + 1
    · refine ⟨i₁ + 1, j₁, .below ?_ hc₁ hf₁, hf₁.right ?_⟩
      · rw [Frontier.fromAbove?, if_neg (by omega), if_pos (by omega)]
      · intro i' j' hr hk
        obtain ⟨t', _, ht'⟩ := hr.exists_diagonal
        omega
    obtain ⟨i₂, j₂, hc₂, hf₂⟩ := h t (by omega)
    rw [← habove] at hc₂ hf₂
    have hchoice : f.fromAbove? (d + 1 : Nat) (2 * t - (d + 1 : Nat)) =
        some (decide ((i₁ : Int) < i₂)) := by
      rw [Frontier.fromAbove?, if_neg (by omega), if_neg (by omega), hc₁, hc₂]
      rfl
    by_cases hlt : (i₁ : Int) < i₂
    · rw [decide_eq_true hlt] at hchoice
      refine ⟨i₂, j₂ + 1, .above hchoice hc₂ hf₂, hf₂.down ?_⟩
      intro i' j' hr hk
      have := hf₁.le i' j' hr hk
      omega
    · rw [decide_eq_false hlt] at hchoice
      refine ⟨i₁ + 1, j₁, .below hchoice hc₁ hf₁, hf₁.right ?_⟩
      intro i' j' hr hk
      have := hf₂.le i' j' hr hk
      omega

/-- A frontier in the middle of round `d`, of which `t` diagonals are done: it is as ready for the
round as it was, and on the diagonals that are done it holds the furthest points of the round, none
of which is the far corner or past it. -/
structure Swept (a b : List α) (d : Nat) (f : Frontier) (t : Nat) : Prop where
  spans : f.Spans (a.length + b.length)
  ready : Ready a b f d
  done : ∀ s < t, ∃ i j : Nat, f.column? (2 * s - d) = some (i : Int) ∧
    FurthestOn (Reached a b d) (2 * s - d) i j ∧ ¬(a.length ≤ i ∧ b.length ≤ j)

/-- Nothing that a round starts from lies on its own diagonals. -/
theorem Ready.congr {f g : Frontier} {d t : Nat} (h : Ready a b f d)
    (he : ∀ k ≠ 2 * (t : Int) - d, g.column? k = f.column? k) : Ready a b g d := by
  cases d with
  | zero => exact (he 1 (by omega)).trans h
  | succ d =>
    intro s hs
    obtain ⟨i, j, hc, hf⟩ := h s hs
    exact ⟨i, j, (he _ (by omega)).trans hc, hf⟩

/-- A round that is done makes the frontier ready for the next one. -/
theorem Swept.ready_succ {f : Frontier} {d : Nat} (h : Swept a b d f (d + 1)) :
    Ready a b f (d + 1) := by
  intro t ht
  obtain ⟨i, j, hc, hf, _⟩ := h.done t (by omega)
  exact ⟨i, j, hc, hf⟩

/-- A round that ended without it did not reach the far corner. -/
theorem Swept.not_reached {f : Frontier} {d : Nat} (h : Swept a b d f (d + 1)) :
    ¬Reached a b d a.length b.length := by
  intro hr
  obtain ⟨t, ht, hk⟩ := hr.exists_diagonal
  obtain ⟨i, j, _, hf, hend⟩ := h.done t (by omega)
  have hi := hf.le _ _ hr hk
  have hd := hf.diagonal
  exact hend ⟨hi, by omega⟩

/-- Of the points at the far corner or past it, the corner is reached first. -/
theorem FurthestOn.eq_corner {d i j : Nat} {k : Int} (h : FurthestOn (Reached a b d) k i j)
    (hi : a.length ≤ i) (hj : b.length ≤ j)
    (hfirst : ∀ e < d, ¬Reached a b e a.length b.length) :
    FurthestOn (Reached a b d) k a.length b.length := by
  obtain ⟨e, he, hsum⟩ := h.holds.clip
  rw [Nat.min_eq_right hi, Nat.min_eq_right hj] at he
  have hed : ¬e < d := fun hlt => hfirst e hlt he
  obtain rfl : i = a.length := by omega
  obtain rfl : j = b.length := by omega
  exact h

/-- Are these the frontiers before each round, latest first? -/
def Trail (a b : List α) : List Frontier → Prop
  | [] => True
  | f :: before => Ready a b f before.length ∧ Trail a b before

/-! ## Sweeps -/

variable [DecidableEq α]

/-- The point at which a diagonal is left lies at the end of its equal members. -/
theorem slide?_natCast (a b : List α) {i j : Nat} {k : Int} (hk : (i : Int) - j = k) :
    slide? a.toArray b.toArray i (i - k) =
      some ((i + commonLength (a.drop i) (b.drop j) : Nat) : Int) := by
  have hj : (i : Int) - k = j := by omega
  rw [hj, slide?, if_pos ⟨Int.natCast_nonneg i, Int.natCast_nonneg j⟩, Int.toNat_natCast,
    Int.toNat_natCast, runEnd_eq]

/-- One diagonal of a sweep, with what its parts give. -/
theorem sweep?_succ {f g : Frontier} {d k x y : Int} {above : Bool} (count : Nat)
    (hc : f.fromAbove? d k = some above)
    (hx : (if above then f.column? (k + 1) else (f.column? (k - 1)).map (· + 1)) = some x)
    (hy : slide? a.toArray b.toArray x (x - k) = some y) (hg : f.put? k y = some g) :
    sweep? a.toArray b.toArray d (count + 1) k f =
      if (a.length : Int) ≤ y ∧ (b.length : Int) ≤ y - k then some (g, true)
      else sweep? a.toArray b.toArray d count (k + 2) g := by
  cases above with
  | true =>
    rw [if_pos rfl] at hx
    simp [sweep?, hc, hx, hy, hg]
  | false =>
    rw [if_neg (by decide)] at hx
    simp [sweep?, hc, hx, hy, hg]

/-- A diagonal of a round leads past the far corner, or the sweep goes on with one more done. -/
theorem Swept.step {f : Frontier} {d t : Nat} (h : Swept a b d f t) (ht : t ≤ d)
    (hd : d ≤ a.length + b.length) (count : Nat) :
    (∃ g i j, sweep? a.toArray b.toArray d (count + 1) (2 * t - d) f = some (g, true) ∧
      FurthestOn (Reached a b d) (2 * t - d) i j ∧ a.length ≤ i ∧ b.length ≤ j) ∨
    ∃ g, Swept a b d g (t + 1) ∧ sweep? a.toArray b.toArray d (count + 1) (2 * t - d) f =
      sweep? a.toArray b.toArray d count (2 * (t + 1 : Nat) - d) g := by
  obtain ⟨i₀, j₀, hdep, hent⟩ := h.ready.exists_departs ht
  obtain ⟨above, hc, hx⟩ := hdep.exists_fromAbove?
  have hk := hent.diagonal
  have hf := hent.slide
  have hy := slide?_natCast a b hk
  generalize i₀ + commonLength (a.drop i₀) (b.drop j₀) = i at hf hy
  generalize j₀ + commonLength (a.drop i₀) (b.drop j₀) = j at hf
  have hk' := hf.diagonal
  obtain ⟨g, hg, hspans, hself, hother⟩ :=
    h.spans.exists_put? (show -((a.length + b.length : Nat) : Int) ≤ 2 * t - d by omega)
      (by omega) (i : Int)
  have hstep := sweep?_succ count hc hx hy hg
  by_cases hend : a.length ≤ i ∧ b.length ≤ j
  · left
    rw [if_pos (by omega)] at hstep
    exact ⟨g, i, j, hstep, hf, hend⟩
  · right
    rw [if_neg (by omega), show (2 * t - d : Int) + 2 = 2 * (t + 1 : Nat) - d by omega] at hstep
    refine ⟨g, ⟨hspans, h.ready.congr hother, ?_⟩, hstep⟩
    intro s hs
    by_cases hst : s = t
    · subst hst
      exact ⟨i, j, hself, hf, hend⟩
    · obtain ⟨i', j', hc', hf', hend'⟩ := h.done s (by omega)
      exact ⟨i', j', (hother _ (by omega)).trans hc', hf', hend'⟩

/-- What a sweep comes to: a point at the far corner or past it, or a frontier with all diagonals
of the round done. -/
theorem Swept.sweep?_spec {f : Frontier} {d t count : Nat} (h : Swept a b d f t)
    (hd : d ≤ a.length + b.length) (hcount : t + count = d + 1) :
    (∃ g k i j, sweep? a.toArray b.toArray d count (2 * t - d) f = some (g, true) ∧
      FurthestOn (Reached a b d) k i j ∧ a.length ≤ i ∧ b.length ≤ j) ∨
    ∃ g, Swept a b d g (d + 1) ∧
      sweep? a.toArray b.toArray d count (2 * t - d) f = some (g, false) := by
  induction count generalizing t f with
  | zero =>
    obtain rfl : t = d + 1 := by omega
    exact .inr ⟨f, h, rfl⟩
  | succ count ih =>
    rcases h.step (by omega) hd count with ⟨g, i, j, hs, hf, hend⟩ | ⟨g, hg, hs⟩
    · exact .inl ⟨g, _, i, j, hs, hf, hend⟩
    · rw [hs]
      exact ih hg (by omega)

/-! ## Rounds -/

/-- The search ends in the first round that reaches the far corner. -/
theorem search?_spec {rounds d c : Nat} {f : Frontier} {before : List Frontier}
    (hspans : f.Spans (a.length + b.length)) (hready : Ready a b f before.length)
    (htrail : Trail a b before) (hd : before.length = d)
    (hfirst : ∀ e < d, ¬Reached a b e a.length b.length)
    (hc : Reached a b c a.length b.length) (hcost : c ≤ a.length + b.length)
    (hrounds : rounds + d = a.length + b.length + 1) :
    ∃ frontiers e k, search? a.toArray b.toArray rounds d f before = some frontiers ∧
      Trail a b frontiers ∧ frontiers.length = e + 1 ∧
      FurthestOn (Reached a b e) k a.length b.length ∧
      ∀ e' < e, ¬Reached a b e' a.length b.length := by
  induction rounds generalizing d f before with
  | zero => exact absurd hc (hfirst c (by omega))
  | succ rounds ih =>
    have hswept : Swept a b d f 0 :=
      ⟨hspans, hd ▸ hready, fun s hs => absurd hs (Nat.not_lt_zero s)⟩
    have hk : (2 * (0 : Nat) - d : Int) = -d := by omega
    have hspec := hswept.sweep?_spec (by omega) (Nat.zero_add (d + 1))
    rw [hk] at hspec
    rcases hspec with ⟨g, k, i, j, hs, hf, hi, hj⟩ | ⟨g, hg, hs⟩
    -- The sweep stops at the corner or past it, and `hfirst` rules out the latter.
    · refine ⟨f :: before, d, k, ?_, ⟨hready, htrail⟩, congrArg (· + 1) hd, ?_, hfirst⟩
      · simp [search?, hs]
      · exact hf.eq_corner hi hj hfirst
    · have hnext : search? a.toArray b.toArray (rounds + 1) d f before =
          search? a.toArray b.toArray rounds (d + 1) g (f :: before) := by
        simp [search?, hs]
      rw [hnext]
      refine ih hg.spans ?_ ⟨hready, htrail⟩ (congrArg (· + 1) hd) ?_ (by omega)
      · rw [List.length_cons, hd]
        exact hg.ready_succ
      · intro e he
        by_cases hed : e = d
        · exact hed ▸ hg.not_reached
        · exact hfirst e (by omega)

/-! ## The way back -/

/-- Members that both lists have in common from two points on are kept. -/
theorem Aligns.keep_slide {i j t : Nat} {steps : List Step}
    (ht : t ≤ commonLength (a.drop i) (b.drop j))
    (h : Aligns (a.drop (i + t)) (b.drop (j + t)) steps) :
    Aligns (a.drop i) (b.drop j) (List.replicate t .keep ++ steps) := by
  have hle := commonLength_le (a.drop i) (b.drop j)
  have he := congrArg (List.take t) (take_commonLength (a.drop i) (b.drop j))
  rw [List.take_take, List.take_take, Nat.min_eq_left ht] at he
  refine .keep_take (ht.trans hle.1) he ?_
  rwa [List.drop_drop, List.drop_drop]

/-- One step of the way back, with what its parts give. -/
theorem follow?_cons {f : Frontier} {before : List Frontier} {width height : Nat}
    {x y k' x' : Int} {above : Bool} (kept : Nat) (hx : x ≤ width) (hy : y ≤ height)
    (hc : f.fromAbove? before.length (x - y) = some above)
    (hk : (if above then x - y + 1 else x - y - 1) = k') (hx' : f.column? k' = some x')
    (hkept : min (x - x') (y - (x' - k')) = kept) (steps : List Step) :
    follow? width height (f :: before) x y steps =
      follow? width height before x' (x' - k')
        (if before.length = 0 then List.replicate kept .keep ++ steps
        else (if x - kept = x' then .insert else .delete) ::
          (List.replicate kept .keep ++ steps)) := by
  rw [follow?, if_pos ⟨hx, hy⟩]
  simp [hc, hk, hx', hkept]

/-- The way back comes from a furthest point of a round to where its diagonal was entered. -/
theorem Ready.exists_departs_of_furthest {f : Frontier} {d i j : Nat} {k : Int}
    (h : Ready a b f d) (hf : FurthestOn (Reached a b d) k i j) :
    ∃ i₀ j₀ t, Departs a b f d k i₀ j₀ ∧ i = i₀ + t ∧ j = j₀ + t ∧
      t ≤ commonLength (a.drop i₀) (b.drop j₀) := by
  obtain ⟨s, hs, hk⟩ := hf.holds.exists_diagonal
  have hk' : k = 2 * s - d := hf.diagonal.symm.trans hk
  obtain ⟨i₀, j₀, hdep, hent⟩ := h.exists_departs hs
  rw [← hk'] at hdep hent
  obtain ⟨hi, hj⟩ := hf.unique hent.slide
  exact ⟨i₀, j₀, _, hdep, hi, hj, le_rfl⟩

/-- The way back from a furthest point of a round aligns the lists, with one step that keeps no
member for each round. -/
theorem follow?_spec {d i j : Nat} {k : Int} {frontiers : List Frontier} {steps : List Step}
    (htrail : Trail a b frontiers) (hlen : frontiers.length = d + 1)
    (hf : FurthestOn (Reached a b d) k i j) (hi : i ≤ a.length) (hj : j ≤ b.length)
    (hs : Aligns (a.drop i) (b.drop j) steps) :
    ∃ steps', follow? a.length b.length frontiers i j steps = some steps' ∧
      Aligns a b steps' ∧ cost steps' = d + cost steps := by
  induction d generalizing i j k frontiers steps with
  | zero =>
    obtain ⟨f, before, rfl⟩ := List.exists_cons_of_length_eq_add_one hlen
    obtain rfl : before = [] := List.length_eq_zero_iff.1 (Nat.succ.inj hlen)
    obtain ⟨i₀, j₀, t, hdep, rfl, rfl, ht⟩ := htrail.1.exists_departs_of_furthest hf
    -- Round zero starts at the origin, so that all is kept up to the point.
    cases hdep with
    | start hcol =>
      have hx : ((0 + t : Nat) : Int) - (0 + t : Nat) = 0 := by omega
      have hc : f.fromAbove? ([] : List Frontier).length (((0 + t : Nat) : Int) - (0 + t : Nat)) =
          some true := by rw [hx]; rfl
      have hk : (((0 + t : Nat) : Int) - (0 + t : Nat)) + 1 = 1 := by omega
      rw [follow?_cons t (by omega) (by omega) hc (if_pos rfl) (hk ▸ hcol) (by omega)]
      exact ⟨_, rfl, hs.keep_slide ht, by simp⟩
  | succ d ih =>
    obtain ⟨f, before, rfl⟩ := List.exists_cons_of_length_eq_add_one hlen
    have hlen' : before.length = d + 1 := Nat.succ.inj hlen
    have hne : before.length ≠ 0 := by omega
    have hready := htrail.1
    rw [hlen'] at hready
    obtain ⟨i₀, j₀, t, hdep, rfl, rfl, ht⟩ := hready.exists_departs_of_furthest hf
    have hk := hf.diagonal
    have hkeep := hs.keep_slide ht
    -- The diagonal was entered by an insertion from above or by a deletion from below.
    cases hdep with
    | @above _ _ j₁ _ hc hcol hf' =>
      have hk' := hf'.diagonal
      rw [← hlen', ← hk] at hc
      rw [← hk] at hcol
      have hj₁ : j₁ < b.length := by omega
      rw [follow?_cons t (by omega) (by omega) hc (if_pos rfl) hcol (by omega), if_neg hne,
        if_pos (by omega)]
      have hstep : Aligns (a.drop i₀) (b.drop j₁)
          (.insert :: (List.replicate t .keep ++ steps)) := by
        rw [List.drop_eq_getElem_cons hj₁]
        exact hkeep.insert _
      obtain ⟨steps', hs', ha, hcost⟩ := ih htrail.2 hlen' hf' (by omega) hj₁.le hstep
      have hy : (i₀ : Int) - (((i₀ + t : Nat) : Int) - (j₁ + 1 + t : Nat) + 1) = j₁ := by omega
      refine ⟨steps', hy ▸ hs', ha, ?_⟩
      simp only [cost_insert_cons, cost_append, cost_replicate_keep] at hcost
      omega
    | @below _ i₁ _ _ hc hcol hf' =>
      have hk' := hf'.diagonal
      rw [← hlen', ← hk] at hc
      rw [← hk] at hcol
      have hi₁ : i₁ < a.length := by omega
      rw [follow?_cons t (by omega) (by omega) hc (if_neg (by decide)) hcol (by omega),
        if_neg hne, if_neg (by omega)]
      have hstep : Aligns (a.drop i₁) (b.drop j₀)
          (.delete :: (List.replicate t .keep ++ steps)) := by
        rw [List.drop_eq_getElem_cons hi₁]
        exact hkeep.delete _
      obtain ⟨steps', hs', ha, hcost⟩ := ih htrail.2 hlen' hf' hi₁.le (by omega) hstep
      have hy : (i₁ : Int) - (((i₁ + 1 + t : Nat) : Int) - (j₀ + t : Nat) - 1) = j₀ := by omega
      refine ⟨steps', hy ▸ hs', ha, ?_⟩
      simp only [cost_delete_cons, cost_append, cost_replicate_keep] at hcost
      omega

/-- The search for an alignment reaches the far corner, in the round of its cheapest path. -/
theorem exists_search? (a b : List α) : ∃ frontiers d k,
    search? a.toArray b.toArray (a.length + b.length + 1) 0 (.start (a.length + b.length)) [] =
      some frontiers ∧
    Trail a b frontiers ∧ frontiers.length = d + 1 ∧
    FurthestOn (Reached a b d) k a.length b.length ∧
    d + 2 * lcsLength a b ≤ a.length + b.length := by
  obtain ⟨shortest, halign, hcost⟩ := exists_aligns a b
  have hreach := Reached.of_aligns halign .origin (Nat.zero_le _) (Nat.zero_le _) rfl rfl
  rw [Nat.zero_add] at hreach
  have hready : Ready a b (.start (a.length + b.length)) ([] : List Frontier).length :=
    Frontier.column?_start_one _
  have hnone : ∀ e < 0, ¬Reached a b e a.length b.length :=
    fun e he => absurd he (Nat.not_lt_zero e)
  obtain ⟨frontiers, d, k, hsearch, htrail, hlen, hf, hfirst⟩ :=
    search?_spec (Frontier.spans_start _) hready trivial List.length_nil hnone hreach (by omega) rfl
  have hd : ¬cost shortest < d := fun hlt => hfirst _ hlt hreach
  exact ⟨frontiers, d, k, hsearch, htrail, hlen, hf, by omega⟩

/-- There always is an alignment, and it is a shortest one. -/
theorem find?_spec (a b : List α) : ∃ steps, find? a b = some steps ∧ Aligns a b steps ∧
    cost steps + 2 * lcsLength a b = a.length + b.length := by
  obtain ⟨frontiers, d, k, hsearch, htrail, hlen, hf, hle⟩ := exists_search? a b
  have hnil : Aligns (a.drop a.length) (b.drop b.length) [] := by
    rw [List.drop_length, List.drop_length]
    exact .nil
  obtain ⟨steps, hfollow, hsteps, hs⟩ := follow?_spec htrail hlen hf le_rfl le_rfl hnil
  refine ⟨steps, ?_, hsteps, ?_⟩
  · simp only [find?, Option.bind_eq_bind]
    rw [hsearch]
    exact hfollow
  · have hge := hsteps.length_add_length_le
    rw [cost_nil] at hs
    omega

end Alignment

end Byline

import Byline.Proofs.Diff.Search

/-!
# What the search for an alignment reaches for

`Traced` is a computation that keeps account of what it reaches for, and that fails only where it
reaches for something that is not there. `tracedFind` searches for an alignment in this way: it asks
for no bound but that of the place or the member it reaches for. In particular it does not ask
whether a point lies within the grid, and when its rounds run out it goes back all the same, from
the frontiers it has.

The search `find?` does ask. Where it succeeds the traced search comes to the same result, and all
that it reaches for is within bounds: a diagonal at a time (`ends_tracedSlide`), a round at a time
(`ends_tracedSweep`), for all rounds (`ends_tracedSearch`), and on the way back, which comes to no
point further on than the one before (`Departs.exists_back`, `ends_tracedFollow`). As `find?` always
succeeds, so does the traced search (`exists_ends_tracedFind`).
-/

namespace Byline

/-- Something that a search for an alignment reaches for. -/
inductive Access where
  /-- A place of the frontier, by its index. -/
  | place (index : Int)
  /-- The members of the two lists at a column and a row. -/
  | members (x y : Int)
  /-- The point that the way back has come to, by its column and its row. -/
  | point (x y : Int)
  deriving DecidableEq, Repr

/-- Is it within bounds, for lists of these lengths? A frontier has places for the diagonals that
the lengths allow, and for one more. -/
def Access.Within (width height : Nat) : Access → Prop
  | place index => 0 ≤ index ∧ index ≤ 2 * ((width : Int) + height) + 1
  | members x y => (0 ≤ x ∧ x < width) ∧ 0 ≤ y ∧ y < height
  | point x y => x ≤ width ∧ y ≤ height

/-! ## Traced computations -/

/-- A computation with an account of what it reaches for. -/
structure Traced (β : Type) where
  accesses : List Access
  result? : Option β
  deriving DecidableEq, Repr

namespace Traced

variable {β γ : Type}

instance : Monad Traced where
  pure x := ⟨[], some x⟩
  bind t f :=
    match t.result? with
    -- what was reached for in vain stays in the account
    | none => ⟨t.accesses, none⟩
    | some x => ⟨t.accesses ++ (f x).accesses, (f x).result?⟩

/-- Reaches for something, of which this is there. -/
def reach (e : Access) (there? : Option β) : Traced β := ⟨[e], there?⟩

/-- Does the computation end with this result, and is all that it reaches for within bounds? -/
structure Ends (width height : Nat) (t : Traced β) (x : β) : Prop where
  result?_eq : t.result? = some x
  within : ∀ e ∈ t.accesses, e.Within width height

namespace Ends

variable {width height : Nat} {t : Traced β} {f : β → Traced γ} {x : β} {y : γ}

protected theorem pure (x : β) : Ends width height (pure x) x :=
  ⟨rfl, fun _ he => absurd he List.not_mem_nil⟩

protected theorem reach {e : Access} {there? : Option β} (h : there? = some x)
    (he : e.Within width height) : Ends width height (reach e there?) x :=
  ⟨h, fun _ he' => List.mem_singleton.1 he' ▸ he⟩

protected theorem bind (h : Ends width height t x) (h' : Ends width height (f x) y) :
    Ends width height (t >>= f) y := by
  have hbind : t >>= f = ⟨t.accesses ++ (f x).accesses, (f x).result?⟩ := by
    simp only [bind, h.result?_eq]
  rw [hbind]
  refine ⟨h'.result?_eq, ?_⟩
  intro e he
  exact (List.mem_append.1 he).elim (h.within e) (h'.within e)

end Ends

end Traced

/-! ## The frontier -/

namespace Frontier

/-- `column?`, traced. -/
def tracedColumn (f : Frontier) (k : Int) : Traced Int :=
  .reach (.place (k + f.offset)) (f.column? k)

/-- `put?`, traced. -/
def tracedPut (f : Frontier) (k x : Int) : Traced Frontier :=
  .reach (.place (k + f.offset)) (f.put? k x)

/-- `fromAbove?`, traced. -/
def tracedFromAbove (f : Frontier) (d k : Int) : Traced Bool :=
  if k = -d then return true
  else if k = d then return false
  else do
    let below ← f.tracedColumn (k - 1)
    let above ← f.tracedColumn (k + 1)
    return below < above

/-- The column at which diagonal `k` is entered, from the one above it or from the one below. -/
def tracedEntry (f : Frontier) (k : Int) (above : Bool) : Traced Int :=
  if above then f.tracedColumn (k + 1)
  else do
    let x ← f.tracedColumn (k - 1)
    return x + 1

namespace Spans

variable {f g : Frontier} {width height : Nat} {d k x : Int} {above : Bool}

/-- The index of a place that is there lies within bounds. -/
theorem within_place (hf : f.Spans (width + height)) (hp : 0 ≤ k + f.offset)
    (hk : (k + f.offset).toNat < f.columns.size) :
    (Access.place (k + f.offset)).Within width height := by
  rw [hf.size_columns] at hk
  exact ⟨hp, by omega⟩

theorem ends_tracedColumn (hf : f.Spans (width + height)) (h : f.column? k = some x) :
    (f.tracedColumn k).Ends width height x := by
  refine .reach h ?_
  rw [column?] at h
  split at h
  · next hp => exact hf.within_place hp (Array.getElem?_eq_some_iff.1 h).1
  · simp at h

theorem ends_tracedPut (hf : f.Spans (width + height)) (h : f.put? k x = some g) :
    (f.tracedPut k x).Ends width height g ∧ g.Spans (width + height) := by
  have hput := h
  rw [put?] at hput
  split at hput
  · next hp =>
    obtain rfl := Option.some.inj hput
    exact ⟨.reach h (hf.within_place hp.1 hp.2), hf.offset_eq, by simp [hf.size_columns]⟩
  · simp at hput

theorem ends_tracedFromAbove (hf : f.Spans (width + height))
    (h : f.fromAbove? d k = some above) : (f.tracedFromAbove d k).Ends width height above := by
  rw [fromAbove?] at h
  rw [tracedFromAbove]
  split at h
  · next hk =>
    obtain rfl := Option.some.inj h
    rw [if_pos hk]
    exact .pure true
  split at h
  · next hk hk' =>
    obtain rfl := Option.some.inj h
    rw [if_neg hk, if_pos hk']
    exact .pure false
  · next hk hk' =>
    obtain ⟨x, hx, h⟩ := Option.bind_eq_some_iff.1 h
    obtain ⟨x', hx', h⟩ := Option.bind_eq_some_iff.1 h
    obtain rfl := Option.some.inj h
    rw [if_neg hk, if_neg hk']
    exact .bind (hf.ends_tracedColumn hx) (.bind (hf.ends_tracedColumn hx') (.pure _))

theorem ends_tracedEntry (hf : f.Spans (width + height))
    (h : (if above then f.column? (k + 1) else (f.column? (k - 1)).map (· + 1)) = some x) :
    (f.tracedEntry k above).Ends width height x := by
  rw [tracedEntry]
  cases above with
  | true => exact hf.ends_tracedColumn h
  | false =>
    obtain ⟨x', hx', rfl⟩ := Option.map_eq_some_iff.1 h
    exact .bind (hf.ends_tracedColumn hx') (.pure _)

end Spans

end Frontier

namespace Alignment

variable {α : Type} [DecidableEq α]

/-! ## Rounds -/

/-- Are the members at a column and a row equal? -/
def tracedEqual (a b : Array α) (x y : Int) : Traced Bool :=
  .reach (.members x y) <|
    if 0 ≤ x ∧ 0 ≤ y then do
      let c ← a[x.toNat]?
      let c' ← b[y.toNat]?
      return c = c'
    else none

/-- `slide?`, traced. Nothing is asked of the point but that it lies before the far edges. -/
def tracedSlide (a b : Array α) (x y : Int) : Traced Int :=
  if x < a.size ∧ y < b.size then do
    if ← tracedEqual a b x y then tracedSlide a b (x + 1) (y + 1) else return x
  else return x
  termination_by (a.size - x).toNat

/-- `sweep?`, traced. -/
def tracedSweep (a b : Array α) (d : Int) : Nat → Int → Frontier → Traced (Frontier × Bool)
  | 0, _, f => return (f, false)
  | count + 1, k, f => do
    let above ← f.tracedFromAbove d k
    let x ← f.tracedEntry k above
    let x ← tracedSlide a b x (x - k)
    let f ← f.tracedPut k x
    if a.size ≤ x ∧ b.size ≤ x - k then return (f, true)
    else tracedSweep a b d count (k + 2) f

/-- `search?`, traced. The result says whether the far corner was reached before the rounds ran
out. -/
def tracedSearch (a b : Array α) :
    Nat → Nat → Frontier → List Frontier → Traced (List Frontier × Bool)
  | 0, _, _, before => return (before, false)
  | rounds + 1, d, f, before => do
    let (f', reached) ← tracedSweep a b d (d + 1) (-d) f
    if reached then return (f :: before, true)
    else tracedSearch a b rounds (d + 1) f' (f :: before)

/-- `follow?`, traced. There is no grid for the points to lie within. -/
def tracedFollow : List Frontier → Int → Int → List Step → Traced (List Step)
  | [], x, y, steps => do
    Traced.reach (.point x y) (some ())
    return steps
  | f :: before, x, y, steps => do
    Traced.reach (.point x y) (some ())
    let d := before.length
    let k := x - y
    let above ← f.tracedFromAbove d k
    let k' := if above then k + 1 else k - 1
    let x' ← f.tracedColumn k'
    let y' := x' - k'
    let kept := (min (x - x') (y - y')).toNat
    let after := List.replicate kept Step.keep ++ steps
    let step := if x - kept = x' then Step.insert else Step.delete
    tracedFollow before x' y' (if d = 0 then after else step :: after)

/-- `find?`, traced. -/
def tracedFind (a b : List α) : Traced (List Step) := do
  let size := a.length + b.length
  let (frontiers, _) ← tracedSearch a.toArray b.toArray (size + 1) 0 (.start size) []
  tracedFollow frontiers a.length b.length []

/-! ## What is reached for -/

theorem ends_tracedEqual {a b : Array α} {i j : Nat} (hi : i < a.size) (hj : j < b.size) :
    (tracedEqual a b i j).Ends a.size b.size (decide (a[i] = b[j])) := by
  refine .reach ?_ ⟨⟨by omega, by omega⟩, by omega, by omega⟩
  simp [hi, hj]

theorem ends_tracedSlide_natCast (a b : Array α) (i j : Nat) :
    (tracedSlide a b i j).Ends a.size b.size (runEnd a b i j) := by
  fun_induction runEnd a b i j with
  | case1 i j h heq ih =>
    rw [tracedSlide, if_pos (by omega)]
    refine .bind (ends_tracedEqual h.1 h.2) ?_
    rw [if_pos (by simpa using heq)]
    exact ih
  | case2 i j h hne =>
    rw [tracedSlide, if_pos (by omega)]
    refine .bind (ends_tracedEqual h.1 h.2) ?_
    rw [if_neg (by simpa using hne)]
    exact .pure _
  | case3 i j h =>
    rw [tracedSlide, if_neg (by omega)]
    exact .pure _

theorem ends_tracedSlide {a b : Array α} {x y z : Int} (h : slide? a b x y = some z) :
    (tracedSlide a b x y).Ends a.size b.size z := by
  rw [slide?] at h
  split at h
  · next hxy =>
    obtain rfl := Option.some.inj h
    have hends := ends_tracedSlide_natCast a b x.toNat y.toNat
    rwa [Int.toNat_of_nonneg hxy.1, Int.toNat_of_nonneg hxy.2] at hends
  · simp at h

/-- What the parts of a sweep gave that goes through. -/
theorem exists_of_sweep?_succ {a b : Array α} {d k : Int} {count : Nat} {f : Frontier}
    {r : Frontier × Bool} (h : sweep? a b d (count + 1) k f = some r) :
    ∃ above x y g, f.fromAbove? d k = some above ∧
      (if above then f.column? (k + 1) else (f.column? (k - 1)).map (· + 1)) = some x ∧
      slide? a b x (x - k) = some y ∧ f.put? k y = some g ∧
      (if a.size ≤ y ∧ b.size ≤ y - k then some (g, true)
        else sweep? a b d count (k + 2) g) = some r := by
  rw [sweep?] at h
  obtain ⟨above, habove, h⟩ := Option.bind_eq_some_iff.1 h
  cases above with
  | true =>
    obtain ⟨x, hx, h⟩ := Option.bind_eq_some_iff.1 h
    obtain ⟨y, hy, h⟩ := Option.bind_eq_some_iff.1 h
    obtain ⟨g, hg, h⟩ := Option.bind_eq_some_iff.1 h
    exact ⟨true, x, y, g, habove, hx, hy, hg, h⟩
  | false =>
    obtain ⟨x, hx, h⟩ := Option.bind_eq_some_iff.1 h
    obtain ⟨y, hy, h⟩ := Option.bind_eq_some_iff.1 h
    obtain ⟨g, hg, h⟩ := Option.bind_eq_some_iff.1 h
    exact ⟨false, x, y, g, habove, hx, hy, hg, h⟩

theorem ends_tracedSweep {a b : Array α} {d k : Int} {count : Nat} {f : Frontier}
    {r : Frontier × Bool} (hf : f.Spans (a.size + b.size)) (h : sweep? a b d count k f = some r) :
    (tracedSweep a b d count k f).Ends a.size b.size r ∧ r.1.Spans (a.size + b.size) := by
  induction count generalizing k f with
  | zero =>
    obtain rfl := Option.some.inj h
    exact ⟨.pure _, hf⟩
  | succ count ih =>
    obtain ⟨above, x, y, g, habove, hx, hy, hg, h⟩ := exists_of_sweep?_succ h
    obtain ⟨hput, hg'⟩ := hf.ends_tracedPut hg
    rw [tracedSweep]
    suffices hrest : (if a.size ≤ y ∧ b.size ≤ y - k then pure (g, true)
        else tracedSweep a b d count (k + 2) g : Traced (Frontier × Bool)).Ends a.size b.size r ∧
        r.1.Spans (a.size + b.size) by
      refine ⟨?_, hrest.2⟩
      refine .bind (hf.ends_tracedFromAbove habove) (.bind (hf.ends_tracedEntry hx) ?_)
      exact .bind (ends_tracedSlide hy) (.bind hput hrest.1)
    split at h
    · next hend =>
      obtain rfl := Option.some.inj h
      rw [if_pos hend]
      exact ⟨.pure _, hg'⟩
    · next hend =>
      rw [if_neg hend]
      exact ih hg' h

/-- The rounds end by reaching the far corner, not by running out. -/
theorem ends_tracedSearch {a b : Array α} {rounds d : Nat} {f : Frontier}
    {before frontiers : List Frontier} (hf : f.Spans (a.size + b.size))
    (hbefore : ∀ g ∈ before, g.Spans (a.size + b.size))
    (h : search? a b rounds d f before = some frontiers) :
    (tracedSearch a b rounds d f before).Ends a.size b.size (frontiers, true) ∧
      ∀ g ∈ frontiers, g.Spans (a.size + b.size) := by
  induction rounds generalizing d f before with
  | zero => simp [search?] at h
  | succ rounds ih =>
    rw [search?] at h
    obtain ⟨⟨f', reached⟩, hsweep, h⟩ := Option.bind_eq_some_iff.1 h
    obtain ⟨hends, hf'⟩ := ends_tracedSweep hf hsweep
    have hbefore' : ∀ g ∈ f :: before, g.Spans (a.size + b.size) :=
      List.forall_mem_cons.2 ⟨hf, hbefore⟩
    rw [tracedSearch]
    cases reached with
    | true =>
      obtain rfl := Option.some.inj h
      exact ⟨.bind hends (.pure _), hbefore'⟩
    | false =>
      obtain ⟨hrest, hfrontiers⟩ := ih hf' hbefore' h
      exact ⟨.bind hends hrest, hfrontiers⟩

/-! ## The way back -/

omit [DecidableEq α] in
/-- From a point at which a diagonal was entered the way back leads to no point further on, and to
a furthest point of the round before, if there was one. -/
theorem Departs.exists_back {a b : List α} {f : Frontier} {d i j : Nat} {k : Int}
    (h : Departs a b f d k i j) :
    ∃ above k' x', f.fromAbove? d k = some above ∧ (if above then k + 1 else k - 1) = k' ∧
      f.column? k' = some x' ∧ x' ≤ i ∧ x' - k' ≤ j ∧
      ∀ e, d = e + 1 → ∃ i' j' : Nat, x' = i' ∧ x' - k' = j' ∧
        FurthestOn (Reached a b e) k' i' j' := by
  cases h with
  | start hcol =>
    refine ⟨true, 1, 0, rfl, rfl, hcol, le_rfl, by omega, ?_⟩
    intro e he
    omega
  | @above d i j k hc hcol hf =>
    have hk := hf.diagonal
    refine ⟨true, k + 1, i, hc, rfl, hcol, le_rfl, by omega, ?_⟩
    intro e he
    obtain rfl : d = e := Nat.succ.inj he
    exact ⟨i, j, rfl, by omega, hf⟩
  | @below d i j k hc hcol hf =>
    have hk := hf.diagonal
    refine ⟨false, k - 1, i, hc, rfl, hcol, by omega, by omega, ?_⟩
    intro e he
    obtain rfl : d = e := Nat.succ.inj he
    exact ⟨i, j, rfl, by omega, hf⟩

/-- A step of the way back, with what its parts give. -/
theorem ends_tracedFollow_cons {f : Frontier} {before : List Frontier} {width height : Nat}
    {x y k' x' : Int} {above : Bool} {steps steps' : List Step} (hf : f.Spans (width + height))
    (hx : x ≤ width) (hy : y ≤ height)
    (hc : f.fromAbove? before.length (x - y) = some above)
    (hk : (if above then x - y + 1 else x - y - 1) = k') (hx' : f.column? k' = some x')
    (hrest : ∀ after, follow? width height before x' (x' - k') after = some steps' →
      (tracedFollow before x' (x' - k') after).Ends width height steps')
    (h : follow? width height (f :: before) x y steps = some steps') :
    (tracedFollow (f :: before) x y steps).Ends width height steps' := by
  rw [follow?, if_pos ⟨hx, hy⟩] at h
  subst hk
  simp only [hc, hx', Option.bind_eq_bind, Option.bind_some] at h
  rw [tracedFollow]
  refine .bind (.reach rfl ⟨hx, hy⟩) (.bind (hf.ends_tracedFromAbove hc) ?_)
  exact .bind (hf.ends_tracedColumn hx') (hrest _ h)

/-- The way back stays within bounds, also where it ends, if it starts within them at a furthest
point of the last round. -/
theorem ends_tracedFollow {a b : List α} {frontiers : List Frontier} {x y : Int}
    {steps steps' : List Step} (htrail : Trail a b frontiers)
    (hspans : ∀ f ∈ frontiers, f.Spans (a.length + b.length))
    (hx : x ≤ a.length) (hy : y ≤ b.length)
    (hf : ∀ e, frontiers.length = e + 1 →
      ∃ (i j : Nat) (k : Int), x = i ∧ y = j ∧ FurthestOn (Reached a b e) k i j)
    (h : follow? a.length b.length frontiers x y steps = some steps') :
    (tracedFollow frontiers x y steps).Ends a.length b.length steps' := by
  induction frontiers generalizing x y steps with
  | nil =>
    obtain rfl := Option.some.inj h
    exact .bind (.reach rfl ⟨hx, hy⟩) (.pure _)
  | cons f before ih =>
    obtain ⟨i, j, k, rfl, rfl, hfurthest⟩ := hf before.length rfl
    obtain ⟨i₀, j₀, t, hdep, rfl, rfl, -⟩ := htrail.1.exists_departs_of_furthest hfurthest
    obtain ⟨above, k', x', hc, hk, hx', hle, hle', hnext⟩ := hdep.exists_back
    have hdiagonal := hfurthest.diagonal
    obtain ⟨hspan, hspans⟩ := List.forall_mem_cons.1 hspans
    refine ends_tracedFollow_cons hspan hx hy (hdiagonal ▸ hc) (hdiagonal ▸ hk) hx' ?_ h
    intro after hafter
    refine ih htrail.2 hspans (by omega) (by omega) ?_ hafter
    intro e he
    obtain ⟨i', j', hi, hj, hfurthest'⟩ := hnext e he
    exact ⟨i', j', k', hi, hj, hfurthest'⟩

/-! ## The whole search -/

/-- The traced search ends as the search does, with all that it reaches for within bounds. It leaves
its rounds because the far corner was reached, in a round `d` no later than the members of both
lists together. -/
theorem exists_ends_tracedFind (a b : List α) : ∃ steps frontiers d,
    find? a b = some steps ∧ (tracedFind a b).Ends a.length b.length steps ∧
      (tracedSearch a.toArray b.toArray (a.length + b.length + 1) 0
        (.start (a.length + b.length)) []).result? = some (frontiers, true) ∧
      frontiers.length = d + 1 ∧ d ≤ a.length + b.length := by
  obtain ⟨frontiers, e, k, hsearch, htrail, hlen, hf, hle⟩ := exists_search? a b
  obtain ⟨steps, hfind, -, -⟩ := find?_spec a b
  obtain ⟨hrounds, hspans⟩ := ends_tracedSearch (a := a.toArray) (b := b.toArray)
    (Frontier.spans_start _) (by simp) hsearch
  have hfollow : follow? a.length b.length frontiers a.length b.length [] = some steps := by
    simpa [find?, hsearch] using hfind
  have hback := ends_tracedFollow htrail hspans le_rfl le_rfl ?_ hfollow
  · exact ⟨steps, frontiers, e, hfind, .bind hrounds hback, hrounds.result?_eq, hlen, by omega⟩
  · intro e' he'
    obtain rfl : e = e' := by omega
    exact ⟨a.length, b.length, k, rfl, rfl, hf⟩

/-- Round zero starts from the diagonal above the origin, and so the way back ends above it. -/
example : (tracedFind ["a"] ["a"]).accesses =
    [.place 3, .members 0 0, .place 2, .point 1 1, .place 3, .point 0 (-1)] := by decide +kernel

end Alignment
end Byline

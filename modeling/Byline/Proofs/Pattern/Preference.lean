import Byline.Proofs.Pattern.Language

/-!
# The preferred stretch

A search for a pattern takes the first place of the text from which the pattern leads anywhere, and
among the stretches from there the one that a backtracking search comes upon first: alternatives in
their order, and more rounds of a repetition before fewer. `Pattern.choices` lists the places that a
pattern leads to in this order. They are the places that it reaches (`mem_choices`).

`Pattern.andThen?` goes on from the first place where that succeeds, and opens a pattern from left to
right. What a group at the end of a pattern captures is read off it (`Pattern.captured?`).

The order is that of patterns none of whose repetitions is lazy, since a pattern keeps nothing of the
greed, and none of whose optional rounds may be empty.
-/

namespace Byline

/-- Every place is one of some text. -/
theorem Cursor.exists_in (x : Cursor) : ∃ s, x.In s := by
  refine ⟨x.before.toList ++ x.rest, x.before.toList, x.rest, rfl, ?_⟩
  obtain ⟨before, rest, _, rfl⟩ := x
  cases before with
  | none => rfl
  | some c => rfl

namespace Pattern

variable {p q : Pattern} {s : List Char} {x y z : Cursor}

/-! ## The order of the choices -/

/-- The places that rounds of a step lead to, those after more rounds first. Only a round that has
to be done may stay where it is. -/
def greedy (step : Cursor → List Cursor) (least : Nat) (most : Option Nat) (x : Cursor) :
    List Cursor :=
  (if most = some 0 then []
    else (step x).flatMap fun y =>
      if y.left < x.left ∨ y.left = x.left ∧ 0 < least then
        greedy step (least - 1) (most.map (· - 1)) y
      else []) ++
    if least = 0 then [x] else []
  termination_by (x.left, least)
  decreasing_by
    rename_i h
    simp only [Prod.lex_def]
    omega

/-- The places that the pattern leads to, the preferred first. -/
def choices : Pattern → Cursor → List Cursor
  | .empty, x => [x]
  | .set t, x => (x.take? t).toList
  | .look l, x => if l.holds x then [x] else []
  | .seq p q, x => (choices p x).flatMap (choices q)
  | .alt p q, x => choices p x ++ choices q x
  | .iter p least most, x => greedy (choices p) least most x

theorem reaches_iter_of_mem_greedy {step : Cursor → List Cursor} {least : Nat} {most : Option Nat}
    (hstep : ∀ x y, y ∈ step x ↔ Reaches p x y) (h : z ∈ greedy step least most x) :
    Reaches (.iter p least most) x z := by
  fun_induction greedy step least most x with
  | case1 least most x ih =>
    rcases List.mem_append.1 h with h | h
    · split at h
      · exact absurd h List.not_mem_nil
      next hmost =>
      obtain ⟨y, hy, h⟩ := List.mem_flatMap.1 h
      split at h
      next hmoves => exact .iterMore hmost ((hstep x y).1 hy) (ih y hmoves h)
      next => exact absurd h List.not_mem_nil
    · split at h
      next hleast =>
        rw [List.mem_singleton.1 h, hleast]
        exact .iterNone p most x
      next => exact absurd h List.not_mem_nil

theorem mem_greedy_of_rounds {step : Cursor → List Cursor} {n least : Nat} {most : Option Nat}
    (hstep : ∀ x y, y ∈ step x ↔ Reaches p x y) (hl : least ≤ n) (hm : ∀ m ∈ most, n ≤ m)
    (h : Rounds (Reaches p) n x z) : z ∈ greedy step least most x := by
  induction n generalizing x least most with
  | zero =>
    obtain rfl := h
    rw [greedy]
    exact List.mem_append_right _ (by simp [Nat.le_zero.1 hl])
  | succ n ih =>
    obtain ⟨y, hxy, h⟩ := h
    obtain ⟨s, hx⟩ := x.exists_in
    obtain ⟨hy, hle⟩ := hxy.in_text hx
    by_cases hmoves : y.left < x.left ∨ y.left = x.left ∧ 0 < least
    · have hmost : most ≠ some 0 := fun h0 => Nat.not_succ_le_zero n (hm 0 h0)
      have hz : z ∈ greedy step (least - 1) (most.map (· - 1)) y := by
        refine ih (by omega) ?_ h
        intro m' hm'
        obtain ⟨m, rfl, rfl⟩ := Option.map_eq_some_iff.1 hm'
        have := hm m rfl
        omega
      rw [greedy, if_neg hmost]
      refine List.mem_append_left _ (List.mem_flatMap.2 ⟨y, (hstep x y).2 hxy, ?_⟩)
      rwa [if_pos hmoves]
    · -- the round stays where it is and need not be done
      obtain rfl := hy.eq_of_left hx (by omega)
      exact ih (by omega) (fun m h' => Nat.le_of_succ_le (hm m h')) h

/-- The choices are the places that the pattern reaches. -/
theorem mem_choices : y ∈ p.choices x ↔ Reaches p x y := by
  induction p generalizing x y with
  | empty => rw [choices, List.mem_singleton, reaches_empty, eq_comm]
  | set t => rw [choices, Option.mem_toList, reaches_set]
  | look l =>
    rw [choices, reaches_look]
    split
    next h => simp [h, eq_comm]
    next h => simp [h]
  | seq p q ihp ihq => simp only [choices, List.mem_flatMap, ihp, ihq, reaches_seq]
  | alt p q ihp ihq => rw [choices, List.mem_append, ihp, ihq, reaches_alt]
  | iter p least most ih =>
    rw [choices]
    constructor
    · exact reaches_iter_of_mem_greedy fun _ _ => ih
    · intro h
      obtain ⟨n, hl, hm, hn⟩ := reaches_iter.1 h
      exact mem_greedy_of_rounds (fun _ _ => ih) hl hm hn

/-! ## Going on after a pattern -/

section

variable {β : Type} {g g' : Cursor → Option β}

/-- What comes of going on from the first of the choices where that succeeds. -/
def andThen? (p : Pattern) (g : Cursor → Option β) (x : Cursor) : Option β :=
  (p.choices x).findSome? g

theorem isSome_andThen? :
    (p.andThen? g x).isSome = true ↔ ∃ y, Reaches p x y ∧ (g y).isSome = true := by
  simp only [andThen?, List.findSome?_isSome_iff, mem_choices]

/-- Only the places that the pattern reaches count. -/
theorem andThen?_congr (h : ∀ y, Reaches p x y → g y = g' y) : p.andThen? g x = p.andThen? g' x := by
  rw [andThen?, andThen?, ← List.head?_filterMap, ← List.head?_filterMap]
  exact congrArg List.head? (List.filterMap_congr fun y hy => h y (mem_choices.1 hy))

theorem findSome?_flatMap {α γ : Type} (l : List α) (f : α → List γ) (g : γ → Option β) :
    (l.flatMap f).findSome? g = l.findSome? fun a => (f a).findSome? g := by
  simp only [← List.head?_filterMap, List.filterMap_flatMap, List.head?_flatMap]

@[simp]
theorem andThen?_empty : Pattern.empty.andThen? g x = g x := by
  simp [andThen?, choices]

@[simp]
theorem andThen?_set (t : CharSet) : (Pattern.set t).andThen? g x = (x.take? t).bind g := by
  rw [andThen?, choices]
  cases x.take? t with
  | none => rfl
  | some y => simp

@[simp]
theorem andThen?_look (l : Look) :
    (Pattern.look l).andThen? g x = if l.holds x then g x else none := by
  rw [andThen?, choices]
  split
  next => simp
  next => rfl

@[simp]
theorem andThen?_seq : (Pattern.seq p q).andThen? g x = p.andThen? (q.andThen? g) x :=
  findSome?_flatMap _ _ g

@[simp]
theorem andThen?_alt :
    (Pattern.alt p q).andThen? g x = (p.andThen? g x).or (q.andThen? g x) :=
  List.findSome?_append

theorem andThen?_sequence_cons {ps : List Pattern} :
    (sequence (p :: ps)).andThen? g x = p.andThen? ((sequence ps).andThen? g) x := by
  cases ps with
  | nil => exact andThen?_congr fun y _ => andThen?_empty.symm
  | cons q ps => exact andThen?_seq

theorem andThen?_sequence_append {ps qs : List Pattern} :
    (sequence (ps ++ qs)).andThen? g x =
      (sequence ps).andThen? ((sequence qs).andThen? g) x := by
  induction ps generalizing x with
  | nil => rw [sequence, andThen?_empty, List.nil_append]
  | cons p ps ih =>
    rw [List.cons_append, andThen?_sequence_cons, andThen?_sequence_cons]
    exact andThen?_congr fun y _ => ih

/-- Alternatives are tried in their order. -/
theorem andThen?_foldl_alt {ps : List Pattern} :
    (ps.foldl .alt p).andThen? g x =
      (p.andThen? g x).or (ps.findSome? fun q => q.andThen? g x) := by
  induction ps generalizing p with
  | nil => simp
  | cons q ps ih =>
    rw [List.foldl_cons, ih, andThen?_alt, Option.or_assoc, List.findSome?_cons]
    cases q.andThen? g x <;> rfl

/-! ## Repetitions -/

/-- Does the pattern lead to later places only? -/
def Moves (p : Pattern) : Prop := ∀ x y, Reaches p x y → y.left < x.left

theorem moves_set (t : CharSet) : Moves (.set t) := by
  intro x y h
  obtain ⟨s, hx⟩ := x.exists_in
  have := (hx.take? (reaches_set.1 h)).2
  omega

theorem Moves.seq (h : Moves p) (q : Pattern) : Moves (.seq p q) := by
  intro x z hz
  obtain ⟨y, hxy, hyz⟩ := reaches_seq.1 hz
  obtain ⟨s, hy⟩ := y.exists_in
  exact Nat.lt_of_le_of_lt (hyz.in_text hy).2 (h x y hxy)

theorem Moves.iter (h : Moves p) (n : Nat) (most : Option Nat) : Moves (.iter p (n + 1) most) := by
  intro x z hz
  obtain ⟨k, hk, -, hr⟩ := reaches_iter.1 hz
  cases k with
  | zero => omega
  | succ k =>
    obtain ⟨y, hxy, hr⟩ := hr
    obtain ⟨s, hy⟩ := y.exists_in
    have hyz : Reaches (.iter p k (some k)) y z :=
      reaches_iter.2 ⟨k, Nat.le_refl k, fun m hm => Nat.le_of_eq (Option.some.inj hm), hr⟩
    exact Nat.lt_of_le_of_lt (hyz.in_text hy).2 (h x y hxy)

/-- Another round is tried before the end of the repetition. -/
theorem andThen?_iter (h : Moves p) {least : Nat} {most : Option Nat} (hmost : most ≠ some 0) :
    (Pattern.iter p least most).andThen? g x =
      (p.andThen? ((Pattern.iter p (least - 1) (most.map (· - 1))).andThen? g) x).or
        (if least = 0 then g x else none) := by
  rw [andThen?, choices, greedy, List.findSome?_append, if_neg hmost, findSome?_flatMap]
  congr 1
  · refine andThen?_congr (g := fun y => List.findSome? g _) ?_
    intro y hy
    rw [if_pos (.inl (h x y hy))]
    rfl
  · split
    next => exact List.findSome?_singleton
    next => rfl

/-- One more round is tried before none. -/
theorem andThen?_star (h : Moves p) : (Pattern.iter p 0 none).andThen? g x =
    (p.andThen? ((Pattern.iter p 0 none).andThen? g) x).or (g x) :=
  andThen?_iter h (Option.some_ne_none 0).symm

/-! ## Runs of characters -/

/-- One character of the set, if what follows asks only for the rest of the text. -/
theorem andThen?_set_rest {t : CharSet} (f : List Char → Option β) (x : Cursor) :
    (Pattern.set t).andThen? (fun y => f y.rest) x =
      if x.rest.head?.any t then f x.rest.tail else none := by
  obtain ⟨before, rest, left, hleft⟩ := x
  rw [andThen?_set]
  cases rest with
  | nil => rfl
  | cons c r =>
    rw [Cursor.take?, List.head?_cons, Option.any_some, List.tail_cons]
    split
    next => rfl
    next => rfl

/-- A run takes all characters of the set, if what follows succeeds after a character of the set
wherever it succeeds before it. -/
theorem andThen?_run {t : CharSet} {f : List Char → Option β}
    (hf : ∀ c r, t c = true → (f (c :: r)).isSome = true → (f r).isSome = true) (x : Cursor) :
    (Pattern.iter (.set t) 0 none).andThen? (fun y => f y.rest) x = f (x.rest.dropWhile t) := by
  have hdrop (s : List Char) (h : (f s).isSome = true) : (f (s.dropWhile t)).isSome = true := by
    induction s with
    | nil => exact h
    | cons c r ih =>
      by_cases hc : t c = true
      · rw [List.dropWhile_cons_of_pos hc]
        exact ih (hf c r hc h)
      · rwa [List.dropWhile_cons_of_neg hc]
  induction hn : x.left using Nat.strong_induction_on generalizing x with
  | _ n ih =>
    have hround : (Pattern.set t).andThen?
          ((Pattern.iter (.set t) 0 none).andThen? fun y => f y.rest) x =
        (Pattern.set t).andThen? (fun y => f (y.rest.dropWhile t)) x :=
      andThen?_congr fun y hy => ih y.left (hn ▸ moves_set t x y hy) y rfl
    rw [andThen?_star (moves_set t), hround, andThen?_set_rest fun s => f (s.dropWhile t)]
    cases x.rest with
    | nil => rfl
    | cons c r =>
      rw [List.head?_cons, Option.any_some, List.tail_cons]
      by_cases hc : t c = true
      · rw [if_pos hc, List.dropWhile_cons_of_pos hc]
        cases hd : f (r.dropWhile t) with
        | some v => rfl
        | none =>
          have hno := hdrop (c :: r)
          rw [List.dropWhile_cons_of_pos hc, hd] at hno
          simpa using hno
      · rw [if_neg hc, List.dropWhile_cons_of_neg hc, Option.none_or]

/-- One character of the set or more are taken together, if what follows starts with none. -/
theorem andThen?_runs {t : CharSet} {f : List Char → Option β}
    (hf : ∀ c r, t c = true → f (c :: r) = none) (x : Cursor) :
    (Pattern.iter (.set t) 1 none).andThen? (fun y => f y.rest) x =
      if x.rest.head?.any t then f (x.rest.dropWhile t) else none := by
  have hrun (y : Cursor) : (Pattern.iter (.set t) 0 none).andThen? (fun z => f z.rest) y =
      f (y.rest.dropWhile t) := by
    refine andThen?_run ?_ y
    intro c r hc h
    rw [hf c r hc] at h
    exact absurd h Bool.false_ne_true
  rw [andThen?_iter (moves_set t) (Option.some_ne_none 0).symm, if_neg Nat.one_ne_zero,
    Option.or_none, Nat.sub_self, Option.map_none, andThen?_congr fun y _ => hrun y,
    andThen?_set_rest fun s => f (s.dropWhile t)]
  cases x.rest with
  | nil => rfl
  | cons c r =>
    rw [List.head?_cons, Option.any_some, List.tail_cons]
    split
    next hc => rw [List.dropWhile_cons_of_pos hc]
    next => rfl

end

/-! ## Captures -/

/-- The text that the second pattern takes in the preferred stretch of the first and the second one
after the other. -/
def captured? (p q : Pattern) (s : List Char) : Option (List Char) :=
  (Cursor.places s).reverse.findSome? <| p.andThen? fun y =>
    q.andThen? (fun z => some (y.rest.take (y.left - z.left))) y

/-- Something is captured exactly if there is a match. -/
theorem isSome_captured? : (captured? p q s).isSome = true ↔ Matches (.seq p q) s := by
  simp only [captured?, List.findSome?_isSome_iff, List.mem_reverse, isSome_andThen?, Matches,
    reaches_seq, Option.isSome_some, and_true]
  constructor
  · rintro ⟨x, hx, y, hxy, z, hyz⟩
    exact ⟨x, hx, z, y, hxy, hyz⟩
  · rintro ⟨x, hx, z, y, hxy, hyz⟩
    exact ⟨x, hx, y, hxy, z, hyz⟩

theorem findSome?_eq_of_forall_ne {α β : Type} {l : List α} {f : α → Option β} {a : α} (ha : a ∈ l)
    (h : ∀ b ∈ l, b ≠ a → f b = none) : l.findSome? f = f a := by
  induction l with
  | nil => exact absurd ha List.not_mem_nil
  | cons b l ih =>
    rw [List.findSome?_cons]
    by_cases hb : b = a
    · subst hb
      cases hf : f b with
      | some v => rfl
      | none =>
        refine List.findSome?_eq_none_iff.2 fun c hc => ?_
        by_cases hcb : c = b
        · rw [hcb, hf]
        · exact h c (List.mem_cons_of_mem b hc) hcb
    · rw [h b List.mem_cons_self hb]
      exact ih (List.mem_of_ne_of_mem (Ne.symm hb) ha)
        fun c hc => h c (List.mem_cons_of_mem b hc)

/-- What has to stand at the start of the text is looked for only there. -/
theorem captured?_textStart {ps : List Pattern} :
    captured? (sequence (.look .textStart :: ps)) q s =
      (sequence ps).andThen?
        (fun y => q.andThen? (fun z => some (y.rest.take (y.left - z.left))) y) (Cursor.start s) := by
  have hstart : Look.holds .textStart (Cursor.start s) = true := rfl
  rw [captured?, findSome?_eq_of_forall_ne (a := Cursor.start s), andThen?_sequence_cons,
    andThen?_look, if_pos hstart]
  · exact List.mem_reverse.2 (Cursor.mem_places.2 ⟨[], s, rfl, rfl⟩)
  · intro x hx hne
    obtain ⟨pre, suf, rfl, rfl⟩ := Cursor.mem_places.1 (List.mem_reverse.1 hx)
    rw [andThen?_sequence_cons, andThen?_look, if_neg]
    intro hstart
    obtain rfl := holds_textStart.1 hstart
    exact hne rfl

end Pattern

end Byline

import Byline.Pattern.Reader

/-!
# What a text of a pattern spells

`Pattern.read?` reads the text of a pattern from the left, token by token. A text spells a list of
patterns (`Pattern.Spells`) if, wherever it stands and whatever follows, the reader adds those
patterns to the innermost group. Texts that spell something can be put together (`Spells.append`)
and into groups (`Spells.group`), and a whole text is read as the sequence of what it spells
(`Spells.read?_eq`).

What follows must not start with a question mark, as that would belong to a repetition at the end of
the text. All this is about the flags at the start of a pattern, which a directive could change.
-/

namespace Byline.Pattern

namespace Groups

/-- The groups with more members in the innermost one. -/
def pushAll (g : Groups) (ps : List Pattern) : Groups :=
  { g with inner := { g.inner with members := (ps.map some).reverse ++ g.inner.members } }

@[simp]
theorem pushAll_pushAll (g : Groups) (ps qs : List Pattern) :
    (g.pushAll ps).pushAll qs = g.pushAll (ps ++ qs) := by
  simp [pushAll]

/-- The reader gets from a text with some open groups to the rest of it with others. Each token
that it reads takes a character at least, so that the fuel lasts. -/
def Reads (g : Groups) (s : List Char) (g' : Groups) (r : List Char) : Prop :=
  ∃ n, n + r.length ≤ s.length ∧ ∀ fuel, readAll (fuel + n) g s = readAll fuel g' r

namespace Reads

variable {g g' g'' : Groups} {s r t : List Char}

theorem refl (g : Groups) (s : List Char) : g.Reads s g s :=
  ⟨0, by simp, fun _ => rfl⟩

theorem trans (h : g.Reads s g' r) (h' : g'.Reads r g'' t) : g.Reads s g'' t := by
  obtain ⟨n, hn, heq⟩ := h
  obtain ⟨m, hm, heq'⟩ := h'
  refine ⟨m + n, by omega, fun fuel => ?_⟩
  rw [← Nat.add_assoc, heq, heq']

/-- One token. -/
theorem token {c : Char} {tok : Token} (hflags : g.inner.flags = .initial)
    (hread : readToken .initial (c :: s) = some (tok, r)) (htake : g.take tok = some g')
    (hr : r.length ≤ s.length) : g.Reads (c :: s) g' r := by
  refine ⟨1, by simp only [List.length_cons]; omega, fun fuel => ?_⟩
  have hskip : Flags.initial.skip (c :: s) = c :: s := Flags.skip_of_not_extended rfl _
  rw [readAll, hflags, hskip]
  simp only [hread, htake]

theorem atom {c : Char} {p : Pattern} (hflags : g.inner.flags = .initial)
    (hread : readToken .initial (c :: s) = some (.atom p, r)) (hr : r.length ≤ s.length) :
    g.Reads (c :: s) (g.pushAll [p]) r :=
  token hflags hread rfl hr

/-- At the end of the text all that was read is in the outermost group. -/
theorem read?_eq {ps : List Pattern} (h : start.Reads s (start.pushAll ps) []) :
    Pattern.read? s = some (sequence ps) := by
  obtain ⟨n, hn, heq⟩ := h
  have hfuel : s.length + 1 = (s.length - n + 1) + n := by
    simp only [List.length_nil] at hn
    omega
  rw [Pattern.read?, hfuel, heq]
  simp [readAll, Flags.skip, pushAll, start, Group.empty, Group.pattern, Group.branch,
    Flags.initial]

end Reads

end Groups

open Groups

/-- The text stands for the patterns, one after the other, whatever follows. -/
structure Spells (w : List Char) (ps : List Pattern) : Prop where
  head : w.head? ≠ some '?'
  reads : ∀ (g : Groups) (r : List Char), g.inner.flags = .initial → r.head? ≠ some '?' →
    g.Reads (w ++ r) (g.pushAll ps) r

namespace Spells

variable {w v : List Char} {ps qs : List Pattern}

theorem nil : Spells [] [] := ⟨by simp, fun g r _ _ => .refl g r⟩

theorem head_append (h : Spells w ps) (hv : v.head? ≠ some '?') : (w ++ v).head? ≠ some '?' := by
  cases w with
  | nil => simpa using hv
  | cons c w => simpa using h.head

theorem append (h : Spells w ps) (h' : Spells v qs) : Spells (w ++ v) (ps ++ qs) := by
  refine ⟨h.head_append h'.head, fun g r hflags hr => ?_⟩
  rw [List.append_assoc, ← pushAll_pushAll]
  exact (h.reads g (v ++ r) hflags (h'.head_append hr)).trans (h'.reads _ r hflags hr)

/-- A whole text is read as the sequence of what it spells. -/
theorem read?_eq (h : Spells w ps) : Pattern.read? w = some (sequence ps) := by
  have := h.reads start [] rfl (by simp)
  rw [List.append_nil] at this
  exact this.read?_eq

/-! ## Atoms and repetitions -/

theorem caret : Spells ['^'] [.look .textStart] :=
  ⟨by simp, fun _ _ hflags _ => .atom hflags rfl (Nat.le_refl _)⟩

theorem dollar : Spells ['$'] [.look .textEnd] :=
  ⟨by simp, fun _ _ hflags _ => .atom hflags rfl (Nat.le_refl _)⟩

theorem dot : Spells ['.'] [.set (· != '\n')] :=
  ⟨by simp, fun _ _ hflags _ => .atom hflags rfl (Nat.le_refl _)⟩

theorem dropLazy_of_head? {r : List Char} (hr : r.head? ≠ some '?') : dropLazy r = r := by
  unfold dropLazy
  split
  · exact absurd rfl hr
  · rfl

/-- A character without a meaning stands for itself. -/
theorem literal {c : Char} (hc : isMeta c = false) : Spells [c] [.set (.single c)] := by
  have hne : ∀ d ∈ metaChars, c ≠ d := by
    rintro d hd rfl
    rw [isMeta, List.contains_iff_mem.2 hd] at hc
    cases hc
  simp only [metaChars, List.forall_mem_cons] at hne
  refine ⟨by simp [hne], fun g r hflags _ => .atom hflags ?_ (Nat.le_refl _)⟩
  -- none of the branches for characters with a meaning is taken
  simp only [readToken, hne, if_false]
  rfl

/-- After a backslash a character with a meaning stands for itself. -/
theorem escaped {c : Char} (hc : isMeta c = true) : Spells ['\\', c] [.set (.single c)] := by
  refine ⟨by simp, fun g r hflags _ => .atom hflags ?_ (Nat.le_succ _)⟩
  have hescape : readEscape .initial (c :: r) = some (.char c false, r) := by
    simp [readEscape, isPlainEscape, hc]
  show readToken .initial ('\\' :: c :: r) = _
  have hliteral : Escape.toPattern? .initial (.char c false) = some (.set (.single c)) := rfl
  simp [readToken, hescape, hliteral]

/-- The class of all characters but a dot. -/
theorem noDot : Spells ['[', '^', '.', ']'] [.set (· != '.')] := by
  refine ⟨by simp, fun g r hflags _ => .atom hflags ?_ ?_⟩
  · have hclass : readClass .initial ('^' :: '.' :: ']' :: r) = some ((· != '.'), r) := rfl
    show readToken .initial ('[' :: '^' :: '.' :: ']' :: r) = _
    simp [readToken, hclass]
  · rw [List.append_eq, List.length_append]
    omega

/-- A star repeats what stands before it. -/
theorem star {p : Pattern} (h : Spells w [p]) : Spells (w ++ ['*']) [.iter p 0 none] := by
  refine ⟨h.head_append (by simp), fun g r hflags hr => ?_⟩
  have htoken : readToken .initial ('*' :: r) = some (.iter 0 none, r) := by
    simp [readToken, dropLazy_of_head? hr]
  rw [List.append_assoc]
  exact (h.reads g ('*' :: r) hflags (by simp)).trans (.token hflags htoken rfl (Nat.le_refl _))

/-! ## Groups -/

theorem readGroup_of_head? {s : List Char} (hs : s.head? ≠ some '?') :
    readGroup .initial s = some (.enter .initial, s) := by
  rw [readGroup, Flags.skip_of_not_extended rfl]
  split <;> first | rfl | exact absurd rfl hs

/-- Inside a group the flags are those before it, and at its end it is one member. -/
theorem reads_group (h : Spells w ps) {g : Groups} {c : Char} {s r : List Char}
    (hflags : g.inner.flags = .initial)
    (henter : readToken .initial (c :: s) = some (.enter .initial, w ++ ')' :: r))
    (hs : (w ++ ')' :: r).length ≤ s.length) : g.Reads (c :: s) (g.pushAll [sequence ps]) r := by
  -- what the group holds is read as if nothing stood before it
  let inside : Groups := ⟨.empty .initial, g.inner :: g.outer, g.names⟩
  have hw : inside.Reads (w ++ ')' :: r) (inside.pushAll ps) (')' :: r) :=
    h.reads inside (')' :: r) rfl (by simp)
  have hleave : (inside.pushAll ps).take .leave = some (g.pushAll [sequence ps]) := by
    simp [inside, pushAll, take, Group.push, Group.pattern, Group.branch, Group.empty]
  exact ((Reads.token hflags henter rfl hs).trans hw).trans (.token rfl rfl hleave (Nat.le_refl _))

/-- A group that gives no name to what it holds. -/
theorem group (h : Spells w ps) : Spells ("(?:".toList ++ (w ++ [')'])) [sequence ps] := by
  refine ⟨by simp, fun g r hflags _ => ?_⟩
  have henter : readToken .initial ('(' :: '?' :: ':' :: (w ++ ')' :: r)) =
      some (.enter .initial, w ++ ')' :: r) := rfl
  simpa using h.reads_group hflags henter (by simp only [List.length_cons]; omega)

/-- A group that may be left out. -/
theorem optional (h : Spells w ps) :
    Spells ('(' :: (w ++ ")?".toList)) [.iter (sequence ps) 0 (some 1)] := by
  refine ⟨by simp, fun g r hflags hr => ?_⟩
  have henter : readToken .initial ('(' :: (w ++ ')' :: '?' :: r)) =
      some (.enter .initial, w ++ ')' :: '?' :: r) :=
    readGroup_of_head? (h.head_append (by simp))
  have htoken : readToken .initial ('?' :: r) = some (.iter 0 (some 1), r) := by
    simp [readToken, dropLazy_of_head? hr]
  have htake : (g.pushAll [sequence ps]).take (.iter 0 (some 1)) =
      some (g.pushAll [.iter (sequence ps) 0 (some 1)]) := rfl
  simpa using (h.reads_group hflags henter (Nat.le_refl _)).trans
    (.token hflags htoken htake (Nat.le_refl _))

end Spells

end Byline.Pattern

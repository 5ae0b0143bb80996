import Byline.Proofs.Source.Line
import Byline.Source.Analysis

/-!
# What a pass finds

No line is of two kinds. So a line is a package statement (`Findings.take_of_packageName?`), it
declares a type (`Findings.take_of_typeName?`), or it adds its tag or itself, as an annotation, to
the section that the pass is in (`Findings.take_of_section`). For a whole pass:

* Quiet lines may be put in and dropped (`Edited`). What is found stays the same but for the authors
  and the numbers of lines, and these go over as those of the lines do (`Findings.Alike.takeAll`).
* The lines of a section add the names in their tags and the first annotation
  (`Findings.takeAll_append`).
-/

namespace Byline.Source

/-! ## Kinds of lines -/

/-- A word that a text starts with has forms of its first two characters there. -/
theorem forms_of_dropWord? {k k' : Char} {ks s t : List Char}
    (h : dropWord? (k :: k' :: ks) s = some t) :
    ∃ c c' s', s = c :: c' :: s' ∧ (Unicode.forms k).contains c = true ∧
      (Unicode.forms k').contains c' = true := by
  match s with
  | [] => simp [dropWord?] at h
  | [c] =>
    rw [dropWord?] at h
    split at h
    · simp [dropWord?] at h
    · simp at h
  | c :: c' :: s' =>
    rw [dropWord?] at h
    split at h
    · next hc =>
      rw [dropWord?] at h
      split at h
      · next hc' => exact ⟨c, c', s', rfl, hc, hc'⟩
      · simp at h
    · simp at h

theorem packageName?_starts {line x : List Char} (h : packageName? line = some x) :
    ∃ c c' s, line = c :: c' :: s ∧ (Unicode.forms 'p').contains c = true ∧
      (Unicode.forms 'a').contains c' = true := by
  unfold packageName? at h
  rw [Option.bind_eq_bind, Option.bind_eq_some_iff] at h
  obtain ⟨s, hs, -⟩ := h
  exact forms_of_dropWord? hs

theorem typeName?_starts {line x : List Char} (h : typeName? line = some x) :
    ∃ c c' s, line = c :: c' :: s ∧ (Unicode.forms 'p').contains c = true ∧
      (Unicode.forms 'u').contains c' = true := by
  unfold typeName? at h
  split at h
  · simp at h
  · next s hs => exact forms_of_dropWord? hs

theorem isQuiet_iff {line : List Char} : isQuiet line = true ↔
    packageName? line = none ∧ isAnnotation line = false ∧ typeName? line = none := by
  simp [isQuiet, and_assoc]

theorem isAuthorLine_of_taggedName? {line x : List Char} (h : taggedName? line = some x) :
    isAuthorLine line = true := by
  unfold taggedName? at h
  split at h
  · simp at h
  · next s hs => rw [isAuthorLine, hs, Option.isSome_some]

/-- A line that is not quiet names no author. -/
theorem taggedName?_eq_none {line : List Char} (h : isQuiet line = false) :
    taggedName? line = none := by
  cases ht : taggedName? line with
  | none => rfl
  | some x =>
    rw [isQuiet_of_isAuthorLine (isAuthorLine_of_taggedName? ht)] at h
    exact absurd h.symm Bool.false_ne_true

/-- The at sign starts no word of the language. -/
theorem of_annotated {line : List Char} (h : isAnnotation line = true) :
    packageName? line = none ∧ typeName? line = none := by
  unfold isAnnotation at h
  split at h
  · constructor
    · rw [Option.eq_none_iff_forall_not_mem]
      intro x hx
      obtain ⟨c, c', s, he, hc, -⟩ := packageName?_starts hx
      rw [← (List.cons.inj he).1] at hc
      exact absurd hc (by decide)
    · rw [Option.eq_none_iff_forall_not_mem]
      intro x hx
      obtain ⟨c, c', s, he, hc, -⟩ := typeName?_starts hx
      rw [← (List.cons.inj he).1] at hc
      exact absurd hc (by decide)
  · simp at h

/-- A declaration is no package statement: their words part at the second character. -/
theorem packageName?_eq_none {line x : List Char} (h : typeName? line = some x) :
    packageName? line = none := by
  rw [Option.eq_none_iff_forall_not_mem]
  intro y hy
  obtain ⟨c, d, s, rfl, -, hd⟩ := typeName?_starts h
  obtain ⟨c', d', s', he, -, hd'⟩ := packageName?_starts hy
  have hdd : d = d' := (List.cons.inj (List.cons.inj he).2).1
  have ha : (Unicode.forms 'u').all (fun e => !(Unicode.forms 'a').contains e) = true := by decide
  have hno := List.all_eq_true.1 ha d (by simpa using hd)
  rw [hdd, hd'] at hno
  exact Bool.false_ne_true hno

/-! ## One line -/

/-- The names in the tags of the lines. -/
def tagNames (ls : List (List Char)) : List String :=
  ls.filterMap fun line => (taggedName? line).map String.ofList

/-- The number of the first annotation; the first line has number `n`. -/
def firstAnnotation? (n : Nat) : List (List Char) → Option Nat
  | [] => none
  | line :: ls => if isAnnotation line then some n else firstAnnotation? (n + 1) ls

theorem tagNames_append (ls ls' : List (List Char)) :
    tagNames (ls ++ ls') = tagNames ls ++ tagNames ls' :=
  List.filterMap_append

theorem tagNames_cons (line : List Char) (ls : List (List Char)) :
    tagNames (line :: ls) = tagNames [line] ++ tagNames ls :=
  tagNames_append [line] ls

theorem tagNames_eq_nil {ls : List (List Char)} (h : ∀ line ∈ ls, taggedName? line = none) :
    tagNames ls = [] := by
  refine List.filterMap_eq_nil_iff.2 ?_
  intro line hl
  rw [h line hl, Option.map_none]

theorem empty_notMem_tagNames (ls : List (List Char)) : "" ∉ tagNames ls := by
  intro h
  obtain ⟨line, -, hname⟩ := List.mem_filterMap.1 h
  obtain ⟨name, hname, he⟩ := Option.map_eq_some_iff.1 hname
  obtain ⟨-, -, -, -, -, hne⟩ := taggedName?_eq_some hname
  exact hne (by simpa using congrArg String.toList he)

theorem firstAnnotation?_append (n : Nat) (ls ls' : List (List Char)) :
    firstAnnotation? n (ls ++ ls') =
      (firstAnnotation? n ls).or (firstAnnotation? (n + ls.length) ls') := by
  induction ls generalizing n with
  | nil => rfl
  | cons line ls ih =>
    rw [List.cons_append, firstAnnotation?, firstAnnotation?]
    split
    · rfl
    · rw [ih, List.length_cons, Nat.add_right_comm, Nat.add_assoc]

namespace Findings

/-- The findings with names and an annotation of the section that the pass is in. -/
def add (f : Findings) (names : List String) (first : Option Nat) : Findings :=
  if f.package.isSome then
    { f with authors := Names.addAll f.authors names, annotation := f.annotation.or first }
  else
    { f with
      headerAuthors := Names.addAll f.headerAuthors names
      headerAnnotation := f.headerAnnotation.or first }

@[simp] theorem add_package (f : Findings) (names : List String) (first : Option Nat) :
    (f.add names first).package = f.package := by
  unfold add
  split <;> rfl

@[simp] theorem add_declaration (f : Findings) (names : List String) (first : Option Nat) :
    (f.add names first).declaration = f.declaration := by
  unfold add
  split <;> rfl

theorem add_nil_none (f : Findings) : f.add [] none = f := by
  unfold add
  split <;> simp [Names.addAll]

theorem add_add (f : Findings) (names more : List String) (a b : Option Nat) :
    (f.add names a).add more b = f.add (names ++ more) (a.or b) := by
  by_cases h : f.package.isSome = true
  · simp [add, h, Names.addAll, Option.or_assoc]
  · simp [add, h, Names.addAll, Option.or_assoc]

theorem take_of_packageName? {f : Findings} {line x : List Char} (n : Nat)
    (h : packageName? line = some x) : f.take n line =
      if f.package.isSome then f else { f with package := some (n, String.ofList x) } := by
  rw [take, h]

theorem take_of_typeName? {f : Findings} {line x : List Char} (n : Nat)
    (h : Source.typeName? line = some x) :
    f.take n line = { f with declaration := some (n, String.ofList x) } := by
  have hpackage := packageName?_eq_none h
  have hquiet : isQuiet line = false := by simp [isQuiet, h]
  have hannotation : isAnnotation line = false := by
    by_contra hc
    rw [(of_annotated (by simpa using hc)).2] at h
    simp at h
  rw [take, hpackage, taggedName?_eq_none hquiet, hannotation, h]
  rfl

/-- A line within a section adds its tag or its annotation, and nothing else. -/
theorem take_of_section {f : Findings} {line : List Char} (n : Nat)
    (hp : f.package.isSome = true ∨ packageName? line = none)
    (ht : Source.typeName? line = none) :
    f.take n line = f.add (tagNames [line]) (firstAnnotation? n [line]) := by
  cases hpackage : packageName? line with
  | some x =>
    -- The section is not the header, so that this statement is not the first one.
    have hquiet : isQuiet line = false := by simp [isQuiet, hpackage]
    have hannotation : isAnnotation line = false := by
      by_contra hc
      rw [(of_annotated (by simpa using hc)).1] at hpackage
      simp at hpackage
    have hsome : f.package.isSome = true := hp.resolve_right (by simp [hpackage])
    rw [take_of_packageName? n hpackage, if_pos hsome]
    simp [tagNames, taggedName?_eq_none hquiet, firstAnnotation?, hannotation, add_nil_none]
  | none =>
    rw [take, hpackage]
    cases htag : taggedName? line with
    | some x =>
      have hannotation := (isQuiet_iff.1 (isQuiet_of_isAuthorLine
        (isAuthorLine_of_taggedName? htag))).2.1
      simp [tagNames, htag, firstAnnotation?, hannotation, add, Names.addAll]
    | none =>
      by_cases ha : isAnnotation line = true
      · simp [tagNames, htag, firstAnnotation?, ha, add, Names.addAll]
      · simp [tagNames, htag, firstAnnotation?, ha, ht, add_nil_none]

theorem take_of_isQuiet {f : Findings} {line : List Char} (n : Nat) (h : isQuiet line = true) :
    f.take n line = f.add (tagNames [line]) none := by
  obtain ⟨hp, ha, ht⟩ := isQuiet_iff.1 h
  rw [take_of_section n (.inr hp) ht]
  simp [firstAnnotation?, ha]

/-! ## The lines of a section -/

/-- A pass goes through lines of one section at once. -/
theorem takeAll_append {f : Findings} (n : Nat) {ls : List (List Char)}
    (rest : List (List Char)) (hf : f.declaration = none)
    (hp : ∀ line ∈ ls, f.package.isSome = true ∨ packageName? line = none)
    (ht : ∀ line ∈ ls, Source.typeName? line = none) :
    f.takeAll n (ls ++ rest) =
      (f.add (tagNames ls) (firstAnnotation? n ls)).takeAll (n + ls.length) rest := by
  induction ls generalizing f n with
  | nil =>
    have hnil : f.add (tagNames []) (firstAnnotation? n []) = f := add_nil_none f
    rw [hnil]
    rfl
  | cons line ls ih =>
    have hline := take_of_section n (hp line List.mem_cons_self) (ht line List.mem_cons_self)
    have hd : (f.take n line).declaration = none := by rw [hline, add_declaration, hf]
    have hfirst : firstAnnotation? n (line :: ls) =
        (firstAnnotation? n [line]).or (firstAnnotation? (n + 1) ls) :=
      firstAnnotation?_append n [line] ls
    rw [List.cons_append, takeAll, hd, Option.isSome_none, if_neg Bool.false_ne_true,
      ih (n + 1) hd, hline, add_add, ← tagNames_cons, ← hfirst, List.length_cons, Nat.add_right_comm,
      Nat.add_assoc]
    · intro line' hl
      rw [hline, add_package]
      exact hp line' (List.mem_cons_of_mem line hl)
    · intro line' hl
      exact ht line' (List.mem_cons_of_mem line hl)

theorem takeAll_of_typeName? {f : Findings} {line x : List Char} (n : Nat)
    (h : Source.typeName? line = some x) (rest : List (List Char)) :
    f.takeAll n (line :: rest) = { f with declaration := some (n, String.ofList x) } := by
  rw [takeAll, take_of_typeName? n h]
  rfl

theorem takeAll_of_packageName? {f : Findings} {line x : List Char} (n : Nat)
    (hf : f.declaration = none) (hp : f.package = none) (h : packageName? line = some x)
    (rest : List (List Char)) : f.takeAll n (line :: rest) =
      { f with package := some (n, String.ofList x) }.takeAll (n + 1) rest := by
  rw [takeAll, take_of_packageName? n h, hp]
  simp [hf]

/-- What is found in the header and the package statement below it. -/
def ofHeader (header : List (List Char)) (name : List Char) : Findings where
  package := some (header.length, String.ofList name)
  headerAuthors := Names.addAll [] (tagNames header)
  headerAnnotation := firstAnnotation? 0 header

theorem takeAll_ofHeader {header : List (List Char)} {line name : List Char}
    (hp : ∀ l ∈ header, packageName? l = none) (ht : ∀ l ∈ header, Source.typeName? l = none)
    (h : packageName? line = some name) (rest : List (List Char)) :
    takeAll {} 0 (header ++ line :: rest) =
      (ofHeader header name).takeAll (header.length + 1) rest := by
  rw [takeAll_append 0 _ rfl (fun l hl => .inr (hp l hl)) ht, Nat.zero_add,
    takeAll_of_packageName? _ rfl rfl h]
  rfl

/-! ## Quiet lines put in and dropped -/

/-- The same findings but for the authors and the numbers of lines, which go over by `r`. -/
structure Alike (r : Nat → Nat → Prop) (f g : Findings) : Prop where
  package : Option.Rel (fun p q => r p.1 q.1 ∧ p.2 = q.2) f.package g.package
  annotation : Option.Rel r f.annotation g.annotation
  headerAnnotation : Option.Rel r f.headerAnnotation g.headerAnnotation
  declaration : Option.Rel (fun p q => r p.1 q.1 ∧ p.2 = q.2) f.declaration g.declaration

end Findings

/-- Quiet lines put in and dropped, between lines with numbers from `n` and from `m`. The number of
a line that is not quiet goes over by `r`. -/
inductive Edited (r : Nat → Nat → Prop) : Nat → Nat → List (List Char) → List (List Char) → Prop
  | nil {n m : Nat} : Edited r n m [] []
  | keep {n m : Nat} {line : List Char} {xs ys : List (List Char)}
    (h : isQuiet line = false → r n m) (rest : Edited r (n + 1) (m + 1) xs ys) :
    Edited r n m (line :: xs) (line :: ys)
  | drop {n m : Nat} {line : List Char} {xs ys : List (List Char)}
    (h : isQuiet line = true) (rest : Edited r (n + 1) m xs ys) : Edited r n m (line :: xs) ys
  | put {n m : Nat} {line : List Char} {xs ys : List (List Char)}
    (h : isQuiet line = true) (rest : Edited r n (m + 1) xs ys) : Edited r n m xs (line :: ys)

section Rel

variable {α β : Type} {r : α → β → Prop} {a a' : Option α} {b b' : Option β}

theorem isSome_eq_of_rel (h : Option.Rel r a b) : a.isSome = b.isSome := by
  cases h with
  | some _ => rfl
  | none => rfl

theorem rel_or (h : Option.Rel r a b) (h' : Option.Rel r a' b') :
    Option.Rel r (a.or a') (b.or b') := by
  cases h with
  | some h => exact .some h
  | none => exact h'

theorem rel_map {γ δ : Type} {s : γ → δ → Prop} {f : α → γ} {g : β → δ}
    (h : Option.Rel r a b) (hs : ∀ x y, r x y → s (f x) (g y)) :
    Option.Rel s (a.map f) (b.map g) := by
  cases h with
  | some h => exact .some (hs _ _ h)
  | none => exact .none

end Rel

namespace Findings.Alike

variable {r : Nat → Nat → Prop} {f g : Findings}

/-- Before any line nothing is found. -/
theorem empty : Alike r {} {} :=
  ⟨.none, .none, .none, .none⟩

theorem add (h : Alike r f g) (xs ys : List String) {a b : Option Nat} (hab : Option.Rel r a b) :
    Alike r (f.add xs a) (g.add ys b) := by
  have hsome := isSome_eq_of_rel h.package
  unfold Findings.add
  rw [← hsome]
  split
  · exact ⟨h.package, rel_or h.annotation hab, h.headerAnnotation, h.declaration⟩
  · exact ⟨h.package, h.annotation, rel_or h.headerAnnotation hab, h.declaration⟩

theorem add_left (h : Alike r f g) (xs : List String) : Alike r (f.add xs none) g := by
  have := h.add xs [] .none
  rwa [add_nil_none] at this

theorem add_right (h : Alike r f g) (ys : List String) : Alike r f (g.add ys none) := by
  have := h.add [] ys .none
  rwa [add_nil_none] at this

theorem take (h : Alike r f g) {n m : Nat} {line : List Char}
    (hr : isQuiet line = false → r n m) : Alike r (f.take n line) (g.take m line) := by
  by_cases hquiet : isQuiet line = true
  · rw [take_of_isQuiet n hquiet, take_of_isQuiet m hquiet]
    exact h.add _ _ .none
  have hnm : r n m := hr (by simpa using hquiet)
  cases ht : Source.typeName? line with
  | some x =>
    rw [take_of_typeName? n ht, take_of_typeName? m ht]
    exact ⟨h.package, h.annotation, h.headerAnnotation, .some ⟨hnm, rfl⟩⟩
  | none =>
    cases hp : packageName? line with
    | some x =>
      rw [take_of_packageName? n hp, take_of_packageName? m hp, ← isSome_eq_of_rel h.package]
      split
      · exact h
      · exact ⟨.some ⟨hnm, rfl⟩, h.annotation, h.headerAnnotation, h.declaration⟩
    | none =>
      rw [take_of_section n (.inr hp) ht, take_of_section m (.inr hp) ht]
      refine h.add _ _ ?_
      simp only [firstAnnotation?]
      split
      · exact .some hnm
      · exact .none

theorem takeAll {n m : Nat} {xs ys : List (List Char)} (he : Edited r n m xs ys)
    (h : Alike r f g) (hf : f.declaration = none) : Alike r (f.takeAll n xs) (g.takeAll m ys) := by
  have hg : g.declaration = none := by
    have := isSome_eq_of_rel h.declaration
    simpa [hf] using this.symm
  induction he generalizing f g with
  | nil => exact h
  | @keep n m line xs ys hr rest ih =>
    have ht := h.take hr
    -- A declaration ends both passes at this line.
    rw [Findings.takeAll, Findings.takeAll, ← isSome_eq_of_rel ht.declaration]
    split
    · exact ht
    · next hd =>
      have hd' : (g.take m line).declaration.isSome = false := by
        rw [← isSome_eq_of_rel ht.declaration]
        simpa using hd
      exact ih ht (by simpa using hd) (by simpa using hd')
  | @drop n m line xs ys hq rest ih =>
    have hd : (f.take n line).declaration = none := by
      rw [take_of_isQuiet n hq, add_declaration, hf]
    rw [Findings.takeAll, hd, Option.isSome_none, if_neg Bool.false_ne_true]
    refine ih ?_ hd hg
    rw [take_of_isQuiet n hq]
    exact h.add_left _
  | @put n m line xs ys hq rest ih =>
    have hd : (g.take m line).declaration = none := by
      rw [take_of_isQuiet m hq, add_declaration, hg]
    rw [Findings.takeAll, hd, Option.isSome_none, if_neg Bool.false_ne_true]
    refine ih ?_ hf hd
    rw [take_of_isQuiet m hq]
    exact h.add_right _

theorem typeName?_eq (h : Alike r f g) (stem : String) : f.typeName? stem = g.typeName? stem := by
  obtain ⟨p, -, -, d⟩ := h
  unfold Findings.typeName?
  generalize f.package = fp at p
  generalize g.package = gp at p
  generalize f.declaration = fd at d
  generalize g.declaration = gd at d
  cases p with
  | some hp =>
    cases d with
    | some hd => simp only [hp.2, hd.2]
    | none => simp only [hp.2]
  | none =>
    cases d with
    | some hd => simp only [hd.2]
    | none => rfl

theorem anchor (h : Alike r f g) : Option.Rel r f.anchor g.anchor := by
  have hp : Option.Rel r (f.package.map (·.1)) (g.package.map (·.1)) :=
    rel_map h.package fun _ _ hr => hr.1
  have hd : Option.Rel r (f.declaration.map (·.1)) (g.declaration.map (·.1)) :=
    rel_map h.declaration fun _ _ hr => hr.1
  have hrest := rel_or hd (rel_or h.headerAnnotation hp)
  unfold Findings.anchor
  rw [← isSome_eq_of_rel h.package]
  split
  · exact rel_or h.annotation hrest
  · exact rel_or h.headerAnnotation hrest

/-- The analysis goes over: the same names, and an anchor that goes over by `r`. -/
theorem analysis? (h : Alike r f g) {stem : String} {a : Analysis}
    (ha : f.analysis? stem = some a) : ∃ b, g.analysis? stem = some b ∧
      b.packageName = a.packageName ∧ b.typeName = a.typeName ∧
      Option.Rel r a.anchor b.anchor := by
  unfold Findings.analysis? at ha ⊢
  obtain ⟨name, hname, rfl⟩ := Option.map_eq_some_iff.1 ha
  rw [← h.typeName?_eq stem, hname]
  have hpackage : f.package.map (·.2) = g.package.map (·.2) := by
    have hp := h.package
    generalize f.package = p at hp
    generalize g.package = q at hp
    cases hp with
    | some hr => exact congrArg some hr.2
    | none => rfl
  exact ⟨_, rfl, hpackage.symm, rfl, h.anchor⟩

end Findings.Alike

namespace Edited

variable {r : Nat → Nat → Prop}

theorem append {n m : Nat} {xs ys us vs : List (List Char)} (h : Edited r n m xs ys)
    (h' : Edited r (n + xs.length) (m + ys.length) us vs) :
    Edited r n m (xs ++ us) (ys ++ vs) := by
  induction h with
  | nil => exact h'
  | @keep n m line xs ys hr rest ih =>
    refine .keep hr (ih ?_)
    rwa [Nat.add_right_comm n, Nat.add_right_comm m]
  | @drop n m line xs ys hq rest ih =>
    refine .drop hq (ih ?_)
    rwa [Nat.add_right_comm n]
  | @put n m line xs ys hq rest ih =>
    refine .put hq (ih ?_)
    rwa [Nat.add_right_comm m]

theorem refl {n m : Nat} {xs : List (List Char)}
    (h : ∀ (i : Nat) (line : List Char), xs[i]? = some line → isQuiet line = false →
      r (n + i) (m + i)) : Edited r n m xs xs := by
  induction xs generalizing n m with
  | nil => exact .nil
  | cons line xs ih =>
    refine .keep (h 0 line rfl) (ih ?_)
    intro i line' hi hq
    have := h (i + 1) line' hi hq
    rwa [Nat.add_right_comm n, Nat.add_right_comm m]

theorem putAll {n m : Nat} {xs ys : List (List Char)} (ts : List (List Char))
    (ht : ∀ line ∈ ts, isQuiet line = true) (h : Edited r n (m + ts.length) xs ys) :
    Edited r n m xs (ts ++ ys) := by
  induction ts generalizing m with
  | nil => exact h
  | cons line ts ih =>
    refine .put (ht line List.mem_cons_self) (ih ?_ ?_)
    · intro line' hl
      exact ht line' (List.mem_cons_of_mem line hl)
    · rwa [Nat.add_right_comm m]

end Edited

/-- A file is named for its declaration or for its package, and either is an anchor. -/
theorem Findings.exists_anchor {f : Findings} {stem : String} {a : Analysis}
    (h : f.analysis? stem = some a) : ∃ n, f.anchor = some n ∧ a.anchor = some n := by
  obtain ⟨name, hname, rfl⟩ := Option.map_eq_some_iff.1 h
  unfold Findings.typeName? at hname
  have hsome : f.anchor.isSome = true := by
    unfold anchor
    cases hd : f.declaration with
    | some d => simp
    | none =>
      cases hp : f.package with
      | some p => simp
      | none => simp [hd, hp] at hname
  obtain ⟨n, hn⟩ := Option.isSome_iff_exists.1 hsome
  exact ⟨n, hn, hn⟩

/-- The anchor of a file is one of its lines, and that is not quiet. -/
theorem anchor_takeAll {xs : List (List Char)} {n : Nat}
    (h : (Findings.takeAll {} 0 xs).anchor = some n) :
    ∃ line, xs[n]? = some line ∧ isQuiet line = false := by
  -- The pass is like itself, with numbers of lines that are not quiet only.
  let r : Nat → Nat → Prop := fun i _ => ∃ line, xs[i]? = some line ∧ isQuiet line = false
  have hr : Edited r 0 0 xs xs := by
    refine .refl fun i line hi hq => ⟨line, ?_, hq⟩
    rwa [Nat.zero_add]
  have hself : Findings.Alike r (Findings.takeAll {} 0 xs) (Findings.takeAll {} 0 xs) :=
    Findings.Alike.takeAll hr .empty rfl
  have hanchor := hself.anchor
  rw [h] at hanchor
  cases hanchor with
  | some hn => exact hn

end Byline.Source

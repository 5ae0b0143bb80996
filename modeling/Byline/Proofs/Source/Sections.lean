import Byline.Proofs.Source.Findings

/-!
# Sections of a source file

A file that declares a type is cut into an opening, a section, the declaration and what is below it
(`exists_cut`). The opening ends with the package statement, or is empty in a file without one. The
authors that count are those named in the section, and the anchor is its first annotation or the
declaration (`Cut.allAuthors_eq`, `Cut.anchor_eq`).

A file without a type is an opening and a section. The authors are those named in the section in
either case, and the anchor is no further down than the section ends (`exists_section`).
-/

namespace Byline.Source

/-- The lines down to the first package statement, or none. -/
inductive Opening : List (List Char) → Prop
  | nil : Opening []
  | package {header : List (List Char)} {line name : List Char}
    (hp : ∀ l ∈ header, packageName? l = none) (ht : ∀ l ∈ header, typeName? l = none)
    (h : packageName? line = some name) : Opening (header ++ [line])

/-- What is found in an opening. -/
structure Findings.Opened (top : List (List Char)) (f : Findings) : Prop where
  declaration : f.declaration = none
  authors : f.authors = []
  annotation : f.annotation = none
  headerAuthors : top = [] → f.headerAuthors = []
  headerAnnotation : top = [] → f.headerAnnotation = none
  package : f.package.map (·.1 + 1) = if top = [] then none else some top.length

theorem Findings.Opened.isSome_package {top : List (List Char)} {f : Findings} (h : f.Opened top) :
    f.package.isSome = true ↔ top ≠ [] := by
  have := congrArg Option.isSome h.package
  rw [Option.isSome_map] at this
  rw [this]
  split <;> simp [*]

/-- A package statement in the section is not the first one. -/
theorem Findings.Opened.isSome_package_or {top body : List (List Char)} {f : Findings}
    (h : f.Opened top) (hbody : top = [] → ∀ l ∈ body, packageName? l = none) :
    ∀ l ∈ body, f.package.isSome = true ∨ packageName? l = none := by
  intro l hl
  rw [h.isSome_package]
  by_cases he : top = []
  · exact .inr (hbody he l hl)
  · exact .inl he

/-- Only the names of the section count. -/
theorem Findings.Opened.allAuthors_add {top : List (List Char)} {f : Findings} (h : f.Opened top)
    (names : List String) (first : Option Nat) :
    (f.add names first).allAuthors = Names.addAll [] names := by
  rw [allAuthors, add]
  by_cases hp : f.package.isSome = true
  · simp [hp, h.authors]
  · have htop : top = [] := by
      by_contra hne
      exact hp (h.isSome_package.2 hne)
    simp [hp, h.headerAuthors htop]

theorem Opening.takeAll {top : List (List Char)} (h : Opening top) :
    ∃ f : Findings, f.Opened top ∧ ∀ rest, Findings.takeAll {} 0 (top ++ rest) =
      f.takeAll top.length rest := by
  cases h with
  | nil => exact ⟨{}, ⟨rfl, rfl, rfl, fun _ => rfl, fun _ => rfl, rfl⟩, fun rest => rfl⟩
  | @package header line name hp ht h =>
    refine ⟨.ofHeader header name, ?_, ?_⟩
    · exact ⟨rfl, rfl, rfl, fun he => by simp at he, fun he => by simp at he,
        by simp [Findings.ofHeader]⟩
    · intro rest
      rw [List.append_assoc, List.singleton_append, Findings.takeAll_ofHeader hp ht h,
        List.length_append, List.length_singleton]

/-- An opening, the section below it and the declaration of a type. -/
structure Cut (top body : List (List Char)) (line : List Char) : Prop where
  opening : Opening top
  /-- Without an opening there is no package statement. -/
  package : top = [] → ∀ l ∈ body, packageName? l = none
  type : ∀ l ∈ body, typeName? l = none
  declares : (typeName? line).isSome = true

/-- Lines without a type are an opening, down to their first package statement, and others. -/
theorem exists_opening {ls : List (List Char)} (h : ∀ l ∈ ls, typeName? l = none) :
    ∃ top body, ls = top ++ body ∧ Opening top ∧ (top = [] → ∀ l ∈ body, packageName? l = none) := by
  cases hfind : ls.find? (fun l => (packageName? l).isSome) with
  | none =>
    refine ⟨[], ls, rfl, .nil, fun _ l hl => ?_⟩
    simpa using List.find?_eq_none.1 hfind l hl
  | some statement =>
    obtain ⟨hp, header, body, rfl, hheader⟩ := List.find?_eq_some_iff_append.1 hfind
    obtain ⟨name, hname⟩ := Option.isSome_iff_exists.1 hp
    refine ⟨header ++ [statement], body, by simp, .package ?_ ?_ hname, fun he => by simp at he⟩
    · intro l hl
      simpa using hheader l hl
    · intro l hl
      exact h l (List.mem_append_left _ hl)

/-- Every text that declares a type is cut so, at its first package statement, if that is above the
type, and at the first type. -/
theorem exists_cut {texts : List (List Char)} (h : ∃ l ∈ texts, (typeName? l).isSome = true) :
    ∃ top body line rest, texts = top ++ (body ++ line :: rest) ∧ Cut top body line := by
  obtain ⟨l, hl, hs⟩ := h
  obtain ⟨line, hline⟩ := Option.isSome_iff_exists.1
    ((List.find?_isSome (p := fun l => (typeName? l).isSome)).2 ⟨l, hl, hs⟩)
  obtain ⟨hd, above, rest, rfl, habove⟩ := List.find?_eq_some_iff_append.1 hline
  have htype : ∀ l ∈ above, typeName? l = none := by
    intro l hl
    simpa using habove l hl
  -- A package statement below the type is not looked for, as the pass ends there.
  obtain ⟨top, body, rfl, hopening, hpackage⟩ := exists_opening htype
  refine ⟨top, body, line, rest, List.append_assoc top body _, hopening, hpackage, ?_, hd⟩
  intro l hl
  exact htype l (List.mem_append_right top hl)

theorem firstAnnotation?_bounds {n i : Nat} {ls : List (List Char)}
    (h : firstAnnotation? n ls = some i) : n ≤ i ∧ i < n + ls.length := by
  induction ls generalizing n with
  | nil => simp [firstAnnotation?] at h
  | cons line ls ih =>
    rw [firstAnnotation?] at h
    rw [List.length_cons]
    split at h
    · have := Option.some.inj h
      omega
    · have := ih h
      omega

namespace Cut

variable {top body : List (List Char)} {line : List Char}

/-- A pass over the lines finds what the opening has, the section and the declaration. -/
theorem takeAll_eq (c : Cut top body line) (rest : List (List Char)) :
    ∃ (f : Findings) (name : String), f.Opened top ∧ Findings.takeAll {} 0 (top ++ (body ++ line :: rest)) =
      { f.add (tagNames body) (firstAnnotation? top.length body) with
        declaration := some (top.length + body.length, name) } := by
  obtain ⟨f, hf, hrest⟩ := c.opening.takeAll
  obtain ⟨name, hname⟩ := Option.isSome_iff_exists.1 c.declares
  refine ⟨f, String.ofList name, hf, ?_⟩
  rw [hrest, Findings.takeAll_append _ _ hf.declaration (hf.isSome_package_or c.package) c.type,
    Findings.takeAll_of_typeName? _ hname]

theorem allAuthors_eq (c : Cut top body line) (rest : List (List Char)) :
    (Findings.takeAll {} 0 (top ++ (body ++ line :: rest))).allAuthors =
      Names.addAll [] (tagNames body) := by
  obtain ⟨f, name, hf, he⟩ := c.takeAll_eq rest
  rw [he]
  exact hf.allAuthors_add _ _

theorem anchor_eq (c : Cut top body line) (rest : List (List Char)) :
    (Findings.takeAll {} 0 (top ++ (body ++ line :: rest))).anchor =
      (firstAnnotation? top.length body).or (some (top.length + body.length)) := by
  obtain ⟨f, name, hf, he⟩ := c.takeAll_eq rest
  rw [he, Findings.anchor, Findings.add]
  by_cases hp : f.package.isSome = true
  · simp [hp, hf.annotation]
  · have htop : top = [] := by
      by_contra hne
      exact hp (hf.isSome_package.2 hne)
    simp [hp, hf.headerAnnotation htop]

/-- The anchor is in the section, or it is the declaration. -/
theorem anchor_bounds (c : Cut top body line) {rest : List (List Char)} {n : Nat}
    (h : (Findings.takeAll {} 0 (top ++ (body ++ line :: rest))).anchor = some n) :
    top.length ≤ n ∧ n ≤ top.length + body.length := by
  rw [c.anchor_eq rest] at h
  cases hf : firstAnnotation? top.length body with
  | none =>
    rw [hf] at h
    obtain rfl := Option.some.inj h
    omega
  | some i =>
    rw [hf] at h
    obtain rfl := Option.some.inj h
    have := firstAnnotation?_bounds hf
    omega

theorem package_eq (c : Cut top body line) (rest : List (List Char)) :
    (Findings.takeAll {} 0 (top ++ (body ++ line :: rest))).package.map (·.1 + 1) =
      if top = [] then none else some top.length := by
  obtain ⟨f, name, hf, he⟩ := c.takeAll_eq rest
  rw [he]
  simpa using hf.package

end Cut

/-- The lines of a text: an opening, the section whose names count, and what is below it. The anchor
is above the end of the section or right below it. -/
theorem exists_section (texts : List (List Char)) : ∃ top body rest,
    texts = top ++ (body ++ rest) ∧ Opening top ∧
    (Findings.takeAll {} 0 texts).package.map (·.1 + 1) =
      (if top = [] then none else some top.length) ∧
    (Findings.takeAll {} 0 texts).allAuthors = Names.addAll [] (tagNames body) ∧
    ∀ n, (Findings.takeAll {} 0 texts).anchor = some n → n ≤ top.length + body.length := by
  by_cases htype : ∃ l ∈ texts, (typeName? l).isSome = true
  · obtain ⟨top, body, line, rest, rfl, c⟩ := exists_cut htype
    refine ⟨top, body, line :: rest, rfl, c.opening, c.package_eq rest, c.allAuthors_eq rest, ?_⟩
    intro n hn
    exact (c.anchor_bounds hn).2
  · have hnone : ∀ l ∈ texts, typeName? l = none := by
      intro l hl
      by_contra hl'
      exact htype ⟨l, hl, Option.isSome_iff_ne_none.2 hl'⟩
    obtain ⟨top, body, rfl, hopening, hpackage⟩ := exists_opening hnone
    obtain ⟨f, hf, hrest⟩ := hopening.takeAll
    have hfound : Findings.takeAll {} 0 (top ++ body) =
        f.add (tagNames body) (firstAnnotation? top.length body) := by
      have hall := Findings.takeAll_append top.length [] hf.declaration
        (hf.isSome_package_or hpackage) fun l hl => hnone l (List.mem_append_right top hl)
      rw [hrest, ← List.append_nil body, hall, List.append_nil]
      rfl
    refine ⟨top, body, [], by simp, hopening, ?_, ?_, ?_⟩
    · rw [hfound, Findings.add_package, hf.package]
    · rw [hfound, hf.allAuthors_add]
    · -- Nothing is below the section, and the anchor is one of the lines.
      intro n hn
      obtain ⟨line, hline, -⟩ := anchor_takeAll hn
      have hlt := (List.getElem?_eq_some_iff.1 hline).1
      rw [List.length_append] at hlt
      omega

end Byline.Source

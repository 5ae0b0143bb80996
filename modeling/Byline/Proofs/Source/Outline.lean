import Byline.Proofs.Record.Names
import Byline.Proofs.Source.Findings

/-!
# The outline of a source file

What a source file says, told by first lines. The first declaration of a type ends what counts. The
first package statement above it ends the header, and the body is what is below the header, or all
that counts in a file without a package. `outline` gives the analysis in these words: the names, the
authors of the body, and the anchor as the first annotation of the body, or else the declaration,
the first annotation of the header, the package statement.

One pass over the lines finds just that (`analyzeText_eq_outline`), since no line is of two kinds.
-/

namespace Byline.Source

/-! ## First lines -/

section First

variable {α : Type} {read : List Char → Option α}

/-- Either nothing is read of any line, or there is a first line that something is read of. -/
theorem first_cases (read : List Char → Option α) (ls : List (List Char)) :
    (∀ l ∈ ls, read l = none) ∨ ∃ above line below x, ls = above ++ line :: below ∧
      (∀ l ∈ above, read l = none) ∧ read line = some x := by
  cases h : ls.findSome? read with
  | none => exact .inl (List.findSome?_eq_none_iff.1 h)
  | some x =>
    obtain ⟨above, line, below, rfl, hx, habove⟩ := List.findSome?_eq_some_iff.1 h
    exact .inr ⟨above, line, below, x, rfl, habove, hx⟩

theorem findIdx?_isSome_eq_none {ls : List (List Char)} (h : ∀ l ∈ ls, read l = none) :
    ls.findIdx? (fun l => (read l).isSome) = none := by
  rw [List.findIdx?_eq_none_iff]
  intro l hl
  rw [h l hl, Option.isSome_none]

theorem findIdx?_isSome_append {above below : List (List Char)} {line : List Char} {x : α}
    (h : ∀ l ∈ above, read l = none) (hx : read line = some x) :
    (above ++ line :: below).findIdx? (fun l => (read l).isSome) = some above.length := by
  rw [List.findIdx?_append, findIdx?_isSome_eq_none h, List.findIdx?_cons, hx]
  simp

theorem findSome?_append_cons {above below : List (List Char)} {line : List Char} {x : α}
    (h : ∀ l ∈ above, read l = none) (hx : read line = some x) :
    (above ++ line :: below).findSome? read = some x := by
  rw [List.findSome?_append, List.findSome?_eq_none_iff.2 h, List.findSome?_cons, hx]
  rfl

end First

theorem firstAnnotation?_eq (n : Nat) (ls : List (List Char)) :
    firstAnnotation? n ls = (ls.findIdx? isAnnotation).map (n + ·) := by
  induction ls generalizing n with
  | nil => rfl
  | cons line ls ih =>
    rw [firstAnnotation?, List.findIdx?_cons, ih]
    split_ifs
    · rfl
    · rw [Option.map_map]
      congr 1
      funext i
      exact Nat.add_right_comm n 1 i

/-! ## The outline -/

/-- Is the line a package statement, an author tag, an annotation, a declaration of a type? -/
def kinds (line : List Char) : List Bool :=
  [(packageName? line).isSome, isAuthorLine line, isAnnotation line, (typeName? line).isSome]

/-- The number of the first declaration of a type. -/
def typeLine? (ls : List (List Char)) : Option Nat := ls.findIdx? fun l => (typeName? l).isSome

/-- The lines that count: those above the first declaration of a type, or all. -/
def counted (ls : List (List Char)) : List (List Char) :=
  ls.takeWhile fun l => (typeName? l).isNone

/-- The number of the first package statement. -/
def packageLine? (ls : List (List Char)) : Option Nat :=
  ls.findIdx? fun l => (packageName? l).isSome

/-- The lines above the package statement; there are none without one. -/
def header (ls : List (List Char)) : List (List Char) := ls.take ((packageLine? ls).getD 0)

/-- The number of the first line of the body. -/
def bodyStart (ls : List (List Char)) : Nat := ((packageLine? ls).map (· + 1)).getD 0

/-- The lines below the package statement, or all lines without one. -/
def body (ls : List (List Char)) : List (List Char) := ls.drop (bodyStart ls)

/-- The dotted name of a type from its package, its short name and the stem of the file. -/
def dottedName? (package short : Option String) (stem : String) : Option String :=
  match package, short with
  | some package, some short => some (package ++ "." ++ short)
  | none, some short => some short
  | some package, none => if stem = "" then none else some (package ++ "." ++ stem)
  | none, none => none

/-- The line that the authorship block stands before, from the lines that count and the number of
the declaration. -/
def anchorLine? (above : List (List Char)) (type : Option Nat) : Option Nat :=
  (((body above).findIdx? isAnnotation).map (bodyStart above + ·)).or
    (type.or (((header above).findIdx? isAnnotation).or (packageLine? above)))

/-- The analysis of a file with these lines and that stem. -/
def outline (ls : List (List Char)) (stem : String) : Option Analysis :=
  let above := counted ls
  let package := (above.findSome? packageName?).map String.ofList
  let short := (ls.findSome? typeName?).map String.ofList
  (dottedName? package short stem).map fun name =>
    ⟨package, name, (tagNames (body above)).eraseDups, anchorLine? above (typeLine? ls)⟩

theorem counted_eq_self {ls : List (List Char)} (h : ∀ l ∈ ls, typeName? l = none) :
    counted ls = ls := by
  rw [counted, List.takeWhile_eq_self_iff]
  intro l hl
  rw [h l hl, Option.isNone_none]

theorem counted_append {above below : List (List Char)} {line x : List Char}
    (h : ∀ l ∈ above, typeName? l = none) (hx : typeName? line = some x) :
    counted (above ++ line :: below) = above := by
  have habove : ∀ l ∈ above, (typeName? l).isNone = true := by
    intro l hl
    rw [h l hl, Option.isNone_none]
  rw [counted, List.takeWhile_append_of_pos habove, List.takeWhile_cons_of_neg (by simp [hx]),
    List.append_nil]

section Package

variable {top below : List (List Char)} {line x : List Char}

theorem packageLine?_append (hp : ∀ l ∈ top, packageName? l = none) (hx : packageName? line = some x) :
    packageLine? (top ++ line :: below) = some top.length := findIdx?_isSome_append hp hx

theorem header_append (hp : ∀ l ∈ top, packageName? l = none) (hx : packageName? line = some x) :
    header (top ++ line :: below) = top := by
  rw [header, packageLine?_append hp hx, Option.getD_some, List.take_left]

theorem bodyStart_append (hp : ∀ l ∈ top, packageName? l = none) (hx : packageName? line = some x) :
    bodyStart (top ++ line :: below) = top.length + 1 := by
  rw [bodyStart, packageLine?_append hp hx]
  rfl

theorem body_append (hp : ∀ l ∈ top, packageName? l = none) (hx : packageName? line = some x) :
    body (top ++ line :: below) = below := by
  rw [body, bodyStart_append hp hx, List.drop_append]
  simp

end Package

/-! ## Kinds of lines -/

/-- No line is of two kinds. -/
theorem count_kinds_le (line : List Char) : (kinds line).count true ≤ 1 := by
  unfold kinds
  cases ht : typeName? line with
  | some x =>
    have hp := packageName?_eq_none ht
    have hquiet : isQuiet line = false := by simp [isQuiet, ht]
    have htag : isAuthorLine line = false := isAuthorLine_eq_false hquiet
    have ha : isAnnotation line = false := by
      by_contra hc
      rw [(of_annotated (by simpa using hc)).2] at ht
      simp at ht
    simp [hp, htag, ha]
  | none =>
    by_cases htag : isAuthorLine line = true
    · obtain ⟨hp, ha, -⟩ := isQuiet_iff.1 (isQuiet_of_isAuthorLine htag)
      simp [hp, ha, htag]
    · by_cases ha : isAnnotation line = true
      · simp [(of_annotated ha).1, ha, htag]
      · cases packageName? line <;> simp [ha, htag]

/-! ## What the pass finds -/

namespace Findings

/-- What is found in lines that declare no type. -/
def ofAbove (above : List (List Char)) : Findings :=
  let top : Findings :=
    match above.findSome? packageName? with
    | none => {}
    | some name => ofHeader (header above) name
  top.add (tagNames (Source.body above)) (firstAnnotation? (bodyStart above) (Source.body above))

theorem declaration_ofAbove (above : List (List Char)) : (ofAbove above).declaration = none := by
  rw [ofAbove, add_declaration]
  split <;> rfl

/-- A pass goes through lines that declare no type at once. -/
theorem takeAll_of_forall {above : List (List Char)} (h : ∀ l ∈ above, Source.typeName? l = none)
    (rest : List (List Char)) :
    takeAll {} 0 (above ++ rest) = (ofAbove above).takeAll above.length rest := by
  rcases first_cases packageName? above with hp | ⟨top, line, below, x, rfl, hp, hx⟩
  · have hline : packageLine? above = none := findIdx?_isSome_eq_none hp
    have hname : above.findSome? packageName? = none := List.findSome?_eq_none_iff.2 hp
    rw [ofAbove, Source.body, bodyStart, hline, hname,
      takeAll_append 0 rest rfl (fun l hl => .inr (hp l hl)) h, Nat.zero_add]
    rfl
  · rw [ofAbove, header_append hp hx, bodyStart_append hp hx, body_append hp hx,
      findSome?_append_cons hp hx, List.append_assoc,
      List.cons_append, takeAll_ofHeader hp (fun l hl => h l (List.mem_append_left _ hl)) hx,
      takeAll_append _ rest rfl (fun l _ => .inl rfl) fun l hl => h l (by simp [hl])]
    congr 1
    simp only [List.length_append, List.length_cons]
    omega

/-- The analysis, where the lines above the declaration are known, or all lines without one. -/
theorem analysis?_ofAbove (above : List (List Char)) (type : Option (Nat × String)) (stem : String) :
    { ofAbove above with declaration := type }.analysis? stem =
      (dottedName? ((above.findSome? packageName?).map String.ofList) (type.map (·.2)) stem).map
        fun name => ⟨(above.findSome? packageName?).map String.ofList, name,
          (tagNames (Source.body above)).eraseDups, anchorLine? above (type.map (·.1))⟩ := by
  have hnames : Names.addAll [] (tagNames (Source.body above)) =
      (tagNames (Source.body above)).eraseDups := by
    rw [Names.addAll_eq_append_eraseDups (empty_notMem_tagNames _)]
    simp
  have hname (f : Findings) : f.typeName? stem =
      dottedName? (f.package.map (·.2)) (f.declaration.map (·.2)) stem := by
    unfold Findings.typeName? dottedName?
    cases f.package <;> cases f.declaration <;> simp
  rw [analysis?, hname, anchorLine?, ← firstAnnotation?_eq, ← hnames]
  rcases first_cases packageName? above with hp | ⟨top, line, below, x, rfl, hp, hx⟩
  · have hline : packageLine? above = none := findIdx?_isSome_eq_none hp
    have hfirst : above.findSome? packageName? = none := List.findSome?_eq_none_iff.2 hp
    have hheader : header above = [] := by
      rw [header, hline]
      rfl
    simp only [ofAbove, hfirst, hheader, hline, add, allAuthors, anchor, Option.isSome_none,
      Bool.false_eq_true, if_false, Option.map_none, List.findIdx?_nil, Option.none_or, Option.or_none]
    cases firstAnnotation? (bodyStart above) (Source.body above) <;> cases type <;> rfl
  · have hzero : firstAnnotation? 0 top = top.findIdx? isAnnotation := by
      rw [firstAnnotation?_eq]
      simp
    simp only [ofAbove, findSome?_append_cons hp hx, header_append hp hx, packageLine?_append hp hx,
      ofHeader, add, allAuthors, anchor, Option.isSome_some, if_true, Option.map_some, hzero, Option.none_or]

end Findings

/-- One pass finds the outline: no line is of two kinds, and the anchor of an analysis is a line of
the file that is no author tag. -/
theorem analyzeText_eq_outline (source : List Char) (stem : String) :
    (∀ line, (kinds line).count true ≤ 1) ∧
    analyzeText source stem = outline (lines source) stem ∧
    ∀ a, analyzeText source stem = some a → ∃ n line, a.anchor = some n ∧
      (lines source)[n]? = some line ∧ isAuthorLine line = false := by
  refine ⟨count_kinds_le, ?_, ?_⟩
  · rw [analyzeText, outline]
    rcases first_cases typeName? (lines source) with ht | ⟨above, line, below, x, he, ht, hx⟩
    · have hpass := Findings.takeAll_of_forall ht []
      have hdecl := Findings.declaration_ofAbove (lines source)
      have hnone : typeLine? (lines source) = none := findIdx?_isSome_eq_none ht
      rw [List.append_nil, Findings.takeAll] at hpass
      have hoff : { Findings.ofAbove (lines source) with declaration := none } =
          Findings.ofAbove (lines source) := by rw [← hdecl]
      have hall := Findings.analysis?_ofAbove (lines source) none stem
      rw [hoff] at hall
      rw [counted_eq_self ht, hnone, hpass, List.findSome?_eq_none_iff.2 ht]
      exact hall
    · have hsome : typeLine? (above ++ line :: below) = some above.length :=
        findIdx?_isSome_append ht hx
      rw [he, counted_append ht hx, hsome, findSome?_append_cons ht hx,
        Findings.takeAll_of_forall ht, Findings.takeAll_of_typeName? _ hx]
      exact Findings.analysis?_ofAbove above (some (above.length, String.ofList x)) stem
  · intro a ha
    obtain ⟨n, hn, ha⟩ := Findings.exists_anchor ha
    obtain ⟨line, hline, hquiet⟩ := anchor_takeAll hn
    exact ⟨n, line, ha, hline, isAuthorLine_eq_false hquiet⟩

/-- A file with an annotation on each side of its package statement, and an author tag on each side
of its declaration. -/
def headedSource : List Char :=
  "@Old\npackage a;\n * @author x\n@New\npublic class B {}\n * @author y\n".toList

theorem analyzeText_eq_outline_headed :
    analyzeText headedSource "C" = some ⟨some "a", "a.B", ["x"], some 3⟩ ∧
    outline (lines headedSource) "C" = some ⟨some "a", "a.B", ["x"], some 3⟩ ∧
    (∃ n line, some 3 = some n ∧ (lines headedSource)[n]? = some line ∧
      isAuthorLine line = false) := by
  have h : analyzeText headedSource "C" = some ⟨some "a", "a.B", ["x"], some 3⟩ := by
    decide +kernel
  obtain ⟨-, he, hanchor⟩ := analyzeText_eq_outline headedSource "C"
  exact ⟨h, by rw [← he, h], hanchor _ h⟩

end Byline.Source

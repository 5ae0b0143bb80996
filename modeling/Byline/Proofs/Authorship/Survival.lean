import Byline.Proofs.Authorship.ReadBack

/-!
# Names that survive

The authors that were found in a file are written into it. A tag of the file is then dropped only
above the anchor and below a line that leaves a doc comment open. If it stands in the section, its
name is one of the authors, and so it is in the block; above the section it is lost, unless it
stands above the doc comment (`exists_tag_retag_found`). That happens: a doc comment above the
package statement loses its author tags (`taggedName?_retag_headerComment`).
-/

namespace Byline.Authorship

open Utf8 (Bytes lineText)
open Source (Opening taggedName? tagNames isQuiet)

/-- What a pass over the lines of the file finds. -/
def found (source : Bytes) : Source.Findings :=
  Source.Findings.takeAll {} 0 ((Utf8.lines source).map lineText)

/-- The first line of the section, which is below the package statement. -/
def sectionStart (source : Bytes) : Nat := (found source).package.elim 0 (·.1 + 1)

/-- Does line `i` stand above the section, below a line that leaves a doc comment open? -/
def InHeaderComment (source : Bytes) (i : Nat) : Prop :=
  i < sectionStart source ∧ ∃ x ∈ (Utf8.lines source).take i, opensDoc x = true

instance (source : Bytes) (i : Nat) : Decidable (InHeaderComment source i) :=
  inferInstanceAs (Decidable (_ ∧ _))

section Found

variable {source : Bytes} {stem : String} {a : Source.Analysis} {n : Nat}

theorem of_analyzeBytes (ha : Source.analyzeBytes source stem = some a) :
    (∃ name, (found source).typeName? stem = some name) ∧
      a.authors = (found source).allAuthors ∧ a.anchor = (found source).anchor := by
  unfold Source.analyzeBytes Source.Findings.analysis? at ha
  obtain ⟨name, hname, rfl⟩ := Option.map_eq_some_iff.1 ha
  exact ⟨⟨name, hname⟩, rfl, rfl⟩

theorem exists_anchor (ha : Source.analyzeBytes source stem = some a) :
    ∃ n, a.anchor = some n := by
  obtain ⟨n, -, hn⟩ := Source.Findings.exists_anchor ha
  exact ⟨n, hn⟩

theorem elim_package {package : Option (Nat × String)} {top : List (List Char)}
    (h : package.map (·.1 + 1) = if top = [] then none else some top.length) :
    package.elim 0 (·.1 + 1) = top.length := by
  by_cases htop : top = []
  · rw [if_pos htop, Option.map_eq_none_iff] at h
    rw [h, htop]
    rfl
  · rw [if_neg htop, Option.map_eq_some_iff] at h
    obtain ⟨p, rfl, hp⟩ := h
    exact hp

/-- The section of a file: its first line, and the names of its tags, which are the authors. -/
theorem exists_section_of_analysis (ha : Source.analyzeBytes source stem = some a)
    (hn : a.anchor = some n) : ∃ top body rest,
      (Utf8.lines source).map lineText = top ++ (body ++ rest) ∧ top.length = sectionStart source ∧
      a.authors = Names.addAll [] (tagNames body) ∧ n ≤ top.length + body.length := by
  obtain ⟨-, hauthors, hanchor⟩ := of_analyzeBytes ha
  obtain ⟨top, body, rest, hlines, -, hpackage, hnames, hle⟩ :=
    Source.exists_section ((Utf8.lines source).map lineText)
  exact ⟨top, body, rest, hlines, (elim_package hpackage).symm, hauthors.trans hnames,
    hle n (hanchor.symm.trans hn)⟩

/-- A tag of the section, above the anchor, names an author. -/
theorem mem_authors_of_section (ha : Source.analyzeBytes source stem = some a)
    (hn : a.anchor = some n) {i : Nat} {line : Bytes} {name : List Char}
    (hi : (Utf8.lines source)[i]? = some line) (hname : taggedName? (lineText line) = some name)
    (hs : sectionStart source ≤ i) (hlt : i < n) : String.ofList name ∈ a.authors := by
  obtain ⟨top, body, rest, hlines, htop, hauthors, hle⟩ := exists_section_of_analysis ha hn
  have hmem : lineText line ∈ body := by
    have htext : ((Utf8.lines source).map lineText)[i]? = some (lineText line) := by
      rw [List.getElem?_map, hi, Option.map_some]
    rw [hlines, List.getElem?_append_right (by omega),
      List.getElem?_append_left (by omega)] at htext
    exact List.mem_of_getElem? htext
  have hne : String.ofList name ≠ "" := by
    obtain ⟨-, -, -, -, -, hname⟩ := Source.taggedName?_eq_some hname
    simpa using hname
  rw [hauthors]
  refine Names.mem_addAll.2 (.inr ⟨List.mem_filterMap.2 ⟨_, hmem, ?_⟩, hne⟩)
  rw [hname, Option.map_some]

theorem readsBack_of_mem_authors (ha : Source.analyzeBytes source stem = some a) {name : String}
    (h : name ∈ a.authors) : ReadsBack name := by
  obtain ⟨n, hn⟩ := exists_anchor ha
  obtain ⟨top, body, rest, hlines, -, hauthors, -⟩ := exists_section_of_analysis ha hn
  rw [hauthors] at h
  have hbody := ((Names.mem_addAll.1 h).resolve_left List.not_mem_nil).1
  refine readsBack_of_mem_tagNames source (fun x hx => hx) ?_
  rw [hlines, Source.tagNames_append, Source.tagNames_append]
  exact List.mem_append_right _ (List.mem_append_left _ hbody)

end Found

/-! ## Lines with a block -/

theorem exists_mem_of_mem_tagNames {ls : List Bytes} {name : List Char}
    (h : String.ofList name ∈ tagNames (ls.map lineText)) :
    ∃ x ∈ ls, taggedName? (lineText x) = some name := by
  obtain ⟨text, htext, hname⟩ := List.mem_filterMap.1 h
  obtain ⟨x, hx, rfl⟩ := List.mem_map.1 htext
  obtain ⟨y, hy, he⟩ := Option.map_eq_some_iff.1 hname
  refine ⟨x, hx, ?_⟩
  rw [hy, String.ofList_injective he]

theorem exists_mem_blockAbove {authors : List String} (h : ∀ name ∈ authors, ReadsBack name)
    {name : List Char} (hname : String.ofList name ∈ authors) (crlf : Bool) (ls : List Bytes) :
    ∃ x ∈ blockAbove crlf authors ls, taggedName? (lineText x) = some name := by
  obtain ⟨kept, -, -, hout⟩ := replaces_blockAbove crlf h ls
  refine exists_mem_of_mem_tagNames ?_
  rw [hout]
  exact List.mem_append_right kept hname

/-- A line that no doc comment is left open above stays above the block. -/
theorem mem_blockAbove {ls xs ys : List Bytes} {x : Bytes} (hls : ls = xs ++ x :: ys)
    (h : ∀ y ∈ xs, opensDoc y = false) (crlf : Bool) (authors : List String) :
    x ∈ blockAbove crlf authors ls := by
  rw [hls, blockAbove_append h, blockAbove, withBlock]
  simp

/-! ## Files -/

/-- Writing the authors that were found loses no name but those of tags in a comment of the
header. -/
theorem exists_tag_retag_found {source : Bytes} {stem : String} {a : Source.Analysis}
    (ha : Source.analyzeBytes source stem = some a) : ∃ n, a.anchor = some n ∧
      ∀ i line name, (Utf8.lines source)[i]? = some line →
        taggedName? (lineText line) = some name → ¬ InHeaderComment source i →
        ∃ x ∈ Utf8.lines (retag source a.authors n), taggedName? (lineText x) = some name := by
  obtain ⟨n, hn⟩ := exists_anchor ha
  refine ⟨n, hn, ?_⟩
  intro i line name hi hname hheader
  obtain ⟨above, anchorLine, below, hlines, rfl, hquiet⟩ := exists_lines_of_anchor ha hn
  have hback : ∀ name ∈ a.authors, ReadsBack name := fun name h => readsBack_of_mem_authors ha h
  rw [lines_retag hlines (isTagLine_eq_false hquiet) fun name h => (hback name h).newline_notMem]
  by_cases hlt : i < above.length
  · have hi' : above[i]? = some line := by
      rwa [hlines, List.getElem?_append_left hlt] at hi
    by_cases hs : sectionStart source ≤ i
    · obtain ⟨x, hx, hx'⟩ :=
        exists_mem_blockAbove hback (mem_authors_of_section ha hn hi hname hs hlt) _ above
      exact ⟨x, List.mem_append_left _ hx, hx'⟩
    · refine ⟨line, List.mem_append_left _ ?_, hname⟩
      obtain ⟨-, rfl⟩ := List.getElem?_eq_some_iff.1 hi'
      have hsplit : above = above.take i ++ above[i] :: above.drop (i + 1) := by
        rw [List.getElem_cons_drop, List.take_append_drop]
      refine mem_blockAbove hsplit ?_ _ _
      intro y hy
      have hy' : y ∈ (Utf8.lines source).take i := by
        rwa [hlines, List.take_append_of_le_length hlt.le]
      by_contra hopen
      exact hheader ⟨by omega, y, hy', by simpa using hopen⟩
  · -- The anchor and what is below it are copied.
    rw [hlines, List.getElem?_append_right (by omega)] at hi
    exact ⟨line, List.mem_append_right _ (List.mem_of_getElem? hi), hname⟩

/-- A file with tags in the header, in a block comment and in a doc comment. -/
def layeredSource : Bytes :=
  Utf8.ofString ("/*\n * @author h\n */\npackage a;\n/*\n * @author y\n */\n" ++
    "/**\n * @author x\n */\n@Foo\npublic class B {}\n")

theorem exists_tag_retag_found_layered :
    Source.analyzeBytes layeredSource "B" = some ⟨some "a", "a.B", ["y", "x"], some 10⟩ ∧
      (Utf8.lines layeredSource)[1]? = some (Utf8.ofString " * @author h\n") ∧
      ¬ InHeaderComment layeredSource 1 ∧
      ∃ x ∈ Utf8.lines (retag layeredSource ["y", "x"] 10),
        taggedName? (lineText x) = some "h".toList := by
  have h : Source.analyzeBytes layeredSource "B" =
      some ⟨some "a", "a.B", ["y", "x"], some 10⟩ := by
    decide +kernel
  have hline : (Utf8.lines layeredSource)[1]? = some (Utf8.ofString " * @author h\n") := by
    decide +kernel
  have hheader : ¬ InHeaderComment layeredSource 1 := by decide +kernel
  obtain ⟨n, hn, hall⟩ := exists_tag_retag_found h
  obtain rfl := Option.some.inj hn
  exact ⟨h, hline, hheader, hall 1 _ "h".toList hline (by decide +kernel) hheader⟩

/-- A file with a tag in a doc comment of the header. -/
def headerCommentSource : Bytes :=
  Utf8.ofString "/**\n * @author h\n */\npackage a;\n\npublic class B {}\n"

/-- The name in a doc comment of the header is lost, as it is not among the authors. -/
theorem taggedName?_retag_headerComment :
    Source.analyzeBytes headerCommentSource "B" = some ⟨some "a", "a.B", [], some 5⟩ ∧
      (∃ x ∈ Utf8.lines headerCommentSource, taggedName? (lineText x) = some "h".toList) ∧
      ¬ ∃ x ∈ Utf8.lines (retag headerCommentSource [] 5),
        taggedName? (lineText x) = some "h".toList := by
  decide +kernel

end Byline.Authorship

import Byline.Proofs.Authorship.Block
import Byline.Proofs.Source.Findings

/-!
# The block and the analysis

The analysis of a file goes over to the file with a new authorship block: only quiet lines are put
in and dropped (`edited_blockAbove`). The anchor stays the line that it was, so that the same
authors can be put in again, and then nothing changes (`analyzeBytes_retag`).
-/

namespace Byline.Authorship

open Utf8 (Bytes lineText)
open Source (Edited isQuiet)

/-! ## Quiet lines of the block -/

section Edited

variable {r : Nat → Nat → Prop} {n m : Nat}

theorem edited_filter {ls : List Bytes} (hr : ∀ i j, i < n + ls.length → r i j) :
    Edited r n m (ls.map lineText) ((ls.filter (!isTagLine ·)).map lineText) := by
  induction ls generalizing n m with
  | nil => exact .nil
  | cons line ls ih =>
    have hr' : ∀ i j, i < n + 1 + ls.length → r i j := by
      intro i j hi
      refine hr i j ?_
      rw [List.length_cons]
      omega
    by_cases ht : isTagLine line = true
    · rw [List.filter_cons_of_neg (by simp [ht])]
      exact .drop (Source.isQuiet_of_isAuthorLine ht) (ih hr')
    · rw [List.filter_cons_of_pos (by simpa using ht)]
      refine .keep (fun _ => hr n m ?_) (ih hr')
      rw [List.length_cons]
      omega

theorem edited_withTags {tags ls : List Bytes} (ht : ∀ x ∈ tags, isQuiet (lineText x) = true)
    (hr : ∀ i j, i < n + ls.length → r i j) :
    Edited r n m (ls.map lineText) ((withTags tags ls).map lineText) := by
  have hquiet : ∀ text ∈ tags.map lineText, isQuiet text = true := by
    intro text htext
    obtain ⟨x, hx, rfl⟩ := List.mem_map.1 htext
    exact ht x hx
  induction ls generalizing n m with
  | nil =>
    have hput : Edited r n m [] (tags.map lineText ++ []) := .putAll _ hquiet .nil
    rwa [List.append_nil] at hput
  | cons line ls ih =>
    rw [withTags]
    split
    · rw [List.map_append]
      exact .putAll _ hquiet (edited_filter hr)
    · rw [List.length_cons] at hr
      refine .keep (fun _ => hr n m (by omega)) (ih ?_)
      intro i j hi
      exact hr i j (by omega)

theorem edited_withBlock {tags doc ls : List Bytes}
    (hq : ∀ x, x ∈ tags ∨ x ∈ doc → isQuiet (lineText x) = true)
    (hr : ∀ i j, i < n + ls.length → r i j) :
    Edited r n m (ls.map lineText) ((withBlock tags doc ls).map lineText) := by
  induction ls generalizing n m with
  | nil =>
    have hput : Edited r n m [] (doc.map lineText ++ []) := by
      refine .putAll _ ?_ .nil
      intro text htext
      obtain ⟨x, hx, rfl⟩ := List.mem_map.1 htext
      exact hq x (.inr hx)
    rwa [List.append_nil] at hput
  | cons line ls ih =>
    rw [List.length_cons] at hr
    have hr' : ∀ i j, i < n + 1 + ls.length → r i j := by
      intro i j hi
      exact hr i j (by omega)
    rw [withBlock]
    refine .keep (fun _ => hr n m (by omega)) ?_
    split
    · exact edited_withTags (fun x hx => hq x (.inl hx)) hr'
    · exact ih hr'

end Edited

/-- The anchor goes over to the place of the same line, and nothing is asked of other lines. -/
theorem edited_blockAbove (crlf : Bool) {authors : List String}
    (hn : ∀ name ∈ authors, '\n' ∉ name.toList) (above : List Bytes) (line : Bytes)
    (below : List Bytes) :
    Edited (fun i j => i = above.length → j = (blockAbove crlf authors above).length) 0 0
      ((above ++ line :: below).map lineText)
      ((blockAbove crlf authors above ++ line :: below).map lineText) := by
  rw [List.map_append, List.map_append]
  refine .append (edited_withBlock ?_ ?_) (.refl ?_)
  · intro x hx
    exact isQuiet_of_mem_docLines hn hx
  · intro i j hi he
    omega
  · intro i text _ _ he
    rw [List.length_map] at he
    rw [List.length_map, blockAbove]
    omega

/-! ## Files -/

/-- The lines at the anchor of an analysis: it is one of the lines of the file, and no author
tag. -/
theorem exists_lines_of_anchor {source : Bytes} {stem : String} {a : Source.Analysis} {n : Nat}
    (ha : Source.analyzeBytes source stem = some a) (hn : a.anchor = some n) :
    ∃ above line below, Utf8.lines source = above ++ line :: below ∧ above.length = n ∧
      isQuiet (lineText line) = false := by
  unfold Source.analyzeBytes Source.Findings.analysis? at ha
  obtain ⟨name, -, rfl⟩ := Option.map_eq_some_iff.1 ha
  obtain ⟨text, htext, hquiet⟩ := Source.anchor_takeAll hn
  rw [List.getElem?_map, Option.map_eq_some_iff] at htext
  obtain ⟨line, hline, rfl⟩ := htext
  obtain ⟨hlt, hget⟩ := List.getElem?_eq_some_iff.1 hline
  refine ⟨(Utf8.lines source).take n, line, (Utf8.lines source).drop (n + 1), ?_, ?_, hquiet⟩
  · rw [← hget, List.getElem_cons_drop, List.take_append_drop]
  · rw [List.length_take]
    omega

theorem isTagLine_eq_false {line : Bytes} (h : isQuiet (lineText line) = false) :
    isTagLine line = false := Source.isAuthorLine_eq_false h

/-- Line `n` of one file is line `m` of the other, and the lines below it are the same. -/
def SameFrom (source out : Bytes) (n m : Nat) : Prop :=
  ∃ above above' line below, Utf8.lines source = above ++ line :: below ∧ above.length = n ∧
    Utf8.lines out = above' ++ line :: below ∧ above'.length = m

/-- The file with new authors has the analysis of the file but for the authors, its anchor is the
line that it was, and putting the same authors in once more changes nothing. -/
theorem analyzeBytes_retag {source : Bytes} {stem : String} {a : Source.Analysis} {n : Nat}
    (ha : Source.analyzeBytes source stem = some a) (hn : a.anchor = some n)
    {authors : List String} (hnames : ∀ name ∈ authors, '\n' ∉ name.toList) :
    ∃ b m, Source.analyzeBytes (retag source authors n) stem = some b ∧
      b.packageName = a.packageName ∧ b.typeName = a.typeName ∧ b.anchor = some m ∧
      SameFrom source (retag source authors n) n m ∧
      retag (retag source authors n) authors m = retag source authors n := by
  obtain ⟨above, line, below, hlines, rfl, hquiet⟩ := exists_lines_of_anchor ha hn
  have htag := isTagLine_eq_false hquiet
  have hout := lines_retag hlines htag hnames
  have hedited := edited_blockAbove (insertsCrlf (above ++ line :: below)) hnames above line below
  have halike := Source.Findings.Alike.takeAll hedited .empty rfl
  rw [Source.analyzeBytes, hlines] at ha
  obtain ⟨b, hb, hpackage, htype, hanchor⟩ := halike.analysis? ha
  -- The relation of the numbers says where the anchor goes, and both analyses have one.
  rw [hn] at hanchor
  generalize hm : b.anchor = anchor at hanchor
  cases hanchor with
  | @some _ m hm' =>
    obtain rfl := hm' rfl
    refine ⟨b, _, ?_, hpackage, htype, hm, ?_, retag_retag hlines htag hnames⟩
    · rw [Source.analyzeBytes, hout, hb]
    · exact ⟨above, _, line, below, hlines, rfl, hout, rfl⟩

/-- A file with a tag in the header and a doc comment before an annotation. -/
def annotatedSource : Bytes :=
  Utf8.ofString ("/* \r\n * @author h\r\n */\r\npackage a;\r\n/**\r\n * @author x\r\n */\r\n" ++
    "@Foo\r\npublic class B {}\r\n")

theorem analyzeBytes_retag_annotatedSource :
    Source.analyzeBytes annotatedSource "B" = some ⟨some "a", "a.B", ["x"], some 7⟩ ∧
      ∃ b m, Source.analyzeBytes (retag annotatedSource ["y", "z"] 7) "B" = some b ∧
        b.packageName = some "a" ∧ b.typeName = "a.B" ∧ b.anchor = some m ∧
        SameFrom annotatedSource (retag annotatedSource ["y", "z"] 7) 7 m ∧
        retag (retag annotatedSource ["y", "z"] 7) ["y", "z"] m =
          retag annotatedSource ["y", "z"] 7 := by
  have h : Source.analyzeBytes annotatedSource "B" = some ⟨some "a", "a.B", ["x"], some 7⟩ := by
    decide +kernel
  exact ⟨h, analyzeBytes_retag h rfl (by decide)⟩

end Byline.Authorship

import Byline.Proofs.Authorship.Block
import Byline.Proofs.Authorship.Stability
import Byline.Proofs.Record.Names
import Byline.Proofs.Source.Sections
import Byline.Record.Basic

/-!
# Reading the authors back

The tags that a block holds are the authors that were written, if each can be read from a tag. Tags
outside the block may survive above and below it. They name authors that the file had before, so
that the list of first occurrences is the written list all the same (`authors_retag_written`).
-/

namespace Byline.Authorship

open Utf8 (Bytes lineText)
open Source (Cut Opening taggedName? tagNames isQuiet)

/-- Is the name read back from a tag that holds it? -/
def ReadsBack (name : String) : Prop :=
  taggedName? (Source.tagStart ++ name.toList) = some name.toList

theorem ReadsBack.newline_notMem {name : String} (h : ReadsBack name) : '\n' ∉ name.toList :=
  (Source.of_taggedName?_tagStart_append h).1

/-! ## Tags of the block -/

theorem tagNames_eq_nil_of_isTagLine {ls : List Bytes} (h : ∀ x ∈ ls, isTagLine x = false) :
    tagNames (ls.map lineText) = [] := by
  refine Source.tagNames_eq_nil ?_
  intro text htext
  obtain ⟨x, hx, rfl⟩ := List.mem_map.1 htext
  cases ht : taggedName? (lineText x) with
  | none => rfl
  | some name =>
    have : isTagLine x = true := Source.isAuthorLine_of_taggedName? ht
    rw [h x hx] at this
    exact absurd this Bool.false_ne_true

section Block

variable {crlf : Bool} {authors : List String}

theorem tagNames_tagLines (h : ∀ name ∈ authors, ReadsBack name) :
    tagNames ((tagLines crlf authors).map lineText) = authors := by
  induction authors with
  | nil => rfl
  | cons name authors ih =>
    have hname : ReadsBack name := h name List.mem_cons_self
    have hchomp : chompAll name.toList = name.toList :=
      (Source.of_taggedName?_tagStart_append hname).2
    have hline : taggedName? (lineText (authorLine crlf name)) = some name.toList := by
      rw [lineText_authorLine, hchomp]
      exact hname
    have hfirst : tagNames [lineText (authorLine crlf name)] = [name] := by
      simp [tagNames, hline]
    rw [tagLines, List.map_cons, List.map_cons, Source.tagNames_cons, hfirst, ← tagLines,
      ih fun name' hn => h name' (List.mem_cons_of_mem name hn), List.singleton_append]

theorem tagNames_docLines (h : ∀ name ∈ authors, ReadsBack name) :
    tagNames ((docLines crlf authors).map lineText) = authors := by
  by_cases he : authors.isEmpty = true
  · rw [docLines, if_pos he, List.isEmpty_iff.1 he]
    rfl
  · have hstart : tagNames [lineText (docStart crlf)] = [] := by
      rw [lineText_docStart]
      decide
    have hend : tagNames [lineText (docEnd crlf)] = [] := by
      rw [lineText_docEnd]
      decide
    have hsplit : (docLines crlf authors).map lineText = [lineText (docStart crlf)] ++
        ((tagLines crlf authors).map lineText ++ [lineText (docEnd crlf)]) := by
      simp [docLines, he]
    rw [hsplit, Source.tagNames_append, Source.tagNames_append, hstart, hend, tagNames_tagLines h,
      List.nil_append, List.append_nil]

/-- The tags of the first lines down to some place are kept, and from there on those of the authors
stand for the others. -/
def Replaces (authors : List String) (ls out : List Bytes) : Prop :=
  ∃ kept dropped, tagNames (ls.map lineText) = kept ++ dropped ∧
    tagNames (out.map lineText) = kept ++ authors

theorem Replaces.cons {ls out : List Bytes} (h : Replaces authors ls out) (line : Bytes) :
    Replaces authors (line :: ls) (line :: out) := by
  obtain ⟨kept, dropped, hls, hout⟩ := h
  refine ⟨tagNames [lineText line] ++ kept, dropped, ?_, ?_⟩
  · rw [List.map_cons, Source.tagNames_cons, hls, List.append_assoc]
  · rw [List.map_cons, Source.tagNames_cons, hout, List.append_assoc]

theorem replaces_withTags (h : ∀ name ∈ authors, ReadsBack name) (ls : List Bytes) :
    Replaces authors ls (withTags (tagLines crlf authors) ls) := by
  induction ls with
  | nil => exact ⟨[], [], rfl, tagNames_tagLines h⟩
  | cons line ls ih =>
    rw [withTags]
    split
    · refine ⟨[], tagNames ((line :: ls).map lineText), rfl, ?_⟩
      have hnone : tagNames (((line :: ls).filter (!isTagLine ·)).map lineText) = [] := by
        refine tagNames_eq_nil_of_isTagLine ?_
        intro x hx
        simpa using (List.mem_filter.1 hx).2
      rw [List.map_append, Source.tagNames_append, tagNames_tagLines h, hnone, List.append_nil,
        List.nil_append]
    · exact ih.cons line

theorem replaces_blockAbove (crlf : Bool) (h : ∀ name ∈ authors, ReadsBack name)
    (ls : List Bytes) : Replaces authors ls (blockAbove crlf authors ls) := by
  unfold blockAbove
  induction ls with
  | nil => exact ⟨[], [], rfl, tagNames_docLines h⟩
  | cons line ls ih =>
    rw [withBlock]
    refine Replaces.cons ?_ line
    split
    · exact replaces_withTags h ls
    · exact ih

/-- The block is put below lines that leave no doc comment open. -/
theorem blockAbove_append {top : List Bytes} (h : ∀ x ∈ top, opensDoc x = false) (ls : List Bytes) :
    blockAbove crlf authors (top ++ ls) = top ++ blockAbove crlf authors ls := by
  induction top with
  | nil => rfl
  | cons line top ih =>
    have hline : ¬ opensDoc line = true := by simp [h line List.mem_cons_self]
    have hrest := ih fun x hx => h x (List.mem_cons_of_mem line hx)
    unfold blockAbove at hrest ⊢
    rw [List.cons_append, withBlock, if_neg hline, hrest, List.cons_append]

end Block

/-! ## Files -/

/-- No line of an opening leaves a doc comment open, if none above the package statement does. -/
theorem leavesDocOpen_eq_false {top : List (List Char)} (h : Opening top)
    (hheader : ∀ l ∈ top.dropLast, leavesDocOpen l = false) :
    ∀ l ∈ top, leavesDocOpen l = false := by
  cases h with
  | nil => exact fun l hl => absurd hl List.not_mem_nil
  | @package header line name _ _ h =>
    rw [List.dropLast_concat] at hheader
    intro l hl
    rcases List.mem_append.1 hl with hl | hl
    · exact hheader l hl
    · rw [List.mem_singleton.1 hl]
      obtain ⟨c, c', s, rfl, hc, -⟩ := Source.packageName?_starts h
      have hslash : c ≠ '/' := by
        rintro rfl
        exact absurd hc (by decide)
      simp [leavesDocOpen, startsDocComment, List.isPrefixOf, hslash.symm]

/-- The lines of a file cut at its declaration and at its anchor. -/
theorem exists_cut_of_anchor {source : Bytes} {stem : String} {a : Source.Analysis} {n : Nat}
    (ha : Source.analyzeBytes source stem = some a) (hn : a.anchor = some n)
    (hd : ∃ x ∈ Utf8.lines source, (Source.typeName? (lineText x)).isSome = true) :
    ∃ top above below line rest, Utf8.lines source = top ++ (above ++ below ++ line :: rest) ∧
      n = (top ++ above).length ∧
      Cut (top.map lineText) ((above ++ below).map lineText) (lineText line) := by
  obtain ⟨x, hx, htype⟩ := hd
  obtain ⟨top', body', line', rest', hcut, cut⟩ :=
    Source.exists_cut ⟨lineText x, List.mem_map_of_mem hx, htype⟩
  obtain ⟨top, rest₁, hlines, rfl, h₁⟩ := List.map_eq_append_iff.1 hcut
  obtain ⟨body, rest₂, rfl, rfl, h₂⟩ := List.map_eq_append_iff.1 h₁
  obtain ⟨line, rest, rfl, rfl, rfl⟩ := List.map_eq_cons_iff.1 h₂
  unfold Source.analyzeBytes Source.Findings.analysis? at ha
  obtain ⟨name, -, rfl⟩ := Option.map_eq_some_iff.1 ha
  have hbounds : top.length ≤ n ∧ n ≤ top.length + body.length := by
    have hn' : (Source.Findings.takeAll {} 0 ((Utf8.lines source).map lineText)).anchor = some n := hn
    rw [hcut] at hn'
    simpa using cut.anchor_bounds hn'
  refine ⟨top, body.take (n - top.length), body.drop (n - top.length), line, rest, ?_, ?_, ?_⟩
  · rw [List.take_append_drop, hlines]
  · rw [List.length_append, List.length_take]
    omega
  · rw [List.take_append_drop]
    exact cut

/-- A block in the section leaves the cut as it is. -/
theorem cut_blockAbove {top above below : List Bytes} {line : List Char}
    (cut : Cut (top.map lineText) ((above ++ below).map lineText) line) (crlf : Bool)
    {authors : List String} (hn : ∀ name ∈ authors, '\n' ∉ name.toList) :
    Cut (top.map lineText) ((blockAbove crlf authors above ++ below).map lineText) line := by
  have hmem : ∀ text ∈ (blockAbove crlf authors above ++ below).map lineText,
      isQuiet text = true ∨ text ∈ (above ++ below).map lineText := by
    intro text htext
    obtain ⟨x, hx, rfl⟩ := List.mem_map.1 htext
    rcases List.mem_append.1 hx with hx | hx
    · rcases mem_withBlock hx with hx | hx | hx
      · exact .inl (isQuiet_of_mem_docLines hn (.inl hx))
      · exact .inl (isQuiet_of_mem_docLines hn (.inr hx))
      · exact .inr (List.mem_map_of_mem (List.mem_append_left below hx))
    · exact .inr (List.mem_map_of_mem (List.mem_append_right above hx))
  refine ⟨cut.opening, ?_, ?_, cut.declares⟩
  · intro he text htext
    rcases hmem text htext with hq | hm
    · exact (Source.isQuiet_iff.1 hq).1
    · exact cut.package he text hm
  · intro text htext
    rcases hmem text htext with hq | hm
    · exact (Source.isQuiet_iff.1 hq).2.2
    · exact cut.type text hm

/-- The names found in a file are read back from tags. -/
theorem readsBack_of_mem_tagNames (source : Bytes) {ls : List Bytes}
    (hls : ∀ x ∈ ls, x ∈ Utf8.lines source) {name : String}
    (h : name ∈ tagNames (ls.map lineText)) : ReadsBack name := by
  obtain ⟨text, htext, hname⟩ := List.mem_filterMap.1 h
  obtain ⟨x, hx, rfl⟩ := List.mem_map.1 htext
  obtain ⟨y, hy, rfl⟩ := Option.map_eq_some_iff.1 hname
  rw [ReadsBack, String.toList_ofList]
  exact Source.taggedName?_tagStart_append (Utf8.newline_notMem_lineText (hls x hx)) hy

section Cut

variable {source : Bytes} {stem : String} {a : Source.Analysis}
  {top above below : List Bytes} {line : Bytes} {rest : List Bytes}

theorem authors_of_cut (ha : Source.analyzeBytes source stem = some a)
    (hlines : Utf8.lines source = top ++ (above ++ below ++ line :: rest))
    (cut : Cut (top.map lineText) ((above ++ below).map lineText) (lineText line)) :
    a.authors = Names.addAll [] (tagNames ((above ++ below).map lineText)) := by
  unfold Source.analyzeBytes Source.Findings.analysis? at ha
  obtain ⟨name, -, rfl⟩ := Option.map_eq_some_iff.1 ha
  rw [hlines, List.map_append, List.map_append, List.map_cons]
  exact cut.allAuthors_eq _

/-- A file with a type has an analysis. -/
theorem exists_analysis_of_type (stem : String)
    (hd : ∃ x ∈ Utf8.lines source, (Source.typeName? (lineText x)).isSome = true) :
    ∃ a, Source.analyzeBytes source stem = some a := by
  obtain ⟨x, hx, htype⟩ := hd
  obtain ⟨top, body, line, rest, hlines, cut⟩ :=
    Source.exists_cut ⟨lineText x, List.mem_map_of_mem hx, htype⟩
  obtain ⟨f, name, -, he⟩ := cut.takeAll_eq rest
  rw [Source.analyzeBytes, hlines, he, Source.Findings.analysis?, Source.Findings.typeName?,
    Source.Findings.add_package]
  cases f.package with
  | none => exact ⟨_, rfl⟩
  | some p => exact ⟨_, rfl⟩

theorem exists_analysis_of_cut (stem : String)
    (hlines : Utf8.lines source = top ++ (above ++ below ++ line :: rest))
    (cut : Cut (top.map lineText) ((above ++ below).map lineText) (lineText line)) :
    ∃ b, Source.analyzeBytes source stem = some b := by
  have hline : line ∈ Utf8.lines source := by rw [hlines]; simp
  exact exists_analysis_of_type stem ⟨line, hline, cut.declares⟩

theorem opensDoc_eq_false
    (hlines : Utf8.lines source = top ++ (above ++ below ++ line :: rest))
    (cut : Cut (top.map lineText) ((above ++ below).map lineText) (lineText line))
    (hheader : ∀ p name,
      (Source.Findings.takeAll {} 0 ((Utf8.lines source).map lineText)).package = some (p, name) →
        ∀ x ∈ (Utf8.lines source).take p, leavesDocOpen (lineText x) = false) :
    ∀ x ∈ top, opensDoc x = false := by
  by_cases he : top = []
  · intro x hx
    exact absurd (he ▸ hx) List.not_mem_nil
  have hpackage := cut.package_eq (rest.map lineText)
  rw [if_neg (by simpa using he), ← List.map_cons, ← List.map_append, ← List.map_append, ← hlines,
    Option.map_eq_some_iff] at hpackage
  obtain ⟨⟨p, name⟩, hp, hlength⟩ := hpackage
  have htake : (Utf8.lines source).take p = top.dropLast := by
    rw [List.length_map] at hlength
    rw [hlines, List.take_append_of_le_length (by omega), List.dropLast_eq_take]
    congr 1
    omega
  -- All of the opening but its last line, the package statement, is the header.
  have hlast := leavesDocOpen_eq_false cut.opening ?_
  · intro x hx
    exact hlast (lineText x) (List.mem_map_of_mem hx)
  · intro text htext
    rw [← List.map_dropLast] at htext
    obtain ⟨x, hx, rfl⟩ := List.mem_map.1 htext
    exact hheader p name hp x (htake ▸ hx)

/-- The lines of the result are cut where those of the file are. -/
theorem lines_retag_of_cut (ha : Source.analyzeBytes source stem = some a)
    (hn : a.anchor = some (top ++ above).length)
    (hlines : Utf8.lines source = top ++ (above ++ below ++ line :: rest))
    (htop : ∀ x ∈ top, opensDoc x = false) {authors : List String}
    (hnames : ∀ name ∈ authors, '\n' ∉ name.toList) :
    ∃ crlf, Utf8.lines (retag source authors (top ++ above).length) =
      top ++ (blockAbove crlf authors above ++ below ++ line :: rest) := by
  obtain ⟨above', line', below', hlines', hlength, hquiet⟩ := exists_lines_of_anchor ha hn
  have hsplit : above' ++ line' :: below' = (top ++ above) ++ (below ++ line :: rest) := by
    rw [← hlines', hlines, List.append_assoc, List.append_assoc]
  obtain ⟨rfl, hbelow⟩ := List.append_inj hsplit hlength
  refine ⟨insertsCrlf (top ++ above ++ line' :: below'), ?_⟩
  rw [lines_retag hlines' (isTagLine_eq_false hquiet) hnames, hbelow, blockAbove_append htop]
  simp only [List.append_assoc]

end Cut

/-- The authors of a file with a type and those that are added to them, written into the file, are
the authors of the result. No line of the header may leave a doc comment open, as the block would
go there. -/
theorem authors_retag_written {source : Bytes} {stem : String} {a : Source.Analysis} {n : Nat}
    (ha : Source.analyzeBytes source stem = some a) (hn : a.anchor = some n)
    (hd : ∃ x ∈ Utf8.lines source, (Source.typeName? (lineText x)).isSome = true)
    (hheader : ∀ p name,
      (Source.Findings.takeAll {} 0 ((Utf8.lines source).map lineText)).package = some (p, name) →
        ∀ x ∈ (Utf8.lines source).take p, leavesDocOpen (lineText x) = false)
    {r : Record} (hr : r.disposition = .merge) (hfound : r.authors = a.authors)
    (hnew : ∀ name ∈ r.newAuthors, ReadsBack name) :
    ∃ b, Source.analyzeBytes (retag source r.written n) stem = some b ∧ b.authors = r.written := by
  obtain ⟨top, above, below, line, rest, hlines, rfl, cut⟩ := exists_cut_of_anchor ha hn hd
  have hauthors := authors_of_cut ha hlines cut
  have hwritten : r.written = Names.addAll [] (a.authors ++ r.newAuthors) := by
    rw [Record.written, hr, hfound]
  have hback : ∀ name ∈ r.written, ReadsBack name := by
    intro name hname
    rw [hwritten] at hname
    rcases (Names.mem_addAll.1 hname).resolve_left List.not_mem_nil with ⟨hm, -⟩
    rcases List.mem_append.1 hm with hm | hm
    · rw [hauthors] at hm
      refine readsBack_of_mem_tagNames source ?_
        ((Names.mem_addAll.1 hm).resolve_left List.not_mem_nil).1
      intro x hx
      rw [hlines]
      exact List.mem_append_right _ (List.mem_append_left _ hx)
    · exact hnew name hm
  have hnames : ∀ name ∈ r.written, '\n' ∉ name.toList := fun name hname =>
    (hback name hname).newline_notMem
  obtain ⟨crlf, hout⟩ :=
    lines_retag_of_cut ha hn hlines (opensDoc_eq_false hlines cut hheader) hnames
  have hcut := cut_blockAbove cut crlf hnames
  obtain ⟨b, hb⟩ := exists_analysis_of_cut stem hout hcut
  obtain ⟨kept, dropped, hfile, hblock⟩ := replaces_blockAbove crlf hback above
  refine ⟨b, hb, ?_⟩
  -- What is read is the tags that were kept, the block, and the tags below the anchor.
  rw [List.map_append, Source.tagNames_append, hfile] at hauthors
  rw [authors_of_cut hb hout hcut, List.map_append, Source.tagNames_append, hblock, hwritten,
    hauthors]
  exact Names.addAll_append_addAll kept dropped _ r.newAuthors

/-- A file with tags in a block comment and between an annotation and the type. -/
def scatteredSource : Bytes :=
  Utf8.ofString ("/* h */\npackage a;\n/*\n * @author y\n * @author x\n */\n@Foo\n" ++
    " * @author x\n * @author z\npublic class B {}\n")

/-- The record of the file, with one of its authors and a new one to be added. -/
def scatteredRecord : Record :=
  { path := "B.java", authors := ["y", "x", "z"], newAuthors := ["z", "w v"] }

theorem authors_retag_written_scattered :
    Source.analyzeBytes scatteredSource "B" = some ⟨some "a", "a.B", ["y", "x", "z"], some 6⟩ ∧
      scatteredRecord.written = ["y", "x", "z", "w v"] ∧
      ∃ b, Source.analyzeBytes (retag scatteredSource scatteredRecord.written 6) "B" = some b ∧
        b.authors = scatteredRecord.written := by
  have h : Source.analyzeBytes scatteredSource "B" =
      some ⟨some "a", "a.B", ["y", "x", "z"], some 6⟩ := by
    decide +kernel
  have hd : ∃ x ∈ Utf8.lines scatteredSource, (Source.typeName? (lineText x)).isSome = true := by
    decide +kernel
  have hpackage : (Source.Findings.takeAll {} 0
      ((Utf8.lines scatteredSource).map lineText)).package = some (1, "a") := by
    decide +kernel
  have hheader : ∀ x ∈ (Utf8.lines scatteredSource).take 1, leavesDocOpen (lineText x) = false := by
    decide +kernel
  refine ⟨h, by decide, authors_retag_written h rfl hd ?_ rfl rfl ?_⟩
  · intro p name hp x hx
    rw [hpackage] at hp
    obtain rfl := (Prod.mk.inj (Option.some.inj hp)).1
    exact hheader x hx
  · unfold ReadsBack
    decide

end Byline.Authorship

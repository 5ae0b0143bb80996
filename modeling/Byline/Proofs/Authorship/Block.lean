import Byline.Authorship.Block
import Byline.Proofs.Text.Lines
import Byline.Proofs.Source.Line

/-!
# The authorship block in a list of lines

What a writer does to the lines of a file is a function of the lines above the anchor: they get the
authorship block (`withBlock`), and the others are copied (`retag_eq`). The lines of the result are
those lines again (`lines_retag`), and a second block for the same authors changes nothing
(`withBlock_withBlock`).

A file may be rewritten while it is read: each line goes through the writer before the next one is
read. A line may come in several pieces and a piece may hold several lines, but the writer gets the
lines of the whole file, one after the other and each in the state that the lines above left it in
(`Writer.pushRead_eq_pushAll`). So the pieces do not show in what is written
(`retagChunks_eq_retag`).
-/

namespace Byline.Authorship

open Utf8 (Bytes)

/-! ## Lines by what the writer looks for -/

/-- Is the line an author tag? -/
def isTagLine (line : Bytes) : Bool := Source.isAuthorLine (Utf8.lineText line)

/-- Does the line start a doc comment and leave it open? -/
def opensDoc (line : Bytes) : Bool := leavesDocOpen (Utf8.lineText line)

/-- Does the line end a comment? -/
def closesDoc (line : Bytes) : Bool := endsComment (Utf8.lineText line)

/-- The rest of an open doc comment and what is below it, with the tags: they go before the first
line that is a tag or ends a comment, and from there on other tags are dropped. -/
def withTags (tags : List Bytes) : List Bytes → List Bytes
  | [] => tags
  | line :: ls =>
    if isTagLine line || closesDoc line then tags ++ (line :: ls).filter (!isTagLine ·)
    else line :: withTags tags ls

/-- The lines with the tags in the first doc comment that is left open, or else with the doc comment
below them. -/
def withBlock (tags doc : List Bytes) : List Bytes → List Bytes
  | [] => doc
  | line :: ls => line :: if opensDoc line then withTags tags ls else withBlock tags doc ls

theorem mem_withTags {tags ls : List Bytes} {x : Bytes} (h : x ∈ withTags tags ls) :
    x ∈ tags ∨ x ∈ ls := by
  induction ls with
  | nil => exact .inl h
  | cons line ls ih =>
    rw [withTags] at h
    split at h
    · rcases List.mem_append.1 h with h | h
      · exact .inl h
      · exact .inr (List.mem_filter.1 h).1
    · rcases List.mem_cons.1 h with rfl | h
      · exact .inr List.mem_cons_self
      · exact (ih h).imp_right (List.mem_cons_of_mem line)

theorem mem_withBlock {tags doc ls : List Bytes} {x : Bytes} (h : x ∈ withBlock tags doc ls) :
    x ∈ tags ∨ x ∈ doc ∨ x ∈ ls := by
  induction ls with
  | nil => exact .inr (.inl h)
  | cons line ls ih =>
    rw [withBlock] at h
    rcases List.mem_cons.1 h with rfl | h
    · exact .inr (.inr List.mem_cons_self)
    split at h
    · rcases mem_withTags h with h | h
      · exact .inl h
      · exact .inr (.inr (List.mem_cons_of_mem line h))
    · rcases ih h with h | h | h
      · exact .inl h
      · exact .inr (.inl h)
      · exact .inr (.inr (List.mem_cons_of_mem line h))

/-! ## The writer -/

/-- The tags of the authors. -/
def tagLines (crlf : Bool) (authors : List String) : List Bytes := authors.map (authorLine crlf)

/-- The line that starts a doc comment. -/
def docStart (crlf : Bool) : Bytes := Utf8.ofString "/**" ++ terminator crlf

/-- The line that ends a doc comment. -/
def docEnd (crlf : Bool) : Bytes := Utf8.ofString " */" ++ terminator crlf

/-- The lines of a doc comment with all authors; there are none if there are no authors. -/
def docLines (crlf : Bool) (authors : List String) : List Bytes :=
  if authors.isEmpty then [] else docStart crlf :: (tagLines crlf authors ++ [docEnd crlf])

theorem flatten_tagLines (crlf : Bool) (authors : List String) :
    (tagLines crlf authors).flatten = authorLines crlf authors :=
  List.flatMap_def.symm

theorem flatten_docLines (crlf : Bool) (authors : List String) :
    (docLines crlf authors).flatten = docComment crlf authors := by
  unfold docLines docComment
  split
  · rfl
  · simp [docStart, docEnd, flatten_tagLines]

namespace Writer

/-- Do lines that are inserted end with a carriage return, once the writer has taken a line of
these? -/
def endsInserted (w : Writer) (ls : List Bytes) : Bool :=
  if w.lineNo = 0 then ls.head?.any endsWithCrlf else w.crlf

@[simp] theorem push_anchor (w : Writer) (line : Bytes) : (w.push line).1.anchor = w.anchor := rfl

@[simp] theorem push_authors (w : Writer) (line : Bytes) :
    (w.push line).1.authors = w.authors := rfl

@[simp] theorem push_lineNo (w : Writer) (line : Bytes) :
    (w.push line).1.lineNo = w.lineNo + 1 := rfl

theorem push_endsInserted (w : Writer) (line : Bytes) (ls : List Bytes) {ls' : List Bytes} :
    (w.push line).1.endsInserted ls' = w.endsInserted (line :: ls) := by
  simp [endsInserted, push]

theorem push_of_copying {w : Writer} (h : w.phase = .copyingRemainder) (line : Bytes) :
    (w.push line).2 = line ∧ (w.push line).1.phase = .copyingRemainder := by
  simp [push, emit, h]

theorem push_of_emitted {w : Writer} (h : w.phase = .authorsEmitted) (line : Bytes) :
    (w.push line).2 = (if isTagLine line then [] else line) ∧ (w.push line).1.phase =
      if w.lineNo = w.anchor then .copyingRemainder else .authorsEmitted := by
  simp only [push, emit, h]
  exact ⟨rfl, by simp⟩

/-- In an open doc comment the authors are written at a tag, or before the line that ends the
comment or is the anchor. -/
theorem push_of_inside {w : Writer} (h : w.phase = .insideDoc) (line : Bytes) (ls : List Bytes) :
    let tags := authorLines (w.endsInserted (line :: ls)) w.authors
    let emitted := isTagLine line || closesDoc line || w.lineNo == w.anchor
    (w.push line).2 = (if emitted then tags else []) ++ (if isTagLine line then [] else line) ∧
      (w.push line).1.phase = if w.lineNo = w.anchor then .copyingRemainder
        else if emitted then .authorsEmitted else .insideDoc := by
  by_cases ht : isTagLine line = true
  · rw [isTagLine] at ht
    simp [push, emit, h, isTagLine, ht, endsInserted]
  · rw [isTagLine] at ht
    by_cases hc : closesDoc line = true
    · rw [closesDoc] at hc
      simp [push, emit, h, isTagLine, closesDoc, ht, hc, endsInserted]
    · rw [closesDoc] at hc
      by_cases ha : w.lineNo = w.anchor
      · simp [push, emit, h, isTagLine, closesDoc, ht, hc, ha, endsInserted]
      · simp [push, emit, h, isTagLine, closesDoc, ht, hc, ha]

theorem push_of_before {w : Writer} (h : w.phase = .beforeDoc) (line : Bytes) (ls : List Bytes) :
    (w.push line).2 = (if w.lineNo = w.anchor then
        docComment (w.endsInserted (line :: ls)) w.authors else []) ++ line ∧
      (w.push line).1.phase = if w.lineNo = w.anchor then .copyingRemainder
        else if opensDoc line then .insideDoc else .beforeDoc := by
  by_cases ha : w.lineNo = w.anchor
  · simp [push, emit, h, ha, endsInserted]
  · by_cases ho : opensDoc line = true
    · rw [opensDoc] at ho
      simp [push, emit, h, ha, opensDoc, ho]
    · rw [opensDoc] at ho
      simp [push, emit, h, ha, opensDoc, ho]

theorem pushAll_of_copying {w : Writer} (h : w.phase = .copyingRemainder) (ls : List Bytes) :
    w.pushAll ls = ls.flatten := by
  induction ls generalizing w with
  | nil => rfl
  | cons line ls ih =>
    obtain ⟨hout, hphase⟩ := push_of_copying h line
    rw [pushAll, hout, ih hphase, List.flatten_cons]

/-- Taking lines as they are read is taking the lines of the pieces joined, from any state on. -/
theorem pushRead_eq_pushAll (w : Writer) (source : Chunks) :
    w.pushRead source = w.pushAll (Utf8.lines source.flatten) := by
  -- Each step of the loop reads one line, and there are as many steps as lines.
  induction w, source using pushRead.induct with
  | case1 w source hend =>
    rw [pushRead, dif_pos hend, Chunks.readLine_eq_nil_iff.1 hend]
    rfl
  | case2 w source hline ih =>
    rw [pushRead, dif_neg hline, ih, Chunks.lines_flatten hline, pushAll]

/-- The anchor is the line `line`, with the lines `above` before it, and is no author tag. Inserted
lines end with a carriage return if `crlf`. -/
structure Ahead (w : Writer) (crlf : Bool) (above : List Bytes) (line : Bytes)
    (below : List Bytes) : Prop where
  anchor : w.anchor = w.lineNo + above.length
  notTag : isTagLine line = false
  ends : w.endsInserted (above ++ line :: below) = crlf

namespace Ahead

variable {w : Writer} {crlf : Bool} {above : List Bytes} {line line' : Bytes} {below : List Bytes}

theorem lineNo_eq (h : w.Ahead crlf [] line below) : w.lineNo = w.anchor :=
  h.anchor.symm

theorem lineNo_ne (h : w.Ahead crlf (line' :: above) line below) : w.lineNo ≠ w.anchor := by
  have := h.anchor
  rw [List.length_cons] at this
  omega

theorem push (h : w.Ahead crlf (line' :: above) line below) :
    (w.push line').1.Ahead crlf above line below := by
  obtain ⟨ha, hl, hc⟩ := h
  refine ⟨?_, hl, (push_endsInserted w line' _).trans hc⟩
  rw [push_anchor, push_lineNo, ha, List.length_cons]
  omega

/-- Below the block only author tags are left out. -/
theorem pushAll_of_emitted (h : w.Ahead crlf above line below) (hphase : w.phase = .authorsEmitted) :
    w.pushAll (above ++ line :: below) =
      (above.filter (!isTagLine ·) ++ line :: below).flatten := by
  induction above generalizing w with
  | nil =>
    obtain ⟨hout, hnext⟩ := push_of_emitted hphase line
    rw [if_pos h.lineNo_eq] at hnext
    rw [List.nil_append, pushAll, pushAll_of_copying hnext, hout, h.notTag]
    rfl
  | cons line' above ih =>
    obtain ⟨hout, hnext⟩ := push_of_emitted hphase line'
    rw [if_neg h.lineNo_ne] at hnext
    rw [List.cons_append, pushAll, ih h.push hnext, hout]
    by_cases ht : isTagLine line' = true
    · simp [ht]
    · simp [ht]

theorem pushAll_of_inside (h : w.Ahead crlf above line below) (hphase : w.phase = .insideDoc) :
    w.pushAll (above ++ line :: below) =
      (withTags (tagLines crlf w.authors) above ++ line :: below).flatten := by
  induction above generalizing w with
  | nil =>
    obtain ⟨hout, hnext⟩ := push_of_inside hphase line below
    have hends : w.endsInserted (line :: below) = crlf := h.ends
    rw [if_pos h.lineNo_eq] at hnext
    rw [List.nil_append, pushAll, pushAll_of_copying hnext, hout, hends, h.notTag, h.lineNo_eq]
    simp [withTags, flatten_tagLines]
  | cons line' above ih =>
    obtain ⟨hout, hnext⟩ := push_of_inside hphase line' (above ++ line :: below)
    have hends : w.endsInserted (line' :: (above ++ line :: below)) = crlf := h.ends
    have hat : (w.lineNo == w.anchor) = false := by simpa using h.lineNo_ne
    rw [if_neg h.lineNo_ne, hat, Bool.or_false] at hnext
    rw [List.cons_append, pushAll, hout, hends, hat, Bool.or_false]
    by_cases he : (isTagLine line' || closesDoc line') = true
    -- A tag gives way to the authors, and a line that ends the comment comes after them.
    · rw [if_pos he] at hnext
      rw [h.push.pushAll_of_emitted hnext, withTags, if_pos he, if_pos he]
      by_cases ht : isTagLine line' = true
      · simp [ht, flatten_tagLines]
      · simp [ht, flatten_tagLines]
    · rw [if_neg he] at hnext
      rw [ih h.push hnext, push_authors, withTags, if_neg he, if_neg he]
      have ht : isTagLine line' = false := by
        rw [Bool.or_eq_true, not_or] at he
        simpa using he.1
      simp [ht]

/-- The lines above the anchor get the block, and the others are copied. -/
theorem pushAll_of_before (h : w.Ahead crlf above line below) (hphase : w.phase = .beforeDoc) :
    w.pushAll (above ++ line :: below) =
      (withBlock (tagLines crlf w.authors) (docLines crlf w.authors) above ++
        line :: below).flatten := by
  induction above generalizing w with
  | nil =>
    obtain ⟨hout, hnext⟩ := push_of_before hphase line below
    have hends : w.endsInserted (line :: below) = crlf := h.ends
    rw [if_pos h.lineNo_eq] at hnext hout
    rw [List.nil_append, pushAll, pushAll_of_copying hnext, hout, hends]
    simp [withBlock, flatten_docLines]
  | cons line' above ih =>
    obtain ⟨hout, hnext⟩ := push_of_before hphase line' (above ++ line :: below)
    rw [if_neg h.lineNo_ne] at hnext hout
    rw [List.cons_append, pushAll, hout, List.nil_append, withBlock, List.cons_append,
      List.flatten_cons]
    by_cases ho : opensDoc line' = true
    · rw [if_pos ho] at hnext
      rw [h.push.pushAll_of_inside hnext, push_authors, if_pos ho]
    · rw [if_neg ho] at hnext
      rw [ih h.push hnext, push_authors, if_neg ho]

end Ahead

end Writer

/-- A file that is rewritten while it is read becomes what it becomes as a whole, however it is
cut into pieces. -/
theorem retagChunks_eq_retag (source : Chunks) (authors : List String) (anchor : Nat) :
    retagChunks source authors anchor = retag source.flatten authors anchor := by
  rw [retagChunks, Writer.pushRead_eq_pushAll, retag]

/-- Do the lines that are inserted into a file with these lines end with a carriage return? -/
def insertsCrlf (ls : List Bytes) : Bool := ls.head?.any endsWithCrlf

/-- The lines above the anchor with the block for the authors. -/
def blockAbove (crlf : Bool) (authors : List String) (above : List Bytes) : List Bytes :=
  withBlock (tagLines crlf authors) (docLines crlf authors) above

theorem retag_eq {source : Bytes} {above : List Bytes} {line : Bytes} {below : List Bytes}
    (h : Utf8.lines source = above ++ line :: below) (hl : isTagLine line = false)
    (authors : List String) : retag source authors above.length =
      (blockAbove (insertsCrlf (above ++ line :: below)) authors above ++ line :: below).flatten := by
  have hahead : Writer.Ahead { authors := authors, anchor := above.length }
      (insertsCrlf (above ++ line :: below)) above line below :=
    ⟨(Nat.zero_add _).symm, hl, rfl⟩
  rw [retag, h]
  exact hahead.pushAll_of_before rfl

/-! ## Inserted lines -/

/-- The characters of the terminator. -/
def terminatorText (crlf : Bool) : List Char := if crlf then ['\r', '\n'] else ['\n']

theorem lineText_authorLine (crlf : Bool) (name : String) :
    Utf8.lineText (authorLine crlf name) = Source.tagStart ++ chompAll name.toList := by
  have hline : authorLine crlf name =
      Utf8.encode (Source.tagStart ++ name.toList ++ terminatorText crlf) := by
    have ht : terminator crlf = Utf8.encode (terminatorText crlf) := by cases crlf <;> rfl
    rw [authorLine, ht, Utf8.encode_append, Utf8.encode_append, Utf8.ofString]
  have hend : (terminatorText crlf).all isLineEnd = true := by cases crlf <;> rfl
  rw [hline, Utf8.lineText_encode, chompAll, dropEndWhile_append _ (List.all_eq_true.1 hend)]
  -- The start of the tag ends with a blank, and that is no line end.
  exact dropEndWhile_concat_append " * @author".toList name.toList (by decide)

theorem isTagLine_authorLine (crlf : Bool) {name : String} (h : '\n' ∉ name.toList) :
    isTagLine (authorLine crlf name) = true := by
  rw [isTagLine, lineText_authorLine]
  refine Source.isAuthorLine_tagStart_append ?_
  intro hm
  exact h ((prefix_dropEndWhile isLineEnd name.toList).subset hm)

theorem terminated_append_terminator {s : List Char} (h : '\n' ∉ s) (crlf : Bool) :
    Terminated (· == newline) (Utf8.encode s ++ terminator crlf) := by
  cases crlf with
  | false =>
    have hline : Utf8.encode s ++ terminator false = Utf8.encode (s ++ ['\n']) := by
      rw [Utf8.encode_append]
      rfl
    rw [hline]
    exact Utf8.terminated_encode h
  | true =>
    have hline : Utf8.encode s ++ terminator true = Utf8.encode (s ++ ['\r'] ++ ['\n']) := by
      rw [Utf8.encode_append, Utf8.encode_append, List.append_assoc]
      rfl
    rw [hline]
    exact Utf8.terminated_encode (by simp [h])

theorem terminated_authorLine (crlf : Bool) {name : String} (h : '\n' ∉ name.toList) :
    Terminated (· == newline) (authorLine crlf name) := by
  have hstart : '\n' ∉ Source.tagStart := by decide
  rw [authorLine, Utf8.ofString, ← Utf8.encode_append]
  refine terminated_append_terminator ?_ crlf
  simp [hstart, h]

theorem lineText_docStart (crlf : Bool) : Utf8.lineText (docStart crlf) = "/**".toList := by
  cases crlf <;> decide

theorem lineText_docEnd (crlf : Bool) : Utf8.lineText (docEnd crlf) = " */".toList := by
  cases crlf <;> decide

theorem of_mem_docLines {crlf : Bool} {authors : List String} {P : Bytes → Prop}
    (htag : ∀ name ∈ authors, P (authorLine crlf name)) (hstart : P (docStart crlf))
    (hend : P (docEnd crlf)) {x : Bytes}
    (hx : x ∈ tagLines crlf authors ∨ x ∈ docLines crlf authors) : P x := by
  have htags (hx : x ∈ tagLines crlf authors) : P x := by
    obtain ⟨name, hname, rfl⟩ := List.mem_map.1 hx
    exact htag name hname
  rcases hx with hx | hx
  · exact htags hx
  unfold docLines at hx
  split at hx
  · exact absurd hx List.not_mem_nil
  rcases List.mem_cons.1 hx with rfl | hx
  · exact hstart
  rcases List.mem_append.1 hx with hx | hx
  · exact htags hx
  · rwa [List.mem_singleton.1 hx]

section Inserted

variable {crlf : Bool} {authors : List String} {x : Bytes}

/-- The inserted lines, with names that hold no line feed, are lines of a file. -/
theorem terminated_of_mem_docLines (h : ∀ name ∈ authors, '\n' ∉ name.toList)
    (hx : x ∈ tagLines crlf authors ∨ x ∈ docLines crlf authors) :
    Terminated (· == newline) x := by
  refine of_mem_docLines ?_ ?_ ?_ hx
  · intro name hname
    exact terminated_authorLine crlf (h name hname)
  · exact terminated_append_terminator (by decide) crlf
  · exact terminated_append_terminator (by decide) crlf

theorem isQuiet_of_mem_docLines (h : ∀ name ∈ authors, '\n' ∉ name.toList)
    (hx : x ∈ tagLines crlf authors ∨ x ∈ docLines crlf authors) :
    Source.isQuiet (Utf8.lineText x) = true := by
  refine of_mem_docLines (P := fun x => Source.isQuiet (Utf8.lineText x) = true) ?_ ?_ ?_ hx
  · intro name hname
    exact Source.isQuiet_of_isAuthorLine (isTagLine_authorLine crlf (h name hname))
  · rw [lineText_docStart]
    exact Source.isQuiet_cons (by decide) (by decide) _
  · rw [lineText_docEnd]
    exact Source.isQuiet_cons (by decide) (by decide) _

end Inserted

/-- The lines of the result are the lines that were put together. -/
theorem lines_retag {source : Bytes} {above : List Bytes} {line : Bytes} {below : List Bytes}
    (h : Utf8.lines source = above ++ line :: below) (hl : isTagLine line = false)
    {authors : List String} (hn : ∀ name ∈ authors, '\n' ∉ name.toList) :
    Utf8.lines (retag source authors above.length) =
      blockAbove (insertsCrlf (above ++ line :: below)) authors above ++ line :: below := by
  obtain ⟨hcut, habove⟩ := splitInclusive_eq_append h
  rw [retag_eq h hl, List.flatten_append, Utf8.lines, splitInclusive_flatten_append, hcut]
  intro x hx
  rcases mem_withBlock hx with hx | hx | hx
  · exact terminated_of_mem_docLines hn (.inl hx)
  · exact terminated_of_mem_docLines hn (.inr hx)
  · exact habove (List.cons_ne_nil line below) x hx

/-! ## A second block -/

theorem withTags_append {tags ls : List Bytes} (ht : ∀ x ∈ tags, isTagLine x = true)
    (hl : ∀ x ∈ ls, isTagLine x = false) : withTags tags (tags ++ ls) = tags ++ ls := by
  have hfilter : ls.filter (!isTagLine ·) = ls := by
    refine List.filter_eq_self.2 ?_
    intro x hx
    simp [hl x hx]
  have hnone : tags.filter (!isTagLine ·) = [] := by
    refine List.filter_eq_nil_iff.2 ?_
    intro x hx
    simp [ht x hx]
  cases tags with
  | nil =>
    -- Without tags there is nothing to drop, wherever the comment ends.
    rw [List.nil_append]
    clear hnone
    induction ls with
    | nil => rfl
    | cons line ls ih =>
      rw [withTags]
      split
      · rw [hfilter, List.nil_append]
      · have hl' : ∀ x ∈ ls, isTagLine x = false := fun x hx => hl x (List.mem_cons_of_mem line hx)
        rw [ih hl' (List.filter_eq_self.2 fun x hx => by simp [hl' x hx])]
  | cons tag tags =>
    rw [List.cons_append, withTags, ht tag List.mem_cons_self, Bool.true_or, if_pos rfl,
      ← List.cons_append, List.filter_append, hnone, hfilter, List.nil_append]

theorem withTags_withTags {tags : List Bytes} (ht : ∀ x ∈ tags, isTagLine x = true)
    (ls : List Bytes) : withTags tags (withTags tags ls) = withTags tags ls := by
  induction ls with
  | nil =>
    have hnil : ∀ x ∈ ([] : List Bytes), isTagLine x = false := by simp
    simpa [withTags] using withTags_append ht hnil
  | cons line ls ih =>
    rw [withTags]
    split
    · refine withTags_append ht ?_
      intro x hx
      simpa using (List.mem_filter.1 hx).2
    · next hno => rw [withTags, if_neg hno, ih]

theorem withBlock_withBlock {tags doc : List Bytes} (ht : ∀ x ∈ tags, isTagLine x = true)
    (hd : withBlock tags doc doc = doc) (ls : List Bytes) :
    withBlock tags doc (withBlock tags doc ls) = withBlock tags doc ls := by
  induction ls with
  | nil => exact hd
  | cons line ls ih =>
    rw [withBlock, withBlock]
    split
    · rw [withTags_withTags ht]
    · rw [ih]

theorem withBlock_docLines {crlf : Bool} {authors : List String}
    (ht : ∀ x ∈ tagLines crlf authors, isTagLine x = true) :
    withBlock (tagLines crlf authors) (docLines crlf authors) (docLines crlf authors) =
      docLines crlf authors := by
  by_cases he : authors.isEmpty = true
  · rw [docLines, if_pos he, withBlock]
  · have hopens : opensDoc (docStart crlf) = true := by
      rw [opensDoc, lineText_docStart]
      decide
    have hend : isTagLine (docEnd crlf) = false := by
      rw [isTagLine, lineText_docEnd]
      decide
    rw [docLines, if_neg he, withBlock, if_pos hopens, withTags_append ht]
    intro x hx
    rw [List.mem_singleton.1 hx, hend]

theorem blockAbove_blockAbove {crlf : Bool} {authors : List String}
    (hn : ∀ name ∈ authors, '\n' ∉ name.toList) (above : List Bytes) :
    blockAbove crlf authors (blockAbove crlf authors above) = blockAbove crlf authors above := by
  have ht : ∀ x ∈ tagLines crlf authors, isTagLine x = true := by
    intro x hx
    obtain ⟨name, hname, rfl⟩ := List.mem_map.1 hx
    exact isTagLine_authorLine crlf (hn name hname)
  exact withBlock_withBlock ht (withBlock_docLines ht) above

/-- Lines that are inserted later end as those inserted before do. -/
theorem insertsCrlf_blockAbove (authors : List String) (above ls : List Bytes) :
    insertsCrlf (blockAbove (insertsCrlf (above ++ ls)) authors above ++ ls) =
      insertsCrlf (above ++ ls) := by
  cases above with
  | nil =>
    -- Only here is the first line a new one: the start of the doc comment.
    rw [blockAbove, withBlock, docLines]
    split
    · rfl
    · rw [List.nil_append, List.cons_append, insertsCrlf, List.head?_cons, Option.any_some]
      cases insertsCrlf ls <;> decide
  | cons line above => rfl

/-- Putting the same authors into the result gives the result again. -/
theorem retag_retag {source : Bytes} {above : List Bytes} {line : Bytes} {below : List Bytes}
    (h : Utf8.lines source = above ++ line :: below) (hl : isTagLine line = false)
    {authors : List String} (hn : ∀ name ∈ authors, '\n' ∉ name.toList) :
    let crlf := insertsCrlf (above ++ line :: below)
    retag (retag source authors above.length) authors (blockAbove crlf authors above).length =
      retag source authors above.length := by
  intro crlf
  rw [retag_eq (lines_retag h hl hn) hl, insertsCrlf_blockAbove, blockAbove_blockAbove hn,
    ← retag_eq h hl]

end Byline.Authorship

import Byline.Proofs.Authorship.Layout
import Byline.Proofs.Authorship.Survival

/-!
# New authors in place of the old

Only the tags of the authorship block give way to the authors that are written. Those of the section
that stand above the place of the authors stay, and so do those from the anchor down to the type.
What is found afterwards are the first occurrences among the three (`authors_retag_overwritten`), so
that a tag in a block comment that is no doc comment is found again
(`authors_retag_overwritten_blockComment`).
-/

namespace Byline.Authorship

open Utf8 (Bytes lineText)
open Source (Cut tagNames empty_notMem_tagNames)

/-- The names in the tags of the lines from `i` up to `j`. -/
def namesIn (source : Bytes) (i j : Nat) : List String :=
  tagNames ((((Utf8.lines source).take j).drop i).map lineText)

/-- The line that the authors go before, if there is a line at the anchor. -/
def blockStart (ls : List Bytes) (anchor : Nat) : Nat :=
  match place ls anchor with
  | .inComment p => p
  | _ => anchor

/-- The line that declares the type; in a file without one, the end. -/
def typeLine (source : Bytes) : Nat :=
  (found source).declaration.elim (Utf8.lines source).length (·.1)

theorem namesIn_eq {source : Bytes} (xs ys zs : List Bytes)
    (h : Utf8.lines source = xs ++ ys ++ zs) :
    namesIn source xs.length (xs ++ ys).length = tagNames (ys.map lineText) := by
  rw [namesIn, h, List.take_left, List.drop_left]

theorem ReadsBack.ne_empty {name : String} (h : ReadsBack name) : name ≠ "" := by
  rintro rfl
  obtain ⟨-, -, -, -, -, hne⟩ := Source.taggedName?_eq_some h
  exact hne rfl

/-! ## Tags above the block -/

section Block

variable {authors : List String} {tags doc top mid rest : List Bytes}

/-- The tags go to the end of an open comment that nothing in it ends, and below them other tags are
dropped. -/
theorem withTags_eq (hmid : ∀ x ∈ mid, (isTagLine x || closesDoc x) = false)
    (hrest : ∀ x ∈ rest.head?, (isTagLine x || closesDoc x) = true) :
    withTags tags (mid ++ rest) = mid ++ tags ++ rest.filter (!isTagLine ·) := by
  induction mid with
  | nil =>
    cases rest with
    | nil => simp [withTags]
    | cons line rest => rw [List.nil_append, withTags, if_pos (hrest line rfl), List.nil_append]
  | cons line mid ih =>
    have hline : ¬ (isTagLine line || closesDoc line) = true := by
      simp [hmid line List.mem_cons_self]
    rw [List.cons_append, withTags, if_neg hline,
      ih fun x hx => hmid x (List.mem_cons_of_mem line hx)]
    rfl

theorem withBlock_of_opens (h : Opens top) (ls : List Bytes) :
    withBlock tags doc (top ++ ls) = top ++ withTags tags ls := by
  obtain ⟨xs, line, rfl, hline, hxs⟩ := h
  induction xs with
  | nil => rw [List.nil_append, List.singleton_append, withBlock, if_pos hline]; rfl
  | cons x xs ih =>
    have hx : ¬ opensDoc x = true := by simp [hxs x List.mem_cons_self]
    rw [List.cons_append, List.cons_append, withBlock, if_neg hx,
      ih fun y hy => hxs y (List.mem_cons_of_mem x hy)]
    rfl

theorem Opens.exists_append {start : List Bytes} (ls : List Bytes) (h : Opens start)
    (htop : ∀ x ∈ top, opensDoc x = false) (hls : start <+: top ++ ls) :
    ∃ opened, start = top ++ opened ∧ Opens opened := by
  obtain ⟨xs, opener, rfl, hopener, hxs⟩ := h
  obtain ⟨us, rfl⟩ : top <+: xs := by
    refine List.prefix_of_prefix_length_le (List.prefix_append top ls)
      ((List.prefix_append xs [opener]).trans hls) ?_
    by_contra hlt
    -- The opener would be a line of the top.
    have hstart : xs ++ [opener] <+: top := by
      refine List.prefix_of_prefix_length_le hls (List.prefix_append top ls) ?_
      rw [List.length_append, List.length_singleton]
      omega
    rw [htop opener (hstart.subset (by simp))] at hopener
    exact Bool.false_ne_true hopener
  refine ⟨us ++ [opener], List.append_assoc top us _, us, opener, rfl, hopener, ?_⟩
  intro x hx
  exact hxs x (List.mem_append_right top hx)

/-- In an open comment the authors take the place of the tags from the first of them on. -/
theorem tagNames_blockAbove_of_opens {opened vs : List Bytes} (hopened : Opens opened)
    (hmid : ∀ x ∈ mid, (isTagLine x || closesDoc x) = false)
    (hvs : ∀ x ∈ vs.head?, (isTagLine x || closesDoc x) = true) (crlf : Bool)
    (h : ∀ name ∈ authors, ReadsBack name) :
    tagNames ((blockAbove crlf authors (opened ++ mid ++ vs)).map lineText) =
      tagNames ((opened ++ mid).map lineText) ++ authors := by
  have hblock : blockAbove crlf authors (opened ++ mid ++ vs) =
      opened ++ mid ++ tagLines crlf authors ++ vs.filter (!isTagLine ·) := by
    rw [blockAbove, List.append_assoc opened, withBlock_of_opens hopened, withTags_eq hmid hvs]
    simp only [List.append_assoc]
  have hdropped : tagNames ((vs.filter (!isTagLine ·)).map lineText) = [] := by
    refine tagNames_eq_nil_of_isTagLine ?_
    intro x hx
    simpa using (List.mem_filter.1 hx).2
  rw [hblock, List.map_append, List.map_append, Source.tagNames_append, Source.tagNames_append,
    tagNames_tagLines h, hdropped, List.append_nil]

/-- The tags of the section above the anchor, once the block is in: those above the place of the
authors, and the authors. -/
theorem tagNames_blockAbove (above : List Bytes) (line : Bytes) (below : List Bytes) (crlf : Bool)
    (htop : ∀ x ∈ top, opensDoc x = false) (h : ∀ name ∈ authors, ReadsBack name) :
    ∃ us vs, above = us ++ vs ∧
      blockStart (top ++ above ++ line :: below) (top ++ above).length = (top ++ us).length ∧
      tagNames ((blockAbove crlf authors above).map lineText) =
        tagNames (us.map lineText) ++ authors := by
  have hplaced := placed_place (top ++ above ++ line :: below) (top ++ above).length
  rw [blockStart]
  generalize place (top ++ above ++ line :: below) (top ++ above).length = q at hplaced
  cases hplaced with
  | @inComment start mid ys line' hls hopens hmid hle hline =>
    obtain ⟨opened, rfl, hopened⟩ := hopens.exists_append (above ++ line :: below) htop
      ⟨mid ++ line' :: ys, by rw [← List.append_assoc, ← List.append_assoc, hls]⟩
    obtain ⟨vs, hvs⟩ : top ++ opened ++ mid <+: top ++ above := by
      refine List.prefix_of_prefix_length_le ?_ (List.prefix_append _ (line :: below)) hle
      rw [hls]
      exact List.prefix_append _ _
    have habove : above = opened ++ mid ++ vs := by
      rw [List.append_assoc, List.append_assoc, List.append_cancel_left_eq] at hvs
      rw [← hvs, List.append_assoc]
    refine ⟨opened ++ mid, vs, habove, by simp, ?_⟩
    rw [habove]
    refine tagNames_blockAbove_of_opens hopened hmid ?_ crlf h
    -- Below the place is the anchor, or a line that the authors go before for what it says.
    rw [← hvs, List.append_assoc _ vs, List.append_cancel_left_eq] at hls
    cases vs with
    | nil => simp
    | cons v vs =>
      obtain ⟨rfl, -⟩ := List.cons.inj hls
      have hne : ((top ++ opened ++ mid).length == (top ++ above).length) = false := by
        rw [← hvs]
        simp
      rw [hne, Bool.or_false] at hline
      simpa using hline
  | @ownComment xs ys line' hls hanchor hxs =>
    obtain ⟨rfl, -⟩ := List.append_inj hls hanchor.symm
    refine ⟨above, [], (List.append_nil above).symm, rfl, ?_⟩
    have hblock : blockAbove crlf authors (above ++ []) = above ++ docLines crlf authors :=
      blockAbove_append (fun x hx => hxs x (List.mem_append_right top hx)) []
    rw [List.append_nil] at hblock
    rw [hblock, List.map_append, Source.tagNames_append, tagNames_docLines h]
  | unclosed _ _ _ hle =>
    simp only [List.length_append, List.length_cons] at hle
    omega
  | unopened _ hle =>
    simp only [List.length_append, List.length_cons] at hle
    omega

end Block

/-! ## Files -/

section Cut

variable {source : Bytes} {top body : List Bytes} {line : Bytes} {rest : List Bytes}

/-- The first line of the section and the line of the type. -/
theorem bounds_of_cut (hlines : Utf8.lines source = top ++ (body ++ line :: rest))
    (cut : Cut (top.map lineText) (body.map lineText) (lineText line)) :
    sectionStart source = top.length ∧ typeLine source = (top ++ body).length := by
  obtain ⟨f, name, hf, he⟩ := cut.takeAll_eq (rest.map lineText)
  have hfound : found source = { f.add (tagNames (body.map lineText))
      (Source.firstAnnotation? (top.map lineText).length (body.map lineText)) with
      declaration := some ((top.map lineText).length + (body.map lineText).length, name) } := by
    rw [found, hlines, List.map_append, List.map_append, List.map_cons, he]
  rw [sectionStart, typeLine, hfound]
  constructor
  · rw [Source.Findings.add_package, elim_package hf.package, List.length_map]
  · simp

end Cut

/-- What is found after the new authors of a record were written: the first occurrences in the tags
of the section above the authors, the authors, and the tags from the anchor down to the type. These
are the new authors alone just if the names above are a start of them and those below are among
them. No line of the header may leave a doc comment open, as the authors would go there. -/
theorem authors_retag_overwritten {source : Bytes} (stem : String)
    (hd : ∃ x ∈ Utf8.lines source, (Source.typeName? (lineText x)).isSome = true)
    (hheader : ∀ p name, (found source).package = some (p, name) →
      ∀ x ∈ (Utf8.lines source).take p, opensDoc x = false)
    {r : Record} (hr : r.disposition = .overwrite) (hdup : r.newAuthors.Nodup)
    (hnew : ∀ name ∈ r.newAuthors, ReadsBack name) :
    ∃ a n b, Source.analyzeBytes source stem = some a ∧ a.anchor = some n ∧
      Source.analyzeBytes (retag source r.written n) stem = some b ∧
      let above := namesIn source (sectionStart source) (blockStart (Utf8.lines source) n)
      let below := namesIn source n (typeLine source)
      b.authors = Names.addAll [] (above ++ r.newAuthors ++ below) ∧
      (b.authors = r.newAuthors ↔
        Names.addAll [] above <+: r.newAuthors ∧ below ⊆ r.newAuthors) := by
  obtain ⟨a, ha⟩ := exists_analysis_of_type stem hd
  obtain ⟨n, hn⟩ := exists_anchor ha
  obtain ⟨top, above, below, line, rest, hlines, rfl, cut⟩ := exists_cut_of_anchor ha hn hd
  have hwritten : r.written = r.newAuthors := by rw [Record.written, hr]
  have htop := opensDoc_eq_false hlines cut hheader
  have hnames : ∀ name ∈ r.newAuthors, '\n' ∉ name.toList := fun name hname =>
    (hnew name hname).newline_notMem
  obtain ⟨crlf, hout⟩ := lines_retag_of_cut ha hn hlines htop hnames
  have hcut := cut_blockAbove cut crlf hnames
  obtain ⟨b, hb⟩ := exists_analysis_of_cut stem hout hcut
  obtain ⟨hstart, htype⟩ := bounds_of_cut hlines cut
  -- The line at the anchor is the first below the section's upper part.
  obtain ⟨anchorLine, others, hanchor⟩ := List.exists_cons_of_ne_nil
    (show below ++ line :: rest ≠ [] by simp)
  have hlines' : Utf8.lines source = top ++ above ++ anchorLine :: others := by
    rw [hlines, ← hanchor]
    simp only [List.append_assoc]
  obtain ⟨us, vs, rfl, hblock, hkept⟩ := tagNames_blockAbove above anchorLine others crlf htop hnew
  have habove : namesIn source (sectionStart source)
      (blockStart (Utf8.lines source) (top ++ (us ++ vs)).length) = tagNames (us.map lineText) := by
    rw [hstart, hlines', hblock]
    exact namesIn_eq top us (vs ++ anchorLine :: others) (by rw [hlines']; simp)
  have hbelow : namesIn source (top ++ (us ++ vs)).length (typeLine source) =
      tagNames (below.map lineText) := by
    rw [htype, ← List.append_assoc top (us ++ vs) below]
    exact namesIn_eq (top ++ (us ++ vs)) below (line :: rest) (by rw [hlines]; simp)
  have hauthors : b.authors = Names.addAll []
      (tagNames (us.map lineText) ++ r.newAuthors ++ tagNames (below.map lineText)) := by
    rw [authors_of_cut hb hout hcut, List.map_append, Source.tagNames_append, hkept]
  have hne : "" ∉ r.newAuthors := fun h => (hnew "" h).ne_empty rfl
  refine ⟨a, _, b, ha, hn, hwritten ▸ hb, ?_⟩
  rw [habove, hbelow, hauthors]
  exact ⟨rfl, Names.addAll_append_eq_iff hdup hne (empty_notMem_tagNames _)⟩

/-- The record of the file with tags in a block comment and between an annotation and the type, with
authors to be written in place of those it has. -/
def replacedRecord : Record :=
  { path := "B.java", authors := ["y", "x", "z"], newAuthors := ["w v", "x"],
    disposition := .overwrite }

theorem authors_retag_overwritten_scattered :
    (replacedRecord.disposition = .overwrite ∧ replacedRecord.newAuthors.Nodup ∧
      ∀ name ∈ replacedRecord.newAuthors, ReadsBack name) ∧
    (∃ x ∈ Utf8.lines scatteredSource, (Source.typeName? (lineText x)).isSome = true) ∧
    (∀ p name, (found scatteredSource).package = some (p, name) →
      ∀ x ∈ (Utf8.lines scatteredSource).take p, opensDoc x = false) ∧
    ∃ b, Source.analyzeBytes (retag scatteredSource replacedRecord.written 6) "B" = some b ∧
      b.authors = ["y", "x", "w v", "z"] ∧ b.authors ≠ replacedRecord.newAuthors := by
  have hd : ∃ x ∈ Utf8.lines scatteredSource, (Source.typeName? (lineText x)).isSome = true := by
    decide +kernel
  have hpackage : (found scatteredSource).package = some (1, "a") := by decide +kernel
  have hopens : ∀ x ∈ (Utf8.lines scatteredSource).take 1, opensDoc x = false := by
    decide +kernel
  have hheader : ∀ p name, (found scatteredSource).package = some (p, name) →
      ∀ x ∈ (Utf8.lines scatteredSource).take p, opensDoc x = false := by
    intro p name hp x hx
    rw [hpackage] at hp
    obtain rfl := (Prod.mk.inj (Option.some.inj hp)).1
    exact hopens x hx
  have hdup : replacedRecord.newAuthors.Nodup := by decide
  have hnew : ∀ name ∈ replacedRecord.newAuthors, ReadsBack name := by
    unfold ReadsBack
    decide
  have ha : Source.analyzeBytes scatteredSource "B" =
      some ⟨some "a", "a.B", ["y", "x", "z"], some 6⟩ := by
    decide +kernel
  refine ⟨⟨rfl, hdup, hnew⟩, hd, hheader, ?_⟩
  obtain ⟨a, n, b, ha', hn, hb, hauthors, -⟩ :=
    authors_retag_overwritten "B" hd hheader rfl hdup hnew
  rw [ha] at ha'
  obtain rfl := Option.some.inj ha'
  obtain rfl := Option.some.inj hn
  have hall : b.authors = ["y", "x", "w v", "z"] := hauthors.trans (by decide +kernel)
  exact ⟨b, hb, hall, by rw [hall]; decide⟩

/-- A file with a tag in a block comment that is no doc comment. -/
def blockCommentSource : Bytes :=
  Utf8.ofString "/*\n * @author l\n */\npublic class A {}\n"

/-- The name in the block comment is found again, as the comment is left as it is. -/
theorem authors_retag_overwritten_blockComment :
    Source.analyzeBytes blockCommentSource "A" = some ⟨none, "A", ["l"], some 3⟩ ∧
      ReadsBack "x" ∧
      let r : Record :=
        { path := "A.java", authors := ["l"], newAuthors := ["x"], disposition := .overwrite }
      (Source.analyzeBytes (retag blockCommentSource r.written 3) "A").map (·.authors) =
        some ["l", "x"] := by
  unfold ReadsBack
  decide +kernel

end Byline.Authorship

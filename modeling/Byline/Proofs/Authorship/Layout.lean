import Byline.Proofs.Authorship.Block

/-!
# The layout of a file with its authors

A writer goes through its phases line by line. What comes out is told by two lines of the file: the
first above the anchor that leaves a doc comment open (`opening?`), and the first below that one
that is an author tag, ends a comment or is the anchor (`insertion?`). They say where the authors go
(`place`), and so what the file with the authors is (`layout`, `retag_eq_layout`).

The file and the anchor are arbitrary: the anchor may be an author tag or lie past the last line.
-/

namespace Byline.Authorship

open Utf8 (Bytes)

/-! ## Where the authors go -/

/-- The number of the first line for which `p` holds. -/
def firstLine? (p : Nat → Bytes → Bool) (ls : List Bytes) : Option Nat :=
  ls.zipIdx.findIdx? fun x => p x.2 x.1

/-- The first line above the anchor that leaves a doc comment open. -/
def opening? (ls : List Bytes) (anchor : Nat) : Option Nat :=
  firstLine? (fun i line => i < anchor && opensDoc line) ls

/-- The first line below line `o`, down to the anchor, that is an author tag, ends a comment or is
the anchor. -/
def insertion? (ls : List Bytes) (anchor o : Nat) : Option Nat :=
  firstLine? (fun i line => o < i && i ≤ anchor &&
    (isTagLine line || closesDoc line || i == anchor)) ls

/-- Where the authors go. -/
inductive Place where
  /-- Before line `p`, in a doc comment that is open. -/
  | inComment (p : Nat)
  /-- Before the anchor, in a doc comment of their own. -/
  | ownComment
  | nowhere
  deriving DecidableEq, Repr

def place (ls : List Bytes) (anchor : Nat) : Place :=
  match opening? ls anchor with
  | some o =>
    match insertion? ls anchor o with
    | some p => .inComment p
    | none => .nowhere
  | none => if anchor < ls.length then .ownComment else .nowhere

/-- A line that is put in. -/
def insertedLine (crlf : Bool) (text : String) : Bytes :=
  Utf8.ofString (text ++ if crlf then "\r\n" else "\n")

def insertedTags (crlf : Bool) (authors : List String) : List Bytes :=
  authors.map fun name => insertedLine crlf (" * @author " ++ name)

def insertedComment (crlf : Bool) (authors : List String) : List Bytes :=
  if authors = [] then []
  else insertedLine crlf "/**" :: (insertedTags crlf authors ++ [insertedLine crlf " */"])

/-- The lines without the author tags among the first `n`. -/
def withoutTags (n : Nat) (ls : List Bytes) : List Bytes :=
  (ls.take n).filter (!isTagLine ·) ++ ls.drop n

/-- The lines of the file with the authors. Inserted lines end as the first line does. -/
def layout (authors : List String) (ls : List Bytes) (anchor : Nat) : List Bytes :=
  let crlf := ls.head?.any endsWithCrlf
  match place ls anchor with
  | .inComment p =>
    ls.take p ++ insertedTags crlf authors ++ withoutTags (anchor + 1 - p) (ls.drop p)
  | .ownComment => ls.take anchor ++ insertedComment crlf authors ++ ls.drop anchor
  | .nowhere => ls

/-- The first line is left out if it is an author tag, and so on below it. -/
theorem flatten_withoutTags_cons (n : Nat) (line : Bytes) (ls : List Bytes) :
    (withoutTags (n + 1) (line :: ls)).flatten =
      (if isTagLine line then [] else line) ++ (withoutTags n ls).flatten := by
  by_cases ht : isTagLine line = true
  · simp [withoutTags, ht]
  · simp [withoutTags, ht]

section First

variable {p : Nat → Bytes → Bool} {ls : List Bytes}

theorem firstLine?_eq_some {i : Nat} (h : firstLine? p ls = some i) :
    ∃ xs line ys, ls = xs ++ line :: ys ∧ xs.length = i ∧ p i line = true ∧
      ∀ j x, xs[j]? = some x → p j x = false := by
  rw [firstLine?, List.findIdx?_eq_some_iff_getElem] at h
  obtain ⟨hi, hp, hfirst⟩ := h
  rw [List.length_zipIdx] at hi
  refine ⟨ls.take i, ls[i], ls.drop (i + 1), ?_, ?_, ?_, ?_⟩
  · rw [List.getElem_cons_drop, List.take_append_drop]
  · rw [List.length_take]
    omega
  · simpa using hp
  · intro j x hx
    rw [List.getElem?_take] at hx
    split at hx
    · next hj =>
      obtain ⟨hlt, rfl⟩ := List.getElem?_eq_some_iff.1 hx
      simpa using hfirst j hj
    · simp at hx

theorem firstLine?_eq_none (h : firstLine? p ls = none) {j : Nat} {x : Bytes}
    (hx : ls[j]? = some x) : p j x = false := by
  rw [firstLine?, List.findIdx?_eq_none_iff] at h
  refine h (x, j) ?_
  rw [List.mem_zipIdx_iff_getElem?]
  exact hx

end First

/-- Is the last of the lines the first of them that leaves a doc comment open? -/
def Opens (top : List Bytes) : Prop :=
  ∃ xs line, top = xs ++ [line] ∧ opensDoc line = true ∧ ∀ x ∈ xs, opensDoc x = false

/-! ## Runs of a writer -/

namespace Writer

variable {w : Writer} {ls : List Bytes}

/-- The writer after the lines. -/
def after (w : Writer) (ls : List Bytes) : Writer := ls.foldl (fun w line => (w.push line).1) w

theorem after_cons (w : Writer) (line : Bytes) (ls : List Bytes) :
    w.after (line :: ls) = (w.push line).1.after ls := rfl

theorem after_append (w : Writer) (xs ys : List Bytes) :
    w.after (xs ++ ys) = (w.after xs).after ys :=
  List.foldl_append

@[simp] theorem after_anchor (w : Writer) (ls : List Bytes) : (w.after ls).anchor = w.anchor := by
  induction ls generalizing w with
  | nil => rfl
  | cons line ls ih => rw [after_cons, ih, push_anchor]

@[simp] theorem after_authors (w : Writer) (ls : List Bytes) :
    (w.after ls).authors = w.authors := by
  induction ls generalizing w with
  | nil => rfl
  | cons line ls ih => rw [after_cons, ih, push_authors]

@[simp] theorem after_lineNo (w : Writer) (ls : List Bytes) :
    (w.after ls).lineNo = w.lineNo + ls.length := by
  induction ls generalizing w with
  | nil => rfl
  | cons line ls ih =>
    rw [after_cons, ih, push_lineNo, List.length_cons]
    omega

theorem after_endsInserted (w : Writer) (ls ls' : List Bytes) :
    (w.after ls).endsInserted ls' = w.endsInserted (ls ++ ls') := by
  induction ls generalizing w with
  | nil => rfl
  | cons line ls ih =>
    rw [after_cons, ih]
    exact push_endsInserted w line (ls ++ ls')

theorem pushAll_append (w : Writer) (xs ys : List Bytes) :
    w.pushAll (xs ++ ys) = w.pushAll xs ++ (w.after xs).pushAll ys := by
  induction xs generalizing w with
  | nil => rfl
  | cons line xs ih =>
    rw [List.cons_append, pushAll, pushAll, ih, after_cons, List.append_assoc]

/-- Lines above the anchor of a kind that is copied in a phase and does not end it are copied. -/
theorem pushAll_of_phase {phase : Phase} {p : Bytes → Prop}
    (hstep : ∀ (w : Writer) (line : Bytes), w.phase = phase → w.lineNo ≠ w.anchor → p line →
      (w.push line).2 = line ∧ (w.push line).1.phase = phase)
    (hphase : w.phase = phase) (hls : ∀ line ∈ ls, p line)
    (hle : w.lineNo + ls.length ≤ w.anchor) :
    w.pushAll ls = ls.flatten ∧ (w.after ls).phase = phase := by
  induction ls generalizing w with
  | nil => exact ⟨rfl, hphase⟩
  | cons line ls ih =>
    rw [List.length_cons] at hle
    obtain ⟨hout, hnext⟩ := hstep w line hphase (by omega) (hls line List.mem_cons_self)
    have hle' : (w.push line).1.lineNo + ls.length ≤ (w.push line).1.anchor := by
      rw [push_lineNo, push_anchor]
      omega
    obtain ⟨hrest, hafter⟩ := ih hnext (fun x hx => hls x (List.mem_cons_of_mem line hx)) hle'
    exact ⟨by rw [pushAll, hout, hrest, List.flatten_cons], hafter⟩

theorem pushAll_of_unopened (hphase : w.phase = .beforeDoc)
    (hls : ∀ line ∈ ls, opensDoc line = false) (hle : w.lineNo + ls.length ≤ w.anchor) :
    w.pushAll ls = ls.flatten ∧ (w.after ls).phase = .beforeDoc := by
  refine pushAll_of_phase ?_ hphase hls hle
  intro w line hw hne hline
  obtain ⟨hout, hnext⟩ := push_of_before hw line []
  rw [if_neg hne] at hout hnext
  exact ⟨hout, by rw [hnext, hline]; rfl⟩

theorem pushAll_of_unclosed (hphase : w.phase = .insideDoc)
    (hls : ∀ line ∈ ls, (isTagLine line || closesDoc line) = false)
    (hle : w.lineNo + ls.length ≤ w.anchor) :
    w.pushAll ls = ls.flatten ∧ (w.after ls).phase = .insideDoc := by
  refine pushAll_of_phase ?_ hphase hls hle
  intro w line hw hne hline
  obtain ⟨hout, hnext⟩ := push_of_inside hw line []
  have hat : (w.lineNo == w.anchor) = false := by simpa using hne
  have htag : isTagLine line = false := (Bool.or_eq_false_iff.1 hline).1
  rw [hline, hat] at hout hnext
  rw [if_neg hne] at hnext
  exact ⟨by rw [hout, htag]; rfl, hnext⟩

/-- The first line above the anchor that leaves a doc comment open takes the writer into it. -/
theorem pushAll_of_opens (hphase : w.phase = .beforeDoc) (hls : Opens ls)
    (hle : w.lineNo + ls.length ≤ w.anchor) :
    w.pushAll ls = ls.flatten ∧ (w.after ls).phase = .insideDoc := by
  obtain ⟨xs, line, rfl, hline, hxs⟩ := hls
  rw [List.length_append, List.length_singleton] at hle
  obtain ⟨hout, hafter⟩ := pushAll_of_unopened hphase hxs (by omega)
  obtain ⟨hout', hnext⟩ := push_of_before hafter line []
  have hne : (w.after xs).lineNo ≠ (w.after xs).anchor := by
    rw [after_lineNo, after_anchor]
    omega
  rw [if_neg hne] at hout' hnext
  rw [hline, if_pos rfl] at hnext
  rw [pushAll_append, hout, pushAll, hout', after_append]
  exact ⟨by simp [pushAll], hnext⟩

/-- The phase that a line leaves the writer in once the authors are written, told by the next
line. -/
theorem push_phase_written (w : Writer) (line : Bytes) (hle : w.lineNo ≤ w.anchor) :
    (if w.lineNo = w.anchor then Phase.copyingRemainder else .authorsEmitted) =
      if (w.push line).1.lineNo ≤ (w.push line).1.anchor then .authorsEmitted
        else .copyingRemainder := by
  rw [push_lineNo, push_anchor]
  by_cases hat : w.lineNo = w.anchor
  · rw [if_pos hat, if_neg (by omega)]
  · rw [if_neg hat, if_pos (by omega)]

/-- Once the authors are written, only author tags down to the anchor are left out. -/
theorem pushAll_of_written (hphase : w.phase =
      if w.lineNo ≤ w.anchor then .authorsEmitted else .copyingRemainder) :
    w.pushAll ls = (withoutTags (w.anchor + 1 - w.lineNo) ls).flatten := by
  induction ls generalizing w with
  | nil => simp [pushAll, withoutTags]
  | cons line ls ih =>
    by_cases hle : w.lineNo ≤ w.anchor
    · rw [if_pos hle] at hphase
      obtain ⟨hout, hnext⟩ := push_of_emitted hphase line
      rw [pushAll, hout, ih (hnext.trans (push_phase_written w line hle)), push_lineNo, push_anchor,
        show w.anchor + 1 - w.lineNo = w.anchor + 1 - (w.lineNo + 1) + 1 by omega,
        flatten_withoutTags_cons]
    · rw [if_neg hle] at hphase
      rw [pushAll_of_copying hphase, show w.anchor + 1 - w.lineNo = 0 by omega]
      rfl

/-- In an open doc comment, the authors go before a line that is an author tag, ends the comment or
is the anchor. -/
theorem pushAll_of_reached (line : Bytes) (ls : List Bytes) (hphase : w.phase = .insideDoc)
    (hline : (isTagLine line || closesDoc line || w.lineNo == w.anchor) = true)
    (hle : w.lineNo ≤ w.anchor) :
    w.pushAll (line :: ls) = authorLines (w.endsInserted (line :: ls)) w.authors ++
      (withoutTags (w.anchor + 1 - w.lineNo) (line :: ls)).flatten := by
  obtain ⟨hout, hnext⟩ := push_of_inside hphase line ls
  rw [hline, if_pos rfl] at hout
  rw [hline, if_pos rfl] at hnext
  rw [pushAll, hout, pushAll_of_written (hnext.trans (push_phase_written w line hle)), push_lineNo,
    push_anchor, show w.anchor + 1 - w.lineNo = w.anchor + 1 - (w.lineNo + 1) + 1 by omega,
    flatten_withoutTags_cons, List.append_assoc]

end Writer

/-! ## Files -/

theorem insertedTags_eq (crlf : Bool) (authors : List String) :
    insertedTags crlf authors = tagLines crlf authors := by
  refine List.map_congr_left ?_
  intro name _
  rw [authorLine, insertedLine, Utf8.ofString, Utf8.ofString, String.toList_append,
    String.toList_append, Utf8.encode_append, Utf8.encode_append]
  cases crlf <;> rfl

theorem insertedComment_eq (crlf : Bool) (authors : List String) :
    insertedComment crlf authors = docLines crlf authors := by
  have hstart : insertedLine crlf "/**" = docStart crlf := by cases crlf <;> decide
  have hend : insertedLine crlf " */" = docEnd crlf := by cases crlf <;> decide
  rw [insertedComment, docLines, hstart, hend, insertedTags_eq]
  simp only [List.isEmpty_iff]

section Place

variable {ls top ys : List Bytes} {anchor o p : Nat}

theorem opening?_eq_some (h : opening? ls anchor = some o) :
    ∃ top ys, ls = top ++ ys ∧ top.length = o + 1 ∧ top.length ≤ anchor ∧ Opens top := by
  obtain ⟨xs, line, ys, rfl, rfl, hp, hfirst⟩ := firstLine?_eq_some h
  rw [Bool.and_eq_true, decide_eq_true_iff] at hp
  have hle : (xs ++ [line]).length ≤ anchor := by
    rw [List.length_append, List.length_singleton]
    omega
  refine ⟨xs ++ [line], ys, by simp, by simp, hle, xs, line, rfl, hp.2, ?_⟩
  intro x hx
  obtain ⟨j, hj⟩ := List.mem_iff_getElem?.1 hx
  have hlt : j < xs.length := (List.getElem?_eq_some_iff.1 hj).1
  have hno := hfirst j x hj
  rw [Bool.and_eq_false_iff, decide_eq_false_iff_not] at hno
  exact hno.resolve_left (by omega)

theorem opening?_eq_none (h : opening? ls anchor = none) :
    ∀ x ∈ ls.take anchor, opensDoc x = false := by
  intro x hx
  obtain ⟨j, hj⟩ := List.mem_iff_getElem?.1 hx
  rw [List.getElem?_take] at hj
  split at hj
  · next hlt => simpa [hlt] using firstLine?_eq_none h hj
  · simp at hj

/-- The lines between the start of the comment and the place of the authors. -/
theorem insertion?_eq_some (ho : top.length = o + 1)
    (h : insertion? (top ++ ys) anchor o = some p) : ∃ mid line zs, ys = mid ++ line :: zs ∧
      p = (top ++ mid).length ∧ p ≤ anchor ∧
      (isTagLine line || closesDoc line || p == anchor) = true ∧
      ∀ x ∈ mid, (isTagLine x || closesDoc x) = false := by
  obtain ⟨us, line, zs, hls, rfl, hp, hfirst⟩ := firstLine?_eq_some h
  simp only [Bool.and_eq_true, decide_eq_true_iff] at hp
  obtain ⟨⟨hlt, hle⟩, hline⟩ := hp
  -- The place is below the start, so that the lines above it begin with those down to the start.
  obtain ⟨mid, rfl⟩ : top <+: us := by
    refine List.prefix_of_prefix_length_le (List.prefix_append top ys) ?_ (by omega)
    rw [hls]
    exact List.prefix_append us _
  rw [List.append_assoc, List.append_cancel_left_eq] at hls
  refine ⟨mid, line, zs, hls, rfl, hle, hline, ?_⟩
  intro x hx
  obtain ⟨j, hj⟩ := List.mem_iff_getElem?.1 hx
  have hjlt : j < mid.length := (List.getElem?_eq_some_iff.1 hj).1
  have hj' : (top ++ mid)[top.length + j]? = some x := by
    rw [List.getElem?_append_right (by omega), Nat.add_sub_cancel_left, hj]
  rw [List.length_append] at hle
  simpa [show o < top.length + j by omega, show top.length + j ≤ anchor by omega,
    show top.length + j ≠ anchor by omega] using hfirst _ x hj'

theorem insertion?_eq_none (ho : top.length = o + 1) (hle : top.length ≤ anchor)
    (h : insertion? (top ++ ys) anchor o = none) :
    (top ++ ys).length ≤ anchor ∧ ∀ x ∈ ys, (isTagLine x || closesDoc x) = false := by
  have hno : ∀ (j : Nat) (x : Bytes), ys[j]? = some x → top.length + j ≤ anchor →
      (isTagLine x || closesDoc x || top.length + j == anchor) = false := by
    intro j x hx hj
    have hx' : (top ++ ys)[top.length + j]? = some x := by
      rw [List.getElem?_append_right (by omega), Nat.add_sub_cancel_left, hx]
    simpa [show o < top.length + j by omega, hj] using firstLine?_eq_none h hx'
  have hlength : (top ++ ys).length ≤ anchor := by
    by_contra hgt
    rw [List.length_append] at hgt
    -- The anchor would be a line of the file, and the authors would go before it at the latest.
    have hat : ys[anchor - top.length]? = some ys[anchor - top.length] :=
      List.getElem?_eq_getElem (by omega)
    have hfalse := hno _ _ hat (by omega)
    simp [show top.length + (anchor - top.length) = anchor by omega] at hfalse
  refine ⟨hlength, ?_⟩
  intro x hx
  obtain ⟨j, hj⟩ := List.mem_iff_getElem?.1 hx
  have hjlt : j < ys.length := (List.getElem?_eq_some_iff.1 hj).1
  rw [List.length_append] at hlength
  exact (Bool.or_eq_false_iff.1 (hno j x hj (by omega))).1

/-- The lines cut at the place of the authors. -/
inductive Placed (ls : List Bytes) (anchor : Nat) : Place → Prop where
  | inComment {top mid ys : List Bytes} {line : Bytes} (h : ls = top ++ mid ++ line :: ys)
    (htop : Opens top) (hmid : ∀ x ∈ mid, (isTagLine x || closesDoc x) = false)
    (hle : (top ++ mid).length ≤ anchor)
    (hline : (isTagLine line || closesDoc line || (top ++ mid).length == anchor) = true) :
    Placed ls anchor (.inComment (top ++ mid).length)
  | ownComment {xs ys : List Bytes} {line : Bytes} (h : ls = xs ++ line :: ys)
    (hanchor : xs.length = anchor) (hxs : ∀ x ∈ xs, opensDoc x = false) :
    Placed ls anchor .ownComment
  /-- A doc comment stays open down to the end, and the anchor is past the end. -/
  | unclosed {top mid : List Bytes} (h : ls = top ++ mid) (htop : Opens top)
    (hmid : ∀ x ∈ mid, (isTagLine x || closesDoc x) = false) (hle : ls.length ≤ anchor) :
    Placed ls anchor .nowhere
  | unopened (hls : ∀ x ∈ ls, opensDoc x = false) (hle : ls.length ≤ anchor) :
    Placed ls anchor .nowhere

theorem placed_place (ls : List Bytes) (anchor : Nat) : Placed ls anchor (place ls anchor) := by
  unfold place
  cases ho : opening? ls anchor with
  | none =>
    have hno := opening?_eq_none ho
    by_cases hlt : anchor < ls.length
    · rw [if_pos hlt]
      have hls : ls = ls.take anchor ++ ls[anchor] :: ls.drop (anchor + 1) := by
        rw [List.getElem_cons_drop, List.take_append_drop]
      exact .ownComment hls (List.length_take_of_le hlt.le) hno
    · rw [if_neg hlt]
      rw [List.take_of_length_le (by omega)] at hno
      exact .unopened hno (by omega)
  | some o =>
    obtain ⟨top, ys, rfl, hlength, htop, hopens⟩ := opening?_eq_some ho
    cases hp : insertion? (top ++ ys) anchor o with
    | none =>
      obtain ⟨hle, hys⟩ := insertion?_eq_none hlength htop hp
      simp only [hp]
      exact .unclosed rfl hopens hys hle
    | some p =>
      simp only [hp]
      obtain ⟨mid, line, zs, rfl, rfl, hle, hline, hmid⟩ := insertion?_eq_some hlength hp
      exact .inComment (List.append_assoc top mid _).symm hopens hmid hle hline

end Place

section Retag

variable {source : Bytes} {top mid xs ys : List Bytes} {line : Bytes} {anchor : Nat}

/-- The authors go into a doc comment that is open. -/
theorem retag_of_inComment (h : Utf8.lines source = top ++ mid ++ line :: ys) (htop : Opens top)
    (hmid : ∀ x ∈ mid, (isTagLine x || closesDoc x) = false) (hle : (top ++ mid).length ≤ anchor)
    (hline : (isTagLine line || closesDoc line || (top ++ mid).length == anchor) = true)
    (authors : List String) : retag source authors anchor =
      (top ++ mid ++ tagLines (insertsCrlf (Utf8.lines source)) authors ++
        withoutTags (anchor + 1 - (top ++ mid).length) (line :: ys)).flatten := by
  have hends : insertsCrlf (Utf8.lines source) =
      Writer.endsInserted { authors := authors, anchor := anchor } (Utf8.lines source) := rfl
  rw [List.length_append] at hle hline ⊢
  -- The writer goes down to the comment, through it, and to the line that the authors go before.
  obtain ⟨hout₁, hphase₁⟩ := Writer.pushAll_of_opens
    (w := { authors := authors, anchor := anchor }) rfl htop (by simp; omega)
  obtain ⟨hout₂, hphase₂⟩ := Writer.pushAll_of_unclosed hphase₁ hmid (by simpa using hle)
  have hout₃ := Writer.pushAll_of_reached line ys hphase₂
    (by simpa using hline) (by simpa using hle)
  rw [hends, retag, h, List.append_assoc, Writer.pushAll_append, hout₁, Writer.pushAll_append,
    hout₂, hout₃]
  simp [Writer.after_endsInserted, flatten_tagLines]

/-- Without an open doc comment the authors go before the anchor. -/
theorem retag_of_ownComment (h : Utf8.lines source = xs ++ line :: ys)
    (hxs : ∀ x ∈ xs, opensDoc x = false) (authors : List String) :
    retag source authors xs.length =
      (xs ++ docLines (insertsCrlf (Utf8.lines source)) authors ++ line :: ys).flatten := by
  have hends : insertsCrlf (Utf8.lines source) =
      Writer.endsInserted { authors := authors, anchor := xs.length } (Utf8.lines source) := rfl
  obtain ⟨hout, hphase⟩ := Writer.pushAll_of_unopened
    (w := { authors := authors, anchor := xs.length }) rfl hxs (by simp)
  obtain ⟨hout', hnext⟩ := Writer.push_of_before hphase line ys
  rw [if_pos (by simp)] at hout' hnext
  rw [hends, retag, h, Writer.pushAll_append, hout, Writer.pushAll, hout',
    Writer.pushAll_of_copying hnext]
  simp [Writer.after_endsInserted, flatten_docLines]

theorem retag_of_unclosed (h : Utf8.lines source = top ++ mid) (htop : Opens top)
    (hmid : ∀ x ∈ mid, (isTagLine x || closesDoc x) = false)
    (hle : (Utf8.lines source).length ≤ anchor) (authors : List String) :
    retag source authors anchor = (Utf8.lines source).flatten := by
  rw [h, List.length_append] at hle
  obtain ⟨hout₁, hphase₁⟩ := Writer.pushAll_of_opens
    (w := { authors := authors, anchor := anchor }) rfl htop (by simp; omega)
  obtain ⟨hout₂, hphase₂⟩ := Writer.pushAll_of_unclosed hphase₁ hmid (by simpa using hle)
  rw [retag, h, Writer.pushAll_append, hout₁, hout₂, List.flatten_append]

theorem retag_of_unopened (hls : ∀ x ∈ Utf8.lines source, opensDoc x = false)
    (hle : (Utf8.lines source).length ≤ anchor) (authors : List String) :
    retag source authors anchor = (Utf8.lines source).flatten :=
  (Writer.pushAll_of_unopened rfl hls (by simpa using hle)).1

end Retag

/-- The file with the authors is laid out as the lines of the file say, and the authors have a place
whenever there is a line at the anchor. -/
theorem retag_eq_layout (source : Bytes) (authors : List String) (anchor : Nat) :
    retag source authors anchor = (layout authors (Utf8.lines source) anchor).flatten ∧
      (anchor < (Utf8.lines source).length → place (Utf8.lines source) anchor ≠ .nowhere) := by
  have hplaced := placed_place (Utf8.lines source) anchor
  unfold layout
  generalize place (Utf8.lines source) anchor = q at hplaced ⊢
  cases hplaced with
  | inComment h htop hmid hle hline =>
    refine ⟨?_, by simp⟩
    rw [retag_of_inComment h htop hmid hle hline, insertsCrlf, ← insertedTags_eq]
    simp only [h, List.take_left, List.drop_left]
  | ownComment h hanchor hxs =>
    refine ⟨?_, by simp⟩
    subst hanchor
    rw [retag_of_ownComment h hxs, insertsCrlf, ← insertedComment_eq]
    simp only [h, List.take_left, List.drop_left]
  | unclosed h htop hmid hle => exact ⟨retag_of_unclosed h htop hmid hle authors, by omega⟩
  | unopened hls hle => exact ⟨retag_of_unopened hls hle authors, by omega⟩

end Byline.Authorship

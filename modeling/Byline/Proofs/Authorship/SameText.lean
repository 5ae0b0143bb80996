import Byline.Proofs.Authorship.Layout

/-!
# Files with the same text

Two files with the same text may differ in their octets: in the terminators of their lines, and in
octets that are read as replacement characters (`shownText`). A file with its authors written may
thus have the text of the file as it was and still not be that file.

If it has, then the authors took the place of just as many tags, line by line, and nothing else was
changed. So the files are the same if and only if each of these tags was a text with the terminator
that written tags have (`retag_eq_self_iff`).
-/

namespace Byline.Authorship

open Utf8 (Bytes)

/-- The text of a line without its terminator. Carriage returns before that are part of it. -/
def shownText (line : Bytes) : List Char := chomp (Utf8.decodeLossy line)

/-- Is the line a text with the terminator of lines that are put in? -/
def IsRegular (crlf : Bool) (line : Bytes) : Prop :=
  line = Utf8.encode (shownText line) ++ terminator crlf

instance (crlf : Bool) (line : Bytes) : Decidable (IsRegular crlf line) :=
  inferInstanceAs (Decidable (_ = _))

/-- Does the name end with the line of its tag, and not before? -/
def EndsWithLine (name : String) : Prop := '\n' ∉ name.toList ∧ name.toList.getLast? ≠ some '\r'

instance (name : String) : Decidable (EndsWithLine name) := inferInstanceAs (Decidable (_ ∧ _))

/-- The author tags in whose place the authors are written. -/
def replacedTags (ls : List Bytes) (anchor : Nat) : List Bytes :=
  match place ls anchor with
  | .inComment p => ((ls.drop p).take (anchor + 1 - p)).filter isTagLine
  | .ownComment => []
  | .nowhere => []

/-! ## Texts of lines -/

/-- The lines of the text of a file are the texts of its lines. -/
theorem lines_decodeLossy (b : Bytes) :
    Byline.lines (Utf8.decodeLossy b) = (Utf8.lines b).map shownText := by
  rw [Byline.lines, Utf8.splitInclusive_decodeLossy, List.map_map]
  rfl

theorem isTagLine_congr {x y : Bytes} (h : shownText x = shownText y) :
    isTagLine x = isTagLine y := by
  have hline (z : Bytes) : Utf8.lineText z = chompAll (shownText z) := (chompAll_chomp _).symm
  rw [isTagLine, isTagLine, hline, hline, h]

theorem chomp_append_terminatorText {s : List Char} (h : s.getLast? ≠ some '\r') (crlf : Bool) :
    chomp (s ++ terminatorText crlf) = s := by
  cases crlf with
  | false =>
    rw [show terminatorText false = ['\n'] from rfl, chomp, if_pos List.getLast?_concat,
      List.dropLast_concat]
    exact if_neg h
  | true =>
    have hsplit : s ++ terminatorText true = s ++ ['\r'] ++ ['\n'] := by
      rw [List.append_assoc]
      rfl
    rw [hsplit, chomp, if_pos List.getLast?_concat, List.dropLast_concat]
    dsimp only
    rw [if_pos List.getLast?_concat, List.dropLast_concat]

theorem isRegular_authorLine (crlf : Bool) {name : String} (h : EndsWithLine name) :
    IsRegular crlf (authorLine crlf name) := by
  have hline : authorLine crlf name =
      Utf8.encode (Source.tagStart ++ name.toList) ++ terminator crlf := by
    rw [authorLine, Utf8.encode_append, Utf8.ofString]
  have hterm : terminator crlf = Utf8.encode (terminatorText crlf) := by cases crlf <;> rfl
  have hlast : (Source.tagStart ++ name.toList).getLast? ≠ some '\r' := by
    rw [List.getLast?_append]
    cases hl : name.toList.getLast? with
    | none => exact (by decide : Source.tagStart.getLast? ≠ some '\r')
    | some c =>
      have hc := h.2
      rw [hl] at hc
      exact hc
  have htext : shownText (authorLine crlf name) = Source.tagStart ++ name.toList := by
    rw [hline, hterm, ← Utf8.encode_append, shownText, Utf8.decodeLossy_encode,
      chomp_append_terminatorText hlast]
  rw [IsRegular, htext, hline]

/-- Regular lines are told by their texts. -/
theorem eq_of_map_shownText {crlf : Bool} {xs ys : List Bytes} (hxs : ∀ x ∈ xs, IsRegular crlf x)
    (hys : ∀ y ∈ ys, IsRegular crlf y) (h : xs.map shownText = ys.map shownText) : xs = ys := by
  have hself {zs : List Bytes} (hzs : ∀ z ∈ zs, IsRegular crlf z) :
      (zs.map shownText).map (Utf8.encode · ++ terminator crlf) = zs := by
    rw [List.map_map]
    refine (List.map_congr_left fun z hz => ?_).trans (List.map_id zs)
    exact (hzs z hz).symm
  rw [← hself hxs, ← hself hys, h]

/-! ## Tags that were replaced -/

/-- If tags before the lines that are no tags have the texts of all lines, then the tags among the
lines stand first, and there are as many. -/
theorem cut_of_map_shownText {tags ls : List Bytes} (ht : ∀ x ∈ tags, isTagLine x = true)
    (h : (tags ++ ls.filter (!isTagLine ·)).map shownText = ls.map shownText) :
    ls = ls.filter isTagLine ++ ls.filter (!isTagLine ·) ∧
      (ls.filter isTagLine).map shownText = tags.map shownText := by
  rw [List.map_append] at h
  obtain ⟨xs, ys, rfl, hxs, hys⟩ := List.map_eq_append_iff.1 h.symm
  have hmem {us vs : List Bytes} (he : us.map shownText = vs.map shownText) {u : Bytes}
      (hu : u ∈ us) : ∃ v ∈ vs, shownText v = shownText u :=
    List.mem_map.1 (he ▸ List.mem_map_of_mem hu)
  have htag : ∀ x ∈ xs, isTagLine x = true := by
    intro x hx
    obtain ⟨v, hv, he⟩ := hmem hxs hx
    rw [← isTagLine_congr he, ht v hv]
  have hother : ∀ y ∈ ys, isTagLine y = false := by
    intro y hy
    obtain ⟨v, hv, he⟩ := hmem hys hy
    rw [← isTagLine_congr he]
    simpa using (List.mem_filter.1 hv).2
  have hfilter : (xs ++ ys).filter isTagLine = xs := by
    rw [List.filter_append, List.filter_eq_self.2 htag,
      List.filter_eq_nil_iff.2 (by simpa using hother), List.append_nil]
  have hrest : (xs ++ ys).filter (!isTagLine ·) = ys := by
    rw [List.filter_append, List.filter_eq_nil_iff.2 (by simpa using htag),
      List.filter_eq_self.2 (by simpa using hother), List.nil_append]
  rw [hfilter, hrest]
  exact ⟨rfl, hxs⟩

section Retag

variable {source : Bytes} {authors : List String} {anchor : Nat}

/-- Lines put between the lines of a file, of which some below may be left out, are lines of the
result. -/
theorem lines_flatten_put {above put below rest : List Bytes}
    (h : Utf8.lines source = above ++ below) (hne : below ≠ [])
    (hput : ∀ x ∈ put, Terminated (· == newline) x) (hrest : rest.Sublist below) :
    Utf8.lines (above ++ put ++ rest).flatten = above ++ put ++ rest := by
  obtain ⟨hcut, habove⟩ := splitInclusive_eq_append h
  rw [List.flatten_append, Utf8.lines, splitInclusive_flatten_append,
    splitInclusive_flatten_of_sublist hcut hrest]
  intro x hx
  rcases List.mem_append.1 hx with hx | hx
  · exact habove hne x hx
  · exact hput x hx

theorem withoutTags_sublist (n : Nat) (ls : List Bytes) : (withoutTags n ls).Sublist ls := by
  have h : ((ls.take n).filter (!isTagLine ·) ++ ls.drop n).Sublist (ls.take n ++ ls.drop n) :=
    List.filter_sublist.append (List.Sublist.refl _)
  rwa [List.take_append_drop] at h

theorem eq_self_iff_of_put {crlf : Bool} {out : Bytes} {above tags reached below : List Bytes}
    (h : Utf8.lines source = above ++ (reached ++ below))
    (hout : Utf8.lines out = above ++ (tags ++ reached.filter (!isTagLine ·) ++ below))
    (ht : ∀ x ∈ tags, isTagLine x = true ∧ IsRegular crlf x)
    (htext : Byline.lines (Utf8.decodeLossy out) = Byline.lines (Utf8.decodeLossy source)) :
    out = source ↔ ∀ x ∈ reached.filter isTagLine, IsRegular crlf x := by
  have hreached : (tags ++ reached.filter (!isTagLine ·)).map shownText =
      reached.map shownText := by
    rw [lines_decodeLossy, lines_decodeLossy, h, hout] at htext
    simpa only [List.map_append, List.append_cancel_left_eq, List.append_cancel_right_eq] using htext
  obtain ⟨hcut, htags⟩ := cut_of_map_shownText (fun x hx => (ht x hx).1) hreached
  have hjoin (b : Bytes) : (Utf8.lines b).flatten = b := flatten_splitInclusive _ b
  constructor
  · rintro rfl
    -- The same octets are cut into the same lines.
    have hsame := hout.symm.trans h
    rw [List.append_cancel_left_eq, List.append_cancel_right_eq] at hsame
    nth_rewrite 2 [hcut] at hsame
    rw [List.append_cancel_right_eq] at hsame
    exact fun x hx => (ht x (hsame ▸ hx)).2
  · intro hall
    have hsame := eq_of_map_shownText hall (fun x hx => (ht x hx).2) htags
    rw [hsame] at hcut
    rw [← hjoin out, ← hjoin source, hout, h, ← hcut]

/-- If a file has the same text after its authors were written, it is the same file if and only if
each tag that the authors replaced was a text with the terminator of the tags written. -/
theorem retag_eq_self_iff (hn : ∀ name ∈ authors, EndsWithLine name)
    (htext : Byline.lines (Utf8.decodeLossy (retag source authors anchor)) =
      Byline.lines (Utf8.decodeLossy source)) :
    retag source authors anchor = source ↔
      ∀ x ∈ replacedTags (Utf8.lines source) anchor,
        IsRegular (insertsCrlf (Utf8.lines source)) x := by
  have hsource : (Utf8.lines source).flatten = source := flatten_splitInclusive _ source
  have hplaced := placed_place (Utf8.lines source) anchor
  unfold replacedTags
  generalize place (Utf8.lines source) anchor = q at hplaced ⊢
  cases hplaced with
  | @inComment top mid ys line h htop hmid hle hline =>
    have hretag := retag_of_inComment h htop hmid hle hline authors
    have hdrop : (Utf8.lines source).drop (top ++ mid).length = line :: ys := by
      rw [h, List.drop_left]
    simp only [hdrop]
    generalize insertsCrlf (Utf8.lines source) = crlf at hretag ⊢
    generalize anchor + 1 - (top ++ mid).length = n at hretag ⊢
    have htags : ∀ x ∈ tagLines crlf authors, isTagLine x = true ∧ IsRegular crlf x := by
      intro x hx
      obtain ⟨name, hname, rfl⟩ := List.mem_map.1 hx
      exact ⟨isTagLine_authorLine crlf (hn name hname).1, isRegular_authorLine crlf (hn name hname)⟩
    have hput : ∀ x ∈ tagLines crlf authors, Terminated (· == newline) x := by
      intro x hx
      exact terminated_of_mem_docLines (fun name hname => (hn name hname).1) (.inl hx)
    have hlines := lines_flatten_put h (List.cons_ne_nil line ys) hput
      (withoutTags_sublist n (line :: ys))
    rw [← hretag, withoutTags, List.append_assoc, ← List.append_assoc (tagLines crlf authors)]
      at hlines
    rw [← List.take_append_drop n (line :: ys)] at h
    exact eq_self_iff_of_put h hlines htags htext
  | @ownComment xs ys line h hanchor hxs =>
    subst hanchor
    have hretag := retag_of_ownComment h hxs authors
    generalize insertsCrlf (Utf8.lines source) = crlf at hretag ⊢
    have hput : ∀ x ∈ docLines crlf authors, Terminated (· == newline) x := by
      intro x hx
      exact terminated_of_mem_docLines (fun name hname => (hn name hname).1) (.inr hx)
    have hlines := lines_flatten_put h (List.cons_ne_nil line ys) hput (List.Sublist.refl _)
    rw [← hretag] at hlines
    rw [lines_decodeLossy, lines_decodeLossy, hlines, h] at htext
    -- A comment that was put in would be seen in the text.
    have hnone : docLines crlf authors = [] := by
      have hlength := congrArg List.length htext
      simp only [List.length_map, List.length_append] at hlength
      exact List.length_eq_zero_iff.1 (by omega)
    rw [hnone, List.append_nil, ← h, hsource] at hretag
    simp [hretag]
  | unclosed h htop hmid hle => simp [retag_of_unclosed h htop hmid hle, hsource]
  | unopened hls hle => simp [retag_of_unopened hls hle, hsource]

end Retag

end Byline.Authorship

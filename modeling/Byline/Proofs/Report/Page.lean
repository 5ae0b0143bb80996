import Byline.Proofs.Report.Markup
import Mathlib.Data.List.Forall2

/-!
# Pages of reports of one shape

The strings of a report stand in slots of its page, each after a tag that has one. Decoded, the slots
are the strings (`Html.holds_page`). All else on the page is set by the shape of the report: how many
files, authors and lines there are, and of which kind (`Html.alike_page`). No string can thus make a
tag, or move to another slot (`Html.cut_page`).
-/

namespace Byline

namespace ReportEntry

/-- The lines of the difference, if there is one that is not empty. -/
def shownLines? (f : ReportEntry) : Option (List String) :=
  (f.diff.filter (!·.isEmpty)).map (·.unified)

/-- The strings of an entry that its section shows, in order. -/
def strings (f : ReportEntry) : List String :=
  f.title :: (f.authors ++ f.error.toList ++ f.shownLines?.getD [])

/-- What the section of an entry shows apart from strings. -/
structure Shape where
  outcome : Outcome
  /-- The number of authors. -/
  authors : Nat
  hasError : Bool
  /-- The classes of the lines of the difference, if they are shown. -/
  classes : Option (List String)
  deriving DecidableEq, Repr

/-- The shape of an entry. -/
def shape (f : ReportEntry) : Shape where
  outcome := f.outcome
  authors := f.authors.length
  hasError := f.error.isSome
  classes := f.shownLines?.map (·.map Report.Html.lineClass)

end ReportEntry

namespace Report

/-- The strings of a report that its page shows, in order. -/
def strings (r : Report) : List String := r.projectDir :: r.files.flatMap ReportEntry.strings

/-- What the page of a report shows apart from strings. -/
structure Shape where
  mode : Mode
  summary : Summary
  files : List ReportEntry.Shape
  deriving DecidableEq, Repr

/-- The shape of a report. -/
def shape (r : Report) : Shape where
  mode := r.mode
  summary := r.summary
  files := r.files.map ReportEntry.shape

/-! ## Slots -/

/-- The tags that a string of the report stands after. -/
def slotTags : List (List Char) :=
  ["h2", "code", "li", "p class=\"del\"", "span class=\"hunk\"", "span class=\"add\"",
    "span class=\"del\"", "span class=\"ctx\""].map String.toList

namespace Piece

/-- Is the text of the piece a string of the report? -/
def isSlot (p : Piece) : Bool := slotTags.contains p.tag

/-- The string in a slot. A title has a blank after it. -/
def string (p : Piece) : List Char :=
  if p.tag = "h2".toList then (unescape p.text).dropLast else unescape p.text

/-- What the piece shows apart from strings. -/
def frame (p : Piece) : List Char × Option (List Char) :=
  (p.tag, if p.isSlot then none else some p.text)

end Piece

namespace Html

variable {us vs us' vs' xs ys : List Html} {opening closing : String}

/-! ## What is shown apart from strings -/

/-- The text that the parts start with, and what is shown after it apart from strings. -/
def outline (ps : List Html) : List Char × List (List Char × Option (List Char)) :=
  ((pieces ps).1, (pieces ps).2.map Piece.frame)

theorem outline_cons (p : Html) (h : outline xs = outline ys) :
    outline (p :: xs) = outline (p :: ys) := by
  obtain ⟨h₁, h₂⟩ := Prod.mk.inj h
  cases p with
  | tag body => simp only [outline, pieces, List.map_cons, h₁, h₂]
  | text s => simp only [outline, pieces, h₁, h₂]

/-- The text of a slot does not show in the outline. -/
theorem outline_slot (hslot : opening.toList ∈ slotTags) (h : outline xs = outline ys)
    (s t : String) : outline (.tag opening :: .text s :: xs) =
      outline (.tag opening :: .text t :: ys) := by
  have h₂ := (Prod.mk.inj h).2
  simp [outline, pieces, Piece.frame, Piece.isSlot, hslot, h₂]

/-- Parts that do not differ but in the texts of slots, whatever stands after them. -/
def Alike (us vs : List Html) : Prop :=
  ∀ xs ys, outline xs = outline ys → outline (us ++ xs) = outline (vs ++ ys)

namespace Alike

theorem refl (us : List Html) : Alike us us := by
  intro xs ys h
  induction us with
  | nil => exact h
  | cons p us ih => exact outline_cons p ih

theorem append (h : Alike us vs) (h' : Alike us' vs') : Alike (us ++ us') (vs ++ vs') := by
  intro xs ys hxs
  rw [List.append_assoc, List.append_assoc]
  exact h _ _ (h' _ _ hxs)

theorem flatMap {α : Type} {f : α → List Html} {as bs : List α}
    (h : List.Forall₂ (fun a b => Alike (f a) (f b)) as bs) :
    Alike (as.flatMap f) (bs.flatMap f) := by
  induction h with
  | nil => exact .refl []
  | cons hab _ ih => exact hab.append ih

theorem element (h : Alike us vs) :
    Alike (Html.element opening closing us) (Html.element opening closing vs) := by
  intro xs ys hxs
  rw [Html.element, Html.element, List.cons_append, List.cons_append, List.append_assoc,
    List.append_assoc]
  exact outline_cons _ (h _ _ (outline_cons _ hxs))

theorem slot (hslot : opening.toList ∈ slotTags) (h : Alike us vs) (s t : String) :
    Alike (Html.element opening closing (.text s :: us))
      (Html.element opening closing (.text t :: vs)) := by
  intro xs ys hxs
  rw [Html.element, Html.element, List.cons_append, List.cons_append, List.cons_append,
    List.cons_append, List.append_assoc, List.append_assoc]
  exact outline_slot hslot (h _ _ (outline_cons _ hxs)) s t

end Alike

/-! ## Strings -/

/-- The strings in the slots of the parts. -/
def held (ps : List Html) : List (List Char) :=
  ((pieces ps).2.filter Piece.isSlot).map Piece.string

theorem held_text (s : String) (ps : List Html) : held (.text s :: ps) = held ps := rfl

/-- A tag that no string of the report stands after. -/
def IsFixedTag (tag : String) : Prop := IsPlain tag.toList ∧ tag.toList ∉ slotTags

instance (tag : String) : Decidable (IsFixedTag tag) := inferInstanceAs (Decidable (_ ∧ _))

/-- The part is such a tag, or text. -/
def IsFixed : Html → Prop
  | .tag body => IsFixedTag body
  | .text _ => True

instance : DecidablePred IsFixed
  | .tag body => inferInstanceAs (Decidable (IsFixedTag body))
  | .text _ => .isTrue trivial

theorem held_tag (hopening : IsFixedTag opening) (ps : List Html) :
    held (.tag opening :: ps) = held ps := by
  simp [held, pieces, Piece.isSlot, hopening.2]

/-- The text of a slot ends at the next tag. -/
theorem held_slot (hslot : opening.toList ∈ slotTags) (s : String) {ps : List Html}
    (hps : (pieces ps).1 = []) : held (.tag opening :: .text s :: ps) =
      (if opening.toList = "h2".toList then s.toList.dropLast else s.toList) :: held ps := by
  simp [held, pieces, Piece.isSlot, Piece.string, hslot, hps, unescape_escape]

theorem isPlain_of_mem_slotTags {tag : List Char} (h : tag ∈ slotTags) : IsPlain tag := by
  have hall : ∀ t ∈ slotTags, IsPlain t := by decide
  exact hall tag h

/-- The parts can be read, and they hold these strings in their slots, whatever stands after them. -/
structure Holds (us : List Html) (ss : List String) : Prop where
  hasPlainTag : ∀ p ∈ us, p.HasPlainTag
  held_append : ∀ ps, held (us ++ ps) = ss.map String.toList ++ held ps

namespace Holds

variable {ss ts : List String}

theorem nil : Holds [] [] := ⟨by simp, fun _ => rfl⟩

theorem text (s : String) : Holds [.text s] [] := ⟨by simp [HasPlainTag], held_text s⟩

theorem newline : Holds [newline] [] := text "\n"

theorem tag (hopening : IsFixedTag opening) : Holds [.tag opening] [] :=
  ⟨by simpa [HasPlainTag] using hopening.1, held_tag hopening⟩

theorem append (h : Holds us ss) (h' : Holds vs ts) : Holds (us ++ vs) (ss ++ ts) where
  hasPlainTag := List.forall_mem_append.2 ⟨h.hasPlainTag, h'.hasPlainTag⟩
  held_append ps := by
    rw [List.append_assoc, h.held_append, h'.held_append, List.map_append, List.append_assoc]

theorem flatMap {α : Type} {f : α → List Html} {g : α → List String} {as : List α}
    (h : ∀ a ∈ as, Holds (f a) (g a)) : Holds (as.flatMap f) (as.flatMap g) := by
  induction as with
  | nil => exact nil
  | cons a as ih =>
    obtain ⟨ha, has⟩ := List.forall_mem_cons.1 h
    exact ha.append (ih has)

theorem fixed (h : ∀ p ∈ us, p.IsFixed) : Holds us [] := by
  induction us with
  | nil => exact nil
  | cons p us ih =>
    obtain ⟨hp, hus⟩ := List.forall_mem_cons.1 h
    cases p with
    | tag body => exact (tag hp).append (ih hus)
    | text s => exact (text s).append (ih hus)

theorem element (hopening : IsFixedTag opening) (hclosing : IsFixedTag closing)
    (h : Holds us ss) : Holds (Html.element opening closing us) ss := by
  have hwhole := ((tag hopening).append h).append (tag hclosing)
  rwa [List.nil_append, List.append_nil] at hwhole

/-- A slot whose text is followed by a tag, be it that of an element after the text. -/
theorem slot (hslot : opening.toList ∈ slotTags) (hclosing : IsFixedTag closing)
    (hus : ∀ ps, (pieces (us ++ .tag closing :: ps)).1 = []) (h : Holds us []) (s : String) :
    Holds (Html.element opening closing (.text s :: us))
      [if opening.toList = "h2".toList then String.ofList s.toList.dropLast else s] where
  hasPlainTag := List.forall_mem_cons.2 ⟨isPlain_of_mem_slotTags hslot, List.forall_mem_cons.2
    ⟨trivial, List.forall_mem_append.2 ⟨h.hasPlainTag, (tag hclosing).hasPlainTag⟩⟩⟩
  held_append ps := by
    rw [Html.element, List.cons_append, List.cons_append, List.cons_append, List.append_assoc,
      List.singleton_append, held_slot hslot s (hus ps), h.held_append, held_tag hclosing]
    split <;> simp

end Holds

/-! ## The page -/

theorem forall₂_of_map_eq {α β : Type} {f : α → β} {as bs : List α} (h : as.map f = bs.map f) :
    List.Forall₂ (fun a b => f a = f b) as bs :=
  List.forall₂_map_left_iff.1 (List.forall₂_map_right_iff.1 (List.forall₂_eq_eq_eq ▸ h))

theorem span_mem_slotTags (l : String) :
    ("span class=\"" ++ lineClass l ++ "\"").toList ∈ slotTags := by
  rw [lineClass]
  split_ifs <;> decide

/-- The section of an entry, by what it shows. -/
theorem fileSection_eq (f : ReportEntry) : fileSection f =
    element "h2" "/h2" (.text (f.title ++ " ") :: element "small" "/small" [.text f.outcome.display]) ++
      [newline] ++ authorList f.authors ++
      f.error.toList.flatMap (fun e => element "p class=\"del\"" "/p" [.text e] ++ [newline]) ++
      f.shownLines?.toList.flatMap
        (fun ls => element "pre" "/pre" (ls.flatMap diffLine) ++ [newline]) := by
  rw [fileSection, ReportEntry.shownLines?]
  refine congrArg₂ _ (congrArg _ ?_) ?_
  · cases f.error <;> simp
  · cases f.diff with
    | none => rfl
    | some d => by_cases h : d.isEmpty = true <;> simp [diffBlock, h, Option.filter]

/-! ### What it shows apart from strings -/

theorem alike_diffLine {l m : String} (h : lineClass l = lineClass m) :
    Alike (diffLine l) (diffLine m) := by
  rw [diffLine, diffLine, h]
  exact (Alike.slot (span_mem_slotTags m) (.refl []) l m).append (.refl _)

theorem alike_authorList {as bs : List String} (h : as.length = bs.length) :
    Alike (authorList as) (authorList bs) := by
  have hempty : as.isEmpty = bs.isEmpty := by
    rw [Bool.eq_iff_iff, List.isEmpty_iff_length_eq_zero, List.isEmpty_iff_length_eq_zero, h]
  rw [authorList, authorList, hempty]
  split
  · exact .refl []
  · refine (Alike.element ((Alike.refl [newline]).append (.flatMap ?_))).append (.refl _)
    refine List.forall₂_iff_get.2 ⟨h, fun i ha hb => ?_⟩
    exact (Alike.slot (by decide) (.refl []) _ _).append (.refl _)

theorem alike_fileSection {f g : ReportEntry} (h : f.shape = g.shape) :
    Alike (fileSection f) (fileSection g) := by
  obtain ⟨houtcome, hauthors, herror, hclasses⟩ := ReportEntry.Shape.mk.inj h
  have hhead : Alike (element "h2" "/h2" (.text (f.title ++ " ") ::
      element "small" "/small" [.text f.outcome.display])) (element "h2" "/h2"
      (.text (g.title ++ " ") :: element "small" "/small" [.text g.outcome.display])) := by
    rw [houtcome]
    exact .slot (by decide) (.refl _) _ _
  rw [fileSection_eq, fileSection_eq]
  refine (((hhead.append (.refl _)).append (alike_authorList hauthors)).append (.flatMap ?_)).append
    (.flatMap ?_)
  · cases hf : f.error <;> cases hg : g.error <;> simp [hf, hg] at herror
    · exact .nil
    · exact .cons ((Alike.slot (by decide) (.refl []) _ _).append (.refl _)) .nil
  · cases hf : f.shownLines? <;> cases hg : g.shownLines? <;> simp [hf, hg] at hclasses
    · exact .nil
    · refine .cons ((Alike.element (.flatMap ?_)).append (.refl _)) .nil
      exact (forall₂_of_map_eq hclasses).imp fun _ _ => alike_diffLine

theorem alike_page {r r' : Report} (h : r.shape = r'.shape) : Alike (page r) (page r') := by
  obtain ⟨hmode, hsummary, hfiles⟩ := Report.Shape.mk.inj h
  have hproject : Alike (element "code" "/code" [.text r.projectDir])
      (element "code" "/code" [.text r'.projectDir]) := .slot (by decide) (.refl []) _ _
  have hsections : Alike (r.files.flatMap fileSection) (r'.files.flatMap fileSection) :=
    .flatMap ((forall₂_of_map_eq hfiles).imp fun _ _ => alike_fileSection)
  rw [page, page, hmode, hsummary]
  refine ((((((Alike.refl _).append (.element (.append ?_ (.refl _)))).append (.refl _)).append
    (.refl _)).append (.refl _)).append hsections).append (.refl _)
  exact (Alike.refl [.text "Project: "]).append hproject

/-! ### The strings it holds -/

theorem holds_diffLine (l : String) : Holds (diffLine l) [l] := by
  have hslot : Holds (element ("span class=\"" ++ lineClass l ++ "\"") "/span" [.text l]) _ :=
    .slot (span_mem_slotTags l) (by decide) (fun _ => rfl) .nil l
  have hne : ("span class=\"" ++ lineClass l ++ "\"").toList ≠ "h2".toList := by
    rw [lineClass]
    split_ifs <;> decide
  rw [if_neg hne] at hslot
  exact hslot.append .newline

theorem holds_authorList (as : List String) : Holds (authorList as) as := by
  rw [authorList]
  split
  · next h =>
    rw [List.isEmpty_iff.1 h]
    exact .nil
  · have hitems : Holds (as.flatMap fun a => element "li" "/li" [.text a] ++ [newline])
        (as.flatMap fun a => [a]) :=
      .flatMap fun a _ => (Holds.slot (by decide) (by decide) (fun _ => rfl) .nil a).append .newline
    have hlist : Holds (element "ul" "/ul" (newline :: as.flatMap fun a =>
        element "li" "/li" [.text a] ++ [newline])) ([] ++ as) := by
      rw [List.flatMap_singleton'] at hitems
      exact .element (by decide) (by decide) (Holds.newline.append hitems)
    simpa only [List.nil_append, List.append_nil] using hlist.append .newline

theorem holds_fileSection (f : ReportEntry) : Holds (fileSection f) f.strings := by
  have hsmall : Holds (element "small" "/small" [.text f.outcome.display]) [] :=
    .element (by decide) (by decide) (.text _)
  have htitle : Holds (element "h2" "/h2" (.text (f.title ++ " ") ::
      element "small" "/small" [.text f.outcome.display])) [f.title] := by
    have hslot : Holds (element "h2" "/h2" (.text (f.title ++ " ") ::
        element "small" "/small" [.text f.outcome.display])) _ :=
      .slot (by decide) (by decide) (fun _ => rfl) hsmall _
    simpa using hslot
  have herror : Holds (f.error.toList.flatMap fun e =>
      element "p class=\"del\"" "/p" [.text e] ++ [newline]) (f.error.toList.flatMap fun e => [e]) :=
    .flatMap fun e _ => (Holds.slot (by decide) (by decide) (fun _ => rfl) .nil e).append .newline
  have hlines : Holds (f.shownLines?.toList.flatMap fun ls =>
      element "pre" "/pre" (ls.flatMap diffLine) ++ [newline])
      (f.shownLines?.toList.flatMap fun ls => ls.flatMap (fun l => [l]) ++ []) :=
    .flatMap fun ls _ => (Holds.element (by decide) (by decide)
      (.flatMap fun l _ => holds_diffLine l)).append .newline
  have hstrings : f.strings = [f.title] ++ [] ++ f.authors ++ (f.error.toList.flatMap fun e => [e]) ++
      f.shownLines?.toList.flatMap fun ls => ls.flatMap (fun l => [l]) ++ [] := by
    cases hls : f.shownLines? <;> simp [ReportEntry.strings, hls]
  rw [fileSection_eq, hstrings]
  exact (((htitle.append .newline).append (holds_authorList f.authors)).append herror).append hlines

theorem holds_page (r : Report) : Holds (page r) r.strings := by
  have hhead : Holds head [] := .fixed (by decide)
  have hfoot : Holds foot [] := .fixed (by decide)
  have htitle : Holds (element "h1" "/h1" [.text "Author tagging report"]) [] := .fixed (by decide)
  have hproject : Holds (element "p" "/p" ([.text "Project: "] ++
      element "code" "/code" [.text r.projectDir] ++ [.text (", mode: " ++ r.mode.display)]))
      ([] ++ [r.projectDir] ++ []) :=
    .element (by decide) (by decide) (((Holds.text _).append
      (.slot (by decide) (by decide) (fun _ => rfl) .nil r.projectDir)).append (.text _))
  have hcounts : Holds (element "p" "/p" [.text (toString r.summary.enumerated ++ " files enumerated, " ++
      counts r.summary ++ ".")]) [] := .element (by decide) (by decide) (.text _)
  have hfiles : Holds (r.files.flatMap fileSection) (r.files.flatMap ReportEntry.strings) :=
    .flatMap fun f _ => holds_fileSection f
  have hpage := (((((((hhead.append htitle).append .newline).append hproject).append .newline).append
    hcounts).append .newline).append hfiles).append hfoot
  rw [page, Report.strings]
  simpa only [List.nil_append, List.append_nil, List.singleton_append] using hpage

/-- The page of a report is read in one way, every angle bracket being that of a tag. The slots of its
pieces hold the strings of the report. -/
theorem cut_page (r : Report) : ∃ ps, (∀ qs, Cut (toHtml r).toList qs ↔ qs = ps) ∧
    ps.map Piece.frame = (outline (page r)).2 ∧
    (ps.filter Piece.isSlot).map Piece.string = r.strings.map String.toList := by
  obtain ⟨hplain, hheld⟩ := holds_page r
  have hcut : Cut (toHtml r).toList (pieces (page r)).2 := by
    rw [toHtml, String.toList_ofList]
    exact cut_render hplain rfl
  refine ⟨(pieces (page r)).2, fun qs => ⟨fun h => h.unique hcut, fun h => h ▸ hcut⟩, rfl, ?_⟩
  have hall := hheld []
  rwa [List.append_nil, held, held, pieces, List.filter_nil, List.map_nil, List.append_nil] at hall

end Html

/-- The pieces that are no slots are known by what is shown apart from strings. -/
theorem filter_eq_filterMap_frame (ps : List Piece) : ps.filter (!·.isSlot) =
    (ps.map Piece.frame).filterMap fun f => f.2.map (Piece.mk f.1) := by
  induction ps with
  | nil => rfl
  | cons p ps ih => by_cases h : p.isSlot = true <;> simp [Piece.frame, h, ih]

/-- Pages of reports of one shape, whatever their strings hold. Each is read in one way, every angle
bracket being that of a tag; the tags are the same, and so are the texts after them that are no slots;
and the slots, decoded, are the strings of the report. -/
theorem toHtml_alike {r r' : Report} (h : r.shape = r'.shape) :
    ∃ ps ps', (∀ qs, Cut (toHtml r).toList qs ↔ qs = ps) ∧
      (∀ qs, Cut (toHtml r').toList qs ↔ qs = ps') ∧
      ps.map (·.tag) = ps'.map (·.tag) ∧
      ps.filter (!·.isSlot) = ps'.filter (!·.isSlot) ∧
      (ps.filter Piece.isSlot).map Piece.string = r.strings.map String.toList ∧
      (ps'.filter Piece.isSlot).map Piece.string = r'.strings.map String.toList := by
  obtain ⟨ps, hcut, hframe, hstrings⟩ := Html.cut_page r
  obtain ⟨ps', hcut', hframe', hstrings'⟩ := Html.cut_page r'
  have houtline := Html.alike_page h [] [] rfl
  rw [List.append_nil, List.append_nil] at houtline
  have hframes : ps.map Piece.frame = ps'.map Piece.frame := by rw [hframe, hframe', houtline]
  refine ⟨ps, ps', hcut, hcut', ?_, ?_, hstrings, hstrings'⟩
  · have htags := congrArg (List.map Prod.fst) hframes
    rwa [List.map_map, List.map_map] at htags
  · rw [filter_eq_filterMap_frame, filter_eq_filterMap_frame, hframes]

/-- An entry with one author, a problem, and a difference of one line. -/
def entryOf (s : String) : ReportEntry where
  path := s
  typeName := some s
  disposition := .merge
  outcome := .failed
  authors := [s]
  diff := some ⟨s, s, [⟨.insert, ⟨0, []⟩, ⟨0, [s]⟩⟩], ["+" ++ s]⟩
  error := some s

/-- A report of one file. Its strings are all the given one, with a sign before it in a line. -/
def reportOf (s : String) : Report where
  mode := .test
  projectDir := s
  sourceRoot := s
  rules := none
  summary := { enumerated := 1, analyzed := 1, failed := 1 }
  files := [entryOf s]

/-- Tags and entities in the strings are not those of the page. -/
theorem toHtml_alike_hostile :
    (reportOf "</code><b>&lt;").shape = (reportOf "x").shape ∧
      ∃ ps ps', Cut (toHtml (reportOf "</code><b>&lt;")).toList ps ∧
        Cut (toHtml (reportOf "x")).toList ps' ∧ ps.map (·.tag) = ps'.map (·.tag) ∧
        (ps.filter Piece.isSlot).map Piece.string = ["</code><b>&lt;", "</code><b>&lt;",
          "</code><b>&lt;", "</code><b>&lt;", "+</code><b>&lt;"].map String.toList := by
  have hshape : (reportOf "</code><b>&lt;").shape = (reportOf "x").shape := by decide +kernel
  obtain ⟨ps, ps', hcut, hcut', htags, -, hstrings, -⟩ := toHtml_alike hshape
  exact ⟨hshape, ps, ps', (hcut ps).2 rfl, (hcut' ps').2 rfl, htags, hstrings⟩

end Report

end Byline

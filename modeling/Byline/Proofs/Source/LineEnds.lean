import Byline.Proofs.Source.Line
import Byline.Source.Analysis
import Mathlib.Data.List.Forall2

/-!
# Carriage returns at the end of a line

A line says the same with carriage returns at its end as without them. Words, tokens and names end
before them, and the text of a tag is trimmed (`Findings.take_append`). So a pass finds the same in
lines that differ in nothing else (`Findings.takeAll_eq`).

The lines of a text are such lines: `lines` drops one carriage return before a line feed, and
reading octets drops all (`exists_chomp_eq`). So the analysis of a text is that of its octets
(`analyzeBytes_encode`).
-/

namespace Byline

/-- What is dropped with the terminator of a line, and what is dropped of all its line ends, differ
in carriage returns. -/
theorem exists_chomp_eq {s l : List Char} (h : l ∈ splitInclusive isNewline s) :
    ∃ t, (∀ c ∈ t, c = '\r') ∧ chomp l = chompAll l ++ t := by
  have hn : '\n' ∉ chomp l := by
    have hfree {u : List Char} (hu : ∀ x ∈ u, isNewline x = false) : '\n' ∉ u := by
      intro hm
      have := hu '\n' hm
      simp [isNewline] at this
    rcases of_mem_splitInclusive h with ⟨u, c, rfl, hc, hu⟩ | hl
    · obtain rfl : c = '\n' := by simpa [isNewline] using hc
      rw [chomp, if_pos List.getLast?_concat, List.dropLast_concat]
      dsimp only
      split_ifs
      · exact fun hm => hfree hu ((List.dropLast_sublist u).subset hm)
      · exact hfree hu
    · have hlast : l.getLast? ≠ some '\n' := fun he => hfree hl (List.mem_of_getLast? he)
      rw [chomp, if_neg hlast]
      exact hfree hl
  refine ⟨(chomp l).rtakeWhile isLineEnd, ?_, ?_⟩
  · intro c hc
    have hend : isLineEnd c = true := List.mem_rtakeWhile_imp hc
    have hne : c ≠ '\n' := fun he => hn (he ▸ (List.rtakeWhile_suffix isLineEnd _).subset hc)
    simpa [isLineEnd, hne] using hend
  · rw [← chompAll_chomp]
    exact List.rdropWhile_append_rtakeWhile.symm

namespace Source

/-! ## Reading a line with carriage returns at its end -/

section Returns

variable {t : List Char} (ht : ∀ c ∈ t, c = '\r')

include ht

theorem takeWhile_append_returns {p : Char → Bool} (hp : p '\r' = false) (s : List Char) :
    (s ++ t).takeWhile p = s.takeWhile p := by
  have hnil : t.takeWhile p = [] := by
    cases t with
    | nil => rfl
    | cons c t =>
      rw [ht c List.mem_cons_self, List.takeWhile_cons_of_neg (by simp [hp])]
  rw [List.takeWhile_append, hnil, List.append_nil]
  split_ifs with h
  · exact ((List.takeWhile_prefix p).eq_of_length h).symm
  · rfl

theorem dropWhile_append_returns {p : Char → Bool} (hp : p '\r' = false) (s : List Char) :
    (s ++ t).dropWhile p = s.dropWhile p ++ t := by
  have hself : t.dropWhile p = t := by
    cases t with
    | nil => rfl
    | cons c t =>
      rw [ht c List.mem_cons_self, List.dropWhile_cons_of_neg (by simp [hp])]
  rw [List.dropWhile_append, hself]
  split_ifs with h
  · rw [List.isEmpty_iff.1 h, List.nil_append]
  · rfl

theorem dropBlanks_append_returns (s : List Char) : (s ++ t).dropWhile isBlank =
    if s.dropWhile isBlank = [] then [] else s.dropWhile isBlank ++ t := by
  have hnil : t.dropWhile isBlank = [] := by
    rw [List.dropWhile_eq_nil_iff]
    intro c hc
    rw [ht c hc]
    rfl
  rw [List.dropWhile_append, hnil]
  simp only [List.isEmpty_iff]

theorem head?_dropBlanks_append_returns (s : List Char) :
    ((s ++ t).dropWhile isBlank).head? = (s.dropWhile isBlank).head? := by
  rw [dropBlanks_append_returns ht]
  split_ifs with h
  · rw [h]
  · exact List.head?_append_of_ne_nil _ h

theorem trim_append_returns (s : List Char) : trim (s ++ t) = trim s := by
  refine trim_append_blanks (l := []) (by simp) ?_ s
  intro c hc
  rw [ht c hc]
  rfl

theorem isPrefixOf_append_returns {w : List Char} (hw : '\r' ∉ w) (s : List Char) :
    w.isPrefixOf (s ++ t) = w.isPrefixOf s := by
  induction w generalizing s with
  | nil => rfl
  | cons k w ih =>
    rw [List.mem_cons, not_or] at hw
    cases s with
    | nil =>
      cases t with
      | nil => rfl
      | cons c t =>
        have hk : (k == c) = false := by simpa [ht c List.mem_cons_self] using fun he => hw.1 he.symm
        rw [List.nil_append, List.isPrefixOf_cons_cons, hk]
        rfl
    | cons c s => rw [List.cons_append, List.isPrefixOf_cons_cons, List.isPrefixOf_cons_cons, ih hw.2]

theorem dropWord?_append_returns {word : List Char}
    (hw : word.all (fun k => !(Unicode.forms k).contains '\r') = true) (s : List Char) :
    dropWord? word (s ++ t) = (dropWord? word s).map (· ++ t) := by
  induction word generalizing s with
  | nil => rfl
  | cons k ks ih =>
    rw [List.all_cons, Bool.and_eq_true, Bool.not_eq_true'] at hw
    cases s with
    | nil =>
      cases t with
      | nil => rfl
      | cons c t =>
        rw [ht c List.mem_cons_self]
        exact dropWord?_cons_eq_none hw.1 ks t
    | cons c s =>
      rw [List.cons_append, dropWord?, dropWord?]
      split_ifs
      · exact ih hw.2 s
      · rfl

/-- What is read after blanks is the same, if nothing is read of the empty text. -/
theorem dropBlanks?_bind_append_returns {α : Type} {f : List Char → Option α} (s : List Char)
    (hnil : f [] = none) (hf : ∀ u, u.length ≤ s.length → f (u ++ t) = f u) :
    (dropBlanks? (s ++ t)).bind f = (dropBlanks? s).bind f := by
  cases s with
  | nil =>
    have hall : t.dropWhile isBlank = [] := by
      simpa using dropBlanks_append_returns ht []
    rw [List.nil_append, dropBlanks?, dropBlanks?, hall]
    split_ifs <;> simp_all
  | cons c s =>
    rw [dropBlanks?, dropBlanks?, dropBlanks_append_returns ht]
    by_cases hc : isBlank c = true
    · have hlen : ((c :: s).dropWhile isBlank).length ≤ (c :: s).length :=
        (List.dropWhile_sublist _).length_le
      simp only [List.cons_append, List.head?_cons, Option.any_some, hc, if_true]
      split_ifs with h
      · rw [h]
      · exact hf _ hlen
    · simp [hc]

/-! ### Package statements -/

theorem packageName?_append_returns (line : List Char) :
    packageName? (line ++ t) = packageName? line := by
  have hword : "package".toList.all (fun k => !(Unicode.forms k).contains '\r') = true := by decide
  rw [packageName?, packageName?, dropWord?_append_returns ht hword]
  simp only [Option.bind_eq_bind]
  cases dropWord? "package".toList line with
  | none => rfl
  | some s =>
    refine dropBlanks?_bind_append_returns ht s rfl fun u _ => ?_
    rw [takeWhile_append_returns ht rfl, dropWhile_append_returns ht rfl,
      head?_dropBlanks_append_returns ht]

/-! ### Author tags -/

theorem isRemark_append_returns (s : List Char) : isRemark (s ++ t) = isRemark s := by
  have hn : '\n' ∉ t := fun hm => absurd (ht '\n' hm) (by decide)
  by_cases hs : isRemark s = true
  · rw [hs, isRemark_append hs hn]
  rw [Bool.eq_false_iff.2 hs, Bool.eq_false_iff]
  intro h
  obtain ⟨c, u, r, he, hc, hr, hr'⟩ := isRemark_iff.1 h
  have hdrop := dropBlanks_append_returns ht s
  rw [he, List.dropWhile_cons_of_pos hc, hr] at hdrop
  -- The slashes stand in `s`: no carriage return is one.
  have hslash : '/' ∉ t := fun hm => absurd (ht '/' hm) (by decide)
  split_ifs at hdrop with hnil
  cases hv : s.dropWhile isBlank with
  | nil => exact hnil hv
  | cons x v =>
    rw [hv, List.cons_append] at hdrop
    obtain ⟨rfl, htail⟩ := List.cons.inj hdrop
    cases v with
    | nil =>
      rw [List.nil_append] at htail
      exact hslash (htail ▸ List.mem_cons_self)
    | cons y v =>
      obtain ⟨rfl, rfl⟩ := List.cons.inj htail
      cases s with
      | nil => simp at hv
      | cons d s =>
        obtain ⟨rfl, -⟩ := List.cons.inj he
        rw [List.dropWhile_cons_of_pos hc] at hv
        exact hs (isRemark_iff.2 ⟨d, s, v, rfl, hc, hv, fun hm => hr' (List.mem_append_left t hm)⟩)

/-- The text of a tag goes on through the carriage returns, unless a remark ends it. -/
theorem beforeRemark?_append_returns (s : List Char) : beforeRemark? (s ++ t) = beforeRemark? s ∨
    ∃ u, beforeRemark? s = some u ∧ beforeRemark? (s ++ t) = some (u ++ t) := by
  induction s with
  | nil =>
    refine .inr ⟨[], rfl, beforeRemark?_eq_self ?_ ?_⟩
    · exact fun hm => absurd (ht '\n' hm) (by decide)
    · intro u hu _
      have hu' : ∀ c ∈ u, c = '\r' := fun c hc => ht c (hu.subset hc)
      exact isRemark_append_returns hu' []
  | cons c s ih =>
    have hr := isRemark_append_returns ht (c :: s)
    rw [List.cons_append] at hr ⊢
    rw [beforeRemark?, beforeRemark?, hr]
    split_ifs
    · exact .inl rfl
    · exact .inl rfl
    · rcases ih with h | ⟨u, hu, h⟩
      · exact .inl (by rw [h])
      · exact .inr ⟨c :: u, by rw [hu, Option.map_some], by rw [h, Option.map_some, List.cons_append]⟩

theorem authorText?_append_returns (line : List Char) : authorText? (line ++ t) =
    authorText? line ∨ ∃ u, authorText? line = some u ∧ authorText? (line ++ t) = some (u ++ t) := by
  by_cases h : tagStart <+: line
  · obtain ⟨s, rfl⟩ := h
    rw [List.append_assoc, authorText?_tagStart_append, authorText?_tagStart_append]
    exact beforeRemark?_append_returns ht s
  · have hp : tagStart.isPrefixOf line = false := by
      rwa [Bool.eq_false_iff, Ne, List.isPrefixOf_iff_prefix]
    rw [authorText?, authorText?, isPrefixOf_append_returns ht (by decide), hp]
    exact .inl rfl

theorem taggedName?_append_returns (line : List Char) :
    taggedName? (line ++ t) = taggedName? line := by
  rcases authorText?_append_returns ht line with h | ⟨u, hu, h⟩
  · rw [taggedName?, h, ← taggedName?]
  · simp only [taggedName?, hu, h, trim_append_returns ht]

/-! ### Annotations and types -/

theorem isAnnotation_append_returns (line : List Char) :
    isAnnotation (line ++ t) = isAnnotation line := by
  rw [Bool.eq_iff_iff, isAnnotation_iff, isAnnotation_iff]
  constructor
  · rintro ⟨c, r, he, hc⟩
    match line with
    | [] =>
      rw [List.nil_append] at he
      have hm : '@' ∈ t := he ▸ List.mem_cons_self
      exact absurd (ht '@' hm) (by decide)
    | [d] =>
      rw [List.singleton_append] at he
      have hm : c ∈ t := (List.cons.inj he).2 ▸ List.mem_cons_self
      rw [ht c hm] at hc
      exact absurd hc (by decide)
    | d :: d' :: r' =>
      obtain ⟨rfl, htail⟩ := List.cons.inj he
      obtain ⟨rfl, -⟩ := List.cons.inj htail
      exact ⟨d', r', rfl, hc⟩
  · rintro ⟨c, r, rfl, hc⟩
    exact ⟨c, r ++ t, rfl, hc⟩

theorem declaredName?_append_returns (s : List Char) :
    declaredName? (s ++ t) = declaredName? s := by
  have hstart : isNameStart '\r' = false := by decide +kernel
  have hpart : isNamePart '\r' = false := by decide +kernel
  rw [declaredName?, declaredName?]
  refine dropBlanks?_bind_append_returns ht s rfl fun u _ => ?_
  match u with
  | [] =>
    cases t with
    | nil => rfl
    | cons c t =>
      rw [ht c List.mem_cons_self, List.nil_append]
      simp only [hstart, Bool.false_eq_true, if_false]
  | c :: u =>
    rw [List.cons_append]
    simp only [takeWhile_append_returns ht hpart]

theorem declared?_append_returns (s : List Char) : declared? (s ++ t) = declared? s := by
  induction hn : s.length using Nat.strong_induction_on generalizing s with
  | _ n ih =>
    rw [declared?_eq, declared?_eq]
    have hm : isModifier (token []) = false := by decide
    have hk : isTypeWord (token []) = false := by decide
    refine dropBlanks?_bind_append_returns ht s (by simp [hm, hk]) fun u hu => ?_
    have htoken : token (u ++ t) = token u := takeWhile_append_returns ht rfl u
    have hafter : afterToken (u ++ t) = afterToken u ++ t := dropWhile_append_returns ht rfl u
    rw [htoken, hafter, declaredName?_append_returns ht]
    by_cases hmod : isModifier (token u) = true
    · have hlen := length_afterToken (ne_nil_of_isModifier hmod)
      rw [if_pos hmod, if_pos hmod, ih _ (by omega) _ rfl]
    · rw [if_neg hmod, if_neg hmod]

theorem typeName?_append_returns (line : List Char) : typeName? (line ++ t) = typeName? line := by
  have hword : "public".toList.all (fun k => !(Unicode.forms k).contains '\r') = true := by decide
  rw [typeName?, typeName?, dropWord?_append_returns ht hword]
  cases dropWord? "public".toList line with
  | none => rfl
  | some s => exact declared?_append_returns ht s

end Returns

/-! ## The pass -/

/-- Two readings of a line, of which the first may have dropped more carriage returns. -/
def SameButReturns (line line' : List Char) : Prop := ∃ t, (∀ c ∈ t, c = '\r') ∧ line' = line ++ t

theorem Findings.take_append {t : List Char} (ht : ∀ c ∈ t, c = '\r') (f : Findings) (n : Nat)
    (line : List Char) : f.take n (line ++ t) = f.take n line := by
  rw [take, take, packageName?_append_returns ht, taggedName?_append_returns ht,
    isAnnotation_append_returns ht, typeName?_append_returns ht]

theorem Findings.takeAll_eq {xs ys : List (List Char)} (h : List.Forall₂ SameButReturns xs ys)
    (f : Findings) (n : Nat) : f.takeAll n xs = f.takeAll n ys := by
  induction h generalizing f n with
  | nil => rfl
  | cons hline _ ih =>
    obtain ⟨t, ht, rfl⟩ := hline
    rw [takeAll, takeAll, take_append ht, ih]

theorem analyzeBytes_encode (source : List Char) (stem : String) :
    analyzeBytes (Utf8.encode source) stem = analyzeText source stem := by
  have hlines : List.Forall₂ SameButReturns ((Utf8.lines (Utf8.encode source)).map Utf8.lineText)
      (lines source) := by
    rw [Utf8.lines_encode, List.map_map, lines, List.forall₂_map_left_iff,
      List.forall₂_map_right_iff, List.forall₂_same]
    intro l hl
    obtain ⟨t, ht, he⟩ := exists_chomp_eq hl
    exact ⟨t, ht, by rw [he, Function.comp_apply, Utf8.lineText_encode]⟩
  rw [analyzeBytes, analyzeText, Findings.takeAll_eq hlines]

end Source

end Byline

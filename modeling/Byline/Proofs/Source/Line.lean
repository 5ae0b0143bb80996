import Byline.Proofs.Text.Blank
import Byline.Source.Line
import Mathlib.Data.List.TakeWhile

/-!
# What a line says

A line that starts with a blank or a slash is quiet: it says nothing of the package, an annotation
or the type. Author tags are such lines (`isQuiet_of_isAuthorLine`), and so are all others of a
comment.

The name in a tag is read back when it is written into a tag of its own
(`taggedName?_tagStart_append`): it is trimmed, and nothing in it starts a remark.
-/

namespace Byline

namespace Source

/-! ## Quiet lines -/

/-- Does the line say nothing of the package, an annotation or the type? -/
def isQuiet (line : List Char) : Bool :=
  (packageName? line).isNone && ! isAnnotation line && (typeName? line).isNone

theorem dropWord?_cons_eq_none {k c : Char} (h : (Unicode.forms k).contains c = false)
    (ks s : List Char) : dropWord? (k :: ks) (c :: s) = none := by
  rw [dropWord?, h]
  rfl

/-- A line is quiet by its first character, if that starts no word of the language and is no at
sign. -/
theorem isQuiet_cons {c : Char} (h : (Unicode.forms 'p').contains c = false) (hc : c ≠ '@')
    (s : List Char) : isQuiet (c :: s) = true := by
  have hpackage : packageName? (c :: s) = none := by
    have hd : dropWord? "package".toList (c :: s) = none := dropWord?_cons_eq_none h _ s
    rw [packageName?, hd]
    rfl
  have htype : typeName? (c :: s) = none := by
    have hd : dropWord? "public".toList (c :: s) = none := dropWord?_cons_eq_none h _ s
    rw [typeName?, hd]
  have hannotation : isAnnotation (c :: s) = false := by
    unfold isAnnotation
    split
    · next hd => exact absurd (List.cons.inj hd).1 hc
    · rfl
  rw [isQuiet, hpackage, htype, hannotation]
  rfl

theorem isQuiet_of_isAuthorLine {line : List Char} (h : isAuthorLine line = true) :
    isQuiet line = true := by
  unfold isAuthorLine authorText? at h
  split at h
  · next hp =>
    obtain ⟨s, rfl⟩ := List.isPrefixOf_iff_prefix.1 hp
    exact isQuiet_cons (by decide) (by decide) _
  · simp at h

theorem isAuthorLine_eq_false {line : List Char} (h : isQuiet line = false) :
    isAuthorLine line = false := by
  by_contra hc
  rw [isQuiet_of_isAuthorLine (by simpa using hc)] at h
  exact absurd h.symm Bool.false_ne_true

/-! ## Annotations and declarations -/

theorem isAnnotation_iff {line : List Char} :
    isAnnotation line = true ↔ ∃ c r, line = '@' :: c :: r ∧ isBlank c = false := by
  unfold isAnnotation
  split
  · simp
  · next hno =>
    refine iff_of_false Bool.false_ne_true ?_
    rintro ⟨c, r, rfl, -⟩
    exact hno c r rfl

/-- What is declared after blanks: a modifier goes before the keyword of a type. -/
theorem declared?_eq (s : List Char) : declared? s = (dropBlanks? s).bind fun u =>
    (if isModifier (token u) then declared? (afterToken u) else none).or
      (if isTypeWord (token u) then declaredName? (afterToken u) else none) := by
  rw [declared?]
  split
  · next h => rw [h, Option.bind_none]
  · next u h =>
    rw [h, Option.bind_some]
    dsimp only
    split_ifs with hm
    · cases declared? (afterToken u) <;> rfl
    · cases declared? (afterToken u) <;> rfl
    · rfl
    · rfl

/-! ## Names in tags -/

theorem isSome_beforeRemark? {s : List Char} (h : '\n' ∉ s) : (beforeRemark? s).isSome = true := by
  induction s with
  | nil => rfl
  | cons c s ih =>
    have hc : c ≠ '\n' := fun he => h (he ▸ List.mem_cons_self)
    have hs : '\n' ∉ s := fun hm => h (List.mem_cons_of_mem c hm)
    rw [beforeRemark?]
    split
    · rfl
    · rw [Option.isSome_map]
      exact ih hs

theorem authorText?_tagStart_append (s : List Char) :
    authorText? (tagStart ++ s) = beforeRemark? s := by
  rw [authorText?, if_pos (List.isPrefixOf_iff_prefix.2 ⟨s, rfl⟩), List.drop_left]

theorem isAuthorLine_tagStart_append {s : List Char} (h : '\n' ∉ s) :
    isAuthorLine (tagStart ++ s) = true := by
  rw [isAuthorLine, authorText?_tagStart_append]
  exact isSome_beforeRemark? h

theorem isRemark_iff {s : List Char} : isRemark s = true ↔
    ∃ c u r, s = c :: u ∧ isBlank c = true ∧ u.dropWhile isBlank = '/' :: '/' :: r ∧ '\n' ∉ r := by
  cases s with
  | nil => simp [isRemark, dropBlanks?]
  | cons c u =>
    by_cases hb : isBlank c = true
    · simp only [isRemark, dropBlanks?, List.head?_cons, Option.any_some, hb, if_true,
        List.dropWhile_cons_of_pos hb]
      constructor
      · intro h
        split at h
        · next r hr => exact ⟨c, u, r, rfl, hb, Option.some.inj hr, by simpa using h⟩
        · exact absurd h Bool.false_ne_true
      · rintro ⟨_, _, r, he, _, hr, hn⟩
        obtain ⟨rfl, rfl⟩ := List.cons.inj he
        rw [hr]
        simpa using hn
    · have hno : isRemark (c :: u) = false := by simp [isRemark, dropBlanks?, hb]
      rw [hno]
      constructor
      · exact fun h => absurd h Bool.false_ne_true
      · rintro ⟨_, _, _, he, hb', _⟩
        obtain ⟨rfl, rfl⟩ := List.cons.inj he
        exact absurd hb' hb

/-- A remark goes on to the end of the line. -/
theorem isRemark_append {s t : List Char} (h : isRemark s = true) (ht : '\n' ∉ t) :
    isRemark (s ++ t) = true := by
  obtain ⟨c, u, r, rfl, hb, hr, hn⟩ := isRemark_iff.1 h
  refine isRemark_iff.2 ⟨c, u ++ t, r ++ t, rfl, hb, ?_, ?_⟩
  · rw [List.dropWhile_append, hr]
    rfl
  · intro hm
    rcases List.mem_append.1 hm with hm | hm
    · exact hn hm
    · exact ht hm

/-- The text before a remark holds no start of it. -/
theorem of_beforeRemark?_eq_some {s t : List Char} (h : beforeRemark? s = some t) :
    ∃ rest, s = t ++ rest ∧ '\n' ∉ t ∧
      ∀ u, u <:+ t → u ≠ [] → isRemark (u ++ rest) = false := by
  induction s generalizing t with
  | nil =>
    obtain rfl := Option.some.inj h
    exact ⟨[], rfl, List.not_mem_nil, fun u hu hne => absurd (List.suffix_nil.1 hu) hne⟩
  | cons c s ih =>
    rw [beforeRemark?] at h
    split at h
    · obtain rfl := Option.some.inj h
      exact ⟨c :: s, rfl, List.not_mem_nil, fun u hu hne => absurd (List.suffix_nil.1 hu) hne⟩
    next hr =>
    split at h
    · simp at h
    next hc =>
    obtain ⟨t', ht', rfl⟩ := Option.map_eq_some_iff.1 h
    obtain ⟨rest, rfl, hn, hu⟩ := ih ht'
    refine ⟨rest, rfl, ?_, ?_⟩
    · intro hm
      rcases List.mem_cons.1 hm with he | hm
      · exact hc he.symm
      · exact hn hm
    · intro u hsuffix hne
      rcases List.suffix_cons_iff.1 hsuffix with rfl | hsuffix
      · simpa using hr
      · exact hu u hsuffix hne

theorem beforeRemark?_eq_self {s : List Char} (hn : '\n' ∉ s)
    (h : ∀ u, u <:+ s → u ≠ [] → isRemark u = false) : beforeRemark? s = some s := by
  induction s with
  | nil => rfl
  | cons c s ih =>
    have hc : c ≠ '\n' := fun he => hn (he ▸ List.mem_cons_self)
    have hr : isRemark (c :: s) = false := h _ List.suffix_rfl (List.cons_ne_nil c s)
    have hs : beforeRemark? s = some s := by
      refine ih (fun hm => hn (List.mem_cons_of_mem c hm)) ?_
      intro u hu hne
      exact h u (hu.trans (List.suffix_cons c s)) hne
    rw [beforeRemark?, hr, if_neg Bool.false_ne_true, if_neg hc, hs]
    rfl

/-- The name in a tag, and the text that it was cut from. -/
theorem taggedName?_eq_some {line x : List Char} (h : taggedName? line = some x) :
    ∃ s t, line = tagStart ++ s ∧ beforeRemark? s = some t ∧ x = trim t ∧ x ≠ [] := by
  unfold taggedName? at h
  split at h
  · simp at h
  · next t ht =>
    unfold authorText? at ht
    split at ht
    · next hp =>
      obtain ⟨s, rfl⟩ := List.isPrefixOf_iff_prefix.1 hp
      rw [List.drop_left] at ht
      split at h
      · simp at h
      · next hne =>
        obtain rfl := Option.some.inj h
        exact ⟨s, t, rfl, ht, rfl, by simpa using hne⟩
    · simp at ht

/-- The name in a tag is read back from a tag of its own. -/
theorem taggedName?_tagStart_append {line x : List Char} (hn : '\n' ∉ line)
    (h : taggedName? line = some x) : taggedName? (tagStart ++ x) = some x := by
  obtain ⟨s, t, rfl, ht, rfl, hne⟩ := taggedName?_eq_some h
  obtain ⟨rest, rfl, hnt, hrest⟩ := of_beforeRemark?_eq_some ht
  obtain ⟨l, r, hlr, -, -⟩ := exists_append_trim t
  have hbefore : beforeRemark? (trim t) = some (trim t) := by
    refine beforeRemark?_eq_self ?_ ?_
    · intro hm
      exact hnt (hlr ▸ by simp [hm])
    · intro u hu hune
      -- A remark in the name would go on through what was trimmed and cut away after it.
      have hur : u ++ r <:+ t := by
        obtain ⟨w, hw⟩ := hu
        exact ⟨l ++ w, by rw [hlr, ← hw]; simp⟩
      have hno := hrest (u ++ r) hur (by simp [hune])
      have hnr : '\n' ∉ r ++ rest := by
        intro hm
        refine hn ?_
        rw [hlr]
        rcases List.mem_append.1 hm with hm | hm
        · simp [hm]
        · simp [hm]
      by_contra hc
      have := isRemark_append (by simpa using hc) hnr
      rw [← List.append_assoc, hno] at this
      exact Bool.false_ne_true this
  rw [taggedName?, authorText?_tagStart_append, hbefore]
  simp only [trim_trim]
  rw [if_neg (by simpa using hne)]

/-- A name that is read back holds no line feed, and ends with no line end. -/
theorem of_taggedName?_tagStart_append {x : List Char}
    (h : taggedName? (tagStart ++ x) = some x) : '\n' ∉ x ∧ chompAll x = x := by
  obtain ⟨s, t, hs, ht, hx, _⟩ := taggedName?_eq_some h
  obtain ⟨rest, _, hn, _⟩ := of_beforeRemark?_eq_some ht
  obtain ⟨l, r, hlr, -, -⟩ := exists_append_trim t
  constructor
  · intro hm
    refine hn ?_
    rw [hlr, ← hx]
    simp [hm]
  · have hend : x.rdropWhile isBlank = x := by
      rw [hx]
      exact List.rdropWhile_idempotent isBlank _
    rw [List.rdropWhile_eq_self_iff] at hend
    refine List.rdropWhile_eq_self_iff.2 ?_
    intro hl hc
    refine hend hl ?_
    simp only [isLineEnd, Bool.or_eq_true, beq_iff_eq] at hc
    rcases hc with hc | hc
    · rw [hc]
      decide
    · rw [hc]
      decide

end Source

end Byline

import Byline.Proofs.Source.Line

/-!
# Names that a tag can hold

A tag with a text after its start is read back as that text for some texts only: they are not empty,
trimmed, of one line, and no blank in them starts a remark (`IsTagName`). These are all names that
tags have at all (`taggedName?_iff_isTagName`).
-/

namespace Byline.Source

/-- Texts that can be the name in a tag. -/
structure IsTagName (s : List Char) : Prop where
  ne_nil : s ≠ []
  trim_eq : trim s = s
  notMem_newline : '\n' ∉ s
  /-- No blank is directly followed by two slashes. -/
  noRemark : ∀ c, isBlank c = true → ¬ [c, '/', '/'] <:+: s

/-! ## Remarks -/

theorem isRemark_cons {c : Char} {r : List Char} (hc : isBlank c = true) (hr : '\n' ∉ r) :
    isRemark (c :: '/' :: '/' :: r) = true := by
  refine isRemark_iff.2 ⟨c, '/' :: '/' :: r, r, rfl, hc, ?_, hr⟩
  exact List.dropWhile_cons_of_neg (by decide)

/-- The last of the blanks that a remark starts with is directly followed by the slashes. -/
theorem exists_infix_of_isRemark {s : List Char} (h : isRemark s = true) :
    ∃ c, isBlank c = true ∧ [c, '/', '/'] <:+: s := by
  obtain ⟨c, u, r, rfl, hc, hr, -⟩ := isRemark_iff.1 h
  have hblank : ∀ d ∈ c :: u.takeWhile isBlank, isBlank d = true := by
    intro d hd
    rcases List.mem_cons.1 hd with rfl | hd
    · exact hc
    · exact List.mem_takeWhile_imp hd
  have hne : c :: u.takeWhile isBlank ≠ [] := List.cons_ne_nil _ _
  refine ⟨_, hblank _ (List.getLast_mem hne), (c :: u.takeWhile isBlank).dropLast, r, ?_⟩
  calc (c :: u.takeWhile isBlank).dropLast ++ [(c :: u.takeWhile isBlank).getLast hne, '/', '/'] ++ r
    _ = ((c :: u.takeWhile isBlank).dropLast ++ [(c :: u.takeWhile isBlank).getLast hne]) ++
          '/' :: '/' :: r := by simp
    _ = c :: u.takeWhile isBlank ++ u.dropWhile isBlank := by rw [List.dropLast_concat_getLast, hr]
    _ = c :: u := by rw [List.cons_append, List.takeWhile_append_dropWhile]

/-! ## Names -/

namespace IsTagName

variable {s : List Char}

/-- Such a name is all that is read of a text: no part of it is a remark. -/
theorem beforeRemark?_eq (h : IsTagName s) : beforeRemark? s = some s := by
  refine beforeRemark?_eq_self h.notMem_newline ?_
  intro u hu _
  by_contra hr
  obtain ⟨c, hc, hsub⟩ := exists_infix_of_isRemark (by simpa using hr)
  exact h.noRemark c hc (hsub.trans hu.isInfix)

theorem taggedName?_eq (h : IsTagName s) : taggedName? (tagStart ++ s) = some s := by
  rw [taggedName?, authorText?_tagStart_append, h.beforeRemark?_eq]
  simp only [h.trim_eq]
  rw [if_neg (by simpa using h.ne_nil)]

/-- Nothing was cut off a text that is read back whole, neither blanks nor a remark. -/
theorem of_taggedName? (h : taggedName? (tagStart ++ s) = some s) : IsTagName s := by
  obtain ⟨s', t, he, ht, hs, hne⟩ := taggedName?_eq_some h
  obtain rfl := List.append_cancel_left he
  obtain ⟨rest, hrest, hn, hu⟩ := of_beforeRemark?_eq_some ht
  obtain ⟨l, r, hlr, -, -⟩ := exists_append_trim t
  have hlength : (trim t).length ≤ t.length := by
    conv_rhs => rw [hlr]
    simp only [List.length_append]
    omega
  have hnil : rest = [] := by
    have hall := congrArg List.length hrest
    rw [List.length_append, hs] at hall
    exact List.length_eq_zero_iff.1 (by omega)
  obtain rfl : s = t := by rw [hrest, hnil, List.append_nil]
  refine ⟨hne, hs.symm, hn, ?_⟩
  rintro c hc ⟨l', r', he'⟩
  have hsuffix : c :: '/' :: '/' :: r' <:+ s := ⟨l', by rw [← he']; simp⟩
  have hremark : isRemark (c :: '/' :: '/' :: r') = true := by
    refine isRemark_cons hc ?_
    intro hm
    exact hn (hsuffix.subset (by simp [hm]))
  have hno := hu _ hsuffix (List.cons_ne_nil _ _)
  rw [hnil, List.append_nil, hremark] at hno
  exact absurd hno.symm Bool.false_ne_true

end IsTagName

/-- Writing a tag and reading it back are inverse on the names that tags have, and on no others. -/
theorem taggedName?_iff_isTagName :
    (∀ s, taggedName? (tagStart ++ s) = some s ↔ IsTagName s) ∧
    ∀ line x, '\n' ∉ line → taggedName? line = some x → IsTagName x := by
  refine ⟨fun s => ⟨.of_taggedName?, IsTagName.taggedName?_eq⟩, ?_⟩
  intro line x hn h
  exact .of_taggedName? (taggedName?_tagStart_append hn h)

theorem taggedName?_iff_isTagName_remarked :
    taggedName? " * @author  a//b c\r\t// d // e".toList = some "a//b c".toList ∧
      IsTagName "a//b c".toList := by
  have h : taggedName? " * @author  a//b c\r\t// d // e".toList = some "a//b c".toList := by
    decide +kernel
  exact ⟨h, taggedName?_iff_isTagName.2 _ _ (by decide) h⟩

end Byline.Source

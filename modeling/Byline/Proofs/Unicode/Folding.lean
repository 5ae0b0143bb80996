import Byline.Text.Blank
import Byline.Unicode.Category
import Byline.Unicode.Folding
import Mathlib.Data.List.Nodup
import Mathlib.Data.List.Pairwise

/-!
# Forms of characters

The entries of the table of forms have no code point in common, so that all forms of a character
have the same forms (`forms_eq_of_mem`): to be a form of each other is an equivalence. No entry has a
blank, so that a blank has no other form (`forms_of_isBlank`), and no range of letters or numbers has
one either (`inCategories_eq_false_of_isBlank`).

The tables are checked with sets of code points as the bits of a number.
-/

namespace Byline.Unicode

/-- Are the numbers told apart from each other, and from those whose bits are set in `seen`? -/
def distinct : Nat → List Nat → Bool
  | _, [] => true
  | seen, n :: ns => !seen.testBit n && distinct (seen ||| 1 <<< n) ns

/-- Numbers that are told apart are. -/
theorem nodup_of_distinct {seen : Nat} {ns : List Nat} (h : distinct seen ns = true) :
    ns.Nodup ∧ ∀ n ∈ ns, seen.testBit n = false := by
  induction ns generalizing seen with
  | nil => simp
  | cons n ns ih =>
    rw [distinct, Bool.and_eq_true, Bool.not_eq_true'] at h
    obtain ⟨hnodup, hclear⟩ := ih h.2
    have hother (m : Nat) (hm : m ∈ ns) : seen.testBit m = false ∧ n ≠ m := by
      have := hclear m hm
      rw [Nat.testBit_or, Nat.one_shiftLeft, Nat.testBit_two_pow, Bool.or_eq_false_iff] at this
      exact ⟨this.1, by simpa using this.2⟩
    refine ⟨List.nodup_cons.2 ⟨fun hn => (hother n hn).2 rfl, hnodup⟩, ?_⟩
    exact List.forall_mem_cons.2 ⟨h.1, fun m hm => (hother m hm).1⟩

theorem nodup_flatten_orbits : orbits.flatten.Nodup :=
  (nodup_of_distinct (by decide +kernel : distinct 0 orbits.flatten = true)).1

theorem isValidChar_of_mem_orbits {o : List Nat} (ho : o ∈ orbits) {n : Nat} (hn : n ∈ o) :
    n.isValidChar := by
  have hall : orbits.flatten.all (fun n => decide n.isValidChar) = true := by decide +kernel
  simpa using List.all_eq_true.1 hall n (List.mem_flatten.2 ⟨o, ho, hn⟩)

/-- The forms of a code point in the table are its entry. -/
theorem formsOf_of_mem {o : List Nat} (ho : o ∈ orbits) {n : Nat} (hn : n ∈ o) : formsOf n = o := by
  have hdisjoint : orbits.Pairwise List.Disjoint := (List.nodup_flatten.1 nodup_flatten_orbits).2
  have : Std.Symm (List.Disjoint (α := Nat)) := ⟨fun _ _ => List.disjoint_symm⟩
  cases hfind : orbits.find? (·.contains n) with
  | none =>
    have := List.find?_eq_none.1 hfind o ho
    simp [hn] at this
  | some o' =>
    rw [formsOf, hfind, Option.getD_some]
    by_contra hne
    have ho' := List.mem_of_find?_eq_some hfind
    have hn' : n ∈ o' := by simpa using List.find?_some hfind
    exact hdisjoint.forall ho' ho hne hn' hn

/-- A code point outside the table is its only form. -/
theorem formsOf_of_notMem {n : Nat} (h : n ∉ orbits.flatten) : formsOf n = [n] := by
  have hfind : orbits.find? (·.contains n) = none := by
    rw [List.find?_eq_none]
    intro o ho hn
    exact h (List.mem_flatten.2 ⟨o, ho, by simpa using hn⟩)
  rw [formsOf, hfind, Option.getD_none]

theorem formsOf_eq_of_mem {n m : Nat} (h : m ∈ formsOf n) : formsOf m = formsOf n := by
  cases hfind : orbits.find? (·.contains n) with
  | none =>
    have hn : formsOf n = [n] := by rw [formsOf, hfind, Option.getD_none]
    rw [hn, List.mem_singleton] at h
    rw [h]
  | some o =>
    have ho := List.mem_of_find?_eq_some hfind
    have hn : formsOf n = o := by rw [formsOf, hfind, Option.getD_some]
    rw [hn] at h ⊢
    exact formsOf_of_mem ho h

/-- All forms of a character have the same forms. -/
theorem forms_eq_of_mem {c d : Char} (h : d ∈ forms c) : forms d = forms c := by
  obtain ⟨m, hm, rfl⟩ := List.mem_map.1 h
  have hvalid : m.isValidChar := by
    cases hfind : orbits.find? (·.contains c.toNat) with
    | none =>
      rw [formsOf, hfind, Option.getD_none, List.mem_singleton] at hm
      rw [hm]
      exact c.valid
    | some o =>
      rw [formsOf, hfind, Option.getD_some] at hm
      exact isValidChar_of_mem_orbits (List.mem_of_find?_eq_some hfind) hm
  have hnat : (Char.ofNat m).toNat = m := by
    rw [Char.ofNat, dif_pos hvalid]
    rfl
  rw [forms, hnat, formsOf_eq_of_mem hm]
  rfl

/-! ## Blanks -/

/-- The code points of the blanks. -/
def blankCodes : List Nat :=
  [0x09, 0x0A, 0x0B, 0x0C, 0x0D, 0x20, 0x85, 0xA0, 0x1680, 0x2000, 0x2001, 0x2002, 0x2003, 0x2004,
   0x2005, 0x2006, 0x2007, 0x2008, 0x2009, 0x200A, 0x2028, 0x2029, 0x202F, 0x205F, 0x3000]

theorem toNat_mem_blankCodes {c : Char} (h : isBlank c = true) : c.toNat ∈ blankCodes := by
  simp only [isBlank, Bool.or_eq_true, Bool.and_eq_true, decide_eq_true_eq, beq_iff_eq] at h
  simp only [blankCodes, List.mem_cons, List.not_mem_nil]
  omega

/-- The blanks as bits. -/
def blankBits : Nat := blankCodes.foldl (fun bits n => bits ||| 1 <<< n) 0

theorem testBit_blankBits {c : Char} (h : isBlank c = true) : blankBits.testBit c.toNat = true := by
  have hbits : blankCodes.all blankBits.testBit = true := by decide +kernel
  exact List.all_eq_true.1 hbits c.toNat (toNat_mem_blankCodes h)

/-- A blank has no other form. -/
theorem forms_of_isBlank {c : Char} (h : isBlank c = true) : forms c = [c] := by
  have hclear := (nodup_of_distinct (by decide +kernel : distinct blankBits orbits.flatten = true)).2
  have hnot : c.toNat ∉ orbits.flatten := by
    intro hmem
    have hbit := testBit_blankBits h
    rw [hclear c.toNat hmem] at hbit
    exact Bool.false_ne_true hbit
  rw [forms, formsOf_of_notMem hnot, List.map_singleton, Char.ofNat_toNat]

/-- No form of any other character is a blank. -/
theorem isBlank_eq_false_of_mem_forms {c d : Char} (hd : d ∈ forms c) (hc : isBlank c = false) :
    isBlank d = false := by
  by_contra hblank
  have hforms : forms c = [d] :=
    (forms_eq_of_mem hd).symm.trans (forms_of_isBlank (by simpa using hblank))
  have hcd : c ∈ [d] := hforms ▸ mem_forms_self c
  rw [List.mem_singleton] at hcd
  exact hblank (hcd ▸ hc)

/-- Has none of the ranges a blank? -/
def Ranges.freeOfBlanks (rs : Ranges) : Bool :=
  rs.all fun r => blankBits >>> r.1 % 1 <<< (r.2 + 1 - r.1) == 0

theorem inCategories_eq_false_of_isBlank {ks : List Category} {c : Char}
    (h : ks.all (·.ranges.freeOfBlanks) = true) (hc : isBlank c = true) :
    inCategories ks c = false := by
  refine List.any_eq_false.2 fun k hk hmem => ?_
  obtain ⟨r, hr, hfirst, hlast⟩ := Ranges.exists_of_contains hmem
  have hbits : blankBits >>> r.1 % 1 <<< (r.2 + 1 - r.1) = 0 :=
    beq_iff_eq.1 (List.all_eq_true.1 (List.all_eq_true.1 h k hk) r hr)
  -- the bit of the blank would be one of those
  have hbit : (blankBits >>> r.1 % 1 <<< (r.2 + 1 - r.1)).testBit (c.toNat - r.1) = true := by
    rw [Nat.one_shiftLeft, Nat.testBit_mod_two_pow, Nat.testBit_shiftRight, Nat.add_sub_cancel' hfirst,
      testBit_blankBits hc, Bool.and_true, decide_eq_true_eq]
    omega
  rw [hbits, Nat.zero_testBit] at hbit
  exact Bool.false_ne_true hbit

/-- No letter is a blank. -/
theorem isLetter_eq_false_of_isBlank {c : Char} (h : isBlank c = true) : isLetter c = false :=
  inCategories_eq_false_of_isBlank (by decide +kernel) h

/-- No number is a blank. -/
theorem isNumber_eq_false_of_isBlank {c : Char} (h : isBlank c = true) : isNumber c = false :=
  inCategories_eq_false_of_isBlank (by decide +kernel) h

end Byline.Unicode

import Byline.Proofs.Text.Lines
import Mathlib.Data.List.Lex
import Mathlib.Data.String.Basic

/-!
# Octets that are a text

Octets without a broken piece are the writing of the text that is read of them
(`encode_decodeLossy`). For each length of a character, the number that is read of its octets is
one that is written with just as many, and with these.

The order of texts is that of their octets (`ofString_lt_ofString_iff`).
-/

namespace Byline.Utf8

theorem ofNat_eq {n : Nat} {a : UInt8} (h : n = a.toNat) : UInt8.ofNat n = a := by
  rw [h, UInt8.ofNat_toNat]

section Octets

variable {a b c d : UInt8} {n : Nat}

theorem encodeChar_one (ha : a.toNat < 0x80) : encodeChar (.ofNat a.toNat) = [a] := by
  rw [encodeChar, toNat_charOfNat (by omega), if_pos ha, UInt8.ofNat_toNat]

theorem encodeChar_two (ha : within 0xC2 0xDF a = true) (hb : isTail b = true)
    (hn : n = (a.toNat - 0xC0) * 0x40 + tailBits b) : encodeChar (.ofNat n) = [a, b] := by
  have ha := within_iff.1 ha
  have hb := within_iff.1 hb
  unfold tailBits at hn
  have h₁ : UInt8.ofNat (0xC0 + n / 0x40) = a := ofNat_eq (by omega)
  have h₂ : UInt8.ofNat (0x80 + n % 0x40) = b := ofNat_eq (by omega)
  rw [encodeChar, toNat_charOfNat (by omega)]
  rw [if_neg (by omega), if_pos (by omega), h₁, h₂]

theorem encodeChar_three (ha : within 0xE0 0xEF a = true) (hb : isSecondOfThree a b = true)
    (hc : isTail c = true)
    (hn : n = (a.toNat - 0xE0) * 0x1000 + tailBits b * 0x40 + tailBits c) :
    encodeChar (.ofNat n) = [a, b, c] := by
  have ha := within_iff.1 ha
  have hc := within_iff.1 hc
  obtain ⟨htail, hlow, hhigh⟩ := bounds_of_isSecondOfThree hb
  unfold tailBits at hn
  have h₁ : UInt8.ofNat (0xE0 + n / 0x1000) = a := ofNat_eq (by omega)
  have h₂ : UInt8.ofNat (0x80 + n / 0x40 % 0x40) = b := ofNat_eq (by omega)
  have h₃ : UInt8.ofNat (0x80 + n % 0x40) = c := ofNat_eq (by omega)
  rw [encodeChar, toNat_charOfNat (by omega)]
  rw [if_neg (by omega), if_neg (by omega), if_pos (by omega), h₁, h₂, h₃]

theorem encodeChar_four (ha : within 0xF0 0xF4 a = true) (hb : isSecondOfFour a b = true)
    (hc : isTail c = true) (hd : isTail d = true)
    (hn : n = (a.toNat - 0xF0) * 0x40000 + tailBits b * 0x1000 + tailBits c * 0x40 + tailBits d) :
    encodeChar (.ofNat n) = [a, b, c, d] := by
  have ha := within_iff.1 ha
  have hc := within_iff.1 hc
  have hd := within_iff.1 hd
  obtain ⟨htail, hlow, hhigh⟩ := bounds_of_isSecondOfFour hb
  unfold tailBits at hn
  have h₁ : UInt8.ofNat (0xF0 + n / 0x40000) = a := ofNat_eq (by omega)
  have h₂ : UInt8.ofNat (0x80 + n / 0x1000 % 0x40) = b := ofNat_eq (by omega)
  have h₃ : UInt8.ofNat (0x80 + n / 0x40 % 0x40) = c := ofNat_eq (by omega)
  have h₄ : UInt8.ofNat (0x80 + n % 0x40) = d := ofNat_eq (by omega)
  rw [encodeChar, toNat_charOfNat (by omega)]
  rw [if_neg (by omega), if_neg (by omega), if_neg (by omega), h₁, h₂, h₃, h₄]

end Octets

variable {b : Bytes}

/-- What is read of a text without a broken piece is written as it was. -/
theorem encode_decodeLossy (h : isValid b = true) : encode (decodeLossy b) = b := by
  rw [isValid] at h
  rw [decodeLossy, encode]
  fun_induction units b
  case case1 => rfl
  case case2 a t ha ih =>
    rw [List.map_cons, List.flatMap_cons, Option.getD_some, encodeChar_one ha, ih (by simpa using h)]
    rfl
  case case4 a _ ha b u hb ih =>
    rw [List.map_cons, List.flatMap_cons, Option.getD_some, encodeChar_two ha hb rfl,
      ih (by simpa using h)]
    rfl
  case case8 a _ _ ha b hb c u hc ih =>
    rw [List.map_cons, List.flatMap_cons, Option.getD_some, encodeChar_three ha hb hc rfl,
      ih (by simpa using h)]
    rfl
  case case14 a _ _ _ ha b hb c hc d u hd ih =>
    rw [List.map_cons, List.flatMap_cons, Option.getD_some, encodeChar_four ha hb hc hd rfl,
      ih (by simpa using h)]
    rfl
  -- In all other cases there is a broken piece.
  all_goals simp at h

theorem decode?_of_not_isValid (h : isValid b = false) : decode? b = none := by
  rw [← isSome_decode?] at h
  simpa using h

/-- Octets are read as a text just if they are the writing of one. -/
theorem isValid_iff : isValid b = true ↔ ∃ s : String, ofString s = b := by
  constructor
  · intro h
    refine ⟨String.ofList (decodeLossy b), ?_⟩
    rw [ofString, String.toList_ofList, encode_decodeLossy h]
  · rintro ⟨s, rfl⟩
    rw [← isSome_decode?, ofString, decode?_encode]
    rfl

/-! ## The order of texts -/

theorem ofNat_cons_lt_iff {m n : Nat} (hm : m < 256) (hn : n < 256) {r r' : Bytes} :
    UInt8.ofNat m :: r < UInt8.ofNat n :: r' ↔ m < n ∨ m = n ∧ r < r' := by
  rw [List.cons_lt_cons_iff, UInt8.lt_iff_toNat_lt, ← UInt8.toNat_inj, toNat_ofNat_of_lt hm,
    toNat_ofNat_of_lt hn]

/-- Of two characters the one with the smaller code point has the smaller octets, whatever follows
them. -/
theorem encodeChar_append_lt {c d : Char} (h : c < d) (r r' : Bytes) :
    encodeChar c ++ r < encodeChar d ++ r' := by
  have hlt : c.toNat < d.toNat := h
  have hd : d.toNat < 0xD800 ∨ (0xDFFF < d.toNat ∧ d.toNat < 0x110000) := d.valid
  simp only [encodeChar]
  generalize c.toNat = m at hlt
  generalize d.toNat = n at hlt hd
  split_ifs
  -- More octets have a greater first octet; just as many are compared one by one.
  all_goals
    simp (disch := omega) only [List.cons_append, List.nil_append, ofNat_cons_lt_iff]
    omega

theorem encode_lt {l k : List Char} (h : l < k) : encode l < encode k := by
  have hlex : List.Lex (· < ·) l k := h
  clear h
  induction hlex with
  | @nil c k =>
    obtain ⟨b, bs, hb⟩ := List.exists_cons_of_ne_nil (encodeChar_ne_nil c)
    rw [encode, encode, List.flatMap_cons, hb]
    exact List.nil_lt_cons _ _
  | rel h => exact encodeChar_append_lt h _ _
  | @cons c l k _ ih => exact List.Lex.append_left _ ih (encodeChar c)

/-- The order of texts is that of their octets. -/
theorem ofString_lt_ofString_iff {s t : String} : ofString s < ofString t ↔ s < t := by
  have hlt {s t : String} (h : s < t) : ofString s < ofString t :=
    encode_lt (String.lt_iff_toList_lt.1 h)
  constructor
  · intro h
    rcases lt_trichotomy s t with hst | rfl | hts
    · exact hst
    · exact absurd h (List.lt_irrefl _)
    · exact absurd h (List.lt_asymm (hlt hts))
  · exact hlt

end Byline.Utf8

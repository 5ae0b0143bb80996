import Byline.Text.Lines
import Mathlib.Data.List.DropRight

/-!
# Cutting joined lines

Lines that end with their terminator can be joined with whatever follows, and cutting gives them
back (`splitInclusive_flatten_append`). All lines of a list but the last are such lines
(`splitInclusive_eq_append`), so that lines may be put in and taken out above the last one.

A written text has a line feed where the text has one (`newline_mem_encode`), and what is read from
a written line is its text without the terminator (`lineText_encode`). A line feed cannot hide in
other octets either: the text of a line holds none (`newline_notMem_lineText`), and the text of a
file has the texts of its lines as lines (`splitInclusive_decodeLossy`).

Reading line by line cuts as cutting the whole does, however the pieces fall (`Chunks.lines_flatten`).
-/

namespace Byline

section Cut

variable {α : Type} {p : α → Bool}

/-- Is the list a line with its terminator? Only the last member satisfies `p`. -/
def Terminated (p : α → Bool) (l : List α) : Prop :=
  ∃ s c, l = s ++ [c] ∧ p c = true ∧ ∀ x ∈ s, p x = false

theorem Terminated.cons {x : α} {l : List α} (h : Terminated p l) (hx : p x = false) :
    Terminated p (x :: l) := by
  obtain ⟨s, c, rfl, hc, hs⟩ := h
  refine ⟨x :: s, c, rfl, hc, ?_⟩
  intro y hy
  rcases List.mem_cons.1 hy with rfl | hy
  · exact hx
  · exact hs y hy

theorem splitInclusive_append_of_terminated {l : List α} (h : Terminated p l) (s : List α) :
    splitInclusive p (l ++ s) = l :: splitInclusive p s := by
  obtain ⟨t, c, rfl, hc, ht⟩ := h
  induction t with
  | nil => simp [splitInclusive, hc]
  | cons x t ih =>
    have hx : p x = false := ht x List.mem_cons_self
    have ih' := ih fun y hy => ht y (List.mem_cons_of_mem x hy)
    simp only [List.cons_append, splitInclusive, hx, ih']
    rfl

theorem splitInclusive_flatten_append {ls : List (List α)} (h : ∀ l ∈ ls, Terminated p l)
    (s : List α) : splitInclusive p (ls.flatten ++ s) = ls ++ splitInclusive p s := by
  induction ls with
  | nil => rfl
  | cons l ls ih =>
    rw [List.flatten_cons, List.append_assoc,
      splitInclusive_append_of_terminated (h l List.mem_cons_self),
      ih fun l' hl => h l' (List.mem_cons_of_mem l hl), List.cons_append]

/-- The first line, and the list after it. -/
theorem splitInclusive_eq_cons {s l : List α} {ls : List (List α)}
    (h : splitInclusive p s = l :: ls) :
    ∃ t, splitInclusive p t = ls ∧ (ls ≠ [] → Terminated p l) := by
  fun_induction splitInclusive p s generalizing l ls with
  | case1 => simp at h
  | case2 x s hx ih =>
    obtain ⟨rfl, rfl⟩ := List.cons.inj h
    exact ⟨s, rfl, fun _ => ⟨[], x, rfl, hx, by simp⟩⟩
  | case3 x s hx hs ih =>
    obtain ⟨rfl, rfl⟩ := List.cons.inj h
    exact ⟨[], rfl, fun hne => absurd rfl hne⟩
  | case4 x s hx l' ls' hs ih =>
    obtain ⟨rfl, rfl⟩ := List.cons.inj h
    obtain ⟨t, ht, hterm⟩ := ih hs
    exact ⟨t, ht, fun hne => (hterm hne).cons (by simpa using hx)⟩

/-- The last of the lines are the lines of what they are joined, and those above end with their
terminators. -/
theorem splitInclusive_eq_append {s : List α} {above below : List (List α)}
    (h : splitInclusive p s = above ++ below) :
    splitInclusive p below.flatten = below ∧ (below ≠ [] → ∀ l ∈ above, Terminated p l) := by
  induction above generalizing s with
  | nil =>
    rw [List.nil_append] at h
    refine ⟨?_, fun _ l hl => absurd hl List.not_mem_nil⟩
    rw [← h, flatten_splitInclusive]
  | cons l above ih =>
    obtain ⟨t, ht, hterm⟩ := splitInclusive_eq_cons h
    obtain ⟨hcut, habove⟩ := ih ht
    refine ⟨hcut, ?_⟩
    intro hne l' hl
    rcases List.mem_cons.1 hl with rfl | hl
    · exact hterm (by simp [hne])
    · exact habove hne l' hl

/-- Some of the lines joined are cut into these lines again. -/
theorem splitInclusive_flatten_of_sublist {s : List α} {ls ls' : List (List α)}
    (h : splitInclusive p s = ls) (hsub : ls'.Sublist ls) :
    splitInclusive p ls'.flatten = ls' := by
  induction hsub generalizing s with
  | slnil => rfl
  | cons l hsub ih =>
    obtain ⟨t, ht, -⟩ := splitInclusive_eq_cons h
    exact ih ht
  | @cons_cons ls' ls l hsub ih =>
    obtain ⟨t, ht, hterm⟩ := splitInclusive_eq_cons h
    by_cases hne : ls = []
    · subst hne
      obtain rfl := List.sublist_nil.1 hsub
      have hcut := flatten_splitInclusive p s
      rw [h] at hcut
      rw [hcut, h]
    · rw [List.flatten_cons, splitInclusive_append_of_terminated (hterm hne), ih ht]

/-- Nothing in a line but its last member satisfies `p`. -/
theorem of_mem_splitInclusive {s l : List α} (h : l ∈ splitInclusive p s) :
    Terminated p l ∨ ∀ x ∈ l, p x = false := by
  fun_induction splitInclusive p s generalizing l with
  | case1 => exact absurd h List.not_mem_nil
  | case2 x s hx ih =>
    rcases List.mem_cons.1 h with rfl | h
    · exact .inl ⟨[], x, rfl, hx, by simp⟩
    · exact ih h
  | case3 x s hx hs ih =>
    rw [List.mem_singleton.1 h]
    exact .inr (by simpa using hx)
  | case4 x s hx l' ls hs ih =>
    have hx' : p x = false := by simpa using hx
    rcases List.mem_cons.1 h with rfl | h
    · rcases ih (hs ▸ List.mem_cons_self) with hl | hl
      · exact .inl (hl.cons hx')
      · exact .inr (List.forall_mem_cons.2 ⟨hx', hl⟩)
    · exact ih (hs ▸ List.mem_cons_of_mem l' h)

theorem splitInclusive_append_of_forall {w : List α} (hw : ∀ x ∈ w, p x = false) (hne : w ≠ [])
    (s : List α) : splitInclusive p (w ++ s) =
      (w ++ (splitInclusive p s).headD []) :: (splitInclusive p s).tail := by
  induction w with
  | nil => exact absurd rfl hne
  | cons x w ih =>
    have hx : ¬ p x = true := by simp [hw x List.mem_cons_self]
    rw [List.cons_append, splitInclusive, if_neg hx]
    by_cases hnil : w = []
    · subst hnil
      rw [List.nil_append]
      cases splitInclusive p s <;> rfl
    · rw [ih (fun y hy => hw y (List.mem_cons_of_mem x hy)) hnil]
      rfl

end Cut

/-! ## Texts of lines -/

section DropEnd

variable {α : Type} {p : α → Bool}

theorem dropEndWhile_append (s : List α) {t : List α} (h : ∀ c ∈ t, p c = true) :
    dropEndWhile p (s ++ t) = dropEndWhile p s := by
  unfold dropEndWhile
  rw [List.reverse_append, List.dropWhile_append_of_pos]
  intro c hc
  exact h c (List.mem_reverse.1 hc)

/-- Nothing is dropped up to a member that does not satisfy `p`. -/
theorem dropEndWhile_concat_append (s t : List α) {c : α} (h : p c = false) :
    dropEndWhile p (s ++ [c] ++ t) = s ++ [c] ++ dropEndWhile p t := by
  have hc : (c :: s.reverse).dropWhile p = c :: s.reverse := by simp [h]
  unfold dropEndWhile
  rw [List.reverse_append, List.reverse_append, List.reverse_singleton, List.singleton_append,
    List.dropWhile_append, hc]
  split
  · next he =>
    rw [List.isEmpty_iff.1 he]
    simp
  · simp

theorem prefix_dropEndWhile (p : α → Bool) (s : List α) : dropEndWhile p s <+: s :=
  List.rdropWhile_prefix p s

end DropEnd

/-- A line without its terminator ends, without any line end, where the line does. -/
theorem chompAll_chomp (line : List Char) : chompAll (chomp line) = chompAll line := by
  have hconcat (s : List Char) {c : Char} (hc : isLineEnd c = true) :
      chompAll (s ++ [c]) = chompAll s :=
    dropEndWhile_append s (List.forall_mem_singleton.2 hc)
  rw [chomp]
  split_ifs with hn
  · obtain ⟨u, rfl⟩ := List.getLast?_eq_some_iff.1 hn
    rw [List.dropLast_concat, hconcat u rfl]
    dsimp only
    split_ifs with hr
    · obtain ⟨v, rfl⟩ := List.getLast?_eq_some_iff.1 hr
      rw [List.dropLast_concat, hconcat v rfl]
    · rfl
  · rfl

namespace Utf8

/-- An octet of a written character is the character itself, or it is no ASCII character. -/
theorem toNat_of_mem_encodeChar {c : Char} {b : UInt8} (h : b ∈ encodeChar c) :
    b.toNat = c.toNat ∨ 0x80 ≤ b.toNat := by
  have hv : c.toNat < 0x110000 := by
    rcases c.valid with hv | hv
    · exact Nat.lt_trans hv (by decide)
    · exact hv.2
  simp only [encodeChar] at h
  generalize c.toNat = n at hv h
  split at h
  · rw [List.mem_singleton.1 h, toNat_ofNat_of_lt (by omega)]
    exact .inl rfl
  right
  split at h
  · simp only [List.mem_cons, List.not_mem_nil, or_false] at h
    rcases h with rfl | rfl
    all_goals rw [toNat_ofNat_of_lt (by omega)]; omega
  split at h
  · simp only [List.mem_cons, List.not_mem_nil, or_false] at h
    rcases h with rfl | rfl | rfl
    all_goals rw [toNat_ofNat_of_lt (by omega)]; omega
  · simp only [List.mem_cons, List.not_mem_nil, or_false] at h
    rcases h with rfl | rfl | rfl | rfl
    all_goals rw [toNat_ofNat_of_lt (by omega)]; omega

theorem newline_mem_encodeChar {c : Char} : newline ∈ encodeChar c ↔ c = '\n' := by
  constructor
  · intro h
    have hn : newline.toNat = 10 := rfl
    rcases toNat_of_mem_encodeChar h with hc | hc
    · rw [← Char.ofNat_toNat c, ← hc]
      rfl
    · omega
  · rintro rfl
    decide

theorem newline_mem_encode {s : List Char} : newline ∈ encode s ↔ '\n' ∈ s := by
  simp only [encode, List.mem_flatMap, newline_mem_encodeChar]
  constructor
  · rintro ⟨c, hc, rfl⟩
    exact hc
  · intro h
    exact ⟨_, h, rfl⟩

theorem encode_append (s t : List Char) : encode (s ++ t) = encode s ++ encode t := by
  simp [encode]

theorem lineText_encode (s : List Char) : lineText (encode s) = chompAll s := by
  rw [lineText, decodeLossy_encode]

/-- A written text that ends with its only line feed is a line. -/
theorem terminated_encode {s : List Char} (h : '\n' ∉ s) :
    Terminated (· == newline) (encode (s ++ ['\n'])) := by
  refine ⟨encode s, newline, ?_, by simp, ?_⟩
  · rw [encode_append]
    rfl
  · intro b hb
    have hne : b ≠ newline := fun he => h (newline_mem_encode.1 (he ▸ hb))
    simpa using hne

theorem encodeChar_ne_nil (c : Char) : encodeChar c ≠ [] := by
  unfold encodeChar
  dsimp only
  split_ifs <;> simp

/-- The lines of the octets of a text are the octets of its lines. -/
theorem lines_encode (s : List Char) : lines (encode s) = (splitInclusive isNewline s).map encode := by
  induction s with
  | nil => rfl
  | cons c s ih =>
    have hcons : encode (c :: s) = encodeChar c ++ encode s := rfl
    rw [lines] at ih
    rw [lines, hcons, splitInclusive]
    by_cases hc : c = '\n'
    · subst hc
      have hline : Terminated (· == newline) (encodeChar '\n') := by
        have h := terminated_encode (s := []) List.not_mem_nil
        rwa [encode, List.nil_append, List.flatMap_singleton] at h
      have hnewline : isNewline '\n' = true := rfl
      rw [splitInclusive_append_of_terminated hline, ih, if_pos hnewline, List.map_cons]
      rfl
    · have hw : ∀ b ∈ encodeChar c, (b == newline) = false := by
        intro b hb
        have hne : b ≠ newline := fun he => hc (newline_mem_encodeChar.1 (he ▸ hb))
        simpa using hne
      have hno : ¬ isNewline c = true := by simpa [isNewline] using hc
      rw [splitInclusive_append_of_forall hw (encodeChar_ne_nil c), ih, if_neg hno]
      cases splitInclusive isNewline s with
      | nil => simp [encode]
      | cons l ls => simp [encode]

/-! ### Line feeds in octets -/

theorem isTail_newline : isTail newline = false := by decide

theorem isSecondOfThree_newline (a : UInt8) : isSecondOfThree a newline = false := by
  unfold isSecondOfThree
  split
  · decide
  split
  · decide
  · exact isTail_newline

theorem isSecondOfFour_newline (a : UInt8) : isSecondOfFour a newline = false := by
  unfold isSecondOfFour
  split
  · decide
  split
  · decide
  · exact isTail_newline

theorem units_newline (t : Bytes) : units (newline :: t) = some '\n' :: units t :=
  units_one (by decide)

/-- A line feed is a character of its own, whatever stands before it. -/
theorem units_append_newline (s t : Bytes) :
    units (s ++ newline :: t) = units s ++ some '\n' :: units t := by
  fun_induction units s
  case case1 => exact units_newline t
  case case4 a _ ha b u hb ih =>
    simp only [List.cons_append, units_two ha hb, ih]
  case case8 a _ _ ha b hb c u hc ih =>
    simp only [List.cons_append, units_three ha hb hc, ih]
  case case14 a _ _ _ ha b hb c hc d u hd ih =>
    simp only [List.cons_append, units_four ha hb hc hd, ih]
  -- What is left is one octet, or a broken piece before the rest or before the line feed.
  all_goals simp only [List.cons_append, List.nil_append]
  all_goals rw [units.eq_def]
  all_goals simp_all [isTail_newline, isSecondOfThree_newline, isSecondOfFour_newline, units_newline]

/-! ### Whole characters -/

theorem isSome_decode? (b : Bytes) : (decode? b).isSome = isValid b := by
  rw [decode?, isValid]
  induction units b with
  | nil => rfl
  | cons u us ih =>
    rw [List.all_cons, ← ih]
    cases u <;> cases h : us.mapM id <;> simp [List.mapM_cons, h]

theorem isValid_append_newline (s t : Bytes) :
    isValid (s ++ newline :: t) = (isValid s && isValid t) := by
  simp [isValid, units_append_newline, List.all_append]

/-- The octets are a text if each line is one. -/
theorem all_isValid_lines (b : Bytes) : (lines b).all isValid = isValid b := by
  induction h : lines b generalizing b with
  | nil =>
    have hb := flatten_splitInclusive (· == newline) b
    change (lines b).flatten = b at hb
    rw [h] at hb
    rw [← hb]
    rfl
  | cons l ls ih =>
    obtain ⟨t, ht, hterm⟩ := splitInclusive_eq_cons h
    have hb : b = l ++ t := by
      rw [← flatten_splitInclusive (· == newline) b, ← flatten_splitInclusive (· == newline) t, ht]
      exact congrArg List.flatten h
    rw [List.all_cons, ih t ht, hb]
    by_cases hne : ls = []
    · have htail := flatten_splitInclusive (· == newline) t
      rw [ht, hne] at htail
      rw [← htail]
      simp [isValid, units]
    · obtain ⟨s, c, rfl, hc, -⟩ := hterm hne
      obtain rfl : c = newline := by simpa using hc
      rw [List.append_assoc, List.singleton_append, isValid_append_newline,
        isValid_append_newline]
      simp [isValid, units]

theorem toNat_charOfNat {n : Nat} (h : n < 0xD800 ∨ (0xDFFF < n ∧ n < 0x110000)) :
    (Char.ofNat n).toNat = n := by
  rw [Char.ofNat, dif_pos h]
  rfl

theorem ofNat_eq_newline {n : Nat} (h : Char.ofNat n = '\n') : n = 10 := by
  by_cases hn : n.isValidChar
  · rw [← toNat_charOfNat hn, h]
    rfl
  · rw [Char.ofNat, dif_neg hn] at h
    exact absurd h (by decide)

/-- The second octet of three is a continuation, and not one of an overlong form or a surrogate. -/
theorem bounds_of_isSecondOfThree {a b : UInt8} (h : isSecondOfThree a b = true) :
    (0x80 ≤ b.toNat ∧ b.toNat ≤ 0xBF) ∧ (a.toNat = 0xE0 → 0xA0 ≤ b.toNat) ∧
      (a.toNat = 0xED → b.toNat ≤ 0x9F) := by
  rw [isSecondOfThree] at h
  split_ifs at h with h0 hD
  all_goals
    have h := within_iff.1 h
    omega

/-- The second octet of four is a continuation, and the character is neither in an overlong form nor
above the last. -/
theorem bounds_of_isSecondOfFour {a b : UInt8} (h : isSecondOfFour a b = true) :
    (0x80 ≤ b.toNat ∧ b.toNat ≤ 0xBF) ∧ (a.toNat = 0xF0 → 0x90 ≤ b.toNat) ∧
      (a.toNat = 0xF4 → b.toNat ≤ 0x8F) := by
  rw [isSecondOfFour] at h
  split_ifs at h with h0 h4
  all_goals
    have h := within_iff.1 h
    omega

/-- A line feed that is read stands in the octets: it is no broken piece, and a character of more
octets has a larger number. -/
theorem newline_mem_of_mem_units {b : Bytes} (h : some '\n' ∈ units b) : newline ∈ b := by
  fun_induction units b
  case case2 a t ha ih =>
    rcases List.mem_cons.1 h with h | h
    · have hn : a.toNat = 10 := ofNat_eq_newline (Option.some.inj h).symm
      have : a = newline := UInt8.toNat_inj.1 hn
      simp [this]
    · exact List.mem_cons_of_mem a (ih h)
  case case4 a _ ha b u hb ih =>
    rcases List.mem_cons.1 h with h | h
    · have hn := ofNat_eq_newline (Option.some.inj h).symm
      have := within_iff.1 ha
      omega
    · simp [ih h]
  case case8 a _ _ ha b hb c u hc ih =>
    rcases List.mem_cons.1 h with h | h
    · have hn := ofNat_eq_newline (Option.some.inj h).symm
      have h1 := within_iff.1 ha
      have h2 := bounds_of_isSecondOfThree hb
      unfold tailBits at hn
      omega
    · simp [ih h]
  case case14 a _ _ _ ha b hb c hc d u hd ih =>
    rcases List.mem_cons.1 h with h | h
    · have hn := ofNat_eq_newline (Option.some.inj h).symm
      have h1 := within_iff.1 ha
      have h2 := bounds_of_isSecondOfFour hb
      unfold tailBits at hn
      omega
    · simp [ih h]
  all_goals simp_all

theorem newline_mem_of_mem_decodeLossy {b : Bytes} (h : '\n' ∈ decodeLossy b) : newline ∈ b := by
  obtain ⟨u, hu, he⟩ := List.mem_map.1 h
  cases u with
  | none => exact absurd he (by decide)
  | some c =>
    rw [Option.getD_some] at he
    exact newline_mem_of_mem_units (he ▸ hu)

theorem newline_notMem_decodeLossy {s : Bytes} (h : ∀ x ∈ s, (x == newline) = false) :
    '\n' ∉ decodeLossy s := by
  intro hm
  have := h newline (newline_mem_of_mem_decodeLossy hm)
  simp at this

theorem decodeLossy_append_newline (s t : Bytes) :
    decodeLossy (s ++ newline :: t) = decodeLossy s ++ '\n' :: decodeLossy t := by
  simp [decodeLossy, units_append_newline]

/-- The text of a line holds no line feed. -/
theorem newline_notMem_lineText {b line : Bytes} (h : line ∈ lines b) : '\n' ∉ lineText line := by
  rcases of_mem_splitInclusive h with ⟨s, c, rfl, hc, hs⟩ | hs
  · have hcut : lineText (s ++ [c]) = chompAll (decodeLossy s) := by
      rw [show c = newline by simpa using hc, lineText, decodeLossy_append_newline]
      exact dropEndWhile_append _ (List.forall_mem_singleton.2 rfl)
    rw [hcut]
    intro hm
    exact newline_notMem_decodeLossy hs ((prefix_dropEndWhile isLineEnd _).subset hm)
  · intro hm
    exact newline_notMem_decodeLossy hs ((prefix_dropEndWhile isLineEnd _).subset hm)

theorem units_ne_nil {b : Bytes} (h : b ≠ []) : units b ≠ [] := by
  fun_induction units b <;> simp_all

/-- The lines of the text of octets are the texts of their lines. -/
theorem splitInclusive_decodeLossy (b : Bytes) :
    splitInclusive isNewline (decodeLossy b) = (lines b).map decodeLossy := by
  induction h : lines b generalizing b with
  | nil =>
    have hb := flatten_splitInclusive (· == newline) b
    rw [show splitInclusive (· == newline) b = [] from h] at hb
    rw [← hb]
    rfl
  | cons l ls ih =>
    obtain ⟨t, ht, hterm⟩ := splitInclusive_eq_cons h
    have hb : b = l ++ t := by
      rw [← flatten_splitInclusive (· == newline) b, ← flatten_splitInclusive (· == newline) t, ht]
      exact congrArg List.flatten h
    rw [List.map_cons, ← ih t ht, hb]
    have hfree {s : Bytes} (hs : ∀ x ∈ s, (x == newline) = false) (c : Char)
        (hc : c ∈ decodeLossy s) : isNewline c = false := by
      have hne : c ≠ '\n' := fun he => newline_notMem_decodeLossy hs (he ▸ hc)
      simpa [isNewline] using hne
    have hl : l ∈ lines b := h ▸ List.mem_cons_self
    rcases of_mem_splitInclusive hl with ⟨s, c, rfl, hc, hs⟩ | hs
    · obtain rfl : c = newline := by simpa using hc
      have hline : Terminated isNewline (decodeLossy (s ++ [newline])) :=
        ⟨decodeLossy s, '\n', decodeLossy_append_newline s [], rfl, hfree hs⟩
      have hcut : decodeLossy (s ++ [newline] ++ t) = decodeLossy (s ++ [newline]) ++ decodeLossy t := by
        rw [List.append_assoc, List.singleton_append, decodeLossy_append_newline,
          decodeLossy_append_newline]
        simp [decodeLossy, units]
      rw [hcut, splitInclusive_append_of_terminated hline]
    · -- A line without a line feed is the last one.
      have hls : ls = [] := by
        by_contra hne
        obtain ⟨s, c, rfl, hc, -⟩ := hterm hne
        have := hs c (by simp)
        simp_all
      have htail := flatten_splitInclusive (· == newline) t
      rw [ht, hls] at htail
      obtain rfl : t = [] := htail.symm
      have hne : decodeLossy l ≠ [] := by
        simpa [decodeLossy] using units_ne_nil (ne_nil_of_mem_splitInclusive hl)
      rw [List.append_nil]
      have hcut := splitInclusive_append_of_forall (p := isNewline) (hfree hs) hne []
      simpa [splitInclusive, decodeLossy, units] using hcut

end Utf8

namespace Chunks

open Utf8 (Bytes)

theorem cutLine_append_of_some {s t line rest : Bytes} (h : cutLine s = (line, some rest)) :
    cutLine (s ++ t) = (line, some (rest ++ t)) := by
  induction s generalizing line with
  | nil => simp [cutLine] at h
  | cons b s ih =>
    rw [List.cons_append, cutLine]
    rw [cutLine] at h
    split_ifs at h ⊢ with hb
    · obtain ⟨rfl, rfl⟩ : [b] = line ∧ s = rest := by simpa using h
      rfl
    · obtain ⟨rfl, hs⟩ := Prod.mk.inj h
      rw [ih (Prod.ext rfl hs)]

theorem cutLine_append_of_none {s t line : Bytes} (h : cutLine s = (line, none)) :
    cutLine (s ++ t) = (line ++ (cutLine t).1, (cutLine t).2) := by
  induction s generalizing line with
  | nil =>
    obtain rfl : [] = line := congrArg Prod.fst h
    rfl
  | cons b s ih =>
    rw [List.cons_append, cutLine]
    rw [cutLine] at h
    split_ifs at h ⊢ with hb
    · simp at h
    · obtain ⟨rfl, hs⟩ := Prod.mk.inj h
      rw [ih (Prod.ext rfl hs)]
      rfl

/-- However the pieces fall, the next line is that of the pieces joined. -/
theorem cutLine_flatten (cs : Chunks) : (cutLine cs.flatten).1 = (readLine cs).1 ∧
    (cutLine cs.flatten).2.getD [] = (readLine cs).2.flatten := by
  induction cs with
  | nil => exact ⟨rfl, rfl⟩
  | cons c cs ih =>
    rw [readLine, List.flatten_cons]
    split
    · next line rest h =>
      rw [cutLine_append_of_some h]
      exact ⟨rfl, rfl⟩
    · next line h =>
      rw [cutLine_append_of_none h, ih.1]
      exact ⟨rfl, ih.2⟩

theorem lines_eq_cutLine {s : Bytes} (h : s ≠ []) :
    Utf8.lines s = (cutLine s).1 :: Utf8.lines ((cutLine s).2.getD []) := by
  induction s with
  | nil => exact absurd rfl h
  | cons b s ih =>
    rw [Utf8.lines, splitInclusive, cutLine]
    by_cases hb : (b == newline) = true
    · rw [if_pos hb, if_pos hb]
      rfl
    · rw [if_neg hb, if_neg hb]
      cases s with
      | nil => rfl
      | cons a s =>
        have ih := ih (List.cons_ne_nil a s)
        rw [Utf8.lines] at ih
        rw [ih]

/-- A line that is read is empty only at the end. -/
theorem readLine_eq_nil_iff {cs : Chunks} : (readLine cs).1 = [] ↔ cs.flatten = [] := by
  rw [← (cutLine_flatten cs).1]
  constructor
  · intro h
    by_contra he
    exact ne_nil_of_mem_splitInclusive (lines_eq_cutLine he ▸ List.mem_cons_self) h
  · intro he
    rw [he, cutLine]

/-- However the pieces fall, what is read is the first line of the pieces joined, and its other lines
are left. -/
theorem lines_flatten {cs : Chunks} (h : (readLine cs).1 ≠ []) :
    Utf8.lines cs.flatten = (readLine cs).1 :: Utf8.lines (readLine cs).2.flatten := by
  rw [lines_eq_cutLine (mt readLine_eq_nil_iff.2 h), (cutLine_flatten cs).1, (cutLine_flatten cs).2]

end Chunks

end Byline

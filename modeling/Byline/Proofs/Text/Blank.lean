import Byline.Proofs.Text.Lines

/-!
# Trimmed texts and words

Trimming takes blanks away at the ends and nothing else (`exists_append_trim`), so that blanks which
are put there do not show (`trim_append_blanks`), and a trimmed text stays as it is (`trim_trim`).
The words on both sides of a blank are the words of the whole (`words_append_cons`), so that trimming
loses none (`words_trim`), and a text without blanks is a word (`words_eq_singleton`).
-/

namespace Byline

variable {s l r : List Char}

/-! ## Trimmed texts -/

/-- What is left of a trimmed text was taken away at its ends. -/
theorem exists_append_trim (s : List Char) : ∃ l r, s = l ++ (trim s ++ r) ∧
    (∀ c ∈ l, isBlank c = true) ∧ ∀ c ∈ r, isBlank c = true := by
  refine ⟨s.takeWhile isBlank, ((s.dropWhile isBlank).reverse.takeWhile isBlank).reverse, ?_, ?_, ?_⟩
  · rw [trim, trimEnd, dropEndWhile, ← List.reverse_append, List.takeWhile_append_dropWhile,
      List.reverse_reverse, List.takeWhile_append_dropWhile]
  · exact fun c => List.mem_takeWhile_imp
  · exact fun c hc => List.mem_takeWhile_imp (List.mem_reverse.1 hc)

theorem trim_trim (s : List Char) : trim (trim s) = trim s := by
  have hstart : (trim s).dropWhile isBlank = trim s := by
    rw [List.dropWhile_eq_self_iff]
    intro hl
    have hp : trim s <+: s.dropWhile isBlank := prefix_dropEndWhile isBlank _
    rw [hp.getElem hl]
    exact List.dropWhile_get_zero_not isBlank s (Nat.lt_of_lt_of_le hl hp.length_le)
  rw [trim, hstart]
  exact List.rdropWhile_idempotent isBlank _

theorem trim_append_blanks (hl : ∀ c ∈ l, isBlank c = true) (hr : ∀ c ∈ r, isBlank c = true)
    (s : List Char) : trim (l ++ (s ++ r)) = trim s := by
  rw [trim, trim, List.dropWhile_append_of_pos hl, List.dropWhile_append]
  split
  · next h => rw [List.dropWhile_eq_nil_iff.2 hr, List.isEmpty_iff.1 h]
  · exact dropEndWhile_append _ hr

theorem trim_eq_nil_iff : trim s = [] ↔ ∀ c ∈ s, isBlank c = true := by
  constructor
  · intro h c hc
    obtain ⟨l, r, hs, hl, hr⟩ := exists_append_trim s
    rw [hs, h, List.nil_append, List.mem_append] at hc
    exact hc.elim (hl c) (hr c)
  · intro h
    rw [trim, List.dropWhile_eq_nil_iff.2 h]
    rfl

/-- A text is trimmed if it neither starts nor ends with a blank. -/
theorem trim_eq_self_iff : trim s = s ↔
    (∀ c ∈ s.head?, isBlank c = false) ∧ ∀ c ∈ s.getLast?, isBlank c = false := by
  have hstart : s.dropWhile isBlank = s ↔ ∀ c ∈ s.head?, isBlank c = false := by
    cases s with
    | nil => simp
    | cons c s => simp [List.dropWhile_eq_self_iff]
  have hend : trimEnd s = s ↔ ∀ c ∈ s.getLast?, isBlank c = false := by
    refine (List.rdropWhile_eq_self_iff (p := isBlank)).trans ?_
    rcases List.eq_nil_or_concat s with rfl | ⟨t, c, rfl⟩ <;> simp
  rw [← hstart, ← hend]
  constructor
  · intro h
    have hp : trim s <+: s.dropWhile isBlank := prefix_dropEndWhile isBlank _
    have hs : s.dropWhile isBlank <:+ s := List.dropWhile_suffix isBlank
    have hd : s.dropWhile isBlank = s := by
      refine hs.eq_of_length (Nat.le_antisymm hs.length_le ?_)
      conv_lhs => rw [← h]
      exact hp.length_le
    exact ⟨hd, by rwa [trim, hd] at h⟩
  · rintro ⟨hd, he⟩
    rw [trim, hd, he]

/-! ## Words -/

theorem words_dropWhile_isBlank (s : List Char) : words (s.dropWhile isBlank) = words s := by
  induction s with
  | nil => rfl
  | cons c s ih =>
    by_cases hc : isBlank c = true
    · rw [List.dropWhile_cons_of_pos hc, ih, words, if_pos hc]
    · rw [List.dropWhile_cons_of_neg hc]

/-- There is a word where there is a character that is not blank. -/
theorem words_cons_ne_nil {c : Char} (hc : isBlank c = false) (s : List Char) :
    words (c :: s) ≠ [] := by
  rw [words, if_neg (by simp [hc]), consWord.eq_def]
  split
  · exact List.cons_ne_nil _ _
  · split <;> exact List.cons_ne_nil _ _

/-- The words after a word that is complete do not change it. -/
theorem consWord_append {c : Char} {s t : List Char} {ws : List (List Char)}
    (hs : s.head?.all isBlank = false → ws ≠ []) (ht : s = [] → t.head?.all isBlank = true)
    (vs : List (List Char)) : consWord c (s ++ t) (ws ++ vs) = consWord c s ws ++ vs := by
  cases s with
  | nil => simp [consWord.eq_def, ht rfl]
  | cons d s =>
    rw [consWord.eq_def, consWord.eq_def, List.cons_append, List.head?_cons, List.head?_cons]
    split
    · rfl
    next h =>
      obtain ⟨w, ws, rfl⟩ := List.exists_cons_of_ne_nil (hs (eq_false_of_ne_true h))
      rfl

/-- A blank ends a word. -/
theorem words_append_cons {c : Char} (hc : isBlank c = true) (s t : List Char) :
    words (s ++ c :: t) = words s ++ words t := by
  induction s with
  | nil => simp [words, hc]
  | cons d s ih =>
    rw [List.cons_append, words, words, ih]
    split
    · rfl
    · refine consWord_append ?_ (fun _ => by simp [hc]) (words t)
      cases s with
      | nil => simp
      | cons e s => exact fun he => words_cons_ne_nil (by simpa using he) s

/-- Blanks at the ends of a text belong to no word. -/
theorem words_append_blanks (hl : ∀ c ∈ l, isBlank c = true) (hr : ∀ c ∈ r, isBlank c = true)
    (s : List Char) : words (l ++ (s ++ r)) = words s := by
  have hend : words (s ++ r) = words s := by
    cases r with
    | nil => rw [List.append_nil]
    | cons c r =>
      have hnil : words r = [] := by
        rw [← words_dropWhile_isBlank, List.dropWhile_eq_nil_iff.2
          fun d hd => hr d (List.mem_cons_of_mem c hd), words]
      rw [words_append_cons (hr c List.mem_cons_self), hnil, List.append_nil]
  rw [← words_dropWhile_isBlank, List.dropWhile_append_of_pos hl, words_dropWhile_isBlank, hend]

theorem words_trim (s : List Char) : words (trim s) = words s := by
  obtain ⟨l, r, hs, hl, hr⟩ := exists_append_trim s
  conv_rhs => rw [hs, words_append_blanks hl hr]

theorem words_eq_singleton (hne : s ≠ []) (h : ∀ c ∈ s, isBlank c = false) : words s = [s] := by
  induction s with
  | nil => exact absurd rfl hne
  | cons c s ih =>
    rw [words, if_neg (by simp [h])]
    cases s with
    | nil => rfl
    | cons d s =>
      rw [ih (List.cons_ne_nil d s) fun e he => h e (List.mem_cons_of_mem c he), consWord.eq_def,
        List.head?_cons, Option.all_some, if_neg (by simp [h])]

end Byline

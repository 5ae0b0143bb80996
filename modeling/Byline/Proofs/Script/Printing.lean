import Byline.Proofs.Text.Blank
import Byline.Script.Line

/-!
# Writing the lines of a script

A line that is read can be written again, as its sign and the texts after it, and is read back, also
with blanks around it and a comment after it (`Line.read_print`). The texts that lines are read with
are those that trimming and cutting off comments leave as they are (`Line.exists_read_iff`): a text
after a sign is a payload, and the texts of a selection are payloads of one word.
-/

namespace Byline.Script

/-- A text that may follow a sign. -/
structure IsPayload (s : List Char) : Prop where
  ne_nil : s ≠ []
  trim_eq : trim s = s
  /-- A number sign would start a comment. -/
  noComment : '#' ∉ s

/-- A payload that is one word. -/
structure IsToken (s : List Char) : Prop extends IsPayload s where
  noBlank : ∀ c ∈ s, isBlank c = false

variable {s : List Char} {c : Char}

theorem isBlank_space : isBlank ' ' = true := by decide

theorem ne_of_isBlank (h : isBlank c = true) : c ≠ '#' := by
  rintro rfl
  exact absurd h (by decide)

namespace IsPayload

/-- A text behind a sign and a blank. -/
theorem cons_space (h : IsPayload s) (hc : isBlank c = false) (hne : c ≠ '#') :
    IsPayload (c :: ' ' :: s) := by
  obtain ⟨t, d, rfl⟩ := List.eq_nil_or_concat s |>.resolve_left h.ne_nil
  refine ⟨List.cons_ne_nil _ _, trim_eq_self_iff.2 ⟨by simpa using hc, ?_⟩, ?_⟩
  · have hd := (trim_eq_self_iff.1 h.trim_eq).2
    simpa [List.getLast?_cons] using hd
  · have hs := h.noComment
    simp only [List.mem_cons, not_or]
    exact ⟨hne.symm, by decide, hs⟩

/-- The blank after a sign is trimmed. -/
theorem trim_space_cons (h : IsPayload s) : trim (' ' :: s) = s := by
  have hs := trim_append_blanks (l := [' ']) (r := []) (by simp [isBlank_space]) (by simp) s
  rwa [List.append_nil, List.singleton_append, h.trim_eq] at hs

/-- Blanks around a text and a comment after it do not show. -/
theorem content_eq (h : IsPayload s) {l r : List Char} (hl : ∀ c ∈ l, isBlank c = true)
    (hr : ∀ c ∈ r, isBlank c = true) (t : List Char) :
    Line.content (l ++ (s ++ (r ++ '#' :: t))) = s := by
  have hcut : (l ++ (s ++ (r ++ '#' :: t))).takeWhile (· != '#') = l ++ (s ++ r) := by
    rw [List.takeWhile_append_of_pos, List.takeWhile_append_of_pos, List.takeWhile_append_of_pos,
      List.takeWhile_cons_of_neg (by simp), List.append_nil]
    · exact fun c hc => bne_iff_ne.2 (ne_of_isBlank (hr c hc))
    · rintro c hc
      exact bne_iff_ne.2 fun he => h.noComment (he ▸ hc)
    · exact fun c hc => bne_iff_ne.2 (ne_of_isBlank (hl c hc))
  rw [Line.content, hcut, trim_append_blanks hl hr, h.trim_eq]

/-- What is left of a text after trimming is a payload, if anything is left. -/
theorem of_trim (hne : trim s ≠ []) (hs : '#' ∉ s) : IsPayload (trim s) := by
  refine ⟨hne, trim_trim s, fun h => hs ?_⟩
  obtain ⟨l, r, he, -, -⟩ := exists_append_trim s
  rw [he]
  exact List.mem_append_right _ (List.mem_append_left _ h)

end IsPayload

namespace IsToken

theorem of_forall (hne : s ≠ []) (hb : ∀ c ∈ s, isBlank c = false) (hs : '#' ∉ s) : IsToken s where
  ne_nil := hne
  trim_eq := trim_eq_self_iff.2
    ⟨fun c hc => hb c (List.mem_of_mem_head? hc), fun c hc => hb c (List.mem_of_mem_getLast? hc)⟩
  noComment := hs
  noBlank := hb

theorem of_mem_words {w : List Char} (hw : w ∈ words s) (hs : '#' ∉ s) : IsToken w :=
  .of_forall (mem_words hw).1 (fun c hc => ((mem_words hw).2 c hc).2)
    fun h => hs ((mem_words hw).2 _ h).1

theorem words_eq (h : IsToken s) : words s = [s] := words_eq_singleton h.ne_nil h.noBlank

theorem words_append_space (h : IsToken s) {t : List Char} (ht : IsToken t) :
    words (s ++ ' ' :: t) = [s, t] := by
  rw [words_append_cons isBlank_space, h.words_eq, ht.words_eq, List.singleton_append]

/-- Two tokens with a blank between them are a payload. -/
theorem append_space (h : IsToken s) {t : List Char} (ht : IsToken t) :
    IsPayload (s ++ ' ' :: t) := by
  refine ⟨by simp, trim_eq_self_iff.2 ⟨fun c hc => ?_, fun c hc => ?_⟩, ?_⟩
  · rw [List.head?_append_of_ne_nil _ h.ne_nil] at hc
    exact h.noBlank c (List.mem_of_mem_head? hc)
  · rw [List.getLast?_append_of_ne_nil _ (List.cons_ne_nil _ _), List.getLast?_cons,
      List.getLast?_eq_some_getLast ht.ne_nil] at hc
    obtain rfl := Option.some.inj hc
    exact ht.noBlank _ (List.getLast_mem ht.ne_nil)
  · simp [h.noComment, ht.noComment]

end IsToken

namespace Line

/-- The line as it is written. A header that cannot be used keeps its text, and a note has none. -/
def print : Line → String
  | .selection filter none => "$ " ++ filter
  | .selection filter (some disposition) => "$ " ++ filter ++ " " ++ disposition
  | .author name => "@ " ++ name
  | .command word => "! " ++ word
  | .add text => "+ " ++ text
  | .remove text => "- " ++ text
  | .malformed text => text
  | .inert => ""

/-- Is the text a header that cannot be used? It names no author, or it has not one or two words after
the sign of a selection. -/
def IsUnusable (text : List Char) : Prop :=
  text = ['@'] ∨ ∃ rest, text = '$' :: rest ∧ (words rest).length ≠ 1 ∧ (words rest).length ≠ 2

/-- The texts of a line are texts that can be read. -/
def IsReadable : Line → Prop
  | .selection filter disposition => IsToken filter.toList ∧ ∀ d ∈ disposition, IsToken d.toList
  | .author s | .command s | .add s | .remove s => IsPayload s.toList
  | .malformed text => IsPayload text.toList ∧ IsUnusable text.toList
  | .inert => True

/-! ## What is written is read -/

theorem IsReadable.isPayload_print {l : Line} (h : l.IsReadable) (hne : l ≠ .inert) :
    IsPayload l.print.toList := by
  cases l with
  | selection f d =>
    cases d with
    | none => simpa [print] using h.1.toIsPayload.cons_space (c := '$') (by decide) (by decide)
    | some d =>
      have hd := h.2 d rfl
      simpa [print] using (h.1.append_space hd).cons_space (c := '$') (by decide) (by decide)
  | author s => simpa [print] using IsPayload.cons_space (c := '@') h (by decide) (by decide)
  | command s => simpa [print] using IsPayload.cons_space (c := '!') h (by decide) (by decide)
  | add s => simpa [print] using IsPayload.cons_space (c := '+') h (by decide) (by decide)
  | remove s => simpa [print] using IsPayload.cons_space (c := '-') h (by decide) (by decide)
  | malformed s => exact h.1
  | inert => exact absurd rfl hne

/-- A sign other than that of a selection, with a text after it. -/
theorem ofContent_cons_space (h : IsPayload s) (hc : c ≠ '$') : ofContent (c :: ' ' :: s) =
    if c = '@' then .author (String.ofList s) else if c = '!' then .command (String.ofList s)
    else if c = '+' then .add (String.ofList s) else if c = '-' then .remove (String.ofList s)
    else .inert := by
  have hne : s.isEmpty = false := List.isEmpty_eq_false_iff.2 h.ne_nil
  rw [ofContent, h.trim_space_cons, if_neg hc, hne, if_neg Bool.false_ne_true,
    if_neg Bool.false_ne_true]

theorem IsUnusable.ofContent_eq (h : IsUnusable s) : ofContent s = .malformed (String.ofList s) := by
  obtain rfl | ⟨rest, rfl, h1, h2⟩ := h
  · rfl
  · rw [ofContent, if_pos rfl, words_trim]
    split
    · next hw => simp [hw] at h1
    · next hw => simp [hw] at h2
    · rfl

theorem IsReadable.ofContent_print {l : Line} (h : l.IsReadable) (hne : l ≠ .inert) :
    ofContent l.print.toList = l := by
  cases l with
  | selection f d =>
    cases d with
    | none =>
      have hf : (print (.selection f none)).toList = '$' :: ' ' :: f.toList := by simp [print]
      rw [hf, ofContent, h.1.trim_space_cons, if_pos rfl, h.1.words_eq]
      simp
    | some d =>
      have hd := h.2 d rfl
      have hf : (print (.selection f (some d))).toList = '$' :: ' ' :: (f.toList ++ ' ' :: d.toList) := by
        simp [print]
      rw [hf, ofContent, (h.1.append_space hd).trim_space_cons, if_pos rfl, h.1.words_append_space hd]
      simp
  | author s => simp [print, ofContent_cons_space h]
  | command s => simp [print, ofContent_cons_space h]
  | add s => simp [print, ofContent_cons_space h]
  | remove s => simp [print, ofContent_cons_space h]
  | malformed s => rw [print, h.2.ofContent_eq, String.ofList_toList]
  | inert => exact absurd rfl hne

/-! ## What is read can be written -/

/-- A text that only has blanks after its first character is that character, if it is trimmed. -/
theorem eq_singleton_of_trim {text : List Char} (h : trim (c :: text) = c :: text)
    (hblank : trim text = []) : c :: text = [c] := by
  rcases List.eq_nil_or_concat' text with rfl | ⟨t, d, rfl⟩
  · rfl
  · have hd := (trim_eq_self_iff.1 h).2 d (by rw [← List.cons_append]; exact List.getLast?_concat)
    rw [trim_eq_nil_iff.1 hblank d (by simp)] at hd
    exact absurd hd.symm Bool.false_ne_true

theorem isReadable_selection {rest : List Char} (h : IsPayload ('$' :: rest)) :
    (ofContent ('$' :: rest)).IsReadable := by
  have hrest : '#' ∉ rest := fun hc => h.noComment (List.mem_cons_of_mem _ hc)
  have htoken {w : List Char} (hw : w ∈ words rest) : IsToken (String.ofList w).toList := by
    rw [String.toList_ofList]
    exact .of_mem_words hw hrest
  rw [ofContent, if_pos rfl, words_trim]
  split
  · next f hw => exact ⟨htoken (by simp [hw]), by simp⟩
  · next f d hw =>
    refine ⟨htoken (by simp [hw]), fun t ht => ?_⟩
    obtain rfl := Option.some.inj ht
    exact htoken (by simp [hw])
  · next h1 h2 =>
    refine ⟨by simpa using h, .inr ⟨rest, String.toList_ofList, ?_, ?_⟩⟩
    · intro hlen
      obtain ⟨f, hf⟩ := List.length_eq_one_iff.1 hlen
      exact h1 f hf
    · intro hlen
      obtain ⟨f, d, hf⟩ := List.length_eq_two.1 hlen
      exact h2 f d hf

theorem isReadable_ofContent (htrim : trim s = s) (hs : '#' ∉ s) : (ofContent s).IsReadable := by
  cases s with
  | nil => trivial
  | cons sign text =>
    have hwhole : IsPayload (sign :: text) := ⟨List.cons_ne_nil _ _, htrim, hs⟩
    by_cases hsign : sign = '$'
    · subst hsign
      exact isReadable_selection hwhole
    -- The text after any other sign is a payload, unless it is blank.
    have hrest (h : ¬ (trim text).isEmpty = true) : IsPayload (String.ofList (trim text)).toList := by
      rw [String.toList_ofList]
      exact .of_trim (by simpa using h) fun hc => hs (List.mem_cons_of_mem sign hc)
    rw [ofContent, if_neg hsign]
    split_ifs with hauthor hnone hnone
    · refine ⟨by simpa using hwhole, .inl ?_⟩
      rw [String.toList_ofList, eq_singleton_of_trim htrim (List.isEmpty_iff.1 hnone), hauthor]
    · exact hrest hnone
    · trivial
    · exact hrest hnone
    · exact hrest hnone
    · exact hrest hnone
    · trivial

theorem isReadable_read (raw : String) : (read raw).IsReadable := by
  refine isReadable_ofContent (trim_trim _) fun h => ?_
  obtain ⟨l, r, he, -, -⟩ := exists_append_trim (raw.toList.takeWhile (· != '#'))
  have hmem : '#' ∈ raw.toList.takeWhile (· != '#') := by
    rw [he]
    exact List.mem_append_right _ (List.mem_append_left _ h)
  simpa using List.mem_takeWhile_imp hmem

/-! ## Lines with blanks around them and comments after them -/

theorem read_print {l : Line} (h : l.IsReadable) (hne : l ≠ .inert) {left right : String}
    (hl : ∀ c ∈ left.toList, isBlank c = true) (hr : ∀ c ∈ right.toList, isBlank c = true)
    (comment : String) : read (left ++ l.print ++ right ++ "#" ++ comment) = l := by
  have hsplit : (left ++ l.print ++ right ++ "#" ++ comment).toList =
      left.toList ++ (l.print.toList ++ (right.toList ++ '#' :: comment.toList)) := by simp
  rw [read, hsplit, (h.isPayload_print hne).content_eq hl hr, h.ofContent_print hne]

/-- The lines that are read are those whose texts can be read. -/
theorem exists_read_iff (l : Line) : (∃ raw, read raw = l) ↔ l.IsReadable := by
  constructor
  · rintro ⟨raw, rfl⟩
    exact isReadable_read raw
  · intro h
    by_cases hne : l = .inert
    · exact ⟨"", hne ▸ rfl⟩
    · exact ⟨_, @read_print l h hne "" "" (by simp) (by simp) ""⟩

/-- A line that says something is read back from what is written for it, with any blanks around it and
any comment after it. The texts after a sign that lines are read with are the payloads, and those of a
selection are one or two tokens. -/
theorem read_print_read :
    (∀ raw : String, read raw ≠ .inert → ∀ left right : String,
      (∀ c ∈ left.toList, isBlank c = true) → (∀ c ∈ right.toList, isBlank c = true) →
      ∀ comment : String, read (left ++ (read raw).print ++ right ++ "#" ++ comment) = read raw) ∧
    (∀ s, (∃ raw, read raw = .author s) ↔ IsPayload s.toList) ∧
    (∀ s, (∃ raw, read raw = .command s) ↔ IsPayload s.toList) ∧
    (∀ s, (∃ raw, read raw = .add s) ↔ IsPayload s.toList) ∧
    (∀ s, (∃ raw, read raw = .remove s) ↔ IsPayload s.toList) ∧
    ∀ f d, (∃ raw, read raw = .selection f d) ↔ IsToken f.toList ∧ ∀ t ∈ d, IsToken t.toList := by
  refine ⟨?_, fun s => exists_read_iff _, fun s => exists_read_iff _, fun s => exists_read_iff _,
    fun s => exists_read_iff _, fun f d => exists_read_iff _⟩
  intro raw hne left right hl hr comment
  exact read_print (isReadable_read raw) hne hl hr comment

/-- A selection between blanks of other scripts, with a comment that holds a number sign. -/
theorem read_print_read_selection :
    read "$\tp.*\u3000overwrite # now" = .selection "p.*" (some "overwrite") ∧
      read ("\u2003" ++ "$ p.* overwrite" ++ "\r" ++ "#" ++ "$ q # r") =
        .selection "p.*" (some "overwrite") := by
  have h : read "$\tp.*\u3000overwrite # now" = .selection "p.*" (some "overwrite") := by
    decide +kernel
  have hleft : ∀ c ∈ "\u2003".toList, isBlank c = true := by
    simpa using (by decide : isBlank '\u2003' = true)
  have hright : ∀ c ∈ "\r".toList, isBlank c = true := by
    simpa using (by decide : isBlank '\r' = true)
  have hread := read_print_read.1 "$\tp.*\u3000overwrite # now" (by rw [h]; decide) "\u2003" "\r"
    hleft hright "$ q # r"
  rw [h] at hread
  exact ⟨h, hread⟩

end Line

end Byline.Script

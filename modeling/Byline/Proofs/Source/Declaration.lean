import Byline.Proofs.Source.Line
import Byline.Proofs.Unicode.Folding
import Mathlib.Data.List.Forall2

/-!
# Declarations of public types

What a declaration is made of (`Declares`): the word `public`, and after it tokens with blanks before
each, of which the first are modifiers and the next are the keyword of a type and a token that starts
with the name. A token may be both a modifier and a keyword. The name that is read is the one after
the most modifiers (`typeName?_eq_some_iff`).
-/

namespace Byline

namespace Source

section

variable {c : Char}

@[simp]
theorem token_cons_of_blank (hc : isBlank c = true) (s : List Char) : token (c :: s) = [] := by
  simp [token, hc]

@[simp]
theorem afterToken_cons_of_blank (hc : isBlank c = true) (s : List Char) :
    afterToken (c :: s) = c :: s := by
  simp [afterToken, hc]

@[simp]
theorem token_cons (hc : isBlank c = false) (s : List Char) : token (c :: s) = c :: token s := by
  simp [token, hc]

@[simp]
theorem afterToken_cons (hc : isBlank c = false) (s : List Char) :
    afterToken (c :: s) = afterToken s := by
  simp [afterToken, hc]

end

/-- The first word of a text that starts with no blank is its token. -/
theorem words_eq_token_cons {s : List Char} (hne : s ≠ []) (h : s.head?.any isBlank = false) :
    words s = token s :: words (afterToken s) := by
  induction s with
  | nil => exact absurd rfl hne
  | cons c s ih =>
    have hc : isBlank c = false := h
    rw [words, if_neg (by simp [hc]), token_cons hc, afterToken_cons hc]
    cases s with
    | nil => rfl
    | cons d s =>
      by_cases hd : isBlank d = true
      · rw [token_cons_of_blank hd, afterToken_cons_of_blank hd, consWord.eq_def, List.head?_cons,
          Option.all_some, if_pos hd]
      · have hd : isBlank d = false := by simpa using hd
        rw [ih (List.cons_ne_nil d s) hd, consWord.eq_def, List.head?_cons, Option.all_some, hd,
          if_neg Bool.false_ne_true]

/-- What follows a token is empty or starts with a blank. -/
theorem afterToken_eq_nil_or (s : List Char) :
    afterToken s = [] ∨ (afterToken s).head?.any isBlank = true := by
  have h := List.head?_dropWhile_not (fun c => !isBlank c) s
  rw [← afterToken] at h
  cases hs : afterToken s with
  | nil => exact .inl rfl
  | cons c r =>
    rw [hs] at h
    exact .inr (by simpa using h)

/-- No part of a name is a blank. -/
theorem isNamePart_eq_false_of_isBlank {c : Char} (h : isBlank c = true) : isNamePart c = false := by
  have hne {d : Char} (hd : isBlank d = false) : (c == d) = false := by
    rw [beq_eq_false_iff_ne]
    rintro rfl
    rw [hd] at h
    exact Bool.false_ne_true h
  rw [isNamePart, Unicode.forms_of_isBlank h, List.any_cons, List.any_nil,
    Unicode.isLetter_eq_false_of_isBlank h, Unicode.isNumber_eq_false_of_isBlank h, hne rfl, hne rfl]
  rfl

theorem isNamePart_of_isNameStart {c : Char} (h : isNameStart c = true) : isNamePart c = true := by
  obtain ⟨d, hd, h⟩ := List.any_eq_true.1 h
  refine List.any_eq_true.2 ⟨d, hd, ?_⟩
  simp only [Bool.or_eq_true] at h ⊢
  tauto

/-- The longest name that the text starts with. -/
def nameIn? (t : List Char) : Option (List Char) :=
  if t.head?.any isNameStart then some (t.takeWhile isNamePart) else none

theorem nameIn?_cons_of_blank {c : Char} (h : isBlank c = true) (s : List Char) :
    nameIn? (c :: s) = none := by
  have hstart : isNameStart c = false := by
    by_contra hc
    have := isNamePart_of_isNameStart (by simpa using hc)
    rw [isNamePart_eq_false_of_isBlank h] at this
    exact Bool.false_ne_true this
  rw [nameIn?, List.head?_cons, Option.any_some, hstart]
  rfl

/-! ## What a declaration is made of -/

/-- The text is the word in either case. -/
def SameWord (word s : List Char) : Prop :=
  List.Forall₂ (fun k c => c ∈ Unicode.forms k) word s

/-- The token is an annotation or one of the words that may stand before the keyword of a type. -/
def IsModifier (t : List Char) : Prop :=
  (∃ r, r ≠ [] ∧ t = '@' :: r) ∨ ∃ w ∈ modifierWords, SameWord w t

/-- The token is the keyword of a type. -/
def IsTypeWord (t : List Char) : Prop := ∃ w ∈ typeWords, SameWord w t

/-- The text is a name. -/
def IsName (n : List Char) : Prop :=
  ∃ c r, n = c :: r ∧ isNameStart c = true ∧ ∀ d ∈ r, isNamePart d = true

/-- The text starts with the name, and with no longer one. -/
structure StartsWithName (t name : List Char) : Prop where
  isName : IsName name
  atStart : name <+: t
  longest : ∀ n, IsName n → n <+: t → n.length ≤ name.length

/-- The tokens are so many modifiers, the keyword of a type, a token that starts with the name, and
any others. -/
def Declares (tokens : List (List Char)) (k : Nat) (name : List Char) : Prop :=
  ∃ modifiers keyword t rest, tokens = modifiers ++ keyword :: t :: rest ∧
    modifiers.length = k ∧ (∀ m ∈ modifiers, IsModifier m) ∧ IsTypeWord keyword ∧
    StartsWithName t name

/-- The tokens declare the name, and nothing after more modifiers. -/
def DeclaresLast (tokens : List (List Char)) (name : List Char) : Prop :=
  ∃ k, Declares tokens k name ∧ ∀ k' name', Declares tokens k' name' → k' ≤ k

/-- The line is the word `public` and the text, which starts with a blank. -/
def IsPublic (line s : List Char) : Prop :=
  ∃ v, line = v ++ s ∧ SameWord "public".toList v ∧ s.head?.any isBlank = true

/-! ## Words and names -/

theorem dropWord?_eq_some_iff {word s r : List Char} :
    dropWord? word s = some r ↔ ∃ v, s = v ++ r ∧ SameWord word v := by
  induction word generalizing s with
  | nil => simp [dropWord?, SameWord, eq_comm]
  | cons k ks ih =>
    cases s with
    | nil => simp +contextual [dropWord?, SameWord]
    | cons c s =>
      rw [dropWord?]
      constructor
      · intro h
        split at h
        next hc =>
          obtain ⟨v, rfl, hv⟩ := ih.1 h
          exact ⟨c :: v, rfl, .cons (by simpa using hc) hv⟩
        next => exact absurd h (Option.some_ne_none r).symm
      · rintro ⟨v, hs, hv⟩
        obtain ⟨d, u, hc, hu, rfl⟩ := List.forall₂_cons_left_iff.1 hv
        obtain ⟨rfl, rfl⟩ := List.cons.inj hs
        rw [if_pos (by simpa using hc)]
        exact ih.2 ⟨u, rfl, hu⟩

theorem isWord_eq_true_iff {word s : List Char} : isWord word s = true ↔ SameWord word s := by
  rw [isWord, beq_iff_eq, dropWord?_eq_some_iff]
  simp

theorem isModifier_eq_true_iff {t : List Char} : isModifier t = true ↔ IsModifier t := by
  rw [isModifier, Bool.or_eq_true, List.any_eq_true, IsModifier]
  simp only [isWord_eq_true_iff]
  refine or_congr_left ?_
  cases t with
  | nil => simp
  | cons c r => cases r <;> simp

theorem isTypeWord_eq_true_iff {t : List Char} : isTypeWord t = true ↔ IsTypeWord t := by
  rw [isTypeWord, List.any_eq_true, IsTypeWord]
  simp only [isWord_eq_true_iff]

theorem isName_takeWhile {t : List Char} (h : t.head?.any isNameStart = true) :
    IsName (t.takeWhile isNamePart) := by
  cases t with
  | nil => exact absurd h Bool.false_ne_true
  | cons c r =>
    refine ⟨c, r.takeWhile isNamePart, ?_, h, fun d => List.mem_takeWhile_imp⟩
    exact List.takeWhile_cons_of_pos (isNamePart_of_isNameStart h)

theorem IsName.prefix_takeWhile {n t : List Char} (h : IsName n) (hn : n <+: t) :
    n <+: t.takeWhile isNamePart := by
  obtain ⟨c, r, rfl, hc, hr⟩ := h
  obtain ⟨rest, rfl⟩ := hn
  have hall : ∀ d ∈ c :: r, isNamePart d = true :=
    List.forall_mem_cons.2 ⟨isNamePart_of_isNameStart hc, hr⟩
  rw [List.takeWhile_append_of_pos hall]
  exact List.prefix_append (c :: r) _

theorem nameIn?_eq_some_iff {t name : List Char} :
    nameIn? t = some name ↔ StartsWithName t name := by
  unfold nameIn?
  constructor
  · intro h
    split at h
    next hstart =>
      obtain rfl := Option.some.inj h
      exact ⟨isName_takeWhile hstart, List.takeWhile_prefix _,
        fun n hn hp => (hn.prefix_takeWhile hp).length_le⟩
    next => exact absurd h (Option.some_ne_none name).symm
  · rintro ⟨hname, hp, hlongest⟩
    have hstart : t.head?.any isNameStart = true := by
      obtain ⟨c, r, rfl, hc, -⟩ := hname
      obtain ⟨rest, rfl⟩ := hp
      exact hc
    have hle := hlongest _ (isName_takeWhile hstart) (List.takeWhile_prefix _)
    rw [if_pos hstart, (hname.prefix_takeWhile hp).eq_of_length_le hle]

/-! ## Declarations among tokens -/

/-- The name that the tokens declare after the most modifiers. -/
def declaredAmong? : List (List Char) → Option (List Char)
  | [] => none
  | t :: ts => (if isModifier t then declaredAmong? ts else none).or
      (if isTypeWord t then ts.head?.bind nameIn? else none)

theorem declares_nil {k : Nat} {name : List Char} : ¬ Declares [] k name := by
  rintro ⟨ms, w, t, rest, h, -⟩
  simp at h

/-- A declaration starts with a modifier or with the keyword. -/
theorem declares_cons_iff {t : List Char} {ts : List (List Char)} {k : Nat} {name : List Char} :
    Declares (t :: ts) k name ↔ (∃ k', k = k' + 1 ∧ IsModifier t ∧ Declares ts k' name) ∨
      (k = 0 ∧ IsTypeWord t ∧ ∃ u ∈ ts.head?, StartsWithName u name) := by
  constructor
  · rintro ⟨ms, w, u, rest, hts, rfl, hms, hw, hu⟩
    cases ms with
    | nil =>
      obtain ⟨rfl, rfl⟩ := List.cons.inj hts
      exact .inr ⟨rfl, hw, u, rfl, hu⟩
    | cons m ms =>
      obtain ⟨rfl, rfl⟩ := List.cons.inj hts
      obtain ⟨hm, hms⟩ := List.forall_mem_cons.1 hms
      exact .inl ⟨ms.length, rfl, hm, ms, w, u, rest, rfl, rfl, hms, hw, hu⟩
  · rintro (⟨k', rfl, ht, ms, w, u, rest, rfl, rfl, hms, hw, hu⟩ | ⟨rfl, ht, u, hu, hname⟩)
    · exact ⟨t :: ms, w, u, rest, rfl, rfl, List.forall_mem_cons.2 ⟨ht, hms⟩, hw, hu⟩
    · obtain ⟨rest, rfl⟩ := List.head?_eq_some_iff.1 hu
      exact ⟨[], t, u, rest, rfl, rfl, by simp, ht, hname⟩

theorem Declares.isSome_declaredAmong? {ts : List (List Char)} {k : Nat} {name : List Char}
    (h : Declares ts k name) : (declaredAmong? ts).isSome = true := by
  induction ts generalizing k with
  | nil => exact absurd h declares_nil
  | cons t ts ih =>
    rw [declaredAmong?, Option.isSome_or, Bool.or_eq_true]
    rcases declares_cons_iff.1 h with ⟨k', -, ht, h⟩ | ⟨-, ht, u, hu, hname⟩
    · rw [if_pos (isModifier_eq_true_iff.2 ht)]
      exact .inl (ih h)
    · rw [if_pos (isTypeWord_eq_true_iff.2 ht), hu, Option.bind_some, nameIn?_eq_some_iff.2 hname]
      exact .inr rfl

theorem declaresLast_of_declaredAmong? {ts : List (List Char)} {name : List Char}
    (h : declaredAmong? ts = some name) : DeclaresLast ts name := by
  induction ts with
  | nil => exact absurd h (Option.some_ne_none name).symm
  | cons t ts ih =>
    rw [declaredAmong?, Option.or_eq_some_iff] at h
    rcases h with h | ⟨hno, h⟩
    · split at h
      next ht =>
        obtain ⟨k, hk, hlast⟩ := ih h
        refine ⟨k + 1, declares_cons_iff.2 (.inl ⟨k, rfl, isModifier_eq_true_iff.1 ht, hk⟩), ?_⟩
        intro k' name' h'
        rcases declares_cons_iff.1 h' with ⟨k', rfl, -, h'⟩ | ⟨rfl, -⟩
        · exact Nat.succ_le_succ (hlast k' name' h')
        · exact Nat.zero_le _
      next => exact absurd h (Option.some_ne_none name).symm
    · split at h
      next ht =>
        obtain ⟨u, hu, hname⟩ := Option.bind_eq_some_iff.1 h
        refine ⟨0, declares_cons_iff.2 (.inr ⟨rfl, isTypeWord_eq_true_iff.1 ht, u, hu,
          nameIn?_eq_some_iff.1 hname⟩), ?_⟩
        intro k' name' h'
        rcases declares_cons_iff.1 h' with ⟨k', rfl, hm, h'⟩ | ⟨rfl, -⟩
        · -- a declaration after the modifier would have been read
          rw [if_pos (isModifier_eq_true_iff.2 hm)] at hno
          have := h'.isSome_declaredAmong?
          rw [hno] at this
          exact absurd this Bool.false_ne_true
        · exact Nat.le_refl 0
      next => exact absurd h (Option.some_ne_none name).symm

theorem StartsWithName.unique {t n n' : List Char} (h : StartsWithName t n)
    (h' : StartsWithName t n') : n = n' :=
  Option.some.inj ((nameIn?_eq_some_iff.2 h).symm.trans (nameIn?_eq_some_iff.2 h'))

/-- After so many modifiers there is one name. -/
theorem Declares.unique {ts : List (List Char)} {k : Nat} {n n' : List Char}
    (h : Declares ts k n) (h' : Declares ts k n') : n = n' := by
  obtain ⟨ms, w, t, rest, rfl, rfl, -, -, ht⟩ := h
  obtain ⟨ms', w', t', rest', hts, hlen, -, -, ht'⟩ := h'
  obtain ⟨-, htail⟩ := List.append_inj hts hlen.symm
  obtain ⟨-, htail⟩ := List.cons.inj htail
  obtain ⟨rfl, -⟩ := List.cons.inj htail
  exact ht.unique ht'

theorem DeclaresLast.unique {ts : List (List Char)} {n n' : List Char}
    (h : DeclaresLast ts n) (h' : DeclaresLast ts n') : n = n' := by
  obtain ⟨k, hk, hlast⟩ := h
  obtain ⟨k', hk', hlast'⟩ := h'
  obtain rfl : k = k' := Nat.le_antisymm (hlast' k n hk) (hlast k' n' hk')
  exact hk.unique hk'

theorem declaredAmong?_eq_some_iff {ts : List (List Char)} {name : List Char} :
    declaredAmong? ts = some name ↔ DeclaresLast ts name := by
  refine ⟨declaresLast_of_declaredAmong?, fun h => ?_⟩
  obtain ⟨k, hk, -⟩ := id h
  obtain ⟨name', hname'⟩ := Option.isSome_iff_exists.1 hk.isSome_declaredAmong?
  rw [hname', h.unique (declaresLast_of_declaredAmong? hname')]

/-- An annotation that is spelt like a keyword is a modifier where a declaration follows it. -/
example : declaredAmong? (words " @interface final Record Id<K>".toList) = some "Id".toList := by
  decide +kernel

/-! ## Reading a line -/

theorem declaredName?_eq_bind (s : List Char) :
    declaredName? s = (dropBlanks? s).bind nameIn? := by
  rw [declaredName?]
  cases dropBlanks? s with
  | none => rfl
  | some u =>
    cases u with
    | nil => rfl
    | cons c r =>
      by_cases hc : isNameStart c = true
      · simp [nameIn?, hc, isNamePart_of_isNameStart hc]
      · simp [nameIn?, hc]

/-- A name ends before its token does. -/
theorem nameIn?_token (s : List Char) : nameIn? (token s) = nameIn? s := by
  have htake : (token s).takeWhile isNamePart = s.takeWhile isNamePart := by
    rw [token, List.takeWhile_takeWhile]
    congr 1
    funext c
    cases hc : isBlank c with
    | false => simp
    | true => simp [isNamePart_eq_false_of_isBlank hc]
  cases s with
  | nil => rfl
  | cons c s =>
    cases hc : isBlank c with
    | false => rw [nameIn?, nameIn?, htake, token_cons hc, List.head?_cons, List.head?_cons]
    | true =>
      rw [token_cons_of_blank hc, nameIn?_cons_of_blank hc]
      rfl

/-- The first word of a text is read after its blanks. -/
theorem bind_head?_words (s : List Char) :
    (words s).head?.bind nameIn? = nameIn? (s.dropWhile isBlank) := by
  rw [← words_dropWhile_isBlank]
  have hstart := List.head?_dropWhile_not isBlank s
  generalize s.dropWhile isBlank = u at hstart ⊢
  cases u with
  | nil => rfl
  | cons c r =>
    rw [words_eq_token_cons (List.cons_ne_nil c r) hstart, List.head?_cons, Option.bind_some,
      nameIn?_token]

/-- What is declared after blanks is declared among the tokens. -/
theorem declared?_eq_declaredAmong? (s : List Char) : declared? s =
    if s.head?.any isBlank then declaredAmong? (words s) else none := by
  induction hn : s.length using Nat.strong_induction_on generalizing s with
  | _ n ih =>
    rw [declared?_eq, dropBlanks?, ← words_dropWhile_isBlank]
    split
    next hs =>
      rw [Option.bind_some]
      have hle : (s.dropWhile isBlank).length ≤ s.length := List.length_dropWhile_le isBlank s
      have hstart := List.head?_dropWhile_not isBlank s
      generalize s.dropWhile isBlank = u at hle hstart ⊢
      cases u with
      | nil => rfl
      | cons c r =>
        have hc : isBlank c = false := hstart
        have htoken : token (c :: r) ≠ [] := by simp [hc]
        have hrest : declared? (afterToken (c :: r)) =
            declaredAmong? (words (afterToken (c :: r))) := by
          rw [ih _ (by have := length_afterToken htoken; omega) _ rfl]
          rcases afterToken_eq_nil_or (c :: r) with hnil | hblank
          · rw [hnil]
            rfl
          · rw [if_pos hblank]
        have hname : declaredName? (afterToken (c :: r)) =
            (words (afterToken (c :: r))).head?.bind nameIn? := by
          rcases afterToken_eq_nil_or (c :: r) with hnil | hblank
          · rw [hnil]
            rfl
          · rw [declaredName?_eq_bind, dropBlanks?, if_pos hblank, Option.bind_some,
              bind_head?_words]
        rw [words_eq_token_cons (List.cons_ne_nil c r) hc, declaredAmong?, hrest, hname]
    next => rfl

theorem typeName?_eq_bind (line : List Char) :
    typeName? line = (dropWord? "public".toList line).bind declared? := by
  rw [typeName?]
  cases dropWord? "public".toList line <;> rfl

/-- A line declares the last name that its tokens after the word `public` declare. -/
theorem typeName?_eq_some_iff {line name : List Char} :
    typeName? line = some name ↔ ∃ s, IsPublic line s ∧ DeclaresLast (words s) name := by
  rw [typeName?_eq_bind, Option.bind_eq_some_iff]
  refine exists_congr fun s => ?_
  rw [dropWord?_eq_some_iff, declared?_eq_declaredAmong?, IsPublic]
  constructor
  · rintro ⟨⟨v, rfl, hv⟩, h⟩
    split at h
    next hs => exact ⟨⟨v, rfl, hv, hs⟩, declaredAmong?_eq_some_iff.1 h⟩
    next => exact absurd h (Option.some_ne_none name).symm
  · rintro ⟨⟨v, rfl, hv, hs⟩, h⟩
    exact ⟨⟨v, rfl, hv⟩, by rw [if_pos hs, declaredAmong?_eq_some_iff.2 h]⟩

/-- A line declares a name if its tokens after the word `public` declare any. -/
theorem isSome_typeName?_iff {line : List Char} : (typeName? line).isSome = true ↔
    ∃ s k name, IsPublic line s ∧ Declares (words s) k name := by
  rw [Option.isSome_iff_exists]
  simp only [typeName?_eq_some_iff]
  constructor
  · rintro ⟨name, s, hs, k, hk, -⟩
    exact ⟨s, k, name, hs, hk⟩
  · rintro ⟨s, k, name, hs, hk⟩
    obtain ⟨name', hname'⟩ := Option.isSome_iff_exists.1 hk.isSome_declaredAmong?
    exact ⟨name', s, hs, declaredAmong?_eq_some_iff.1 hname'⟩

end Source

end Byline

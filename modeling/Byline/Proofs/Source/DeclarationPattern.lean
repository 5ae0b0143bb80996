import Byline.Pattern.Reader
import Byline.Proofs.Pattern.Preference
import Byline.Proofs.Source.Declaration
import Byline.Proofs.Unicode.Folding

/-!
# The pattern of declarations

Declarations can be written as a pattern, which a search takes through a line with backtracking: it
tries an annotation before a keyword, and one more modifier before none. What it captures is what
`typeName?` reads in one pass (`captured?_declaration`).
-/

namespace Byline

/-! ## Sets and forms -/

namespace CharSet

theorem fold_union (s t : CharSet) : fold (s.union t) = (fold s).union (fold t) := by
  funext c
  rw [Bool.eq_iff_iff]
  simp [fold, union, exists_or, and_or_left]

/-- Folding takes in all forms at once. -/
theorem fold_fold (s : CharSet) : fold (fold s) = fold s := by
  funext c
  rw [Bool.eq_iff_iff]
  simp only [fold, List.any_eq_true]
  constructor
  · rintro ⟨d, hd, e, he, h⟩
    exact ⟨e, Unicode.forms_eq_of_mem hd ▸ he, h⟩
  · rintro ⟨e, he, h⟩
    exact ⟨c, Unicode.mem_forms_self c, e, he, h⟩

end CharSet

namespace Source

open Pattern

/-! ## The parts of the pattern -/

/-- The pattern of a declaration up to the name, as it is written. -/
def declarationStart : String :=
  "(?i)^public(?:\\s+(?:@\\S+|abstract|final|strictfp|sealed|non-sealed))*" ++
    "\\s+(?:class|enum|@interface|interface|record)\\s+"

/-- The pattern of the name, as it is written. -/
def declarationName : String := "[\\p\x7bL\x7d_$][\\p\x7bL\x7d\\p\x7bN\x7d_$]*"

/-- A character in either case. -/
def eitherCase (c : Char) : Pattern := .set (Unicode.forms c).contains

/-- A word in either case. -/
def wordPattern (w : List Char) : Pattern := sequence (w.map eitherCase)

/-- One blank or more. -/
def blanksPattern : Pattern := .iter (.set isBlank) 1 none

/-- An at sign and other characters, as many as there are up to a blank. -/
def annotationPattern : Pattern :=
  sequence [eitherCase '@', .iter (.set (CharSet.compl isBlank)) 1 none]

def modifierPattern : Pattern := (modifierWords.map wordPattern).foldl .alt annotationPattern

def typeWordPattern : Pattern :=
  (typeWords.tail.map wordPattern).foldl .alt (wordPattern "class".toList)

/-- Modifiers, with blanks before each. -/
def modifiersPattern : Pattern := .iter (.seq blanksPattern modifierPattern) 0 none

/-- What stands before the name. -/
def startPatterns : List Pattern :=
  .look .textStart :: ("public".toList.map eitherCase ++
    [modifiersPattern, blanksPattern, typeWordPattern, blanksPattern])

/-- A name. -/
def namePattern : Pattern := sequence [.set isNameStart, .iter (.set isNamePart) 0 none]

/-- A class of characters is folded although the classes in it are. -/
theorem fold_nameStart :
    CharSet.fold (CharSet.union (CharSet.union (CharSet.union CharSet.empty
      (CharSet.fold (Unicode.inCategories Unicode.letters))) (.single '_')) (.single '$')) =
      isNameStart := by
  change _ = CharSet.fold
    (CharSet.union (CharSet.union (Unicode.inCategories Unicode.letters) (.single '_')) (.single '$'))
  have hempty (t : CharSet) : CharSet.union CharSet.empty t = t := rfl
  simp only [hempty, CharSet.fold_union, CharSet.fold_fold]

theorem fold_namePart :
    CharSet.fold (CharSet.union (CharSet.union (CharSet.union (CharSet.union CharSet.empty
      (CharSet.fold (Unicode.inCategories Unicode.letters)))
      (CharSet.fold (Unicode.inCategories Unicode.numbers))) (.single '_')) (.single '$')) =
      isNamePart := by
  change _ = CharSet.fold
    (CharSet.union (CharSet.union (CharSet.union (Unicode.inCategories Unicode.letters)
      (Unicode.inCategories Unicode.numbers)) (.single '_')) (.single '$'))
  have hempty (t : CharSet) : CharSet.union CharSet.empty t = t := rfl
  simp only [hempty, CharSet.fold_union, CharSet.fold_fold]

theorem read?_declarationName :
    read? ("(?i)" ++ declarationName).toList = some namePattern := by
  rw [namePattern, ← fold_nameStart, ← fold_namePart]
  rfl

set_option maxRecDepth 100000 in
theorem read?_declaration :
    read? (declarationStart ++ "(?P<name>" ++ declarationName ++ ")").toList =
      some (sequence (startPatterns ++ [namePattern])) := by
  rw [namePattern, ← fold_nameStart, ← fold_namePart]
  rfl

/-! ## Counts of the repetitions -/

theorem proper_foldl_alt {p : Pattern} {ps : List Pattern} (hp : p.Proper)
    (hps : ∀ q ∈ ps, q.Proper) : (ps.foldl .alt p).Proper := by
  induction ps generalizing p with
  | nil => exact hp
  | cons q ps ih =>
    obtain ⟨hq, hps⟩ := List.forall_mem_cons.1 hps
    exact ih ⟨hp, hq⟩ hps

theorem proper_wordPattern (w : List Char) : (wordPattern w).Proper := by
  refine proper_sequence.2 fun p hp => ?_
  obtain ⟨c, -, rfl⟩ := List.mem_map.1 hp
  trivial

theorem proper_map_wordPattern (ws : List (List Char)) :
    ∀ p ∈ ws.map wordPattern, p.Proper := by
  intro p hp
  obtain ⟨w, -, rfl⟩ := List.mem_map.1 hp
  exact proper_wordPattern w

/-- No repetition in the pattern of declarations has bounds. -/
theorem proper_declaration : (sequence (startPatterns ++ [namePattern])).Proper := by
  have hblanks : blanksPattern.Proper := ⟨trivial, nofun⟩
  have hannotation : annotationPattern.Proper := ⟨trivial, trivial, nofun⟩
  have hmodifier : modifierPattern.Proper :=
    proper_foldl_alt hannotation (proper_map_wordPattern modifierWords)
  have htype : typeWordPattern.Proper :=
    proper_foldl_alt (proper_wordPattern _) (proper_map_wordPattern typeWords.tail)
  have hname : namePattern.Proper := ⟨trivial, trivial, nofun⟩
  have hlook : (Pattern.look .textStart).Proper := trivial
  have hpublic : ∀ p ∈ "public".toList.map eitherCase, p.Proper :=
    proper_sequence.1 (proper_wordPattern "public".toList)
  have hmodifiers : modifiersPattern.Proper := ⟨⟨hblanks, hmodifier⟩, nofun⟩
  rw [proper_sequence, startPatterns]
  simp only [List.cons_append, List.forall_mem_cons, List.forall_mem_append, List.not_mem_nil,
    false_implies, implies_true, and_true]
  exact ⟨hlook, ⟨hpublic, hmodifiers, hblanks, htype, hblanks⟩, hname⟩

/-! ## What the parts take -/

section

variable {β : Type} {g : List Char → Option β} {x : Cursor}

/-- After a word comes what follows it. -/
theorem andThen?_wordPattern (w : List Char) :
    (wordPattern w).andThen? (fun y => g y.rest) x = (dropWord? w x.rest).bind g := by
  rw [wordPattern]
  induction w generalizing x with
  | nil => exact andThen?_empty
  | cons k ks ih =>
    rw [List.map_cons, andThen?_sequence_cons, andThen?_congr fun y _ => ih, eitherCase,
      andThen?_set_rest fun s => (dropWord? ks s).bind g]
    cases x.rest with
    | nil => rfl
    | cons c r =>
      rw [List.head?_cons, Option.any_some, List.tail_cons, dropWord?]
      cases (Unicode.forms k).contains c <;> rfl

theorem andThen?_blanksPattern (hg : ∀ c r, isBlank c = true → g (c :: r) = none) :
    blanksPattern.andThen? (fun y => g y.rest) x = (dropBlanks? x.rest).bind g := by
  rw [blanksPattern, andThen?_runs hg, dropBlanks?]
  split
  next => rfl
  next => rfl

/-- A token after the blanks is not empty. -/
theorem andThen?_blanks_token {b : List Char → Bool} (hb : b [] = false) :
    blanksPattern.andThen? (fun y => if b (token y.rest) then g (afterToken y.rest) else none) x =
      (dropBlanks? x.rest).bind fun s => if b (token s) then g (afterToken s) else none := by
  refine andThen?_blanksPattern (g := fun s => if b (token s) then g (afterToken s) else none) ?_
  intro c r hc
  rw [token_cons_of_blank hc, hb, if_neg Bool.false_ne_true]

/-- Nothing comes of a text that does not start with a blank. -/
def AtBlank (g : List Char → Option β) : Prop := ∀ s, s.head?.any isBlank = false → g s = none

/-- A word that a blank follows is a token. -/
theorem dropWord?_bind_eq {w : List Char} (hg : AtBlank g) (hw : w.all (!isBlank ·) = true)
    (s : List Char) :
    (dropWord? w s).bind g = if isWord w (token s) then g (afterToken s) else none := by
  induction w generalizing s with
  | nil =>
    rw [dropWord?, Option.bind_some]
    cases s with
    | nil => rfl
    | cons c s =>
      cases hc : isBlank c with
      | true =>
        rw [token_cons_of_blank hc, afterToken_cons_of_blank hc]
        rfl
      | false =>
        rw [token_cons hc, hg (c :: s) hc]
        rfl
  | cons k ks ih =>
    rw [List.all_cons, Bool.and_eq_true, Bool.not_eq_true'] at hw
    obtain ⟨hk, hks⟩ := hw
    cases s with
    | nil => rfl
    | cons c s =>
      by_cases hform : c ∈ Unicode.forms k
      · have hc : isBlank c = false := Unicode.isBlank_eq_false_of_mem_forms hform hk
        have hcontains : (Unicode.forms k).contains c = true := by simpa using hform
        have hword : isWord (k :: ks) (c :: token s) = isWord ks (token s) := by
          rw [isWord, isWord, dropWord?, if_pos hcontains]
        rw [dropWord?, if_pos hcontains, token_cons hc, afterToken_cons hc, hword]
        exact ih hks s
      · have hcontains : (Unicode.forms k).contains c = false := by simpa using hform
        have hword : isWord (k :: ks) (token (c :: s)) = false := by
          cases hc : isBlank c with
          | true =>
            rw [token_cons_of_blank hc]
            rfl
          | false =>
            rw [token_cons hc, isWord, dropWord?_cons_eq_none hcontains]
            rfl
        rw [dropWord?_cons_eq_none hcontains, hword, if_neg Bool.false_ne_true, Option.bind_none]

theorem ite_or_ite (a b : Bool) (v : Option β) :
    (if a then v else none).or (if b then v else none) = if a || b then v else none := by
  cases a <;> cases b <;> simp

/-- An annotation that a blank follows is a token. -/
theorem andThen?_annotationPattern (hg : AtBlank g) (x : Cursor) :
    annotationPattern.andThen? (fun y => g y.rest) x =
      if (token x.rest).head? == some '@' && 2 ≤ (token x.rest).length then
        g (afterToken x.rest) else none := by
  have hforms : Unicode.forms '@' = ['@'] := by decide +kernel
  have hrun (y : Cursor) : (sequence [.iter (.set (CharSet.compl isBlank)) 1 none]).andThen?
      (fun z => g z.rest) y = if 1 ≤ (token y.rest).length then g (afterToken y.rest) else none := by
    have hnone (c : Char) (r : List Char) (hc : CharSet.compl isBlank c = true) : g (c :: r) = none :=
      hg (c :: r) (by simpa [CharSet.compl] using hc)
    rw [Pattern.sequence, andThen?_runs hnone]
    cases y.rest with
    | nil => rfl
    | cons c r =>
      cases hc : isBlank c with
      | true => simp [CharSet.compl, hc]
      | false =>
        have hdrop : r.dropWhile (CharSet.compl isBlank) = afterToken r := rfl
        simp [CharSet.compl, hc, hdrop]
  rw [annotationPattern, andThen?_sequence_cons, andThen?_congr fun y _ => hrun y, eitherCase, hforms,
    andThen?_set_rest fun s => if 1 ≤ (token s).length then g (afterToken s) else none]
  cases x.rest with
  | nil => rfl
  | cons c r =>
    by_cases hc : c = '@'
    · subst hc
      have hat : isBlank '@' = false := rfl
      rw [List.tail_cons, token_cons hat, afterToken_cons hat]
      by_cases hr : 1 ≤ (token r).length <;> simp [hr]
    · cases hb : isBlank c with
      | true => simp [hb, hc]
      | false => simp [hb, hc]

/-- A token that may be a word is tried as each in turn. -/
theorem findSome?_wordPattern (hg : AtBlank g) {ws : List (List Char)}
    (hws : ws.all (List.all · (!isBlank ·)) = true) (x : Cursor) :
    (ws.map wordPattern).findSome? (fun p => p.andThen? (fun y => g y.rest) x) =
      if ws.any (isWord · (token x.rest)) then g (afterToken x.rest) else none := by
  induction ws with
  | nil => rfl
  | cons w ws ih =>
    rw [List.all_cons, Bool.and_eq_true] at hws
    obtain ⟨hw, hws⟩ := hws
    rw [List.map_cons, List.findSome?_cons, ih hws, andThen?_wordPattern, dropWord?_bind_eq hg hw,
      List.any_cons]
    cases isWord w (token x.rest) <;> cases g (afterToken x.rest) <;> simp

theorem andThen?_modifierPattern (hg : AtBlank g) (x : Cursor) :
    modifierPattern.andThen? (fun y => g y.rest) x =
      if isModifier (token x.rest) then g (afterToken x.rest) else none := by
  have hws : modifierWords.all (List.all · (!isBlank ·)) = true := by decide
  rw [modifierPattern, andThen?_foldl_alt, andThen?_annotationPattern hg, findSome?_wordPattern hg hws,
    isModifier, ite_or_ite]

theorem andThen?_typeWordPattern (hg : AtBlank g) (x : Cursor) :
    typeWordPattern.andThen? (fun y => g y.rest) x =
      if isTypeWord (token x.rest) then g (afterToken x.rest) else none := by
  have hws : typeWords.all (List.all · (!isBlank ·)) = true := by decide
  rw [typeWordPattern, andThen?_foldl_alt, isTypeWord, ← findSome?_wordPattern hg hws x]
  change _ = List.findSome? _ (wordPattern "class".toList :: typeWords.tail.map wordPattern)
  rw [List.findSome?_cons]
  cases (wordPattern "class".toList).andThen? (fun y => g y.rest) x <;> rfl

end

/-! ## What the whole pattern takes -/

theorem atBlank_bind_dropBlanks? {β : Type} (f : List Char → Option β) :
    AtBlank fun s => (dropBlanks? s).bind f := by
  intro s hs
  change (dropBlanks? s).bind f = none
  rw [dropBlanks?, hs]
  rfl

theorem andThen?_blanks_name (x : Cursor) :
    (sequence [blanksPattern]).andThen? (fun y => nameIn? y.rest) x = declaredName? x.rest := by
  rw [Pattern.sequence, andThen?_blanksPattern fun c r hc => nameIn?_cons_of_blank hc r,
    declaredName?_eq_bind]

/-- The keyword of a type and a name, with blanks before each. -/
theorem andThen?_typeWord_name (x : Cursor) :
    (sequence [blanksPattern, typeWordPattern, blanksPattern]).andThen?
      (fun y => nameIn? y.rest) x = (dropBlanks? x.rest).bind fun u =>
        if isTypeWord (token u) then declaredName? (afterToken u) else none := by
  have hname : AtBlank declaredName? := by
    intro s hs
    rw [declaredName?_eq_bind]
    exact atBlank_bind_dropBlanks? nameIn? s hs
  have hword (y : Cursor) : (sequence [typeWordPattern, blanksPattern]).andThen?
      (fun z => nameIn? z.rest) y =
        if isTypeWord (token y.rest) then declaredName? (afterToken y.rest) else none := by
    rw [andThen?_sequence_cons, andThen?_congr fun z _ => andThen?_blanks_name z,
      andThen?_typeWordPattern hname]
  rw [andThen?_sequence_cons, andThen?_congr fun y _ => hword y]
  exact andThen?_blanks_token rfl

theorem atBlank_declared? : AtBlank declared? := by
  intro s hs
  rw [declared?_eq]
  exact atBlank_bind_dropBlanks? _ s hs

/-- Another modifier is tried before the keyword of a type. -/
theorem andThen?_modifiersPattern (x : Cursor) :
    modifiersPattern.andThen? ((sequence [blanksPattern, typeWordPattern, blanksPattern]).andThen?
      fun y => nameIn? y.rest) x = declared? x.rest := by
  have hmoves : Moves (.seq blanksPattern modifierPattern) :=
    ((moves_set isBlank).iter 0 none).seq modifierPattern
  induction hn : x.left using Nat.strong_induction_on generalizing x with
  | _ n ih =>
    have hmodifier (y : Cursor) : modifierPattern.andThen? (fun z => declared? z.rest) y =
        if isModifier (token y.rest) then declared? (afterToken y.rest) else none :=
      andThen?_modifierPattern atBlank_declared? y
    have hround : (Pattern.seq blanksPattern modifierPattern).andThen? (fun y => declared? y.rest) x =
        (dropBlanks? x.rest).bind fun u =>
          if isModifier (token u) then declared? (afterToken u) else none := by
      rw [andThen?_seq, andThen?_congr fun y _ => hmodifier y]
      exact andThen?_blanks_token rfl
    rw [modifiersPattern, andThen?_star hmoves, ← modifiersPattern,
      andThen?_congr fun y hy => ih y.left (hn ▸ hmoves x y hy) y rfl, hround,
      andThen?_typeWord_name, declared?_eq]
    cases dropBlanks? x.rest <;> rfl

/-- A name is taken to its end. -/
theorem andThen?_namePattern (y : Cursor) :
    namePattern.andThen? (fun z => some (y.rest.take (y.left - z.left))) y = nameIn? y.rest := by
  have htake : (fun z : Cursor => some (y.rest.take (y.left - z.left))) =
      fun z => some (y.rest.take (y.left - z.rest.length)) := by
    funext z
    rw [z.left_eq]
  have hrun (z : Cursor) : (sequence [.iter (.set isNamePart) 0 none]).andThen?
      (fun z => some (y.rest.take (y.left - z.rest.length))) z =
        some (y.rest.take (y.left - (z.rest.dropWhile isNamePart).length)) :=
    andThen?_run (f := fun r => some (y.rest.take (y.left - r.length))) (fun _ _ _ _ => rfl) z
  rw [namePattern, htake, andThen?_sequence_cons, andThen?_congr fun z _ => hrun z, y.left_eq,
    andThen?_set_rest
      fun s => some (y.rest.take (y.rest.length - (s.dropWhile isNamePart).length))]
  cases y.rest with
  | nil => rfl
  | cons c r =>
    rw [nameIn?, List.head?_cons, Option.any_some, List.tail_cons]
    cases hc : isNameStart c with
    | false => rfl
    | true =>
      have hlen : (c :: r).length - (r.dropWhile isNamePart).length =
          (r.takeWhile isNamePart).length + 1 := by
        have := congrArg List.length (List.takeWhile_append_dropWhile (p := isNamePart) (l := r))
        rw [List.length_append] at this
        rw [List.length_cons]
        omega
      rw [if_pos rfl, if_pos rfl, hlen, List.take_succ_cons, List.takeWhile_cons_of_pos (isNamePart_of_isNameStart hc),
        ← List.prefix_iff_eq_take.1 (List.takeWhile_prefix isNamePart)]

/-- What a search with backtracking captures is the name that is read. -/
theorem captured?_declaration (line : List Char) :
    captured? (sequence startPatterns) namePattern line = typeName? line := by
  rw [startPatterns, captured?_textStart, andThen?_congr fun y _ => andThen?_namePattern y,
    andThen?_sequence_append, typeName?_eq_bind]
  have hrest (y : Cursor) : (sequence [modifiersPattern, blanksPattern, typeWordPattern,
      blanksPattern]).andThen? (fun z => nameIn? z.rest) y = declared? y.rest := by
    rw [andThen?_sequence_cons, andThen?_modifiersPattern]
  rw [andThen?_congr fun y _ => hrest y]
  exact andThen?_wordPattern "public".toList

/-- The pattern is found in the lines that declare a type. -/
theorem found_declaration (line : List Char) :
    found (sequence (startPatterns ++ [namePattern])) line = (typeName? line).isSome := by
  rw [Bool.eq_iff_iff, found_eq_true_iff proper_declaration, ← captured?_declaration,
    isSome_captured?, Matches, Matches]
  simp only [reaches_sequence_append, reaches_seq]
  rfl

/-! ## Main statement -/

/-- The written pattern is found in exactly those lines that start with the word `public` and go on
with the tokens of a declaration, and what its group captures is the name after the most modifiers:
the name that is read. -/
theorem declaration_matches_and_captures :
    read? (declarationStart ++ "(?P<name>" ++ declarationName ++ ")").toList =
        some (sequence (startPatterns ++ [namePattern])) ∧
      read? ("(?i)" ++ declarationName).toList = some namePattern ∧
      ∀ line : List Char,
        (found (sequence (startPatterns ++ [namePattern])) line = true ↔
          ∃ s k name, IsPublic line s ∧ Declares (words s) k name) ∧
        (∀ name, captured? (sequence startPatterns) namePattern line = some name ↔
          ∃ s, IsPublic line s ∧ DeclaresLast (words s) name) ∧
        captured? (sequence startPatterns) namePattern line = typeName? line := by
  refine ⟨read?_declaration, read?_declarationName, fun line => ⟨?_, ?_, captured?_declaration line⟩⟩
  · rw [found_declaration, isSome_typeName?_iff]
  · intro name
    rw [captured?_declaration, typeName?_eq_some_iff]

end Source

end Byline

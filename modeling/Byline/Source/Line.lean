import Byline.Text.Blank
import Byline.Unicode.Category
import Byline.Unicode.Folding

/-!
# Lines of a source file

The lines of a Java source file that say who wrote which type: the package statement, author tags,
annotations and the declaration of a public type. Each is told by the start of its line alone.
Words of the language count in either case.

* `packageName?` reads a package statement.
* `authorText?` reads an author tag up to a remark, and `taggedName?` the name in it.
* `isAnnotation` tells an annotation.
* `typeName?` reads the name of the type that the line declares.
-/

namespace Byline.Source

/-- The text after a word in either case, if it starts with the word. -/
def dropWord? : List Char → List Char → Option (List Char)
  | [], s => some s
  | _ :: _, [] => none
  | k :: ks, c :: s => if (Unicode.forms k).contains c then dropWord? ks s else none

/-- Is the text the word in either case? -/
def isWord (word s : List Char) : Bool := dropWord? word s == some []

/-- The text after the blanks it starts with, of which there is one at least. -/
def dropBlanks? (s : List Char) : Option (List Char) :=
  if s.head?.any isBlank then some (s.dropWhile isBlank) else none

/-- The text up to the first blank. -/
def token (s : List Char) : List Char := s.takeWhile (!isBlank ·)

/-- The text from the first blank on. -/
def afterToken (s : List Char) : List Char := s.dropWhile (!isBlank ·)

/-! ## Package statements -/

/-- A character of the name of a package, as far as the line tells. -/
def isPackageChar (c : Char) : Bool := !isBlank c && c != ';'

/-- The name in a package statement: the word, blanks, the name, and a semicolon that blanks may
come before. -/
def packageName? (line : List Char) : Option (List Char) := do
  let s ← dropWord? "package".toList line
  let s ← dropBlanks? s
  let name := s.takeWhile isPackageChar
  let rest := (s.dropWhile isPackageChar).dropWhile isBlank
  if !name.isEmpty && rest.head? == some ';' then return name else none

/-! ## Author tags -/

/-- The start of an author tag. -/
def tagStart : List Char := " * @author ".toList

/-- Is the text a remark: blanks, two slashes, and no line end after them? -/
def isRemark (s : List Char) : Bool :=
  match dropBlanks? s with
  | some ('/' :: '/' :: r) => !r.contains '\n'
  | _ => false

/-- The text before a remark, or the whole text. It holds no line end. -/
def beforeRemark? : List Char → Option (List Char)
  | [] => some []
  | c :: s =>
    if isRemark (c :: s) then some []
    else if c = '\n' then none
    else (beforeRemark? s).map (c :: ·)

/-- The text of an author tag without its remark. -/
def authorText? (line : List Char) : Option (List Char) :=
  if tagStart.isPrefixOf line then beforeRemark? (line.drop tagStart.length) else none

/-- Is the line an author tag, with or without a name? -/
def isAuthorLine (line : List Char) : Bool := (authorText? line).isSome

/-- The name in an author tag, if there is one. -/
def taggedName? (line : List Char) : Option (List Char) :=
  match authorText? line with
  | none => none
  | some s => if (trim s).isEmpty then none else some (trim s)

/-! ## Annotations -/

/-- Is the line an annotation: an at sign with a character after it that is not blank? -/
def isAnnotation : List Char → Bool
  | '@' :: c :: _ => !isBlank c
  | _ => false

/-! ## Type declarations -/

/-- A character that a name may start with, as far as the line tells: a form of a letter, an
underscore or a dollar sign. -/
def isNameStart (c : Char) : Bool :=
  (Unicode.forms c).any fun d => Unicode.isLetter d || d == '_' || d == '$'

/-- A character that a name may go on with. -/
def isNamePart (c : Char) : Bool :=
  (Unicode.forms c).any fun d => Unicode.isLetter d || Unicode.isNumber d || d == '_' || d == '$'

/-- The words that may stand before the keyword of a type. -/
def modifierWords : List (List Char) :=
  ["abstract".toList, "final".toList, "strictfp".toList, "sealed".toList, "non-sealed".toList]

/-- The keywords of types. -/
def typeWords : List (List Char) :=
  ["class".toList, "enum".toList, "@interface".toList, "interface".toList, "record".toList]

/-- May the token stand before the keyword of a type? An annotation may, and so may the words. -/
def isModifier (t : List Char) : Bool :=
  (t.head? == some '@' && 2 ≤ t.length) || modifierWords.any (isWord · t)

/-- Is the token the keyword of a type? -/
def isTypeWord (t : List Char) : Bool := typeWords.any (isWord · t)

/-- The name after the keyword of a type: blanks, and then as many characters of a name as there
are. -/
def declaredName? (s : List Char) : Option (List Char) := do
  let s ← dropBlanks? s
  match s with
  | [] => none
  | c :: r => if isNameStart c then return c :: r.takeWhile isNamePart else none

/-- Blanks are dropped and nothing else is added. -/
theorem length_of_dropBlanks? {s t : List Char} (h : dropBlanks? s = some t) :
    t.length ≤ s.length := by
  unfold dropBlanks? at h
  split at h
  · rw [← Option.some.inj h]
    exact (List.dropWhile_sublist _).length_le
  · simp at h

/-- A text that has a token is longer than what follows the token. -/
theorem length_afterToken {s : List Char} (h : token s ≠ []) :
    (afterToken s).length < s.length := by
  have e : token s ++ afterToken s = s := List.takeWhile_append_dropWhile
  have e' := congrArg List.length e
  have p := List.length_pos_iff.2 h
  rw [List.length_append] at e'
  omega

/-- A modifier is not empty. -/
theorem ne_nil_of_isModifier {t : List Char} (h : isModifier t = true) : t ≠ [] := by
  rintro rfl
  revert h
  decide

/-- The name of the type that is declared after the word `public` or a modifier: blanks and either
a modifier, with a declaration after it, or else the keyword of a type and a name. A token that is
a modifier and a keyword is a keyword only if no declaration follows it. -/
def declared? (s : List Char) : Option (List Char) :=
  match _h : dropBlanks? s with
  | none => none
  | some t =>
    let viaModifier := if _m : isModifier (token t) then declared? (afterToken t) else none
    match viaModifier with
    | some name => some name
    | none => if isTypeWord (token t) then declaredName? (afterToken t) else none
termination_by s.length
decreasing_by
  have h1 := length_of_dropBlanks? _h
  have h2 := length_afterToken (ne_nil_of_isModifier _m)
  omega

/-- The name of the public type that the line declares. -/
def typeName? (line : List Char) : Option (List Char) :=
  match dropWord? "public".toList line with
  | none => none
  | some s => declared? s

end Byline.Source

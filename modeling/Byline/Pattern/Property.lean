import Byline.Unicode.Age
import Byline.Unicode.CaseChange
import Byline.Unicode.Segment.Cluster
import Byline.Unicode.Segment.Sentence
import Byline.Unicode.SharedScript
import Byline.Pattern.Basic

/-!
# Classes with a name

The sets that a pattern names: the properties of characters, by the names of their general
category, their script or a property with two values, and the classes of ASCII.
-/

namespace Byline.Pattern

open Unicode

/-- A name without case, blanks, hyphens and underscores, without a leading `is`, and without the
characters that are not ASCII. -/
def normalizeName (name : List Char) : List Char :=
  let body : List Char := match name with
    | a :: b :: s => if a.toLower = 'i' ∧ b.toLower = 's' then s else name
    | _ => name
  let kept : List Char := (body.filter fun c => c.toNat < 0x80 && c != ' ' && c != '_' && c != '-').map
    Char.toLower
  if body.length < name.length ∧ kept = ['c'] then ['i', 's', 'c'] else kept

/-- The general categories that share a name, each group with its names. -/
def categoryGroups : List (List String × List Category) :=
  [(["l", "letter"], letters), (["m", "mark", "combiningmark"], marks), (["n", "number"], numbers),
    (["p", "punctuation", "punct"], punctuation), (["s", "symbol"], symbols),
    (["z", "separator"], separators),
    (["lc", "casedletter"], [.uppercaseLetter, .lowercaseLetter, .titlecaseLetter])]

/-- The characters of the general category, or the group of them, of that name. -/
def categorySet? (name : String) : Option CharSet :=
  if name = "any" then some fun _ => true
  else if name = "assigned" then some isAssigned
  else if name = "ascii" then some fun c => c.toNat < 0x80
  else if name = "c" ∨ name = "other" then
    some fun c => !isAssigned c || inCategories [.control, .format, .privateUse] c
  else if name = "cn" ∨ name = "unassigned" then some fun c => !isAssigned c
  else match categoryGroups.find? (·.1.contains name) with
    | some (_, ks) => some (inCategories ks)
    | none => (Category.names.lookup name).map inCategory

/-- The characters of the script of that name. -/
def scriptSet? (name : String) : Option CharSet :=
  (script? name).map fun s => fun c => s.ranges.contains c.toNat

/-- The characters used in the script of that name. -/
def usedInSet? (name : String) : Option CharSet :=
  (script? name).map fun s => fun c => usedIn s c.toNat

/-- The property with two values of that name. -/
def truthSet? (name : String) : Option CharSet :=
  match caseChanges.find? (·.1.contains name) with
  | some (_, p) => some p
  | none => binaryProperty? name

/-- The names that stand for a general category although they abbreviate another property. -/
def categoryNames : List String := ["cf", "sc", "lc"]

/-- The characters with the property of that name: a property with two values, a general category
or a script. -/
def namedSet? (name : List Char) : Option CharSet :=
  let n := String.ofList (normalizeName name)
  let property := if categoryNames.contains n then none else truthSet? n
  match property with
  | some p => some p
  | none =>
    match categorySet? n with
    | some s => some s
    | none => scriptSet? n

/-- The characters that the version of that name has. -/
def ageSet? (name : String) : Option CharSet :=
  (presentIn? name).map fun p => fun c => p c.toNat

/-- The entry of a table of sets that has the name among its names. -/
def entry? (table : List (List String × CharSet)) (name : String) : Option CharSet :=
  (table.find? (·.1.contains name)).map (·.2)

/-- The properties with more than two values: their names, and the sets of their values by name. -/
def valuedProperties : List (List String × (String → Option CharSet)) :=
  [(["gc", "generalcategory"], categorySet?), (["sc", "script"], scriptSet?),
    (["scx", "scriptextensions"], usedInSet?), (["age"], ageSet?),
    (["gcb", "graphemeclusterbreak"], entry? Cluster.roles),
    (["wb", "wordbreak"], entry? Word.roles), (["sb", "sentencebreak"], entry? Sentence.roles)]

/-- The characters whose property of the first name has the second as value. -/
def valueSet? (property value : List Char) : Option CharSet :=
  match valuedProperties.find? (·.1.contains (String.ofList (normalizeName property))) with
  | none => none
  | some (_, values) => values (String.ofList (normalizeName value))

/-- The text before and after the first place where `p` holds of the next two characters. -/
def cutAt (p : Char → Option Char → Bool) : List Char → Option (List Char × List Char)
  | [] => none
  | c :: s =>
    if p c s.head? then some ([], c :: s)
    else (cutAt p s).map fun (a, b) => (c :: a, b)

/-- The set that the text between braces names, and whether its complement is meant: a name alone,
or a property and its value with a colon, an equals sign or the sign for unequal between them, where
the last asks for the complement. -/
def classBody? (s : List Char) : Option (CharSet × Bool) :=
  match cutAt (fun a b => a == '!' && b == some '=') s with
  | some (p, v) => (valueSet? p (v.drop 2)).map (·, true)
  | none =>
    match cutAt (fun a _ => a == ':') s with
    | some (p, v) => (valueSet? p (v.drop 1)).map (·, false)
    | none =>
      match cutAt (fun a _ => a == '=') s with
      | some (p, v) => (valueSet? p (v.drop 1)).map (·, false)
      | none => (namedSet? s).map (·, false)

/-- The ranges of the ASCII class of that name. -/
def asciiClass? : String → Option CharSet
  | "alnum" => some Char.isAlphanum
  | "alpha" => some Char.isAlpha
  | "ascii" => some fun c => c.toNat < 0x80
  | "blank" => some fun c => c == '\t' || c == ' '
  | "cntrl" => some fun c => c.toNat < 0x20 || c.toNat == 0x7F
  | "digit" => some Char.isDigit
  | "graph" => some (.range '!' '~')
  | "lower" => some Char.isLower
  | "print" => some (.range ' ' '~')
  | "punct" => some fun c => '!' ≤ c && c ≤ '~' && !c.isAlphanum
  | "space" => some fun c => c == ' ' || (0x09 ≤ c.toNat && c.toNat ≤ 0x0D)
  | "upper" => some Char.isUpper
  | "word" => some CharSet.asciiWord
  | "xdigit" => some fun c => c.isDigit || ('a' ≤ c && c ≤ 'f') || ('A' ≤ c && c ≤ 'F')
  | _ => none

/-- The classes with a letter: digits, blanks and the characters of words. -/
def letterClass? (unicode : Bool) : Char → Option CharSet
  | 'd' => some (if unicode then isDecimal else Char.isDigit)
  | 's' => some (if unicode then isBlank else fun c => c == ' ' || (0x09 ≤ c.toNat && c.toNat ≤ 0x0D))
  | 'w' => some (if unicode then isWordChar else CharSet.asciiWord)
  | _ => none

end Byline.Pattern

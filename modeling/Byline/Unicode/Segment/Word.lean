import Byline.Unicode.Property
import Byline.Unicode.Script

/-!
# Words

The part that a character plays where a text is cut into words. `Word.roles` lists the parts with
their names.
-/

namespace Byline.Unicode.Word

/-- Letters of the scripts that put no blanks between words. -/
def unspacedLetters : Ranges := .ofBounds
    [0xE01, 0xE30, 0xE32, 0xE33, 0xE40, 0xE46, 0xE81, 0xE82, 0xE84, 0xE84, 0xE86, 0xE8A, 0xE8C,
    0xEA3, 0xEA5, 0xEA5, 0xEA7, 0xEB0, 0xEB2, 0xEB3, 0xEBD, 0xEBD, 0xEC0, 0xEC4, 0xEC6, 0xEC6,
    0xEDC, 0xEDF, 0x1000, 0x102A, 0x103F, 0x103F, 0x1050, 0x1055, 0x105A, 0x105D, 0x1061, 0x1061,
    0x1065, 0x1066, 0x106E, 0x1070, 0x1075, 0x1081, 0x108E, 0x108E, 0x1780, 0x17B3, 0x17D7, 0x17D7,
    0x17DC, 0x17DC, 0x1950, 0x196D, 0x1970, 0x1974, 0x1980, 0x19AB, 0x19B0, 0x19C9, 0x1A20, 0x1A54,
    0x1AA7, 0x1AA7, 0xA9E0, 0xA9E4, 0xA9E6, 0xA9EF, 0xA9FA, 0xA9FE, 0xAA60, 0xAA76, 0xAA7A, 0xAA7A,
    0xAA7E, 0xAAAF, 0xAAB1, 0xAAB1, 0xAAB5, 0xAAB6, 0xAAB9, 0xAABD, 0xAAC0, 0xAAC0, 0xAAC2, 0xAAC2,
    0xAADB, 0xAADD, 0x11700, 0x1171A, 0x11740, 0x11746]

/-- Characters that are not alphabetic and count as letters. -/
def otherLetters : Ranges := .ofBounds
    [0x2C2, 0x2C5, 0x2D2, 0x2D7, 0x2DE, 0x2DF, 0x2E5, 0x2EB, 0x2ED, 0x2ED, 0x2EF, 0x2FF, 0x55A,
    0x55C, 0x55E, 0x55E, 0x58A, 0x58A, 0x5F3, 0x5F3, 0x70F, 0x70F, 0xA708, 0xA716, 0xA720, 0xA721,
    0xA789, 0xA78A, 0xAB5B, 0xAB5B]

/-- Characters beyond its script that count as Katakana. -/
def otherKatakana : Ranges := .ofBounds
    [0x3031, 0x3035, 0x309B, 0x309C, 0x30A0, 0x30A0, 0x30FC, 0x30FC, 0xFF70, 0xFF70]

/-- Characters that do not end a word between letters. -/
def midLetter : Ranges := .ofBounds
    [0x3A, 0x3A, 0xB7, 0xB7, 0x387, 0x387, 0x55F, 0x55F, 0x5F4, 0x5F4, 0x2027, 0x2027, 0xFE13,
    0xFE13, 0xFE55, 0xFE55, 0xFF1A, 0xFF1A]

/-- Characters that do not end a word between digits. -/
def midNumber : Ranges := .ofBounds
    [0x2C, 0x2C, 0x3B, 0x3B, 0x37E, 0x37E, 0x589, 0x589, 0x60C, 0x60D, 0x66C, 0x66C, 0x7F8, 0x7F8,
    0x2044, 0x2044, 0xFE50, 0xFE50, 0xFE54, 0xFE54, 0xFF0C, 0xFF0C, 0xFF1B, 0xFF1B]

/-- Characters that do not end a word between letters or between digits. -/
def midBoth : Ranges := .ofBounds
    [0x2E, 0x2E, 0x2018, 0x2019, 0x2024, 0x2024, 0xFE52, 0xFE52, 0xFF07, 0xFF07, 0xFF0E, 0xFF0E]

/-- Characters that are no decimal digits and count as such. -/
def otherNumeric : Ranges := .ofBounds
    [0x600, 0x605, 0x66B, 0x66B, 0x6DD, 0x6DD, 0x890, 0x891, 0x8E2, 0x8E2, 0x19DA, 0x19DA,
    0x110BD, 0x110BD, 0x110CD, 0x110CD]

/-- Has the character that script? -/
def hasScript (name : String) (c : Char) : Bool := (script? name).any (·.ranges.contains c.toNat)

/-- Does the character extend a word? -/
def isExtender (c : Char) : Bool :=
  extendsGrapheme c || inCategory .spacingMark c || emojiModifier.contains c.toNat

/-- Is the character Katakana? -/
def isKatakana (c : Char) : Bool := hasScript "katakana" c || otherKatakana.contains c.toNat

/-- Is the character a Hebrew letter? -/
def isHebrew (c : Char) : Bool := inCategory .otherLetter c && hasScript "hebrew" c

/-- Is the character a letter of the scripts that put blanks between words? -/
def isLetter (c : Char) : Bool :=
  (isAlphabetic c || otherLetters.contains c.toNat) && !ideographic.contains c.toNat &&
    !isKatakana c && !hasScript "hiragana" c && !isExtender c && !isHebrew c &&
    !unspacedLetters.contains c.toNat

/-- Is the character a decimal digit, or does it count as one? -/
def isNumeric (c : Char) : Bool := isDecimal c || otherNumeric.contains c.toNat

/-- Is the character a format, which is passed over? -/
def isFormat (c : Char) : Bool :=
  inCategory .format c && !isExtender c && !prependedMark.contains c.toNat && c.toNat != 0x200B &&
    c.toNat != 0x200D

/-- Is the character a blank at which a line may be broken? -/
def isBlank (c : Char) : Bool :=
  inCategory .spaceSeparator c && c.toNat != 0xA0 && c.toNat != 0x2007 && c.toNat != 0x202F

/-- The parts, each with its names. -/
def roles : List (List String × (Char → Bool)) :=
  [(["cr"], (· == '\r')), (["lf"], (· == '\n')),
    (["newline", "nl"], [0x0B, 0x0C, 0x85, 0x2028, 0x2029].contains ∘ Char.toNat),
    (["zwj"], fun c => c.toNat == 0x200D), (["extend"], isExtender),
    (["regionalindicator", "ri"], fun c => regionalIndicator.contains c.toNat),
    (["format", "fo"], isFormat), (["katakana", "ka"], isKatakana),
    (["hebrewletter", "hl"], isHebrew), (["aletter", "le"], isLetter),
    (["singlequote", "sq"], (· == '\'')), (["doublequote", "dq"], (· == '"')),
    (["midnumlet", "mb"], fun c => midBoth.contains c.toNat),
    (["midletter", "ml"], fun c => midLetter.contains c.toNat),
    (["midnum", "mn"], fun c => midNumber.contains c.toNat), (["numeric", "nu"], isNumeric),
    (["extendnumlet", "ex"], fun c => inCategory .connectorPunctuation c || c.toNat == 0x202F),
    (["wsegspace"], isBlank)]

end Byline.Unicode.Word

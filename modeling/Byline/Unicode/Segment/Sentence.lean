import Byline.Unicode.Segment.Word

/-!
# Sentences

The part that a character plays where a text is cut into sentences. `Sentence.roles` lists the parts
with their names.
-/

namespace Byline.Unicode.Sentence

/-- Full stops, which end a sentence but not always. -/
def fullStop : Ranges := .ofBounds
    [0x2E, 0x2E, 0x2024, 0x2024, 0xFE52, 0xFE52, 0xFF0E, 0xFF0E]

/-- Characters that continue a sentence. -/
def continuing : Ranges := .ofBounds
    [0x2C, 0x2D, 0x3A, 0x3B, 0x37E, 0x37E, 0x55D, 0x55D, 0x60C, 0x60D, 0x7F8, 0x7F8, 0x1802, 0x1802,
    0x1808, 0x1808, 0x2013, 0x2014, 0x3001, 0x3001, 0xFE10, 0xFE11, 0xFE13, 0xFE14, 0xFE31, 0xFE32,
    0xFE50, 0xFE51, 0xFE54, 0xFE55, 0xFE58, 0xFE58, 0xFE63, 0xFE63, 0xFF0C, 0xFF0D, 0xFF1A, 0xFF1B,
    0xFF64, 0xFF64]

/-- Quotation marks beyond those of the categories of brackets and quotation marks. -/
def otherQuotation : Ranges := .ofBounds
    [0x22, 0x22, 0x27, 0x27, 0x275B, 0x2760, 0x2E00, 0x2E01, 0x2E06, 0x2E08, 0x2E0B, 0x2E0B,
    0x1F676, 0x1F678]

/-- The lowercase letters of Georgian, which has no upper case in running text. -/
def georgian : Ranges := .ofBounds
    [0x10D0, 0x10FA, 0x10FD, 0x10FF]

/-- Does the character extend the one before it? -/
def isExtender (c : Char) : Bool :=
  extendsGrapheme c || inCategory .spacingMark c || c.toNat == 0x200D

/-- Is the character the end of a paragraph? -/
def isSeparator (c : Char) : Bool := c.toNat == 0x85 || c.toNat == 0x2028 || c.toNat == 0x2029

/-- Is the character a decimal digit, or does it count as one? -/
def isNumeric (c : Char) : Bool := Word.isNumeric c || c.toNat == 0x66C

/-- Is the character a format, which is passed over? -/
def isFormat (c : Char) : Bool :=
  inCategory .format c && !isExtender c && !isNumeric c

/-- Is the character lower case? The letters of Georgian do not count. -/
def isLower (c : Char) : Bool :=
  isLowercase c && !extendsGrapheme c && !georgian.contains c.toNat

/-- Is the character upper case or title case, Georgian apart? -/
def isUpper (c : Char) : Bool :=
  (isUppercase c || inCategory .titlecaseLetter c) && !(0x1C90 ≤ c.toNat && c.toNat ≤ 0x1CBF)

/-- Is the character another letter? -/
def isOtherLetter (c : Char) : Bool :=
  (isAlphabetic c || c.toNat == 0x5F3) && !isLower c && !isUpper c && !isExtender c

/-- Does the character end a sentence? -/
def isTerminal (c : Char) : Bool :=
  sentenceTerminal.contains c.toNat && !fullStop.contains c.toNat

/-- Is the character a bracket or a quotation mark? -/
def isClosing (c : Char) : Bool :=
  inCategories [.openPunctuation, .closePunctuation, .initialPunctuation, .finalPunctuation] c ||
    otherQuotation.contains c.toNat

/-- The parts, each with its names. -/
def roles : List (List String × (Char → Bool)) :=
  [(["cr"], (· == '\r')), (["lf"], (· == '\n')), (["extend", "ex"], isExtender),
    (["sep", "se"], isSeparator), (["format", "fo"], isFormat),
    (["sp"], fun c => Byline.isBlank c && !isSeparator c && c != '\r' && c != '\n'),
    (["lower", "lo"], isLower), (["upper", "up"], isUpper), (["oletter", "le"], isOtherLetter),
    (["numeric", "nu"], isNumeric), (["aterm", "at"], fun c => fullStop.contains c.toNat),
    (["scontinue", "sc"], fun c => continuing.contains c.toNat), (["sterm", "st"], isTerminal),
    (["close", "cl"], isClosing)]

end Byline.Unicode.Sentence

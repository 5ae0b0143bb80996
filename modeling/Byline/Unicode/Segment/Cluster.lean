import Byline.Unicode.Property

/-!
# Clusters of characters

The part that a character plays where a text is cut into clusters, the units that a reader takes for
one character. `Cluster.roles` lists the parts with their names.
-/

namespace Byline.Unicode.Cluster

/-- Letters that belong to the cluster after them. -/
def leadingLetters : Ranges := .ofBounds
    [0xD4E, 0xD4E, 0x111C2, 0x111C3, 0x113D1, 0x113D1, 0x1193F, 0x1193F, 0x11941, 0x11941, 0x11A3A,
    0x11A3A, 0x11A84, 0x11A89, 0x11D46, 0x11D46, 0x11F02, 0x11F02]

/-- Spacing marks that do not belong to the cluster before them. -/
def separateMarks : Ranges := .ofBounds
    [0x102B, 0x102C, 0x1038, 0x1038, 0x1062, 0x1064, 0x1067, 0x106D, 0x1083, 0x1083, 0x1087, 0x108C,
    0x108F, 0x108F, 0x109A, 0x109C, 0x1A61, 0x1A61, 0x1A63, 0x1A64, 0xAA7B, 0xAA7B, 0xAA7D, 0xAA7D,
    0x11720, 0x11721]

/-- Consonants that start a Hangul syllable. -/
def leadingConsonants : Ranges := .ofBounds
    [0x1100, 0x115F, 0xA960, 0xA97C]

/-- Vowels of a Hangul syllable, and those that are joined like them. -/
def syllableVowels : Ranges := .ofBounds
    [0x1160, 0x11A7, 0xD7B0, 0xD7C6, 0x16D63, 0x16D63, 0x16D67, 0x16D6A]

/-- Consonants that end a Hangul syllable. -/
def trailingConsonants : Ranges := .ofBounds
    [0x11A8, 0x11FF, 0xD7CB, 0xD7FB]

/-- Is the character a whole Hangul syllable? -/
def isSyllable (c : Char) : Bool := 0xAC00 ≤ c.toNat && c.toNat ≤ 0xD7A3

/-- Is it a Hangul syllable without a consonant at its end? Every 28th is. -/
def isOpenSyllable (c : Char) : Bool := isSyllable c && (c.toNat - 0xAC00) % 28 == 0

/-- Does the character extend a cluster? -/
def isExtender (c : Char) : Bool := extendsGrapheme c || emojiModifier.contains c.toNat

/-- Does the character belong to the cluster after it? -/
def isPrepended (c : Char) : Bool :=
  prependedMark.contains c.toNat || leadingLetters.contains c.toNat

/-- Is the character a spacing mark of the cluster before it? Two vowels are taken for such. -/
def isSpacingMark (c : Char) : Bool :=
  (inCategory .spacingMark c && !separateMarks.contains c.toNat || c.toNat == 0xE33 ||
    c.toNat == 0xEB3) && !isExtender c

/-- Is the character a control, which is a cluster of its own? -/
def isControl (c : Char) : Bool :=
  (inCategories [.lineSeparator, .paragraphSeparator, .control, .format] c ||
      !isAssigned c && defaultIgnorable.contains c.toNat) &&
    c != '\r' && c != '\n' && c.toNat != 0x200D && !isExtender c && !isPrepended c

/-- The parts, each with its names. -/
def roles : List (List String × (Char → Bool)) :=
  [(["cr"], (· == '\r')), (["lf"], (· == '\n')), (["control", "cn"], isControl),
    (["extend", "ex"], isExtender), (["zwj"], fun c => c.toNat == 0x200D),
    (["regionalindicator", "ri"], fun c => regionalIndicator.contains c.toNat),
    (["prepend", "pp"], isPrepended), (["spacingmark", "sm"], isSpacingMark),
    (["l"], fun c => leadingConsonants.contains c.toNat),
    (["v"], fun c => syllableVowels.contains c.toNat),
    (["t"], fun c => trailingConsonants.contains c.toNat), (["lv"], isOpenSyllable),
    (["lvt"], fun c => isSyllable c && !isOpenSyllable c)]

end Byline.Unicode.Cluster

/-!
# UTF-8

Text as octets and back. `encode` writes characters, `decode?` reads octets that are well formed
throughout, and `decodeLossy` reads any octets, with one replacement character for each maximal
octet sequence that starts a character and does not complete it.

Both readers are views of `units`, which cuts octets into characters and broken pieces. Main
statements: `units_encode` (reading what was written gives the characters back), and from it
`decode?_encode` and `decodeLossy_encode`.
-/

namespace Byline.Utf8

/-- Octets, as a file holds them. -/
abbrev Bytes := List UInt8

/-- The octets of one character: one to four, by the size of its code point. -/
def encodeChar (c : Char) : Bytes :=
  let n := c.toNat
  if n < 0x80 then [.ofNat n]
  else if n < 0x800 then [.ofNat (0xC0 + n / 0x40), .ofNat (0x80 + n % 0x40)]
  else if n < 0x10000 then
    [.ofNat (0xE0 + n / 0x1000), .ofNat (0x80 + n / 0x40 % 0x40), .ofNat (0x80 + n % 0x40)]
  else
    [.ofNat (0xF0 + n / 0x40000), .ofNat (0x80 + n / 0x1000 % 0x40),
      .ofNat (0x80 + n / 0x40 % 0x40), .ofNat (0x80 + n % 0x40)]

/-- The octets of a text. -/
def encode (s : List Char) : Bytes := s.flatMap encodeChar

/-- The octets of a string. -/
def ofString (s : String) : Bytes := encode s.toList

/-- An octet between two bounds, ends included. -/
def within (lo hi : Nat) (b : UInt8) : Bool := lo ≤ b.toNat && b.toNat ≤ hi

/-- A continuation octet. -/
def isTail (b : UInt8) : Bool := within 0x80 0xBF b

/-- May `b` follow the lead `a` of a three-octet character? Overlong forms and surrogates are
ruled out here. -/
def isSecondOfThree (a b : UInt8) : Bool :=
  if a.toNat = 0xE0 then within 0xA0 0xBF b
  else if a.toNat = 0xED then within 0x80 0x9F b
  else isTail b

/-- May `b` follow the lead `a` of a four-octet character? Overlong forms and code points above
the last plane are ruled out here. -/
def isSecondOfFour (a b : UInt8) : Bool :=
  if a.toNat = 0xF0 then within 0x90 0xBF b
  else if a.toNat = 0xF4 then within 0x80 0x8F b
  else isTail b

/-- The six payload bits of a continuation octet. -/
def tailBits (b : UInt8) : Nat := b.toNat - 0x80

/-- Octets cut into characters, with `none` for each broken piece: the longest start of a
character that the next octet (or the end) does not carry on. -/
def units : Bytes → List (Option Char)
  | [] => []
  | a :: t =>
    if a.toNat < 0x80 then some (.ofNat a.toNat) :: units t
    else if within 0xC2 0xDF a then
      match t with
      | [] => [none]
      | b :: u =>
        if isTail b then some (.ofNat ((a.toNat - 0xC0) * 0x40 + tailBits b)) :: units u
        else none :: units (b :: u)
    else if within 0xE0 0xEF a then
      match t with
      | [] => [none]
      | b :: u =>
        if isSecondOfThree a b then
          match u with
          | [] => [none]
          | c :: v =>
            if isTail c then
              some (.ofNat ((a.toNat - 0xE0) * 0x1000 + tailBits b * 0x40 + tailBits c)) :: units v
            else none :: units (c :: v)
        else none :: units (b :: u)
    else if within 0xF0 0xF4 a then
      match t with
      | [] => [none]
      | b :: u =>
        if isSecondOfFour a b then
          match u with
          | [] => [none]
          | c :: v =>
            if isTail c then
              match v with
              | [] => [none]
              | d :: w =>
                if isTail d then
                  some (.ofNat ((a.toNat - 0xF0) * 0x40000 + tailBits b * 0x1000 +
                    tailBits c * 0x40 + tailBits d)) :: units w
                else none :: units (d :: w)
            else none :: units (c :: v)
        else none :: units (b :: u)
    else none :: units t

/-- The character that stands for a broken piece. -/
def replacement : Char := '\uFFFD'

/-- The text of any octets; each broken piece becomes `replacement`. -/
def decodeLossy (b : Bytes) : List Char := (units b).map (·.getD replacement)

/-- The text of octets without a broken piece. -/
def decode? (b : Bytes) : Option (List Char) := (units b).mapM id

/-- Are the octets the writing of some text? -/
def isValid (b : Bytes) : Bool := (units b).all (·.isSome)

/-! ## Reading back -/

/-- An octet made from a number below 256 has that number. -/
theorem toNat_ofNat_of_lt {n : Nat} (h : n < 256) : (UInt8.ofNat n).toNat = n := by
  simp [Nat.mod_eq_of_lt h]

theorem within_iff {lo hi : Nat} {b : UInt8} :
    within lo hi b = true ↔ lo ≤ b.toNat ∧ b.toNat ≤ hi := by
  simp [within]

theorem units_one {a : UInt8} {t : Bytes} (ha : a.toNat < 0x80) :
    units (a :: t) = some (.ofNat a.toNat) :: units t := by
  rw [units.eq_def]; simp only [if_pos ha]

theorem units_two {a b : UInt8} {t : Bytes} (ha : within 0xC2 0xDF a = true)
    (hb : isTail b = true) : units (a :: b :: t) =
      some (.ofNat ((a.toNat - 0xC0) * 0x40 + tailBits b)) :: units t := by
  have h := within_iff.1 ha
  rw [units.eq_def]
  simp only [if_neg (show ¬ a.toNat < 0x80 by omega), if_pos ha, if_pos hb]

theorem units_three {a b c : UInt8} {t : Bytes} (ha : within 0xE0 0xEF a = true)
    (hb : isSecondOfThree a b = true) (hc : isTail c = true) : units (a :: b :: c :: t) =
      some (.ofNat ((a.toNat - 0xE0) * 0x1000 + tailBits b * 0x40 + tailBits c)) :: units t := by
  have h := within_iff.1 ha
  have h' : ¬ within 0xC2 0xDF a = true := by rw [within_iff]; omega
  rw [units.eq_def]
  simp only [if_neg (show ¬ a.toNat < 0x80 by omega), if_neg h', if_pos ha, if_pos hb, if_pos hc]

theorem units_four {a b c d : UInt8} {t : Bytes} (ha : within 0xF0 0xF4 a = true)
    (hb : isSecondOfFour a b = true) (hc : isTail c = true) (hd : isTail d = true) :
    units (a :: b :: c :: d :: t) =
      some (.ofNat ((a.toNat - 0xF0) * 0x40000 + tailBits b * 0x1000 + tailBits c * 0x40 +
        tailBits d)) :: units t := by
  have h := within_iff.1 ha
  have h' : ¬ within 0xC2 0xDF a = true := by rw [within_iff]; omega
  have h'' : ¬ within 0xE0 0xEF a = true := by rw [within_iff]; omega
  rw [units.eq_def]
  simp only [if_neg (show ¬ a.toNat < 0x80 by omega), if_neg h', if_neg h'', if_pos ha, if_pos hb,
    if_pos hc, if_pos hd]

theorem tailBits_ofNat {n : Nat} (h : n < 0x40) : tailBits (.ofNat (0x80 + n)) = n := by
  have h0 : (UInt8.ofNat (0x80 + n)).toNat = 0x80 + n := toNat_ofNat_of_lt (by omega)
  unfold tailBits
  omega

theorem isTail_ofNat {n : Nat} (h : n < 0x40) : isTail (.ofNat (0x80 + n)) = true := by
  rw [isTail, within_iff, toNat_ofNat_of_lt (by omega)]; omega

/-- A written character is read back, whatever follows it. -/
theorem units_encodeChar_append (c : Char) (rest : Bytes) :
    units (encodeChar c ++ rest) = some c :: units rest := by
  have hv : c.toNat < 0xD800 ∨ (0xDFFF < c.toNat ∧ c.toNat < 0x110000) := c.valid
  have hc : Char.ofNat c.toNat = c := by simp
  simp only [encodeChar]
  generalize c.toNat = n at hv hc
  have m0 : n % 0x40 < 0x40 := by omega
  have m1 : n / 0x40 % 0x40 < 0x40 := by omega
  have m2 : n / 0x1000 % 0x40 < 0x40 := by omega
  split
  · next h =>
    have h0 : (UInt8.ofNat n).toNat = n := toNat_ofNat_of_lt (by omega)
    rw [List.cons_append, List.nil_append, units_one (by rw [h0]; exact h), h0, hc]
  split
  · next h =>
    have h0 : (UInt8.ofNat (0xC0 + n / 0x40)).toNat = 0xC0 + n / 0x40 :=
      toNat_ofNat_of_lt (by omega)
    have e : (0xC0 + n / 0x40 - 0xC0) * 0x40 + n % 0x40 = n := by omega
    rw [List.cons_append, List.cons_append, List.nil_append,
      units_two (by rw [within_iff, h0]; omega) (isTail_ofNat m0), tailBits_ofNat m0, h0, e, hc]
  split
  · next h =>
    have h0 : (UInt8.ofNat (0xE0 + n / 0x1000)).toNat = 0xE0 + n / 0x1000 :=
      toNat_ofNat_of_lt (by omega)
    have h1 : (UInt8.ofNat (0x80 + n / 0x40 % 0x40)).toNat = 0x80 + n / 0x40 % 0x40 :=
      toNat_ofNat_of_lt (by omega)
    have e : (0xE0 + n / 0x1000 - 0xE0) * 0x1000 + n / 0x40 % 0x40 * 0x40 + n % 0x40 = n := by
      omega
    have hs : isSecondOfThree (.ofNat (0xE0 + n / 0x1000)) (.ofNat (0x80 + n / 0x40 % 0x40)) =
        true := by
      rw [isSecondOfThree, h0]
      split
      · rw [within_iff, h1]; omega
      split
      · rw [within_iff, h1]; omega
      · exact isTail_ofNat m1
    rw [List.cons_append, List.cons_append, List.cons_append, List.nil_append,
      units_three (by rw [within_iff, h0]; omega) hs (isTail_ofNat m0), tailBits_ofNat m0,
      tailBits_ofNat m1, h0, e, hc]
  · next h =>
    have h0 : (UInt8.ofNat (0xF0 + n / 0x40000)).toNat = 0xF0 + n / 0x40000 :=
      toNat_ofNat_of_lt (by omega)
    have h1 : (UInt8.ofNat (0x80 + n / 0x1000 % 0x40)).toNat = 0x80 + n / 0x1000 % 0x40 :=
      toNat_ofNat_of_lt (by omega)
    have e : (0xF0 + n / 0x40000 - 0xF0) * 0x40000 + n / 0x1000 % 0x40 * 0x1000 +
        n / 0x40 % 0x40 * 0x40 + n % 0x40 = n := by
      omega
    have hs : isSecondOfFour (.ofNat (0xF0 + n / 0x40000)) (.ofNat (0x80 + n / 0x1000 % 0x40)) =
        true := by
      rw [isSecondOfFour, h0]
      split
      · rw [within_iff, h1]; omega
      split
      · rw [within_iff, h1]; omega
      · exact isTail_ofNat m2
    rw [List.cons_append, List.cons_append, List.cons_append, List.cons_append, List.nil_append,
      units_four (by rw [within_iff, h0]; omega) hs (isTail_ofNat m1) (isTail_ofNat m0),
      tailBits_ofNat m0, tailBits_ofNat m1, tailBits_ofNat m2, h0, e, hc]

/-- Reading what was written gives exactly the characters. -/
theorem units_encode_append (s : List Char) (rest : Bytes) :
    units (encode s ++ rest) = s.map some ++ units rest := by
  induction s with
  | nil => rfl
  | cons c s ih =>
    have : encode (c :: s) = encodeChar c ++ encode s := rfl
    rw [this, List.append_assoc, units_encodeChar_append, ih]
    rfl

theorem units_encode (s : List Char) : units (encode s) = s.map some := by
  simpa [units] using units_encode_append s []

/-- Reading with replacements loses nothing of a written text. -/
theorem decodeLossy_encode (s : List Char) : decodeLossy (encode s) = s := by
  simp [decodeLossy, units_encode, Function.comp_def]

/-- A written text is read back. -/
theorem decode?_encode (s : List Char) : decode? (encode s) = some s := by
  simp only [decode?, units_encode]
  induction s with
  | nil => rfl
  | cons c s ih => simp [ih]

end Byline.Utf8

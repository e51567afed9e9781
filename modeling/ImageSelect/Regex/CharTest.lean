import ImageSelect.Regex.Basic
import ImageSelect.Unicode.Case
import ImageSelect.Unicode.Number
import ImageSelect.Unicode.Space

/-!
# Tests on one character

Under the flag for case a character is compared by its lower case, and a
lower-case letter also with the letters that share its upper case.  Above
U+FFFF a set compares its members as they are written, and its ranges with
both cases of the character.
-/

namespace ImageSelect.Regex

/-- Whether case is ignored. -/
def Flags.foldsCase (flags : Flags) : Bool :=
  flags.contains .ignoreCase

/-- Whether the classes and the cases are those of ASCII. -/
def Flags.isAscii (flags : Flags) : Bool :=
  flags.contains .ascii

/-- The lower case of a code point under the flags. -/
def Flags.lower (flags : Flags) (code : Nat) : Nat :=
  if flags.isAscii then Unicode.asciiLowerCode code else Unicode.lowerCode code

/-- The lower-case letters that count as the same. -/
def Flags.variants (flags : Flags) (code : Nat) : List Nat :=
  if flags.isAscii then [code] else Unicode.caseVariants code

/-- Whether a character is in a class. -/
def Category.holds (flags : Flags) (c : Char) : Category → Bool
  | .digit => if flags.isAscii then c.isDigit else Unicode.isDecimal c
  | .space =>
    if flags.isAscii then (0x09 ≤ c.toNat && c.toNat ≤ 0x0D) || c = ' ' else Unicode.isSpace c
  | .word =>
    c = '_' || (if flags.isAscii then c.isAlphanum else Unicode.isAlphanumeric c)

/-- Whether a character counts as part of a word. -/
def isWordChar (flags : Flags) (c : Char) : Bool :=
  Category.word.holds flags c

/-- Whether a character is the one with a code point, case ignored if the
flags say so. -/
def isChar (flags : Flags) (code : Nat) (c : Char) : Bool :=
  if flags.foldsCase then
    (flags.variants (flags.lower code)).contains (flags.lower c.toNat)
  else c.toNat = code

/-- The greatest code point that a set folds. -/
def foldLimit : Nat := 0xFFFF

/-- Whether a code point lies in a range. -/
def inRange (low high code : Nat) : Bool :=
  low ≤ code && code ≤ high

/-- Whether a lower-case code point is that of a member of a range, as far
as the range folds. -/
def foldsInto (flags : Flags) (low high code : Nat) : Bool :=
  (flags.variants code).any fun variant =>
    let capitals := if flags.isAscii then
        (if 0x61 ≤ variant && variant ≤ 0x7A then [variant - 0x20] else [])
      else Unicode.capitalsOf variant
    (flags.lower variant = variant && inRange low high variant) ||
      capitals.any (inRange low high)

/-- Whether a character is a member of a set. -/
def Member.holds (flags : Flags) (c : Char) : Member → Bool
  | .category kind negated => kind.holds flags c != negated
  | .code n =>
    if flags.foldsCase then
      if n ≤ foldLimit then isChar flags n c else flags.lower c.toNat = n
    else c.toNat = n
  | .range low high =>
    if flags.foldsCase then
      let lower := flags.lower c.toNat
      foldsInto flags low (min high foldLimit) lower ||
        (foldLimit < high &&
          (inRange low high lower || (Unicode.capitalsOf lower).any (inRange low high)))
    else inRange low high c.toNat

end ImageSelect.Regex

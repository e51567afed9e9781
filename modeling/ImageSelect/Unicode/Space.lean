/-!
# White space

The blank characters: the ASCII controls that separate, the space, and the
spaces, line and paragraph separators beyond ASCII.
-/

namespace ImageSelect.Unicode

/-- Whether a character is blank. -/
def isSpace (c : Char) : Bool :=
  let code := c.toNat
  (0x09 ≤ code && code ≤ 0x0D) || (0x1C ≤ code && code ≤ 0x20) || code = 0x85 || code = 0xA0 ||
    code = 0x1680 || (0x2000 ≤ code && code ≤ 0x200A) || code = 0x2028 || code = 0x2029 ||
    code = 0x202F || code = 0x205F || code = 0x3000

/-- A text without the characters of a class at its two ends. -/
def stripBy (outer : Char → Bool) (text : List Char) : List Char :=
  ((text.dropWhile outer).reverse.dropWhile outer).reverse

/-- A text without the blank characters at its two ends. -/
def strip (text : List Char) : List Char :=
  stripBy isSpace text

end ImageSelect.Unicode

/-!
# Hidden delimiters

Some characters turn into a text with a URL delimiter under compatibility
decomposition: the account-of sign `℀` becomes `a/c`.
-/

namespace ImageSelect.Unicode

/-- The characters beyond ASCII whose compatibility decomposition has one of
the delimiters `/`, `?`, `#`, `@` and `:`. -/
def hiddenDelimiters : List Nat :=
  [0x2047, 0x2048, 0x2049, 0x2100, 0x2101, 0x2105, 0x2106, 0x2A74, 0xFE13, 0xFE16, 0xFE55,
    0xFE56, 0xFE5F, 0xFE6B, 0xFF03, 0xFF0F, 0xFF1A, 0xFF1F, 0xFF20]

/-- Whether a character hides a delimiter. -/
def hidesDelimiter (c : Char) : Bool :=
  hiddenDelimiters.contains c.toNat

end ImageSelect.Unicode

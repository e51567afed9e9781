import ImageSelect.Text.Utf8

/-!
# Percent encoding

Outside a small safe set every byte of a text's UTF-8 form is written as a
percent sign and two hexadecimal digits.  Decoding takes the bytes of each
run of ASCII text together; a run that is no UTF-8 gives U+FFFD, and a
percent sign without two digits stands for itself.
-/

namespace ImageSelect.Url

/-- The value of a hexadecimal digit of either case. -/
def hexValue? (c : Char) : Option Nat :=
  if c.isDigit then some (c.toNat - 0x30)
  else if 'a' ≤ c && c ≤ 'f' then some (c.toNat - 0x57)
  else if 'A' ≤ c && c ≤ 'F' then some (c.toNat - 0x37)
  else none

/-- Whether a character is a hexadecimal digit. -/
def isHexDigit (c : Char) : Bool :=
  (hexValue? c).isSome

/-- An upper-case hexadecimal digit. -/
def upperHexDigit (n : Nat) : Char :=
  (Nat.digitChar n).toUpper

/-- A byte as a percent sign and two digits. -/
def escapeByte (b : UInt8) : List Char :=
  ['%', upperHexDigit (b.toNat / 16), upperHexDigit (b.toNat % 16)]

/-- Characters that encoding leaves alone: letters, digits, `_.-~` and the
slash. -/
def isSafe (c : Char) : Bool :=
  c.isAlphanum || c = '_' || c = '.' || c = '-' || c = '~' || c = '/'

/-- A character, percent-encoded unless it is safe. -/
def encodeChar (c : Char) : List Char :=
  if isSafe c then [c] else (Text.Utf8.encodeChar c).flatMap escapeByte

/-- A text with all but its safe characters percent-encoded. -/
def percentEncode (text : List Char) : List Char :=
  text.flatMap encodeChar

/-- Decodes `text` behind a run of ASCII whose bytes are `run`, latest
first. -/
def decodeRun (run : List UInt8) : List Char → List Char
  | [] => Text.Utf8.decodeReplacing run.reverse
  | '%' :: a :: b :: rest =>
    match hexValue? a, hexValue? b with
    | some high, some low => decodeRun (UInt8.ofNat (high * 16 + low) :: run) rest
    | _, _ => decodeRun (UInt8.ofNat '%'.toNat :: run) (a :: b :: rest)
  | c :: rest =>
    if c.toNat < 0x80 then decodeRun (UInt8.ofNat c.toNat :: run) rest
    else Text.Utf8.decodeReplacing run.reverse ++ c :: decodeRun [] rest
  termination_by text => text.length

/-- A text with its percent escapes decoded. -/
def percentDecode (text : List Char) : List Char :=
  decodeRun [] text

end ImageSelect.Url

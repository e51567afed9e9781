import ImageSelect.Regex.Piece
import ImageSelect.Unicode.Name
import ImageSelect.Url.Percent

/-!
# Escapes

An escape names a control character, a class of characters, a place, a code
point, or an earlier group.  Which of these it may be differs a little
between a character set and the rest of a pattern.
-/

namespace ImageSelect.Regex

/-- What an escape outside of sets stands for. -/
inductive Escape where
  | code (n : Nat)
  | category (c : Category) (negated : Bool)
  | anchor (place : Anchor)
  | group (n : Nat)
  deriving Repr, DecidableEq

/-- The control characters and the backslash. -/
def controlEscape? : Char → Option Nat
  | 'a' => some 7
  | 'b' => some 8
  | 'f' => some 12
  | 'n' => some 10
  | 'r' => some 13
  | 't' => some 9
  | 'v' => some 11
  | '\\' => some 92
  | _ => none

/-- The classes of characters and whether they are negated. -/
def categoryEscape? : Char → Option (Category × Bool)
  | 'd' => some (.digit, false)
  | 'D' => some (.digit, true)
  | 's' => some (.space, false)
  | 'S' => some (.space, true)
  | 'w' => some (.word, false)
  | 'W' => some (.word, true)
  | _ => none

/-- The places. -/
def anchorEscape? : Char → Option Anchor
  | 'A' => some .textStart
  | 'b' => some .boundary
  | 'B' => some .inside
  | 'Z' => some .textEnd
  | _ => none

/-- Whether a character is an octal digit. -/
def isOctalDigit (c : Char) : Bool :=
  '0' ≤ c && c ≤ '7'

/-- The number that digits of a base up to sixteen stand for. -/
def ofBase (base : Nat) (digits : List Char) : Nat :=
  digits.foldl (fun n c => n * base + (Url.hexValue? c).getD 0) 0

/-- Reads a code point of a fixed number of hexadecimal digits. -/
def readHex (ahead : Ahead) (letter : Char) (width : Nat) : Except Halt (Nat × Nat) :=
  let digits := ahead.takeChars width Url.isHexDigit
  let escape := '\\' :: letter :: digits
  let after := ahead.drop digits.length
  if digits.length ≠ width then after.fail (.incompleteEscape escape) escape.length
  else if 0x10FFFF < ofBase 16 digits then after.fail (.badEscape escape) escape.length
  else .ok (ofBase 16 digits, digits.length)

/-- Reads the name of a character in braces. -/
def readNamed (ahead : Ahead) : Except Halt (Nat × Nat) :=
  if !ahead.startsWith '\x7b' then ahead.fail (.missing "\x7b")
  else do
    let (name, used) ← (ahead.drop 1).takeUntil '\x7d' "character name"
    match Unicode.codeNamed? name with
    | some code => return (code, used + 1)
    | none => (ahead.drop (used + 1)).fail (.unknownCharacter name) (name.length + 4)

/-- Reads an escape that stands for a code point both in and out of a
set. -/
def readCodeEscape (ahead : Ahead) (c : Char) : Except Halt (Nat × Nat) :=
  if c = 'x' then readHex ahead c 2
  else if c = 'u' then readHex ahead c 4
  else if c = 'U' then readHex ahead c 8
  else if c = 'N' then readNamed ahead
  else if c.isAlphanum then ahead.fail (.badEscape ['\\', c]) 2
  else .ok (c.toNat, 0)

/-- Reads an escape in a character set. -/
def readSetEscape (ahead : Ahead) (c : Char) : Except Halt (Member × Nat) :=
  match controlEscape? c, categoryEscape? c with
  | some code, _ => .ok (.code code, 0)
  | none, some (category, negated) => .ok (.category category negated, 0)
  | none, none =>
    if isOctalDigit c then
      let digits := c :: ahead.takeChars 2 isOctalDigit
      let after := ahead.drop (digits.length - 1)
      if 0xFF < ofBase 8 digits then
        after.fail (.octalRange ('\\' :: digits)) (digits.length + 1)
      else .ok (.code (ofBase 8 digits), digits.length - 1)
    else (readCodeEscape ahead c).map fun (code, used) => (.code code, used)

/-- The digits of an escape that starts with a digit other than zero, and
whether they are three octal digits. -/
def escapeDigits (ahead : Ahead) (c : Char) : List Char × Bool :=
  match ahead.takeChars 1 Char.isDigit with
  | [d] =>
    if isOctalDigit c && isOctalDigit d then
      match (ahead.drop 1).takeChars 1 isOctalDigit with
      | [e] => ([c, d, e], true)
      | _ => ([c, d], false)
    else ([c, d], false)
  | _ => ([c], false)

/-- Reads an escape outside of character sets.  A reference to a group is
checked by `reference`. -/
def readEscape (reference : Ahead → Nat → Nat → Except Halt Unit) (ahead : Ahead) (c : Char) :
    Except Halt (Escape × Nat) :=
  match categoryEscape? c, anchorEscape? c, controlEscape? c with
  | some (category, negated), _, _ => .ok (.category category negated, 0)
  | none, some place, _ => .ok (.anchor place, 0)
  | none, none, some code => .ok (.code code, 0)
  | none, none, none =>
    if c = '0' then
      let digits := ahead.takeChars 2 isOctalDigit
      .ok (.code (ofBase 8 digits), digits.length)
    else if c.isDigit then
      let (digits, octal) := escapeDigits ahead c
      let used := digits.length - 1
      let after := ahead.drop used
      if octal then
        if 0xFF < ofBase 8 digits then
          after.fail (.octalRange ('\\' :: digits)) (digits.length + 1)
        else .ok (.code (ofBase 8 digits), used)
      else do
        let group := ofBase 10 digits
        reference after group (digits.length + 1)
        return (.group group, used)
    else (readCodeEscape ahead c).map fun (code, used) => (.code code, used)

end ImageSelect.Regex

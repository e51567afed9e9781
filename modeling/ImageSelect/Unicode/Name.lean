import ImageSelect.Text.Split
import ImageSelect.Unicode.NameTable
import ImageSelect.Unicode.Range

/-!
# Names of characters

A name of the table may be written in capital or in small letters.  The names of
Chinese characters and of Korean syllables follow rules, and are written in
capitals only.  Characters outside the table and the rules have no name here.
-/

namespace ImageSelect.Unicode

/-- The words of a name that the table shortens, after the words of the name
before it. -/
def expandName (previous : List (List Char)) (entry : List Char) : List (List Char) :=
  match entry with
  | c :: rest =>
    if c.isDigit then previous.take (c.toNat - '0'.toNat) ++ Text.pieces ' ' rest
    else Text.pieces ' ' entry
  | [] => [[]]

/-- The shortened names of a block. -/
def NameBlock.entries (block : NameBlock) : List (List Char) :=
  block.lines.flatMap fun line => Text.pieces ';' line.toList

/-- The code point of the wanted name among shortened names, of which the first
is the name of `code`. -/
def codeAmong? (wanted : List (List Char)) (code : Nat) (previous : List (List Char)) :
    List (List Char) → Option Nat
  | [] => none
  | entry :: rest =>
    let name := expandName previous entry
    if name = wanted then some code else codeAmong? wanted (code + 1) name rest

/-- The code point of a name in capitals in the table. -/
def tableCode? (name : List Char) : Option Nat :=
  let wanted := Text.pieces ' ' name
  match nameBlocks.findSome? fun block =>
      codeAmong? wanted block.first [] block.entries with
  | some code => some code
  | none => (aliasNames.find? fun entry => entry.2.toList = name).map (·.1)

/-- The Chinese characters that are named by their code points. -/
def ideographs : Ranges :=
  #[(0x3400, 0x4DBF), (0x4E00, 0x9FFF), (0x20000, 0x2A6DF), (0x2A700, 0x2B738),
    (0x2B740, 0x2B81D), (0x2B820, 0x2CEA1), (0x2CEB0, 0x2EBE0), (0x30000, 0x3134A)]

/-- The value of a hexadecimal digit in capitals. -/
def capitalHexDigit? (c : Char) : Option Nat :=
  if c.isDigit then some (c.toNat - '0'.toNat)
  else if 'A' ≤ c ∧ c ≤ 'F' then some (c.toNat - 'A'.toNat + 10)
  else none

/-- The text after the words a name starts with. -/
def afterWords? (words : String) (name : List Char) : Option (List Char) :=
  if words.toList.isPrefixOf name then some (name.drop words.length) else none

/-- The code point of a Chinese character: the name ends in four or five digits. -/
def ideographCode? (name : List Char) : Option Nat := do
  let digits ← afterWords? "CJK UNIFIED IDEOGRAPH-" name
  if digits.length = 4 ∨ digits.length = 5 then
    let code ← digits.foldlM (fun total c => (capitalHexDigit? c).map (total * 16 + ·)) 0
    if ideographs.holds code then some code else none
  else none

/-- The consonants a syllable starts with. -/
def leadingSounds : List String :=
  ["G", "GG", "N", "D", "DD", "R", "M", "B", "BB", "S", "SS", "", "J", "JJ", "C", "K", "T", "P",
   "H"]

/-- The vowels of a syllable. -/
def vowelSounds : List String :=
  ["A", "AE", "YA", "YAE", "EO", "E", "YEO", "YE", "O", "WA", "WAE", "OE", "YO", "U", "WEO", "WE",
   "WI", "YU", "EU", "YI", "I"]

/-- The consonants a syllable ends with. -/
def trailingSounds : List String :=
  ["", "G", "GG", "GS", "N", "NJ", "NH", "D", "L", "LG", "LM", "LB", "LS", "LT", "LP", "LH", "M",
   "B", "BS", "S", "SS", "NG", "J", "C", "K", "T", "P", "H"]

/-- The number and the length of the longest of the sounds that the text starts
with. -/
def longestSound (sounds : List String) (text : List Char) : Option (Nat × Nat) :=
  sounds.zipIdx.foldl
    (fun best (sound, i) =>
      if sound.toList.isPrefixOf text ∧ best.all (fun b => b.2 < sound.length) then
        some (i, sound.length)
      else best)
    none

/-- The code point of a Korean syllable, named by its sounds. -/
def syllableCode? (name : List Char) : Option Nat := do
  let text ← afterWords? "HANGUL SYLLABLE " name
  let (leading, used) ← longestSound leadingSounds text
  let text := text.drop used
  let (vowel, used) ← longestSound vowelSounds text
  let text := text.drop used
  let (trailing, used) ← longestSound trailingSounds text
  if text.length = used then
    some (0xAC00 + (leading * vowelSounds.length + vowel) * trailingSounds.length + trailing)
  else none

/-- The code point of the character with a name. -/
def codeNamed? (name : List Char) : Option Nat :=
  match syllableCode? name, ideographCode? name with
  | some code, _ => some code
  | none, some code => some code
  | none, none => tableCode? (name.map Char.toUpper)

end ImageSelect.Unicode

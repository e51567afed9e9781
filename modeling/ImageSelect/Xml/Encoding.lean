import ImageSelect.Text.Utf8
import ImageSelect.Xml.CharClass
import ImageSelect.Xml.Error

/-!
# Encodings

How the bytes of a document make characters.  The first bytes tell UTF-16
from the encodings of single bytes; among those the declaration of the
document chooses.  Decoding stops at the first bytes that are no character
of a document.
-/

namespace ImageSelect.Xml

/-- The encodings of one byte a character. -/
inductive ByteTable where
  | ascii
  | latin1
  | latin9
  | windows1252
  deriving Repr, DecidableEq

/-- An encoding. -/
inductive Encoding where
  | utf8
  | utf16 (bigEndian : Bool)
  | bytes (table : ByteTable)
  deriving Repr, DecidableEq

namespace ByteTable

/-- The characters of Windows-1252 from 0x80 to 0x9F; zero for none. -/
def windowsRow : Array Nat := #[
  0x20AC, 0, 0x201A, 0x192, 0x201E, 0x2026, 0x2020, 0x2021, 0x2C6, 0x2030, 0x160, 0x2039, 0x152,
  0, 0x17D, 0, 0, 0x2018, 0x2019, 0x201C, 0x201D, 0x2022, 0x2013, 0x2014, 0x2DC, 0x2122, 0x161,
  0x203A, 0x153, 0, 0x17E, 0x178]

/-- Where Latin-9 departs from Latin-1. -/
def latin9Changes : List (Nat × Nat) :=
  [(0xA4, 0x20AC), (0xA6, 0x160), (0xA8, 0x161), (0xB4, 0x17D), (0xB8, 0x17E), (0xBC, 0x152),
    (0xBD, 0x153), (0xBE, 0x178)]

/-- The code of the character that a byte stands for. -/
def code? (table : ByteTable) (b : Nat) : Option Nat :=
  if b < 0x80 then some b
  else
    match table with
    | .ascii => none
    | .latin1 => some b
    | .latin9 => some ((latin9Changes.lookup b).getD b)
    | .windows1252 =>
      if b < 0xA0 then (windowsRow[b - 0x80]?).filter (· != 0) else some b

end ByteTable

/-- Characters and how they end. -/
structure Source where
  chars : List Char
  ending : Ending := .complete
  deriving Repr, DecidableEq

namespace Source

/-- A text up to the first character that no document holds. -/
def ofChars (chars : List Char) (ending : Ending) : Source :=
  match chars.span isDocumentChar with
  | (all, []) => ⟨all, ending⟩
  | (good, _) => ⟨good, .invalid⟩

/-- The number of bytes of the UTF-8 character that a byte starts. -/
def utf8Size (first : UInt8) : Nat :=
  if first.toNat < 0xE0 then 2 else if first.toNat < 0xF0 then 3 else 4

/-- Whether bytes at the end of a document are too few for the character that
they start. -/
def isCut : List UInt8 → Bool
  | [] => false
  | first :: rest =>
    0xC0 ≤ first.toNat && first.toNat < 0xF5 &&
      (rest.take (utf8Size first - 1)).length < utf8Size first - 1

/-- Decodes UTF-8. -/
def ofUtf8 (bytes : List UInt8) : Source :=
  match Text.Utf8.decodeUpTo 0 bytes with
  | (chars, none) => ofChars chars .complete
  | (chars, some stop) => ofChars chars (if isCut stop.bytes then .cut else .invalid)

/-- The units of two bytes, and whether a byte is left over. -/
def units (bigEndian : Bool) : List UInt8 → List Nat × Bool
  | a :: b :: rest =>
    let (us, odd) := units bigEndian rest
    ((if bigEndian then a.toNat * 256 + b.toNat else b.toNat * 256 + a.toNat) :: us, odd)
  | [_] => ([], true)
  | [] => ([], false)

/-- The characters of UTF-16 units, and whether these end well. -/
def ofUnits (atEnd : Ending) : List Nat → List Char × Ending
  | [] => ([], atEnd)
  | [u] =>
    if 0xD800 ≤ u && u < 0xDC00 then ([], .cut)
    else if 0xDC00 ≤ u && u < 0xE000 then ([], .invalid)
    else ([Char.ofNat u], atEnd)
  | u :: v :: rest =>
    if 0xD800 ≤ u && u < 0xDC00 then
      if 0xDC00 ≤ v && v < 0xE000 then
        let (cs, ending) := ofUnits atEnd rest
        (Char.ofNat (0x10000 + (u - 0xD800) * 1024 + (v - 0xDC00)) :: cs, ending)
      else ([], .invalid)
    else if 0xDC00 ≤ u && u < 0xE000 then ([], .invalid)
    else
      let (cs, ending) := ofUnits atEnd (v :: rest)
      (Char.ofNat u :: cs, ending)

/-- Decodes UTF-16. -/
def ofUtf16 (bigEndian : Bool) (bytes : List UInt8) : Source :=
  let (us, odd) := units bigEndian bytes
  let (chars, ending) := ofUnits (if odd then .odd else .complete) us
  ofChars chars ending

/-- Decodes single bytes. -/
def ofTable (table : ByteTable) (bytes : List UInt8) : Source :=
  let codes := bytes.map fun b => table.code? b.toNat
  let known := (codes.takeWhile Option.isSome).reduceOption
  ofChars (known.map Char.ofNat) (if known.length < codes.length then .invalid else .complete)

/-- Decodes bytes. -/
def decode (encoding : Encoding) (bytes : List UInt8) : Source :=
  match encoding with
  | .utf8 => ofUtf8 bytes
  | .utf16 bigEndian => ofUtf16 bigEndian bytes
  | .bytes table => ofTable table bytes

end Source

/-- The encoding that the first bytes show: a byte order mark decides, and a
zero byte tells UTF-16. -/
def Encoding.detect : List UInt8 → Encoding
  | 0xFE :: 0xFF :: _ => .utf16 true
  | 0xFF :: 0xFE :: _ => .utf16 false
  | 0 :: _ :: _ => .utf16 true
  | _ :: 0 :: _ => .utf16 false
  | _ => .utf8

/-- Whether bytes are too few to show an encoding. -/
def isUndecided : List UInt8 → Bool
  | [b] => b = 0 || b = 0x3C || b = 0xEF || b = 0xFE || b = 0xFF
  | [0xEF, 0xBB] => true
  | _ => false

/-- Why a document with an encoding cannot be decoded. -/
inductive EncodingError where
  | unknown (name : String)
  | severalBytes
  deriving Repr, DecidableEq

/-- What is said of such an encoding. -/
def EncodingError.message : EncodingError → String
  | .unknown name => "unknown encoding: " ++ name
  | .severalBytes => "multi-byte encodings are not supported"

/-- The names of encodings of single bytes.  Of UTF-8 under one of its other
names only ASCII can be used. -/
def byteTableNames : List (String × ByteTable) :=
  [("iso_8859_1", .latin1), ("us_ascii", .ascii), ("ascii", .ascii), ("646", .ascii),
    ("ansi_x3.4_1968", .ascii), ("ansi_x3_4_1968", .ascii), ("ansi_x3.4_1986", .ascii),
    ("cp367", .ascii), ("csascii", .ascii), ("ibm367", .ascii), ("iso646_us", .ascii),
    ("iso_646.irv_1991", .ascii), ("iso_ir_6", .ascii), ("us", .ascii), ("utf_8", .ascii),
    ("utf8", .ascii), ("u8", .ascii), ("utf", .ascii), ("utf8_ucs2", .ascii),
    ("utf8_ucs4", .ascii), ("cp65001", .ascii), ("latin_1", .latin1), ("latin1", .latin1),
    ("latin", .latin1), ("l1", .latin1), ("iso8859_1", .latin1), ("iso8859", .latin1),
    ("8859", .latin1), ("cp819", .latin1), ("csisolatin1", .latin1), ("ibm819", .latin1),
    ("iso_8859_1_1987", .latin1), ("iso_ir_100", .latin1), ("cp1252", .windows1252),
    ("1252", .windows1252), ("windows_1252", .windows1252), ("iso8859_15", .latin9),
    ("iso_8859_15", .latin9), ("latin9", .latin9), ("l9", .latin9)]

/-- The names of encodings of several bytes. -/
def severalBytesNames : List String :=
  ["big5", "gb2312", "gbk", "gb18030", "shift_jis", "shiftjis", "sjis", "s_jis", "euc_jp", "eucjp",
    "ujis", "euc_kr", "euckr", "utf_32", "utf32", "utf_32be", "utf_32le", "utf_16", "utf16",
    "utf_7", "utf7", "iso_2022_jp", "iso2022_jp", "iso2022jp", "hz", "cp932", "cp936", "cp949",
    "cp950", "johab", "ms932", "ms936"]

/-- What a declared name asks for in a document that is being read in a given
encoding: `none` if it contradicts what the first bytes show. -/
def Encoding.declared (current : Encoding) (name : String) :
    Except EncodingError (Option Encoding) :=
  let lower := name.map Char.toLower
  match lower, current with
  | "utf-16", .utf16 _ => .ok (some current)
  | "utf-16be", .utf16 bigEndian => .ok (if bigEndian then some current else none)
  | "utf-16le", .utf16 bigEndian => .ok (if bigEndian then none else some current)
  | "utf-16", _ | "utf-16be", _ | "utf-16le", _ => .ok none
  | "utf-8", .utf16 _ | "iso-8859-1", .utf16 _ | "us-ascii", .utf16 _ => .ok none
  | "utf-8", _ => .ok (some .utf8)
  | _, _ =>
    let key := lower.map fun c => if c = '-' then '_' else c
    match byteTableNames.lookup key with
    | some table => .ok (some (.bytes table))
    | none =>
      if severalBytesNames.contains key then .error .severalBytes else .error (.unknown name)

end ImageSelect.Xml

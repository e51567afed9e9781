import ImageSelect.Xml.CharClass
import ImageSelect.Xml.Error

/-!
# References

`&name;`, `&#65;` and `&#x41;`.  An automaton says, character by character,
what may follow the ampersand; values and replacement texts are cut into
characters and references with it.
-/

namespace ImageSelect.Xml

/-- How far a reference has been read: nothing, a name, the number sign,
decimal digits, the `x` of a hexadecimal number, hexadecimal digits. -/
inductive ReferenceState where
  | start
  | name
  | sign
  | decimal
  | hexStart
  | hex
  deriving Repr, DecidableEq

namespace ReferenceState

/-- Whether a character is a hexadecimal digit. -/
def isHexDigit (c : Char) : Bool :=
  c.isDigit || ('a' ≤ c && c ≤ 'f') || ('A' ≤ c && c ≤ 'F')

/-- The state after a character other than the semicolon, if it may follow. -/
def next? (s : ReferenceState) (c : Char) : Option ReferenceState :=
  match s with
  | .start => if isNameStart c then some .name else if c = '#' then some .sign else none
  | .name => if isNameChar c then some .name else none
  | .sign => if c = 'x' then some .hexStart else if c.isDigit then some .decimal else none
  | .decimal => if c.isDigit then some .decimal else none
  | .hexStart | .hex => if isHexDigit c then some .hex else none

/-- Whether the semicolon may follow. -/
def canEnd : ReferenceState → Bool
  | .name | .decimal | .hex => true
  | _ => false

end ReferenceState

/-- What a reference stands for: a character, if its number has one, or an
entity. -/
inductive Reference where
  | character (c : Option Char)
  | entity (name : List Char)
  deriving Repr, DecidableEq

namespace Reference

/-- The value of a hexadecimal digit. -/
def digitValue (c : Char) : Nat :=
  if c.isDigit then c.toNat - 0x30
  else if c.toNat < 0x61 then c.toNat - 0x41 + 10
  else c.toNat - 0x61 + 10

/-- The number that digits write. -/
def number (base : Nat) (digits : List Char) : Nat :=
  digits.foldl (fun n c => n * base + digitValue c) 0

/-- The character with a number, if a document may hold it. -/
def charNumbered? (code : Nat) : Option Char :=
  if code < 0xD800 || (0xE000 ≤ code && code < 0x110000) then
    some (Char.ofNat code) |>.filter isDocumentChar
  else none

/-- The character that five names have without being declared. -/
def predefined? (name : List Char) : Option Char :=
  match String.ofList name with
  | "lt" => some '<'
  | "gt" => some '>'
  | "amp" => some '&'
  | "quot" => some '"'
  | "apos" => some '\''
  | _ => none

/-- The reference with a text between ampersand and semicolon. -/
def ofBody : List Char → Reference
  | '#' :: 'x' :: digits => .character (charNumbered? (number 16 digits))
  | '#' :: digits => .character (charNumbered? (number 10 digits))
  | name =>
    match predefined? name with
    | some c => .character (some c)
    | none => .entity name

/-- Reads the rest of a reference: its body and what follows the semicolon. -/
def readBody (state : ReferenceState) (body : List Char) :
    List Char → Except Stop (List Char × List Char)
  | [] => .error .ended
  | c :: rest =>
    if c = ';' && state.canEnd then .ok (body.reverse, rest)
    else
      match state.next? c with
      | some state => readBody state (c :: body) rest
      | none => .error (.unexpected (c :: rest))

end Reference

/-- A part of a text that may hold references.  Each reference and each
offending character is kept with the text from it on. -/
inductive Piece where
  | character (c : Char)
  | reference (body : List Char) (here : List Char)
  | stopped (why : Stop) (here : List Char)
  deriving Repr, DecidableEq

namespace Piece

/-- Cuts a text, up to a character that is refused outside of references.
`pending` is the reference being read: the text from its ampersand on, its
state, and its body so far, last character first. -/
def cut (isRefused : Char → Bool) (pending : Option (List Char × ReferenceState × List Char)) :
    List Char → List Piece
  | [] =>
    match pending with
    | some (start, _, _) => [.stopped .ended start]
    | none => []
  | c :: rest =>
    match pending with
    | none =>
      if c = '&' then cut isRefused (some (c :: rest, .start, [])) rest
      else if isRefused c then [.stopped (.unexpected (c :: rest)) (c :: rest)]
      else .character c :: cut isRefused none rest
    | some (start, state, body) =>
      if c = ';' && state.canEnd then
        .reference body.reverse start :: cut isRefused none rest
      else
        match state.next? c with
        | some state => cut isRefused (some (start, state, c :: body)) rest
        | none => [.stopped (.unexpected (c :: rest)) start]

/-- The parts of an attribute value. -/
def ofValue (text : List Char) : List Piece :=
  cut (· = '<') none text

/-- The parts of the value that an entity is declared with. -/
def ofEntity (text : List Char) : List Piece :=
  cut (· = '%') none text

/-- Counts a carriage return and the line feed behind it as one. -/
def joinLines : List Piece → List Piece
  | .character '\r' :: .character '\n' :: pieces => .character '\n' :: joinLines pieces
  | p :: pieces => p :: joinLines pieces
  | [] => []

end Piece

end ImageSelect.Xml

import ImageSelect.Regex.Error

/-!
# Pieces of a pattern

A pattern is read piece by piece: a piece is one character, or a backslash
with the character behind it.  A reader looks at the pieces that are left
and says how many of them it uses.

A backslash at the very end makes no piece.  It is a problem of its own that
comes up when all pieces are used, and not before.
-/

namespace ImageSelect.Regex

/-- A character of a pattern with its position, or a backslash at that
position and the character behind it. -/
structure Piece where
  position : Nat
  char : Char
  escaped : Bool
  deriving Repr, DecidableEq

/-- The text of a piece. -/
def Piece.text (p : Piece) : List Char :=
  if p.escaped then ['\\', p.char] else [p.char]

/-- Whether a piece is the bare character. -/
def Piece.is (p : Piece) (c : Char) : Bool :=
  !p.escaped && p.char = c

/-- A pattern in pieces. -/
structure Pieces where
  pieces : List Piece
  /-- Whether a single backslash is left over at the end. -/
  dangling : Bool

/-- Cuts a pattern that starts at a position into pieces. -/
def cutPieces (position : Nat) : List Char → Pieces
  | [] => ⟨[], false⟩
  | ['\\'] => ⟨[], true⟩
  | '\\' :: c :: rest =>
    let ⟨pieces, dangling⟩ := cutPieces (position + 2) rest
    ⟨⟨position, c, true⟩ :: pieces, dangling⟩
  | c :: rest =>
    let ⟨pieces, dangling⟩ := cutPieces (position + 1) rest
    ⟨⟨position, c, false⟩ :: pieces, dangling⟩

/-- Why reading stops, and whether all pieces had been used by then. -/
structure Halt where
  error : Error
  atEnd : Bool
  deriving Repr, DecidableEq

/-- The pieces in front of a reader and the size of the whole pattern. -/
structure Ahead where
  size : Nat
  pieces : List Piece

namespace Ahead

/-- The position of the next piece. -/
def position (ahead : Ahead) : Nat :=
  match ahead.pieces with
  | [] => ahead.size
  | p :: _ => p.position

/-- The next piece. -/
def next? (ahead : Ahead) : Option Piece :=
  ahead.pieces.head?

/-- Whether the next piece is the bare character. -/
def startsWith (ahead : Ahead) (c : Char) : Bool :=
  match ahead.pieces with
  | [] => false
  | p :: _ => p.is c

/-- What is ahead once some pieces are used. -/
def drop (ahead : Ahead) (used : Nat) : Ahead :=
  { ahead with pieces := ahead.pieces.drop used }

/-- Stops with an error. -/
def halt {α : Type} (ahead : Ahead) (error : Error) : Except Halt α :=
  .error ⟨error, ahead.pieces.isEmpty⟩

/-- Stops with a problem that lies `back` characters before the next
piece. -/
def fail {α : Type} (ahead : Ahead) (problem : Problem) (back : Nat := 0) : Except Halt α :=
  ahead.halt (.malformed problem (some (ahead.position - back)))

/-- Stops with a problem at a position. -/
def failAt {α : Type} (ahead : Ahead) (problem : Problem) (position : Nat) : Except Halt α :=
  ahead.halt (.malformed problem (some position))

/-- The bare characters of a class at the front, at most `limit` of them. -/
def takeChars (ahead : Ahead) (limit : Nat) (accept : Char → Bool) : List Char :=
  ((ahead.pieces.take limit).takeWhile fun p => !p.escaped && accept p.char).map (·.char)

/-- All bare characters of a class at the front. -/
def takeAllChars (ahead : Ahead) (accept : Char → Bool) : List Char :=
  (ahead.pieces.takeWhile fun p => !p.escaped && accept p.char).map (·.char)

/-- The text up to a bare terminator, and the number of pieces used, the
terminator among them. -/
def takeUntil (ahead : Ahead) (terminator : Char) (what : String) :
    Except Halt (List Char × Nat) :=
  let body := ahead.pieces.takeWhile (!·.is terminator)
  let name := body.flatMap Piece.text
  let after := ahead.drop (body.length + 1)
  if ahead.pieces.length ≤ body.length then
    if name.isEmpty then after.fail (.missing what)
    else after.fail (.unterminatedName terminator) name.length
  else if name.isEmpty then after.fail (.missing what) 1
  else .ok (name, body.length + 1)

end Ahead

end ImageSelect.Regex

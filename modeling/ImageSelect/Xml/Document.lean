import ImageSelect.Xml.Content
import ImageSelect.Xml.Encoding
import ImageSelect.Xml.Prolog

/-!
# Documents

A document is a prolog, a root element, and comments and instructions behind
it.  It comes as a text or as bytes; the encoding of bytes is found first.
-/

namespace ImageSelect.Xml

/-- Why something could not be read as a document. -/
inductive ReadError where
  | parse (e : ParseError)
  | encoding (e : EncodingError)
  deriving Repr, DecidableEq

/-- What is said of something that could not be read. -/
def ReadError.message : ReadError → String
  | .parse e => e.message
  | .encoding e => e.message

/-- Reads what stands behind the root.  There are no more tokens than
characters, which `bound` counts. -/
def readEpilog (bound : Nat) (ending : Ending) (s : List Char) : Except Failure Unit :=
  match s, bound with
  | [], _ => if ending = .complete then .ok () else .error (Stop.ended.toFailure ending [])
  | _, 0 => .error ⟨.junkAfterRoot, s⟩
  | c :: rest, bound + 1 =>
    match Token.read ending c rest with
    | .error stop => .error (stop.toFailure ending s)
    | .ok (.blank, rest) | .ok (.comment, rest) | .ok (.instruction, rest) =>
      readEpilog bound ending rest
    | .ok _ => .error ⟨.junkAfterRoot, s⟩

/-- The byte order mark. -/
def byteOrderMark : Char := Char.ofNat 0xFEFF

/-- The characters of a document without a byte order mark. -/
def withoutMark : List Char → List Char
  | c :: cs => if c = byteOrderMark then cs else c :: cs
  | [] => []

/-- Reads the root element of a document. -/
def readRoot (source : Source) : Except Failure Element := do
  let start := withoutMark source.chars
  let (dtd, rest) ← Prolog.read (start.length + 1) source.ending {} (.opening true) start
  let context : Content.Context := { dtd, ending := source.ending }
  let step ← Content.read context (dtd.entities.length + 1) (rest.length + 1)
    { outer := Scope.initial } rest
  readEpilog (step.rest.length + 1) source.ending step.rest
  match step.place.found with
  | root :: _ => return root
  | [] => throw ⟨.noElement, step.rest⟩

/-- Reads a document from its characters. -/
def Source.read (source : Source) : Except ParseError Element :=
  (readRoot source).mapError fun f => f.inDocument source.chars

/-- The XML declaration at the start of a document, if it has a good one, and
what follows it. -/
def leadingDeclaration? (chars : List Char) : Option (Declaration × List Char × List Char) :=
  match chars with
  | '<' :: '?' :: rest =>
    match readInstruction rest with
    | .ok (.declaration body, after) =>
      match Declaration.read body with
      | .ok d => some (d, rest.drop (3 + (body.length - d.encodingAt.length)), after)
      | .error _ => none
    | _ => none
  | _ => none

/-- The characters of a document whose encoding its declaration names. -/
def Source.redecode (current : Encoding) (bytes : List UInt8) (source : Source) (name : String)
    (nameAt after : List Char) : Except ReadError Source :=
  match current.declared name with
  | .error e => .error (.encoding e)
  | .ok none =>
    .error (.parse ((Failure.mk .incorrectEncoding nameAt).inDocument source.chars))
  | .ok (some encoding) =>
    if encoding = current then .ok source
    else
      let front := source.chars.take (source.chars.length - after.length)
      let size := (Text.Utf8.encode front).length
      let tail := decode encoding (bytes.drop size)
      .ok ⟨front ++ tail.chars, tail.ending⟩

/-- The characters of a document that comes as bytes. -/
def Source.ofBytes (bytes : List UInt8) : Except ReadError Source :=
  if isUndecided bytes then .ok ⟨[], .odd⟩
  else
    let current := Encoding.detect bytes
    let source := decode current bytes
    match leadingDeclaration? (withoutMark source.chars) with
    | some (⟨some name, _, _⟩, nameAt, after) =>
      redecode current bytes source name nameAt after
    | _ => .ok source

/-- The characters of a document that comes as text, whatever encoding it
declares. -/
def Source.ofText (text : List Char) : Source :=
  let bytes := Text.Utf8.encode text
  if isUndecided bytes then ⟨[], .odd⟩ else decode (Encoding.detect bytes) bytes

/-- A document as it is handed over: a text, bytes, or a stream of either.
The characters of a stream are read as their UTF-8 bytes. -/
inductive Input where
  | text (chars : List Char) (isStream : Bool)
  | bytes (content : List UInt8)
  deriving Repr, DecidableEq

/-- Reads the root element of a document. -/
def Input.read (input : Input) : Except ReadError Element := do
  let source ←
    match input with
    | .text chars false => .ok (Source.ofText chars)
    | .text chars true => Source.ofBytes (Text.Utf8.encode chars)
    | .bytes content => Source.ofBytes content
  (Source.read source).mapError .parse

end ImageSelect.Xml

/-!
# Faults of a document

A fault says what is wrong, and a failure also where: it holds the characters
from the place on, up to the end of the document.  Lines are counted from
one, columns from zero; a line ends at a line feed, at a carriage return, or
at the two together.
-/

namespace ImageSelect.Xml

/-- What is wrong with a document. -/
inductive Fault where
  | malformed
  | noElement
  | invalidToken
  | unclosedToken
  | partialCharacter
  | mismatchedTag
  | duplicateAttribute
  | junkAfterRoot
  | parameterReference
  | undefinedEntity
  | unresolvedEntity (reference : List Char)
  | recursiveEntity
  | asynchronousEntity
  | badCharacterNumber
  | binaryEntity
  | externalEntityInAttribute
  | misplacedDeclaration
  | incorrectEncoding
  | unclosedCData
  | malformedDeclaration
  | illegalPublicId
  | unboundPrefix
  | undeclaredPrefix
  | reservedPrefixXml
  | reservedPrefixXmlns
  | reservedNamespace
  deriving Repr, DecidableEq

/-- The wording of a fault. -/
def Fault.message : Fault → String
  | .malformed => "syntax error"
  | .noElement => "no element found"
  | .invalidToken => "not well-formed (invalid token)"
  | .unclosedToken => "unclosed token"
  | .partialCharacter => "partial character"
  | .mismatchedTag => "mismatched tag"
  | .duplicateAttribute => "duplicate attribute"
  | .junkAfterRoot => "junk after document element"
  | .parameterReference => "illegal parameter entity reference"
  | .undefinedEntity => "undefined entity"
  | .unresolvedEntity reference => "undefined entity " ++ String.ofList (reference.take 100)
  | .recursiveEntity => "recursive entity reference"
  | .asynchronousEntity => "asynchronous entity"
  | .badCharacterNumber => "reference to invalid character number"
  | .binaryEntity => "reference to binary entity"
  | .externalEntityInAttribute => "reference to external entity in attribute"
  | .misplacedDeclaration => "XML or text declaration not at start of entity"
  | .incorrectEncoding => "encoding specified in XML declaration is incorrect"
  | .unclosedCData => "unclosed CDATA section"
  | .malformedDeclaration => "XML declaration not well-formed"
  | .illegalPublicId => "illegal character(s) in public id"
  | .unboundPrefix => "unbound prefix"
  | .undeclaredPrefix => "must not undeclare prefix"
  | .reservedPrefixXml =>
    "reserved prefix (xml) must not be undeclared or bound to another namespace name"
  | .reservedPrefixXmlns => "reserved prefix (xmlns) must not be declared or undeclared"
  | .reservedNamespace => "prefix must not be bound to one of the reserved namespace names"

/-- A fault and the characters from its place on. -/
structure Failure where
  fault : Fault
  rest : List Char
  deriving Repr, DecidableEq

/-- A place in a text. -/
structure Position where
  line : Nat := 1
  column : Nat := 0
  deriving Repr, DecidableEq

/-- The place behind a text that starts at a place. -/
def Position.after (p : Position) : List Char → Position
  | [] => p
  | '\n' :: cs => Position.after ⟨p.line + 1, 0⟩ cs
  | '\r' :: '\n' :: cs => Position.after ⟨p.line + 1, 0⟩ cs
  | '\r' :: cs => Position.after ⟨p.line + 1, 0⟩ cs
  | _ :: cs => Position.after ⟨p.line, p.column + 1⟩ cs

/-- Why a text could not be read as a document. -/
structure ParseError where
  fault : Fault
  position : Position
  deriving Repr, DecidableEq

/-- What is said of a text that could not be read. -/
def ParseError.message (e : ParseError) : String :=
  e.fault.message ++ ": line " ++ toString e.position.line ++ ", column " ++
    toString e.position.column

/-- The failure as seen in the document. -/
def Failure.inDocument (f : Failure) (document : List Char) : ParseError :=
  ⟨f.fault, Position.after {} (document.take (document.length - f.rest.length))⟩

/-- Why the characters at hand make no token: one of them does not fit, or
there are too few. -/
inductive Stop where
  | unexpected (rest : List Char)
  | ended
  deriving Repr, DecidableEq

/-- How the characters of a document end: with the document, at bytes that
are no character, inside the bytes of a character, or before a single byte
of a document whose characters have two. -/
inductive Ending where
  | complete
  | invalid
  | cut
  | odd
  deriving Repr, DecidableEq

/-- The failure of a token that starts at `token`. -/
def Stop.toFailure (stop : Stop) (ending : Ending) (token : List Char) : Failure :=
  match stop, ending with
  | .unexpected rest, _ => ⟨.invalidToken, rest⟩
  | .ended, .complete => ⟨.unclosedToken, token⟩
  | .ended, .odd => ⟨.unclosedToken, token⟩
  | .ended, .invalid => ⟨.invalidToken, []⟩
  | .ended, .cut => ⟨.partialCharacter, token⟩

end ImageSelect.Xml

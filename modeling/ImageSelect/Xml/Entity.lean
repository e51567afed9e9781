import ImageSelect.Xml.Reference

/-!
# Entities and values

What a document type declares that a reader needs: entities, and attributes
with their defaults.  Attribute values and the replacement texts of entities
are expanded here.

A document whose declarations cannot all be read, because some are elsewhere,
may refer to entities that are not declared, unless it stands alone.
-/

namespace ImageSelect.Xml

/-- What an entity stands for. -/
inductive Entity where
  | text (replacement : List Char)
  | external
  | unparsed
  deriving Repr, DecidableEq

/-- The declaration of an attribute of an element. -/
structure AttributeRule where
  element : List Char
  name : List Char
  isText : Bool
  isId : Bool := false
  default? : Option (List Char) := none
  deriving Repr, DecidableEq

/-- What a document type declares.  Declarations are no longer heeded once
some could not be read. -/
structure Dtd where
  entities : List (List Char × Entity) := []
  rules : List AttributeRule := []
  incomplete : Bool := false
  standalone : Bool := false
  heeded : Bool := true
  deriving Repr, DecidableEq

namespace Dtd

/-- Whether a reference to an entity that is not declared is a fault. -/
def isStrict (d : Dtd) : Bool :=
  !d.incomplete || d.standalone

/-- Declares an entity; the first declaration of a name counts. -/
def declare (d : Dtd) (name : List Char) (e : Entity) : Dtd :=
  { d with entities := d.entities ++ [(name, e)] }

/-- The declared attributes of an element. -/
def rulesOf (d : Dtd) (element : List Char) : List AttributeRule :=
  d.rules.filter fun rule => rule.element = element

/-- Declares an attribute.  One with a default, or an identifier, counts only
if it is the first of its name. -/
def addRule (d : Dtd) (rule : AttributeRule) : Dtd :=
  let known := (d.rulesOf rule.element).any fun r => r.name = rule.name
  if (rule.default?.isSome || rule.isId) && known then d
  else { d with rules := d.rules ++ [rule] }

/-- Whether an attribute of an element is a text, whose blanks all count. -/
def isText (d : Dtd) (element name : List Char) : Bool :=
  (((d.rulesOf element).find? fun r => r.name = name).map (·.isText)).getD true

end Dtd

/-- A fault in a value.  Its place is that of the token that holds the value,
or inside the value, where `rest?` is left. -/
structure ValueFailure where
  fault : Fault
  rest? : Option (List Char) := none
  deriving Repr, DecidableEq

/-- The failure of a value in a document: `token` and `place` are the document
from the token and from the value on. -/
def ValueFailure.toFailure (f : ValueFailure) (token place value : List Char) : Failure :=
  match f.rest? with
  | none => ⟨f.fault, token⟩
  | some rest => ⟨f.fault, place.drop (value.length - rest.length)⟩

namespace Value

/-- Adds a blank to a value whose last character stands first: one that is no
text starts with no blank and has no two in a row. -/
def addBlank (isText : Bool) (value : List Char) : List Char :=
  if !isText && (value.isEmpty || value.head? = some ' ') then value else ' ' :: value

/-- Adds a character that is written as such. -/
def addCharacter (isText : Bool) (value : List Char) (c : Char) : List Char :=
  match c, value with
  | '\n', _ | '\r', _ | '\t', _ | ' ', _ => addBlank isText value
  | c, value => c :: value

/-- Adds a character that is written by its number. -/
def addNumbered (isText : Bool) (value : List Char) (c : Char) : List Char :=
  if c = ' ' then addBlank isText value else c :: value

mutual

/-- Adds an entity to a value.  `active` are the entities that are being
expanded, and `depth` bounds how many more can be. -/
def addEntity (d : Dtd) (depth : Nat) (active : List (List Char)) (isText : Bool)
    (value name here : List Char) : Except ValueFailure (List Char) :=
  match d.entities.lookup name with
  | none => if d.isStrict then .error ⟨.undefinedEntity, none⟩ else .ok value
  | some e =>
    if active.contains name then .error ⟨.recursiveEntity, none⟩
    else
      match e, depth with
      | .unparsed, _ => .error ⟨.binaryEntity, some here⟩
      | .external, _ => .error ⟨.externalEntityInAttribute, some here⟩
      | .text replacement, depth + 1 =>
        (addPieces d depth (name :: active) isText value (Piece.ofValue replacement)).mapError
          fun f => { f with rest? := none }
      | .text _, 0 => .error ⟨.recursiveEntity, none⟩
  termination_by (depth, 0)

/-- Adds the parts of a text to a value. -/
def addPieces (d : Dtd) (depth : Nat) (active : List (List Char)) (isText : Bool)
    (value : List Char) : List Piece → Except ValueFailure (List Char)
  | [] => .ok value
  | .character c :: pieces => addPieces d depth active isText (addCharacter isText value c) pieces
  | .stopped .ended here :: _ => .error ⟨.invalidToken, some here⟩
  | .stopped (.unexpected rest) _ :: _ => .error ⟨.invalidToken, some rest⟩
  | .reference body here :: pieces =>
    match Reference.ofBody body with
    | .character (some c) =>
      addPieces d depth active isText (addNumbered isText value c) pieces
    | .character none => .error ⟨.badCharacterNumber, some here⟩
    | .entity name => do
      let value ← addEntity d depth active isText value name here
      addPieces d depth active isText value pieces
  termination_by pieces => (depth, pieces.length + 1)

end

/-- The value of an attribute that is written as `raw`. -/
def expand (d : Dtd) (active : List (List Char)) (isText : Bool) (raw : List Char) :
    Except ValueFailure (List Char) := do
  let pieces := Piece.joinLines (Piece.ofValue raw)
  let value ← addPieces d (d.entities.length + 1) active isText [] pieces
  return (if isText then value else value.dropWhile (· = ' ')).reverse

end Value

end ImageSelect.Xml

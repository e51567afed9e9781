import ImageSelect.Xml.Declaration
import ImageSelect.Xml.Entity
import ImageSelect.Xml.Token

/-!
# The prolog

What stands before the root: the XML declaration, and the document type
declaration with its declarations of entities, attributes, elements and
notations.  `PrologState` says what may come next; `step` goes on by one
token and collects what is declared.

Entities declared elsewhere are not read.  From the first reference to such
declarations on, those that follow no longer count, unless the document
stands alone.
-/

namespace ImageSelect.Xml

/-- An entity declaration being read: the name to declare, if it is to be
declared, and whether it is for use in declarations only. -/
structure EntityTarget where
  name : Option (List Char)
  isParameter : Bool
  deriving Repr, DecidableEq

/-- What may come next in a prolog. -/
inductive PrologState where
  | opening (isFirst : Bool)
  | beforeRoot
  | doctypeName
  | doctypeId
  | doctypePublic
  | doctypeSystem
  | doctypeSubset
  | doctypeEnd
  | subset
  | entityName
  | parameterName
  | entityValue (target : EntityTarget)
  | entityPublic (target : EntityTarget)
  | entitySystem (target : EntityTarget)
  | entityEnd (target : EntityTarget)
  | entityFormat (target : EntityTarget)
  | formatName
  | formatId
  | formatPublic
  | formatSystem
  | formatPublicEnd
  | attributeElement
  | attributeName (element : List Char)
  | attributeType (rule : AttributeRule)
  | choiceStart (rule : AttributeRule)
  | choice (rule : AttributeRule) (isFormat : Bool)
  | choiceNext (rule : AttributeRule) (isFormat : Bool)
  | attributeDefault (rule : AttributeRule)
  | attributeFixed (rule : AttributeRule)
  | elementName
  | contentStart
  | groupStart
  | mixedStart
  | mixedName
  | mixedNext
  | item (connectors : List (Option Char))
  | itemNext (connectors : List (Option Char))
  | declarationEnd
  deriving Repr, DecidableEq

namespace Prolog

/-- The fault of a token that may not come next. -/
def misplaced : Token → Fault
  | .parameterReference => .parameterReference
  | .declaration _ => .misplacedDeclaration
  | _ => .malformed

/-- Whether a character may be in a public identifier. -/
def isPublicIdChar (c : Char) : Bool :=
  c.isAlphanum || " \r\n-'()+,./:=?;!*#@$_%".toList.contains c

/-- Checks a public identifier, of which `here` is the document from its
quote on. -/
def checkPublicId (text here : List Char) : Except Failure Unit :=
  let good := text.takeWhile isPublicIdChar
  if good.length = text.length then .ok ()
  else .error ⟨.illegalPublicId, here.drop (1 + good.length)⟩

/-- The text of a reference. -/
def referenceText (body : List Char) : List Char :=
  '&' :: body ++ [';']

/-- The replacement text that an entity value gives: numbers are replaced by
their characters, and references to entities are kept. -/
def replacement : List Piece → Except ValueFailure (List Char)
  | [] => .ok []
  | .character '\r' :: pieces => (replacement pieces).map ('\n' :: ·)
  | .character c :: pieces => (replacement pieces).map (c :: ·)
  | .reference ('#' :: digits) here :: pieces =>
    match Reference.ofBody ('#' :: digits) with
    | .character (some c) => (replacement pieces).map (c :: ·)
    | _ => .error ⟨.badCharacterNumber, some here⟩
  | .reference body _ :: pieces => (replacement pieces).map (referenceText body ++ ·)
  | .stopped .ended here :: _ => .error ⟨.invalidToken, some here⟩
  | .stopped (.unexpected rest) here :: _ =>
    match here, rest with
    | '%' :: more, _ =>
      match Token.readPercent more with
      | .ok (.parameterReference, _) => .error ⟨.parameterReference, some here⟩
      | .ok (_, after) => .error ⟨.invalidToken, some after⟩
      | .error .ended => .error ⟨.invalidToken, some here⟩
      | .error (.unexpected after) => .error ⟨.invalidToken, some after⟩
    | _, rest => .error ⟨.invalidToken, some rest⟩

/-- The value of an entity that is written as `raw`. -/
def entityText (raw here : List Char) : Except Failure (List Char) :=
  (replacement (Piece.joinLines (Piece.ofEntity raw))).mapError
    fun f => f.toFailure here (here.drop 1) raw

/-- Declares the entity of a declaration that has been read. -/
def declare (d : Dtd) (target : EntityTarget) (e : Entity) : Dtd :=
  match target.name with
  | some name => d.declare name e
  | none => d

/-- Ends an attribute declaration. -/
def addRule (d : Dtd) (rule : AttributeRule) : Dtd :=
  if d.heeded then d.addRule rule else d

/-- Ends an attribute declaration that has a default. -/
def addDefault (d : Dtd) (rule : AttributeRule) (raw here : List Char) : Except Failure Dtd :=
  if d.heeded then
    match Value.expand d [] rule.isText raw with
    | .ok value => .ok (d.addRule { rule with default? := some value })
    | .error f => .error (f.toFailure here (here.drop 1) raw)
  else .ok d

/-- The type that a keyword gives to an attribute; `none` for no type. -/
def typed? (rule : AttributeRule) (word : List Char) : Option AttributeRule :=
  match String.ofList word with
  | "CDATA" => some { rule with isText := true }
  | "ID" => some { rule with isId := true }
  | "IDREF" | "IDREFS" | "ENTITY" | "ENTITIES" | "NMTOKEN" | "NMTOKENS" => some rule
  | _ => none

/-- Where a declaration goes on after its keyword. -/
def afterKeyword? (word : List Char) : Option PrologState :=
  match String.ofList word with
  | "ENTITY" => some .entityName
  | "ATTLIST" => some .attributeElement
  | "ELEMENT" => some .elementName
  | "NOTATION" => some .formatName
  | _ => none

/-- The text of a token that is a name, of the kinds an element can have. -/
def elementName? : Token → Option (List Char)
  | .name text | .qualifiedName text => some text
  | _ => none

/-- Reads the XML declaration. -/
def readDeclaration (d : Dtd) (body here : List Char) : Except Failure Dtd :=
  match Declaration.read body with
  | .ok declaration => .ok { d with standalone := declaration.standalone }
  | .error rest =>
    .error ⟨.malformedDeclaration, (here.drop 5).drop (body.length - rest.length)⟩

/-- Goes on inside a content model by a connector between its items. -/
def connect (connectors : List (Option Char)) (c : Char) : Option PrologState :=
  match connectors with
  | none :: outer => some (.item (some c :: outer))
  | some d :: outer => if d = c then some (.item (some c :: outer)) else none
  | [] => none

/-- Goes on inside a content model. -/
def stepContent : PrologState → Token → Option PrologState
  | .contentStart, .name text =>
    if text = "EMPTY".toList || text = "ANY".toList then some .declarationEnd else none
  | .contentStart, .openParen => some .groupStart
  | .groupStart, .keyword text => if text = "PCDATA".toList then some .mixedStart else none
  | .groupStart, .openParen => some (.item [none, none])
  | .groupStart, .name _ | .groupStart, .qualifiedName _ | .groupStart, .repeatedName _ =>
    some (.itemNext [none])
  | .mixedStart, .closeParen none | .mixedStart, .closeParen (some '*') => some .declarationEnd
  | .mixedStart, .bar | .mixedNext, .bar => some .mixedName
  | .mixedName, .name _ | .mixedName, .qualifiedName _ => some .mixedNext
  | .mixedNext, .closeParen (some '*') => some .declarationEnd
  | .item connectors, .openParen => some (.item (none :: connectors))
  | .item connectors, .name _ | .item connectors, .qualifiedName _
  | .item connectors, .repeatedName _ => some (.itemNext connectors)
  | .itemNext [_], .closeParen _ => some .declarationEnd
  | .itemNext (_ :: outer), .closeParen _ => some (.itemNext outer)
  | .itemNext connectors, .comma => connect connectors ','
  | .itemNext connectors, .bar => connect connectors '|'
  | _, _ => none

/-- Goes on by one token, of which `here` is the document from it on. -/
def step (d : Dtd) (state : PrologState) (t : Token) (here : List Char) :
    Except Failure (PrologState × Dtd) :=
  let refused : Except Failure (PrologState × Dtd) := .error ⟨misplaced t, here⟩
  match state, t with
  | .opening _, .blank => .ok (.opening false, d)
  | state, .blank => .ok (state, d)
  | .opening true, .declaration body =>
    (readDeclaration d body here).map fun d => (.opening false, d)
  | .opening _, .comment | .opening _, .instruction => .ok (.opening false, d)
  | .opening _, .declarationStart word =>
    if word = "DOCTYPE".toList then .ok (.doctypeName, d) else refused
  | .beforeRoot, .comment | .beforeRoot, .instruction => .ok (state, d)
  | .doctypeName, .name _ | .doctypeName, .qualifiedName _ => .ok (.doctypeId, d)
  | .doctypeId, .openBracket | .doctypeSubset, .openBracket => .ok (.subset, d)
  | .doctypeId, .close | .doctypeSubset, .close | .doctypeEnd, .close => .ok (.beforeRoot, d)
  | .doctypeId, .name text =>
    if text = "SYSTEM".toList then .ok (.doctypeSystem, d)
    else if text = "PUBLIC".toList then .ok (.doctypePublic, d)
    else refused
  | .doctypePublic, .literal _ text =>
    (checkPublicId text here).map fun _ => (.doctypeSystem, d)
  | .doctypeSystem, .literal _ _ => .ok (.doctypeSubset, { d with incomplete := true })
  | .subset, .comment | .subset, .instruction => .ok (state, d)
  | .subset, .closeBracket => .ok (.doctypeEnd, d)
  | .subset, .parameterReference =>
    .ok (state, { d with incomplete := true, heeded := d.standalone })
  | .subset, .declarationStart word =>
    match afterKeyword? word with
    | some next => .ok (next, d)
    | none => refused
  | .entityName, .percent => .ok (.parameterName, d)
  | .entityName, .name text =>
    let isNew := (Reference.predefined? text).isNone && (d.entities.lookup text).isNone
    .ok (.entityValue ⟨if d.heeded && isNew then some text else none, false⟩, d)
  | .parameterName, .name _ => .ok (.entityValue ⟨none, true⟩, d)
  | .entityValue target, .name text =>
    if text = "SYSTEM".toList then .ok (.entitySystem target, d)
    else if text = "PUBLIC".toList then .ok (.entityPublic target, d)
    else refused
  | .entityValue target, .literal _ raw =>
    if d.heeded then
      (entityText raw here).map fun text => (.declarationEnd, declare d target (.text text))
    else .ok (.declarationEnd, d)
  | .entityPublic target, .literal _ text =>
    (checkPublicId text here).map fun _ => (.entitySystem target, d)
  | .entitySystem target, .literal _ _ => .ok (.entityEnd target, d)
  | .entityEnd target, .close => .ok (.subset, declare d target .external)
  | .entityEnd target, .name text =>
    if !target.isParameter && text = "NDATA".toList then .ok (.entityFormat target, d) else refused
  | .entityFormat target, .name _ => .ok (.declarationEnd, declare d target .unparsed)
  | .formatName, .name _ => .ok (.formatId, d)
  | .formatId, .name text =>
    if text = "SYSTEM".toList then .ok (.formatSystem, d)
    else if text = "PUBLIC".toList then .ok (.formatPublic, d)
    else refused
  | .formatPublic, .literal _ text =>
    (checkPublicId text here).map fun _ => (.formatPublicEnd, d)
  | .formatSystem, .literal _ _ | .formatPublicEnd, .literal _ _ => .ok (.declarationEnd, d)
  | .formatPublicEnd, .close => .ok (.subset, d)
  | .attributeElement, t =>
    match elementName? t with
    | some element => .ok (.attributeName element, d)
    | none => refused
  | .attributeName _, .close => .ok (.subset, d)
  | .attributeName element, t =>
    match elementName? t with
    | some name => .ok (.attributeType ⟨element, name, false, false, none⟩, d)
    | none => refused
  | .attributeType rule, .name text =>
    if text = "NOTATION".toList then .ok (.choiceStart rule, d)
    else
      match typed? rule text with
      | some rule => .ok (.attributeDefault rule, d)
      | none => refused
  | .attributeType rule, .openParen => .ok (.choice rule false, d)
  | .choiceStart rule, .openParen => .ok (.choice rule true, d)
  | .choice rule isFormat, .name _ => .ok (.choiceNext rule isFormat, d)
  | .choice rule false, .qualifiedName _ | .choice rule false, .nameToken _ =>
    .ok (.choiceNext rule false, d)
  | .choiceNext rule _, .closeParen none => .ok (.attributeDefault rule, d)
  | .choiceNext rule isFormat, .bar => .ok (.choice rule isFormat, d)
  | .attributeDefault rule, .keyword text =>
    if text = "IMPLIED".toList || text = "REQUIRED".toList then
      .ok (.attributeName rule.element, addRule d rule)
    else if text = "FIXED".toList then .ok (.attributeFixed rule, d)
    else refused
  | .attributeDefault rule, .literal _ raw | .attributeFixed rule, .literal _ raw =>
    (addDefault d rule raw here).map fun d => (.attributeName rule.element, d)
  | .elementName, t =>
    match elementName? t with
    | some _ => .ok (.contentStart, d)
    | none => refused
  | .declarationEnd, .close => .ok (.subset, d)
  | state, t =>
    match stepContent state t with
    | some next => .ok (next, d)
    | none => refused

/-- Whether the root may come next. -/
def mayStartRoot : PrologState → Bool
  | .opening _ | .beforeRoot => true
  | _ => false

/-- Reads the prolog: what it declares, and the document from the root on.
No document has more tokens than characters, which `bound` counts. -/
def read (bound : Nat) (ending : Ending) (d : Dtd) (state : PrologState) (s : List Char) :
    Except Failure (Dtd × List Char) :=
  match s, bound with
  | [], _ =>
    .error (if ending = .complete then ⟨.noElement, []⟩ else Stop.ended.toFailure ending [])
  | _, 0 => .error ⟨.noElement, s⟩
  | c :: rest, bound + 1 =>
    match Token.read ending c rest with
    | .error stop => .error (stop.toFailure ending s)
    | .ok (.element, _) =>
      if mayStartRoot state then .ok (d, s) else .error ⟨.malformed, s⟩
    | .ok (t, rest) => do
      let (state, d) ← step d state t s
      read bound ending d state rest

end Prolog

end ImageSelect.Xml

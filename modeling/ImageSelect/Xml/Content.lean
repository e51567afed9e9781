import ImageSelect.Xml.Element
import ImageSelect.Xml.Namespace

/-!
# Content

The inside of elements.  Elements that are open are kept on a stack, each
with the elements found in it so far; a reference to an entity is read as the
content that its replacement text is.
-/

namespace ImageSelect.Xml

/-- An element whose end tag has not come. -/
structure OpenElement where
  rawName : List Char
  tag : ExpandedTag
  children : List Element := []

/-- Where a reader of content stands: the bindings outside of all open
elements, the open elements, the innermost first, and the elements found
outside of them, the last one first. -/
structure Place where
  outer : Scope
  stack : List OpenElement := []
  found : List Element := []

namespace Place

/-- The bindings at a place. -/
def scope (p : Place) : Scope :=
  match p.stack with
  | [] => p.outer
  | top :: _ => top.tag.scope

/-- Adds an element. -/
def add (p : Place) (e : Element) : Place :=
  match p.stack with
  | [] => { p with found := e :: p.found }
  | top :: below => { p with stack := { top with children := e :: top.children } :: below }

/-- Adds the elements of an entity. -/
def addAll (p : Place) (es : List Element) : Place :=
  es.foldl add p

end Place

/-- The element of a tag. -/
def ExpandedTag.element (t : ExpandedTag) (children : List Element) : Element :=
  ⟨String.ofList t.name,
    t.attributes.map fun (name, value) => (String.ofList name, String.ofList value), children⟩

/-- One step of reading: where it leads, and what is left. -/
structure ContentStep where
  place : Place
  rest : List Char

namespace Content

/-- Reads a start tag. -/
def readStart (d : Dtd) (active : List (List Char)) (ending : Ending) (p : Place)
    (here rest : List Char) : Except Failure ContentStep := do
  let (tag, rest) ← (readTag rest).mapError (·.toFailure ending here)
  let expanded ← tag.expand d active p.scope here
  if tag.isEmpty then return ⟨p.add (expanded.element []), rest⟩
  else return ⟨{ p with stack := ⟨tag.name, expanded, []⟩ :: p.stack }, rest⟩

/-- Reads an end tag, which must be that of the innermost open element. -/
def readEnd (ending : Ending) (p : Place) (here rest : List Char) :
    Except Failure ContentStep := do
  let (name, after) ← (readEndTag rest).mapError (·.toFailure ending here)
  match p.stack with
  | [] => throw ⟨.asynchronousEntity, here⟩
  | top :: below =>
    if name != top.rawName then throw ⟨.mismatchedTag, rest⟩
    return ⟨({ p with stack := below } : Place).add (top.tag.element top.children.reverse), after⟩

/-- Reads what follows `<!`. -/
def readBang (ending : Ending) (here rest : List Char) : Except Failure (List Char) :=
  match rest with
  | '-' :: rest => (readCommentStart rest).mapError (·.toFailure ending here)
  | '[' :: rest => do
    let rest ← (readSectionStart ending rest).mapError (·.toFailure ending here)
    match readSection rest, ending with
    | .ok rest, _ => return rest
    | .error _, .invalid => throw ⟨.invalidToken, []⟩
    | .error _, .cut => throw ⟨.partialCharacter, []⟩
    | .error rest, _ => throw ⟨.unclosedCData, rest⟩
  | [] => .error (Stop.ended.toFailure ending here)
  | rest => .error ⟨.invalidToken, rest⟩

/-- Reads a processing instruction. -/
def readPi (ending : Ending) (here rest : List Char) : Except Failure (List Char) :=
  match readInstruction rest with
  | .error stop => .error (stop.toFailure ending here)
  | .ok (.declaration _, _) => .error ⟨.misplacedDeclaration, here⟩
  | .ok (.other, rest) => .ok rest

/-- The failure at the end of the text, if it may not end at a place. -/
def failureAtEnd (isEntity : Bool) (ending : Ending) (p : Place) : Option Failure :=
  if ending != .complete then some (Stop.ended.toFailure ending [])
  else if !isEntity then some ⟨.noElement, []⟩
  else if p.stack.isEmpty then none
  else some ⟨.asynchronousEntity, []⟩

/-- What is being read: the root, or the replacement text of the innermost of
the active entities. -/
structure Context where
  dtd : Dtd
  ending : Ending := .complete
  active : List (List Char) := []

/-- Whether a text is an entity's. -/
def Context.isEntity (c : Context) : Bool :=
  !c.active.isEmpty

mutual

/-- Reads a reference: the elements that it stands for, and what follows. -/
def readReference (c : Context) (depth : Nat) (p : Place) (here rest : List Char) :
    Except Failure ContentStep :=
  match Reference.readBody .start [] rest with
  | .error stop => .error (stop.toFailure c.ending here)
  | .ok (body, rest) =>
    match Reference.ofBody body with
    | .character (some _) => .ok ⟨p, rest⟩
    | .character none => .error ⟨.badCharacterNumber, here⟩
    | .entity name =>
      let unresolved : Fault := .unresolvedEntity ('&' :: name ++ [';'])
      match c.dtd.entities.lookup name with
      | none =>
        .error ⟨if c.dtd.isStrict then .undefinedEntity else unresolved, here⟩
      | some e =>
        if c.active.contains name then .error ⟨.recursiveEntity, here⟩
        else
          match e, depth with
          | .unparsed, _ => .error ⟨.binaryEntity, here⟩
          | .external, _ => .error ⟨unresolved, here⟩
          | .text replacement, depth + 1 =>
            let inside : Context := { dtd := c.dtd, active := name :: c.active }
            match read inside depth (replacement.length + 1) { outer := p.scope } replacement with
            | .ok step => .ok ⟨p.addAll step.place.found.reverse, rest⟩
            | .error f => .error ⟨f.fault, here⟩
          | .text _, 0 => .error ⟨.recursiveEntity, here⟩
  termination_by (depth, 0, 1)

/-- Reads content: in the document up to the end of the root, in an entity up
to its end.  No text has more tokens than characters, which `bound` counts. -/
def read (c : Context) (depth bound : Nat) (p : Place) (s : List Char) :
    Except Failure ContentStep :=
  if !c.isEntity && p.stack.isEmpty && !p.found.isEmpty then .ok ⟨p, s⟩
  else
    match bound with
    | 0 => .error ⟨.noElement, s⟩
    | bound + 1 =>
      match s with
      | [] =>
        match failureAtEnd c.isEntity c.ending p with
        | some f => .error f
        | none => .ok ⟨p, []⟩
      | ['\r'] =>
        match failureAtEnd c.isEntity c.ending p with
        | some f => .error (if c.ending = .complete then { f with rest := s } else f)
        | none => .ok ⟨p, []⟩
      | '<' :: '/' :: rest => do
        let step ← readEnd c.ending p s rest
        read c depth bound step.place step.rest
      | '<' :: '!' :: rest => do
        let rest ← readBang c.ending s rest
        read c depth bound p rest
      | '<' :: '?' :: rest => do
        let rest ← readPi c.ending s rest
        read c depth bound p rest
      | '<' :: rest => do
        let step ← readStart c.dtd c.active c.ending p s rest
        read c depth bound step.place step.rest
      | '&' :: rest => do
        let step ← readReference c depth p s rest
        read c depth bound step.place step.rest
      | ']' :: ']' :: '>' :: rest => .error ⟨.invalidToken, '>' :: rest⟩
      | _ :: rest => read c depth bound p rest
  termination_by (depth, 1, bound)

end

end Content

end ImageSelect.Xml

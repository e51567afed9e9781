import ImageSelect.Xml.Reference

/-!
# Markup

Tags, comments, processing instructions and character data sections.  Each
function reads what follows the characters that tell its kind, and gives what
it read and what follows, or says which character does not fit.
-/

namespace ImageSelect.Xml

/-! ## Names -/

/-- Reads a name with at most one colon, which has a name on both sides. -/
def readQualifiedName (s : List Char) : Except Stop (List Char × List Char) :=
  match s with
  | [] => .error .ended
  | c :: _ =>
    if isNameStart c then
      let (first, rest) := s.span isNameChar
      match rest with
      | ':' :: [] => .error .ended
      | ':' :: d :: more =>
        if isNameStart d then
          let (second, rest) := (d :: more).span isNameChar
          match rest with
          | ':' :: rest => .error (.unexpected (':' :: rest))
          | rest => .ok (first ++ ':' :: second, rest)
        else .error (.unexpected (d :: more))
      | rest => .ok (first, rest)
    else .error (.unexpected s)

/-! ## Comments, instructions, sections -/

/-- Reads a comment up to its end. -/
def readComment : List Char → Except Stop (List Char)
  | '-' :: '-' :: '>' :: rest => .ok rest
  | '-' :: '-' :: c :: rest => .error (.unexpected (c :: rest))
  | _ :: rest => readComment rest
  | [] => .error .ended

/-- Reads what follows the first hyphen of a comment. -/
def readCommentStart : List Char → Except Stop (List Char)
  | '-' :: rest => readComment rest
  | [] => .error .ended
  | rest => .error (.unexpected rest)

/-- What an instruction is for: the XML declaration looks like one. -/
inductive Instruction where
  | declaration (body : List Char)
  | other
  deriving Repr, DecidableEq

/-- Reads the text of an instruction up to its end. -/
def readInstructionText (text : List Char) : List Char → Except Stop (List Char × List Char)
  | '?' :: '>' :: rest => .ok (text.reverse, rest)
  | c :: rest => readInstructionText (c :: text) rest
  | [] => .error .ended

/-- Reads an instruction.  Its target may not be a capital spelling of `xml`. -/
def readInstruction (s : List Char) : Except Stop (Instruction × List Char) :=
  match s with
  | [] => .error .ended
  | c :: _ =>
    if isNameStart c then
      let (target, rest) := s.span isNameChar
      let reserved := target.map Char.toLower = "xml".toList
      let refused := reserved && target != "xml".toList
      let kind (text : List Char) : Instruction :=
        if reserved then .declaration text else .other
      match rest with
      | [] => .error .ended
      | '?' :: more =>
        if refused then .error (.unexpected rest)
        else
          match more with
          | '>' :: rest => .ok (kind [], rest)
          | [] => .error .ended
          | more => .error (.unexpected more)
      | c :: more =>
        if isBlank c then
          if refused then .error (.unexpected rest)
          else (readInstructionText [c] more).map fun (text, rest) => (kind text, rest)
        else .error (.unexpected rest)
    else .error (.unexpected s)

/-- Reads the keyword that opens a character data section.  A document that
ends before it holds as many bytes as the keyword ends too early, whatever
those bytes are. -/
def readSectionStart (ending : Ending) (s : List Char) : Except Stop (List Char) :=
  let rec expect : List Char → List Char → Except Stop (List Char)
    | [], rest => .ok rest
    | _ :: _, [] => .error .ended
    | k :: ks, c :: rest => if k = c then expect ks rest else .error (.unexpected (c :: rest))
  if ending = .complete && (s.take 6).foldl (fun bytes c => bytes + c.utf8Size) 0 < 6 then
    .error .ended
  else expect "CDATA[".toList s

/-- Reads a character data section up to its end.  Of an open section the
part is given that could still be its end. -/
def readSection : List Char → Except (List Char) (List Char)
  | ']' :: ']' :: '>' :: rest => .ok rest
  | [']', ']'] => .error [']', ']']
  | [']'] => .error [']']
  | ['\r'] => .error ['\r']
  | _ :: rest => readSection rest
  | [] => .error []

/-! ## Tags -/

/-- An attribute as written, with the document from its name and from its
value on. -/
structure RawAttribute where
  name : List Char
  value : List Char
  nameAt : List Char
  valueAt : List Char
  deriving Repr, DecidableEq

/-- A start tag. -/
structure Tag where
  name : List Char
  attributes : List RawAttribute := []
  isEmpty : Bool := false
  deriving Repr, DecidableEq

/-- Reads an attribute value up to its quote. -/
def readValue (quote : Char) (reference : Option ReferenceState) (value : List Char) :
    List Char → Except Stop (List Char × List Char)
  | [] => .error .ended
  | c :: rest =>
    match reference with
    | some state =>
      if c = ';' && state.canEnd then readValue quote none (c :: value) rest
      else
        match state.next? c with
        | some state => readValue quote (some state) (c :: value) rest
        | none => .error (.unexpected (c :: rest))
    | none =>
      if c = quote then .ok (value.reverse, rest)
      else if c = '<' then .error (.unexpected (c :: rest))
      else if c = '&' then readValue quote (some .start) (c :: value) rest
      else readValue quote none (c :: value) rest

/-- Reads an attribute. -/
def readAttribute (s : List Char) : Except Stop (RawAttribute × List Char) := do
  let (name, rest) ← readQualifiedName s
  match rest.dropWhile isBlank with
  | [] => throw .ended
  | '=' :: rest =>
    match rest.dropWhile isBlank with
    | [] => throw .ended
    | quote :: rest =>
      if quote = '"' || quote = '\'' then
        let valueAt := rest
        let (value, rest) ← readValue quote none [] valueAt
        return (⟨name, value, s, valueAt⟩, rest)
      else throw (.unexpected (quote :: rest))
  | rest => throw (.unexpected rest)

/-- Reads the end of a start tag, if it is there. -/
def readTagEnd : List Char → Option (Except Stop (Bool × List Char))
  | '>' :: rest => some (.ok (false, rest))
  | '/' :: '>' :: rest => some (.ok (true, rest))
  | ['/'] => some (.error .ended)
  | '/' :: rest => some (.error (.unexpected rest))
  | [] => some (.error .ended)
  | _ => none

/-- Reads attributes, each after a blank, up to the end of the tag.  No tag
has more attributes than characters, which `bound` counts. -/
def readAttributes (bound : Nat) (tag : Tag) (s : List Char) : Except Stop (Tag × List Char) :=
  match readTagEnd s with
  | some (.ok (isEmpty, rest)) =>
    .ok ({ tag with attributes := tag.attributes.reverse, isEmpty }, rest)
  | some (.error stop) => .error stop
  | none =>
    match s, bound with
    | c :: rest, bound + 1 =>
      if isBlank c then
        let next := rest.dropWhile isBlank
        match readTagEnd next with
        | some _ => readAttributes bound tag next
        | none => do
          let (a, rest) ← readAttribute next
          readAttributes bound { tag with attributes := a :: tag.attributes } rest
      else .error (.unexpected s)
    | _, _ => .error .ended

/-- Reads a start tag. -/
def readTag (s : List Char) : Except Stop (Tag × List Char) := do
  let (name, rest) ← readQualifiedName s
  readAttributes (rest.length + 1) { name } rest

/-- Reads an end tag: the name in it. -/
def readEndTag (s : List Char) : Except Stop (List Char × List Char) :=
  match s with
  | [] => .error .ended
  | c :: _ =>
    if isNameStart c then
      let (name, rest) := s.span fun c => isNameChar c || c = ':'
      match rest.dropWhile isBlank with
      | [] => .error .ended
      | '>' :: rest => .ok (name, rest)
      | rest => .error (.unexpected rest)
    else .error (.unexpected s)

end ImageSelect.Xml

import ImageSelect.Xml.CharClass

/-!
# The XML declaration

`<?xml version="1.0" encoding="…" standalone="…"?>` at the start of a document:
a version, then perhaps an encoding, then perhaps whether the document stands
alone.  The functions work on the text between `<?xml` and `?>`; an error is
the part of that text from the offending character on.
-/

namespace ImageSelect.Xml

/-- What a declaration says. -/
structure Declaration where
  encoding : Option String := none
  encodingAt : List Char := []
  standalone : Bool := false
  deriving Repr, DecidableEq

namespace Declaration

/-- An item `name="value"`, with the text from its name and its value on. -/
structure Item where
  name : List Char
  nameAt : List Char
  value : List Char
  valueAt : List Char

/-- Whether a character may be in a value. -/
def isValueChar (c : Char) : Bool :=
  c.isAlphanum || c = '.' || c = '-' || c = '_'

/-- Reads a name up to its equals sign. -/
def readName (name : List Char) : List Char → Except (List Char) (List Char × List Char)
  | [] => .error []
  | '=' :: rest => .ok (name.reverse, rest)
  | c :: rest =>
    if isBlank c then
      match rest.dropWhile isBlank with
      | '=' :: rest => .ok (name.reverse, rest)
      | rest => .error rest
    else if c.toNat < 0x80 then readName (c :: name) rest
    else .error (c :: rest)

/-- Reads a value up to its quote. -/
def readValue (quote : Char) (value : List Char) :
    List Char → Except (List Char) (List Char × List Char)
  | [] => .error []
  | c :: rest =>
    if c = quote then .ok (value.reverse, rest)
    else if isValueChar c then readValue quote (c :: value) rest
    else .error (c :: rest)

/-- Reads the next item, if there is one. -/
def readItem (body : List Char) : Except (List Char) (Option Item × List Char) :=
  match body with
  | [] => .ok (none, [])
  | c :: rest =>
    if isBlank c then
      match rest.dropWhile isBlank with
      | [] => .ok (none, [])
      | '=' :: rest => .error ('=' :: rest)
      | nameAt => do
        let (name, rest) ← readName [] nameAt
        match rest.dropWhile isBlank with
        | quote :: valueAt =>
          if quote = '"' || quote = '\'' then
            let (value, rest) ← readValue quote [] valueAt
            return (some ⟨name, nameAt, value, valueAt⟩, rest)
          else throw (quote :: valueAt)
        | [] => throw []
    else .error body

/-- Reads whether the document stands alone: the last item. -/
def readStandalone (d : Declaration) (item : Item) (rest : List Char) :
    Except (List Char) Declaration :=
  if item.name != "standalone".toList then .error item.nameAt
  else if item.value != "yes".toList && item.value != "no".toList then .error item.valueAt
  else
    match rest.dropWhile isBlank with
    | [] => .ok { d with standalone := item.value = "yes".toList }
    | rest => .error rest

/-- Reads what may follow the version. -/
def readAfterVersion (item : Item) (rest : List Char) : Except (List Char) Declaration :=
  if item.name = "encoding".toList then
    match item.value with
    | first :: _ =>
      if first.isAlpha then do
        let d : Declaration :=
          { encoding := some (String.ofList item.value), encodingAt := item.valueAt }
        let (next, rest) ← readItem rest
        match next with
        | none => return d
        | some item => readStandalone d item rest
      else .error item.valueAt
    | [] => .error item.valueAt
  else readStandalone {} item rest

/-- Reads the text of a declaration. -/
def read (body : List Char) : Except (List Char) Declaration := do
  let (version, rest) ← readItem body
  match version with
  | none => throw body
  | some version =>
    if version.name != "version".toList then throw version.nameAt
    let (item, rest) ← readItem rest
    match item with
    | none => return {}
    | some item => readAfterVersion item rest

end Declaration

end ImageSelect.Xml

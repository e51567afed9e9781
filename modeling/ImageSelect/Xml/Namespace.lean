import ImageSelect.Xml.Entity
import ImageSelect.Xml.Markup

/-!
# Namespaces

A prefix is bound to a namespace by an attribute `xmlns:prefix`, and names
without prefix by `xmlns`.  A name in a namespace is written with the
namespace in braces in front.
-/

namespace ImageSelect.Xml

/-- The bindings of prefixes, the innermost first; the empty prefix is that
of names without one. -/
abbrev Scope := List (List Char × List Char)

namespace Scope

/-- The namespace of names such as `xml:lang`. -/
def xmlNamespace : List Char := "http://www.w3.org/XML/1998/namespace".toList

/-- The namespace of the binding attributes. -/
def bindingNamespace : List Char := "http://www.w3.org/2000/xmlns/".toList

/-- The bindings that every document has. -/
def initial : Scope := [("xml".toList, xmlNamespace)]

/-- The namespace of a prefix. -/
def lookup? (scope : Scope) (pre : List Char) : Option (List Char) :=
  (scope.lookup pre).filter fun uri => !uri.isEmpty

/-- Binds a prefix.  A closing brace would end a namespace too early. -/
def bind (scope : Scope) (pre uri : List Char) : Except Fault Scope :=
  if uri.isEmpty && !pre.isEmpty then .error .undeclaredPrefix
  else if pre = "xmlns".toList then .error .reservedPrefixXmlns
  else if uri.contains '\x7d' then .error .malformed
  else if pre = "xml".toList && uri != xmlNamespace then .error .reservedPrefixXml
  else if pre != "xml".toList && (uri = xmlNamespace || uri = bindingNamespace) then
    .error .reservedNamespace
  else .ok ((pre, uri) :: scope)

end Scope

/-- The prefix that an attribute binds, if it binds one. -/
def boundPrefix? (name : List Char) : Option (List Char) :=
  if name = "xmlns".toList then some []
  else if "xmlns:".toList.isPrefixOf name then some (name.drop 6)
  else none

/-- The prefix of a name and what follows it. -/
def splitName (name : List Char) : List Char × List Char :=
  match name.span (· != ':') with
  | (pre, ':' :: second) => (pre, second)
  | (whole, _) => ([], whole)

/-- The name of something in a namespace. -/
def inNamespace (uri second : List Char) : List Char :=
  '\x7b' :: uri ++ '\x7d' :: second

/-- What a start tag says once its attributes are expanded. -/
structure ExpandedTag where
  name : List Char
  attributes : List (List Char × List Char)
  scope : Scope

/-- The attributes of a tag while they are expanded: the names that have come,
and the attributes that bind no prefix, the last one first. -/
structure TagState where
  seen : List (List Char) := []
  attributes : List (List Char × List Char) := []
  scope : Scope

namespace Tag

/-- Adds an attribute with its value. -/
def add (s : TagState) (name value : List Char) : Except Fault TagState :=
  match boundPrefix? name with
  | some pre =>
    (s.scope.bind pre value).map fun scope => { s with scope, seen := name :: s.seen }
  | none => .ok { s with seen := name :: s.seen, attributes := (name, value) :: s.attributes }

/-- Adds the attributes that are written in a tag, of which `here` is the
document from it on. -/
def addWritten (d : Dtd) (active : List (List Char)) (element here : List Char) :
    TagState → List RawAttribute → Except Failure TagState
  | s, [] => .ok s
  | s, a :: as => do
    if s.seen.contains a.name then throw ⟨.duplicateAttribute, a.nameAt⟩
    let value ← (Value.expand d active (d.isText element a.name) a.value).mapError
      fun f => f.toFailure here a.valueAt a.value
    let s ← (add s a.name value).mapError fun fault => ⟨fault, here⟩
    addWritten d active element here s as

/-- Adds the attributes that have defaults and are not written. -/
def addDefaults : TagState → List AttributeRule → Except Fault TagState
  | s, [] => .ok s
  | s, rule :: rules =>
    match rule.default? with
    | some value =>
      if s.seen.contains rule.name then addDefaults s rules
      else do
        let s ← add s rule.name value
        addDefaults s rules
    | none => addDefaults s rules

/-- Puts attributes with a prefix into its namespace.  Two of them may not
come to the same name. -/
def resolve (scope : Scope) (taken : List (List Char)) :
    List (List Char × List Char) → Except Fault (List (List Char × List Char))
  | [] => .ok []
  | (name, value) :: more =>
    match splitName name with
    | ([], _) => (resolve scope taken more).map ((name, value) :: ·)
    | (pre, second) =>
      match scope.lookup? pre with
      | none => .error .unboundPrefix
      | some uri =>
        let full := inNamespace uri second
        if taken.contains full then .error .duplicateAttribute
        else (resolve scope (full :: taken) more).map ((full, value) :: ·)

/-- The name of an element in its namespace. -/
def resolveElement (scope : Scope) (name : List Char) : Except Fault (List Char) :=
  match splitName name, scope.lookup? (splitName name).1 with
  | (_, second), some uri => .ok (inNamespace uri second)
  | ([], second), none => .ok second
  | _, none => .error .unboundPrefix

/-- Expands the attributes and the names of a tag. -/
def expand (d : Dtd) (active : List (List Char)) (scope : Scope) (tag : Tag)
    (here : List Char) : Except Failure ExpandedTag := do
  let s ← addWritten d active tag.name here { scope } tag.attributes
  let rest : Except Fault ExpandedTag := do
    let s ← addDefaults s (d.rulesOf tag.name)
    let attributes ← resolve s.scope [] s.attributes.reverse
    let name ← resolveElement s.scope tag.name
    return ⟨name, attributes, s.scope⟩
  rest.mapError fun fault => ⟨fault, here⟩

end Tag

end ImageSelect.Xml

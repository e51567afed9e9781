import ImageSelect.Filter.Tree
import ImageSelect.Unicode.Lowercase

/-!
# Evaluating filters

A tree accepts or rejects a value.  Children are asked from left to right,
and `and` and `or` ask no further once the answer is clear.  A feature that
a location does not have rejects it without asking the child; so does a
metadata value that is empty or not there.

A tree is meant for values of the type that its root consumes.  With another
value an evaluation breaks off where a predicate cannot look at what it gets,
and with any value where a number is needed that cannot be written.
-/

namespace ImageSelect.Filter

/-- A question to a predicate, which may break off. -/
abbrev Inquiry := ExceptT EvalError Run

/-! ## Tests -/

/-- Whether the first text stands somewhere in the second. -/
def occursIn (part : List Char) : List Char → Bool
  | [] => part.isEmpty
  | c :: rest => part.isPrefixOf (c :: rest) || occursIn part rest

/-- Whether a test passes, given the pattern of a regular expression. -/
def TextTest.holds (t : TextTest) (pattern : Option Regex.Pattern) (candidate literal : String) :
    Bool :=
  match t with
  | .contain => occursIn literal.toList candidate.toList
  | .containRegexp => pattern.any (·.occursIn candidate.toList)
  | .startWith => literal.toList.isPrefixOf candidate.toList
  | .endWith => literal.toList.isSuffixOf candidate.toList
  | .eq => candidate == literal
  | .probe _ => literal == "pass"

/-- Notes that a probe ran. -/
def TextTest.note (t : TextTest) : Run Unit :=
  match t with
  | .probe name => Run.visit name
  | _ => pure ()

/-- Whether a literal test passes on a text. -/
def LiteralTest.holds (l : LiteralTest) (candidate : String) : Bool :=
  l.test.holds l.pattern candidate l.literal

/-- Asks a literal test about a value.  `contain` looks for its literal in a
list and among the keys of a record too, `eq` rejects all that is no text, and
a probe does not look at the value. -/
def LiteralTest.eval (l : LiteralTest) (v : Value) : Inquiry Bool := do
  l.test.note
  match v, l.test with
  | .text s, _ => return l.holds s
  | .list items, .contain => return items.any (·.same (.text l.literal))
  | .record fields, .contain => return fields.any (·.1 = l.literal)
  | _, .eq => return false
  | _, .probe _ => return l.holds ""
  | v, t => throw (.unsupported t.symbol v.type)

/-- Asks a test about a text with a literal that may differ from its own.
Its own pattern serves only its own literal. -/
def TextTest.evalLiteral (t : TextTest) (held : Option LiteralTest) (candidate literal : String) :
    Run (Except Regex.Error Bool) := do
  t.note
  let own := held.bind fun l => if l.literal = literal then l.pattern else none
  match own with
  | some pattern => return .ok (t.holds (some pattern) candidate literal)
  | none => return (t.prepare literal).map fun pattern => t.holds pattern candidate literal

/-! ## Features -/

/-- The extension of a file name, compound ones whole, in lower case and
without the first dot. -/
def extensionOf (fileName : String) : String :=
  let name := (Path.ofChars fileName.toList).fileName
  Unicode.lowercase (String.ofList ((Path.suffixes name).flatten.drop 1))

variable [CurrentDirectory]

/-- The text of a feature of a location. -/
def Feature.value? (f : Feature) (l : Location) : Writing (Option String) :=
  match f with
  | .fileName => Run.fileName? l.url
  | .directory => Run.pathName? l.url
  | .extension => (·.map extensionOf) <$> Run.fileName? l.url
  | .url => return some l.url
  | .series => liftExcept (l.series?.mapM Text.writeNumber)
  | .frame => liftExcept (l.frame?.mapM Text.writeNumber)

/-- The text of a feature of a value, which must be a location of the type
that the feature needs. -/
def Feature.textOf? (f : Feature) (v : Value) : Inquiry (Option String) :=
  match v.location? with
  | some l =>
    if v.isA f.input then (f.value? l).adapt .number
    else throw (.unsupported f.symbol v.type)
  | none => throw (.unsupported f.symbol v.type)

/-- The logger of metadata look-ups. -/
def metadataLogger : String := "imageset.filter.location_predicates"

/-- Notes that a value has no metadata under a key. -/
def noteMissing (key : String) (v : Value) : Writing Unit := do
  let description ← liftExcept v.describe
  Run.log .debug metadataLogger ("No '" ++ key ++ "' metadata for " ++ description)

/-- The metadata value of a value under a key, unless it is empty. -/
def metadataValue? (key : String) (source : Extractor) (v : Value) : Writing (Option String) := do
  let row ← source.extract v
  match row.get? key with
  | some value =>
    if value = "" then
      noteMissing key v
      return none
    else return some value
  | none =>
    noteMissing key v
    return none

/-- The text of a metadata look-up, whose extractor must have a row for the
value. -/
def lookUp (key : String) (source : Extractor) (v : Value) : Inquiry (Option String) :=
  if source.reads v then (metadataValue? key source v).adapt .number
  else throw (.unsupported metadataSymbol v.type)

/-! ## Trees -/

/-- Something that is told of every tree that is asked and of the value that
it is asked about, before the tree answers. -/
abbrev Watch := Tree → Value → Inquiry Unit

/-- The watch that does nothing. -/
def Watch.silent : Watch := fun _ _ => pure ()

mutual

/-- Asks a tree about a value under a watch. -/
def Tree.evalWith (watch : Watch) : Tree → Value → Inquiry Bool
  | .leaf l, v => do
    watch (.leaf l) v
    l.eval v
  | .branch c children, v => do
    watch (.branch c children) v
    match c with
    | .connective .and _ => evalAll watch children v
    | .connective .or _ => evalAny watch children v
    | .connective .does _ => evalFirst watch c.symbol children v
    | .connective .not _ | .connective .doesNot _ =>
      (!·) <$> evalFirst watch c.symbol children v
    | .feature f =>
      match ← f.textOf? v with
      | none => return false
      | some s => evalFirst watch c.symbol children (.text s)
    | .metadata key source =>
      match ← lookUp key source v with
      | none => return false
      | some s => evalFirst watch c.symbol children (.text s)
    | .quorum least _ => (least ≤ ·) <$> countPassing watch children v

/-- Asks the first of some trees, the children of a predicate. -/
def evalFirst (watch : Watch) (symbol : String) : List Tree → Value → Inquiry Bool
  | [], _ => throw (.childless symbol)
  | t :: _, v => t.evalWith watch v

/-- Asks trees until one rejects. -/
def evalAll (watch : Watch) : List Tree → Value → Inquiry Bool
  | [], _ => return true
  | t :: ts, v => do if ← t.evalWith watch v then evalAll watch ts v else return false

/-- Asks trees until one accepts. -/
def evalAny (watch : Watch) : List Tree → Value → Inquiry Bool
  | [], _ => return false
  | t :: ts, v => do if ← t.evalWith watch v then return true else evalAny watch ts v

/-- Asks all trees and counts those that accept. -/
def countPassing (watch : Watch) : List Tree → Value → Inquiry Nat
  | [], _ => return 0
  | t :: ts, v => do
    let passes ← t.evalWith watch v
    let count ← countPassing watch ts v
    return count + (if passes then 1 else 0)

end

/-- Asks a tree about a value. -/
def Tree.eval (t : Tree) (v : Value) : Inquiry Bool :=
  t.evalWith .silent v

end ImageSelect.Filter

import ImageSelect.Metadata.Extractor
import ImageSelect.Value

/-!
# Predicates

A predicate is a test on a text or a composite of further predicates.  Each
consumes values of one type; a composite also supplies values of one type to
its children.

The connectives pass on what they get, so both their types are the type of
the context.  A feature derives a text from a location; the rest of the
composites are metadata look-ups and quorums.
-/

namespace ImageSelect.Filter

/-- The tests on a text.  A probe leaves its name in the session and passes
when its literal is `pass`. -/
inductive TextTest where
  | contain
  | containRegexp
  | startWith
  | endWith
  | eq
  | probe (name : String)
  deriving Repr, DecidableEq

/-- The composites that pass on what they get. -/
inductive Connective where
  | and
  | or
  | not
  | does
  | doesNot
  deriving Repr, DecidableEq

/-- The texts that are derived from a location. -/
inductive Feature where
  | fileName
  | directory
  | extension
  | url
  | series
  | frame
  deriving Repr, DecidableEq

/-- A predicate with children.  A quorum has given bounds on the number of
its children and passes when at least the lower bound of them pass. -/
inductive Composite where
  | connective (c : Connective) (domain : ValueType)
  | feature (f : Feature)
  | metadata (key : String) (source : Extractor)
  | quorum (least : Nat) (most : Option Nat)

/-- A predicate without its literal or children. -/
inductive Shape where
  | test (t : TextTest)
  | composite (c : Composite)

/-! ## Symbols -/

/-- The symbol of a test. -/
def TextTest.symbol : TextTest → String
  | .contain => "contain"
  | .containRegexp => "containregexp"
  | .startWith => "startwith"
  | .endWith => "endwith"
  | .eq => "eq"
  | .probe _ => "recording"

/-- The symbol of a connective. -/
def Connective.symbol : Connective → String
  | .and => "and"
  | .or => "or"
  | .not => "not"
  | .does => "does"
  | .doesNot => "doesnot"

/-- The symbol of a feature. -/
def Feature.symbol : Feature → String
  | .fileName => "file"
  | .directory => "directory"
  | .extension => "extension"
  | .url => "url"
  | .series => "series"
  | .frame => "frame"

/-- The symbol of metadata look-ups. -/
def metadataSymbol : String := "metadata"

/-- The symbol of a composite. -/
def Composite.symbol : Composite → String
  | .connective c _ => c.symbol
  | .feature f => f.symbol
  | .metadata _ _ => metadataSymbol
  | .quorum _ _ => "ranged"

/-- The symbol of a predicate. -/
def Shape.symbol : Shape → String
  | .test t => t.symbol
  | .composite c => c.symbol

/-! ## Types -/

/-- The type of location that a feature needs. -/
def Feature.input : Feature → ValueType
  | .series | .frame => .plane
  | _ => .location

/-- The type that a composite consumes. -/
def Composite.input : Composite → ValueType
  | .connective _ domain => domain
  | .feature f => f.input
  | .metadata _ _ => .plane
  | .quorum _ _ => .text

/-- The type that a composite supplies to its children. -/
def Composite.output : Composite → ValueType
  | .connective _ domain => domain
  | _ => .text

/-- The type that a predicate consumes. -/
def Shape.input : Shape → ValueType
  | .test _ => .text
  | .composite c => c.input

/-- The type that a predicate supplies to its children, if it has any. -/
def Shape.output? : Shape → Option ValueType
  | .test _ => none
  | .composite c => some c.output

/-- Whether a predicate can consume values of a type.  No predicate consumes
what a test supplies. -/
def Shape.accepts (shape : Shape) : Option ValueType → Bool
  | none => false
  | some t => t.isSubtype shape.input

/-! ## Arity -/

/-- The bounds on the number of a composite's children. -/
def Composite.arity : Composite → Nat × Option Nat
  | .connective .and _ | .connective .or _ => (1, none)
  | .quorum least most => (least, most)
  | _ => (1, some 1)

/-- Whether a composite may have a number of children. -/
def Composite.admits (c : Composite) (count : Nat) : Bool :=
  let (least, most) := c.arity
  least ≤ count && most.all (count ≤ ·)

/-! ## Making predicates -/

/-- The tests that expressions know. -/
def textTests : List TextTest :=
  [.contain, .containRegexp, .startWith, .endWith, .eq]

/-- The connectives that expressions know. -/
def connectives : List Connective :=
  [.and, .or, .not, .does, .doesNot]

/-- The features that expressions know. -/
def features : List Feature :=
  [.fileName, .directory, .extension, .url, .series, .frame]

/-- What a symbol stands for. -/
inductive Meaning where
  | test (t : TextTest)
  | connective (c : Connective)
  | feature (f : Feature)
  | metadata
  deriving Repr, DecidableEq

/-- The symbol of a meaning. -/
def Meaning.symbol : Meaning → String
  | .test t => t.symbol
  | .connective c => c.symbol
  | .feature f => f.symbol
  | .metadata => metadataSymbol

/-- All that symbols stand for. -/
def meanings : List Meaning :=
  textTests.map .test ++ connectives.map .connective ++ features.map .feature ++ [.metadata]

/-- What a symbol stands for, if it is known. -/
def Meaning.ofSymbol? (symbol : String) : Option Meaning :=
  meanings.find? (·.symbol = symbol)

/-- The known symbols in order. -/
def knownSymbols : List String :=
  (meanings.map Meaning.symbol).mergeSort fun a b => !decide (b < a)

/-- The type that predicates of a meaning consume where nothing is known of
their context. -/
def Meaning.input : Meaning → ValueType
  | .test _ => .text
  | .connective _ => .object
  | .feature f => f.input
  | .metadata => .plane

/-- The type that predicates of a meaning supply, if their context does not
decide it. -/
def Meaning.output? : Meaning → Option ValueType
  | .test _ | .connective _ => none
  | .feature _ | .metadata => some .text

end ImageSelect.Filter
